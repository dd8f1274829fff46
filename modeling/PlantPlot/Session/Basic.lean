import PlantPlot.Session.Config
import PlantPlot.Replay.Basic
import PlantPlot.Program.Text

/-!
# Sessions

A session replays one active program onto a canvas. A load is all or nothing: the new program is
validated and expanded under the session's ceilings before anything changes, and a refused load
leaves the active program, the replay and the canvas as they were. A successful load restarts
the replay from the session's origin, with the program's turn angle, on a blank canvas.

Program files are read through a function from paths to what reading them gives, so that a
session is a value and loading a file is a pure step. A path with no file is a harmless fault; a
file that is there but cannot be read as text is an I/O fault.
-/

namespace PlantPlot

/-- What reading the file at a path gives. -/
inductive FileRead where
  /-- The file's text. -/
  | contents (text : String)
  /-- No file is at the path. -/
  | missing
  /-- A file is at the path but could not be read as text; the system's description of why. -/
  | unreadable (error : String)

/-- A program being replayed onto a canvas. -/
structure Session where
  /-- The settings. -/
  config : PlotterConfig
  /-- The active program. -/
  program : Program
  /-- The canvas the replay draws on. -/
  canvas : Canvas
  /-- The replay of the active program's commands. -/
  replay : Replay

namespace Session

/-- Makes `program` the active program, if it validates and expands. -/
def load (session : Session) (program : Program) : Except Fault Session :=
  match program.validate with
  | .error fault => .error fault
  | .ok () =>
    match program.expand session.config.engine with
    | .error fault => .error fault
    | .ok commands =>
      let replay := session.replay.setDelta program.delta
        |>.setOrigin session.config.origin session.config.initialHeading
        |>.load commands.toArray program.rules
      .ok { session with program, replay, canvas := session.canvas.clear }

/-- A session with the standard program loaded. -/
def new (config : PlotterConfig) : Except Fault Session :=
  match Canvas.new config.canvasWidth config.canvasHeight with
  | .error fault => .error fault
  | .ok canvas =>
    let program := Program.standard
    let replay := Replay.new (config.turtle program.delta) config.looping
    (Session.mk config program canvas replay).load program

/-- Applies program text to the active program and loads the result. -/
def loadText (session : Session) (text : String) : Except Fault Session :=
  match session.program.apply text with
  | .error fault => .error fault
  | .ok program => session.load program

/-- Loads the program file at `path`, which `files` reads. -/
def loadFile (session : Session) (files : String → FileRead) (path : String) :
    Except Fault Session :=
  match files path with
  | .missing => .error (.notFound path)
  | .unreadable error => .error (.io error)
  | .contents text => session.loadText text

/-- One replay step onto the canvas. -/
def tick (session : Session) : Except Fault (Step × Session) :=
  match session.replay.advance session.canvas with
  | .error fault => .error fault
  | .ok (step, replay, canvas) => .ok (step, { session with replay, canvas })

/-- Up to `count` replay steps onto the canvas. -/
def ticks (session : Session) (count : Nat) : Replay.Progress × Session :=
  let (progress, replay, canvas) := session.replay.advanceMany session.canvas count
  (progress, { session with replay, canvas })

/-- The rest of the current pass onto the canvas. -/
def runPass (session : Session) : Except Fault Nat × Session :=
  let (result, replay, canvas) := session.replay.runPass session.canvas
  (result, { session with replay, canvas })

/-- Changes the step length, in the settings and in the replay. -/
def setStep (session : Session) (step : Float32) : Session :=
  { session with config := { session.config with step }, replay := session.replay.setStep step }

/-- Changes the turn angle, of the active program and of the replay. -/
def setDelta (session : Session) (delta : Float32) : Session :=
  { session with program := { session.program with delta }, replay := session.replay.setDelta delta }

end Session

end PlantPlot
