import PlantPlot.Session.Basic

/-!
# Calls on a session

A session answers seven calls: three loads, a step, a pass, and new values of the step length and
of the turn angle. A call that is refused leaves the session as it was. The sessions reachable
under a configuration are those that some sequence of calls makes of the new session.
-/

namespace PlantPlot

namespace Session

/-- A call on a session. -/
inductive Call where
  | loadProgram (program : Program)
  | loadText (text : String)
  /-- Load the program file at `path`, which `files` reads. -/
  | loadFile (files : String → FileRead) (path : String)
  | tick
  | runPass
  | setStep (step : Float32)
  | setDelta (delta : Float32)

/-- The session after a call; a call that is refused leaves it as it was. -/
def call (session : Session) : Call → Session
  | .loadProgram program =>
    match session.load program with
    | .ok next => next
    | .error _ => session
  | .loadText text =>
    match session.loadText text with
    | .ok next => next
    | .error _ => session
  | .loadFile files path =>
    match session.loadFile files path with
    | .ok next => next
    | .error _ => session
  | .tick =>
    match session.tick with
    | .ok (_, next) => next
    | .error _ => session
  | .runPass => session.runPass.2
  | .setStep step => session.setStep step
  | .setDelta delta => session.setDelta delta

/-- The sessions that some sequence of calls makes of a new session under `config`. -/
inductive Reachable (config : PlotterConfig) : Session → Prop where
  | new {session : Session} : Session.new config = .ok session → Reachable config session
  | called {session : Session} (request : Call) : Reachable config session →
      Reachable config (session.call request)

end Session

end PlantPlot
