import PlantPlot.Replay.Sink
import PlantPlot.Grammar.RuleTable

/-!
# Replay

A replay executes a command sequence one command at a time: the rule table gives each symbol its
effect, and the turtle steps, turns, or is saved and restored. Steps forward go to a sink.
During the first pass the position after each command is recorded, for a second drawing.

A replay that loops starts over at the first command after the last one, keeping the turtle
where it is, and counts the passes; a replay that does not loop is finished after the last
command. A command that fails (a symbol without a rule, a restore with nothing saved, a save
beyond the limit) changes nothing, so the same fault comes back until the replay is reloaded.

`advance` is the step of the state machine; `runPass` and `advanceMany` repeat it.
-/

namespace PlantPlot

/-- The state of a replay. -/
structure Replay where
  /-- Step length, turn angle, start and save limit. -/
  config : TurtleConfig
  /-- Whether the commands start over after the last one. -/
  looping : Bool
  turtle : Turtle
  /-- The saved turtles, the latest first. -/
  saved : List Turtle
  commands : Array Char
  /-- The rules that give the commands their effects. -/
  rules : RuleTable
  /-- The position of the next command within the pass. -/
  cursor : Nat
  /-- How many times the commands started over. -/
  pass : Nat
  /-- The positions after each command of the first pass. -/
  points : Array Point

/-- What one step of a replay did. -/
inductive Step where
  /-- The command at `index` was executed. -/
  | executed (index : Nat) (symbol : Char) (effect : Effect)
  /-- Nothing was left to execute. -/
  | finished

namespace Replay

/-- A replay with no commands, the turtle at the start. -/
def new (config : TurtleConfig) (looping : Bool) : Replay :=
  ⟨config, looping, config.start, [], #[], .empty, 0, 0, #[]⟩

/-- The replay at its start: turtle at the configured start, nothing saved or recorded. -/
def reset (replay : Replay) : Replay :=
  { replay with turtle := replay.config.start, saved := [], cursor := 0, pass := 0, points := #[] }

/-- Replays new commands, from the start. -/
def load (replay : Replay) (commands : Array Char) (rules : RuleTable) : Replay :=
  { replay with commands, rules }.reset

/-- Changes the step length of later steps. -/
def setStep (replay : Replay) (step : Float32) : Replay :=
  { replay with config := { replay.config with step } }

/-- Changes the turn angle of later turns. -/
def setDelta (replay : Replay) (delta : Float32) : Replay :=
  { replay with config := { replay.config with delta } }

/-- Changes where the next reset or load starts the turtle. -/
def setOrigin (replay : Replay) (position : Point) (heading : Float32) : Replay :=
  { replay with config := { replay.config with initialPosition := position, initialHeading := heading } }

/-- The number of saved turtles. -/
def stackDepth (replay : Replay) : Nat :=
  replay.saved.length

/-- A replay that does not loop is finished once the cursor is past the last command. -/
def isFinished (replay : Replay) : Bool :=
  !replay.looping && replay.commands.size ≤ replay.cursor

variable {σ : Type} [Sink σ]

/-- The turtle and the saved turtles after an effect, executed as the command at `index`, with
the sink after it. -/
def perform (replay : Replay) (effect : Effect) (index : Nat) (sink : σ) :
    Except Fault (Turtle × List Turtle × σ) :=
  match effect with
  | .forward =>
    let finish := replay.turtle.ahead replay.config.step
    .ok ({ replay.turtle with position := finish }, replay.saved,
      Sink.draw sink replay.turtle.position finish)
  | .turnLeft => .ok (replay.turtle.turn replay.config.delta, replay.saved, sink)
  | .turnRight => .ok (replay.turtle.turn (-replay.config.delta), replay.saved, sink)
  | .push =>
    if replay.config.maxStackDepth ≤ replay.saved.length then
      .error (.stackOverflow index replay.config.maxStackDepth)
    else .ok (replay.turtle, replay.turtle :: replay.saved, sink)
  | .pop =>
    match replay.saved with
    | [] => .error (.stackUnderflow index)
    | top :: rest => .ok (top, rest, sink)
  | .noOp => .ok (replay.turtle, replay.saved, sink)

/-- Executes `symbol` as the command at `index` of pass `pass`. -/
def executeAt (replay : Replay) (index pass : Nat) (symbol : Char) (sink : σ) :
    Except Fault (Step × Replay × σ) :=
  match replay.rules.effect? symbol with
  | none => .error (.unknownSymbol symbol)
  | some effect =>
    match replay.perform effect index sink with
    | .error fault => .error fault
    | .ok (turtle, saved, sink) =>
      let points := if pass = 0 then replay.points.push turtle.position else replay.points
      .ok (.executed index symbol effect,
        { replay with turtle, saved, cursor := index + 1, pass, points }, sink)

/-- One step: the command at the cursor, or the first command of a new pass if the replay
loops, or nothing if it is finished. -/
def advance (replay : Replay) (sink : σ) : Except Fault (Step × Replay × σ) :=
  if inside : replay.cursor < replay.commands.size then
    replay.executeAt replay.cursor replay.pass replay.commands[replay.cursor] sink
  else if replay.looping then
    if nonempty : 0 < replay.commands.size then
      replay.executeAt 0 (replay.pass + 1) replay.commands[0] sink
    else .ok (.finished, replay, sink)
  else .ok (.finished, replay, sink)

/-- Steps while the cursor is inside the commands, at most `fuel` times, adding the steps to
`executed`; a fault stops the pass and keeps what was done before it. -/
def runPassFrom (executed : Nat) (replay : Replay) (sink : σ) :
    (fuel : Nat) → Except Fault Nat × Replay × σ
  | 0 => (.ok executed, replay, sink)
  | fuel + 1 =>
    if replay.cursor < replay.commands.size then
      match replay.advance sink with
      | .error fault => (.error fault, replay, sink)
      | .ok (_, next, sink) => runPassFrom (executed + 1) next sink fuel
    else (.ok executed, replay, sink)

/-- The rest of the current pass, never starting a new one: how many commands ran, or the
fault that stopped it. -/
def runPass (replay : Replay) (sink : σ) : Except Fault Nat × Replay × σ :=
  runPassFrom 0 replay sink (replay.commands.size - replay.cursor)

/-- What a number of steps did. -/
structure Progress where
  executed : Nat
  finished : Nat
  /-- The fault of the step that failed, which ended the steps. -/
  fault : Option Fault

/-- Up to `count` steps, stopping at the first fault. -/
def advanceMany (replay : Replay) (sink : σ) (count : Nat) : Progress × Replay × σ :=
  go count 0 0 replay sink
where
  /-- The remaining `count` steps, after `executed` and `finished` ones. -/
  go : Nat → Nat → Nat → Replay → σ → Progress × Replay × σ
    | 0, executed, finished, replay, sink => (⟨executed, finished, none⟩, replay, sink)
    | count + 1, executed, finished, replay, sink =>
      match replay.advance sink with
      | .error fault => (⟨executed, finished, some fault⟩, replay, sink)
      | .ok (.executed _ _ _, next, sink) => go count (executed + 1) finished next sink
      | .ok (.finished, next, sink) => go count executed (finished + 1) next sink

end Replay

end PlantPlot
