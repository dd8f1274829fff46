import PlantPlot.Replay.Basic

/-!
# Scripts of calls on a replay

Between two loads a replay answers five calls: one step, the rest of the current pass, and new
values for the step length, the turn angle and the start. A call that steps brings its own sink,
of any type. A script is a list of such calls. Running it gives the replay at its end and a log
of every command it executed, each with the replay right after it, in order; the steps made
inside a pass are logged one by one. A call that is refused leaves the replay as it was.
-/

namespace PlantPlot

namespace Replay

/-- A call on a replay that keeps its commands and rules. -/
inductive Call : Type 1 where
  | advance {σ : Type} [Sink σ] (sink : σ)
  | runPass {σ : Type} [Sink σ] (sink : σ)
  | setStep (step : Float32)
  | setDelta (delta : Float32)
  /-- A new start for the next reset. -/
  | setOrigin (position : Point) (heading : Float32)

variable {σ : Type} [Sink σ]

/-- The steps that `runPassFrom` executes with the same fuel, each with the replay right after
it. -/
def passLogFrom (replay : Replay) (sink : σ) : (fuel : Nat) → List (Step × Replay)
  | 0 => []
  | fuel + 1 =>
    if replay.cursor < replay.commands.size then
      match replay.advance sink with
      | .error _ => []
      | .ok (step, next, sink) => (step, next) :: passLogFrom next sink fuel
    else []

/-- The steps that the rest of the current pass executes, each with the replay right after it. -/
def passLog (replay : Replay) (sink : σ) : List (Step × Replay) :=
  replay.passLogFrom sink (replay.commands.size - replay.cursor)

/-- The replay after a call, which is the replay itself where the call is refused, and the
steps that the call executed. -/
def call (replay : Replay) : Call → Replay × List (Step × Replay)
  | @Call.advance _ _ sink =>
    match replay.advance sink with
    | .ok (.executed index symbol effect, next, _) =>
      (next, [(.executed index symbol effect, next)])
    | .ok (.finished, next, _) => (next, [])
    | .error _ => (replay, [])
  | @Call.runPass _ _ sink => ((replay.runPass sink).2.1, replay.passLog sink)
  | .setStep step => (replay.setStep step, [])
  | .setDelta delta => (replay.setDelta delta, [])
  | .setOrigin position heading => (replay.setOrigin position heading, [])

/-- The replay after a script, and the log of every step that the script executed. -/
def script (replay : Replay) : List Call → Replay × List (Step × Replay)
  | [] => (replay, [])
  | first :: rest =>
    let called := replay.call first
    let later := called.1.script rest
    (later.1, called.2 ++ later.2)

end Replay

end PlantPlot
