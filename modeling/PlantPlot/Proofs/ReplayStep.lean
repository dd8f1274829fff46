import Mathlib
import PlantPlot.Replay.Script

/-!
# One step of a replay

What a single step can do, said once so that later proofs never unfold `advance`. The command
that the next step executes is fixed by `nextSlot`: the command at the cursor, or, past the last
command of a looping replay, the first command of a new pass (`advance_of_nextSlot_some`); with
no such command the step finishes and changes nothing (`advance_of_nextSlot_none`). The command
then executes (`executeAt_eq_ok`) or is refused, and a refusal depends only on where the replay
stands and what it has saved (`advance_eq_error_iff`). Only a forward step draws, one segment
(`advance_sink`).

A pass is a run of such steps (`runPassFrom_replay`, `runPassFrom_sink`), and a script is a run of
passes and steps with changes of the configuration in between. So a property kept by every
executed step and by every change of the configuration holds at the end of every script
(`script_keeps`).
-/

namespace PlantPlot

/-- How an effect changes the number of saved turtles. -/
def Effect.stackChange : Effect → Int
  | .push => 1
  | .pop => -1
  | _ => 0

/-- The sink after receiving the segments, in order. -/
def Sink.drawAll {σ : Type} [Sink σ] (sink : σ) (segments : List Segment) : σ :=
  segments.foldl (fun sink segment => Sink.draw sink segment.start segment.finish) sink

theorem Sink.drawAll_append {σ : Type} [Sink σ] (sink : σ) (first second : List Segment) :
    Sink.drawAll sink (first ++ second) = Sink.drawAll (Sink.drawAll sink first) second :=
  List.foldl_append

namespace Replay

variable {σ : Type} [Sink σ]

section Fields

variable (replay : Replay)

@[simp] theorem reset_commands : replay.reset.commands = replay.commands := rfl

@[simp] theorem reset_rules : replay.reset.rules = replay.rules := rfl

@[simp] theorem reset_looping : replay.reset.looping = replay.looping := rfl

@[simp] theorem reset_config : replay.reset.config = replay.config := rfl

@[simp] theorem reset_cursor : replay.reset.cursor = 0 := rfl

@[simp] theorem reset_pass : replay.reset.pass = 0 := rfl

@[simp] theorem reset_saved : replay.reset.saved = [] := rfl

@[simp] theorem reset_points : replay.reset.points = #[] := rfl

@[simp] theorem reset_turtle : replay.reset.turtle = replay.config.start := rfl

end Fields

/-- The segments that the forward steps of a log draw, in order, the first one from `start`:
each step starts where the step before it ended. -/
def segmentsOf (start : Point) : List (Step × Replay) → List Segment
  | [] => []
  | (.executed _ _ .forward, after) :: rest =>
    ⟨start, after.turtle.position⟩ :: segmentsOf after.turtle.position rest
  | (_, after) :: rest => segmentsOf after.turtle.position rest

theorem segmentsOf_cons (start : Point) (entry : Step × Replay) (rest : List (Step × Replay)) :
    segmentsOf start (entry :: rest) =
      segmentsOf start [entry] ++ segmentsOf entry.2.turtle.position rest := by
  obtain ⟨step, after⟩ := entry
  rcases step with ⟨index, symbol, effect⟩ | _
  · cases effect <;> simp [segmentsOf]
  · simp [segmentsOf]

/-- The position of the command that the next step executes, and the pass that the step belongs
to: the command at the cursor, or, past the last command of a looping replay, the first command
of a new pass. None when the replay is finished. -/
def nextSlot (replay : Replay) : Option (Nat × Nat) :=
  if replay.cursor < replay.commands.size then some (replay.cursor, replay.pass)
  else if replay.looping = true ∧ 0 < replay.commands.size then some (0, replay.pass + 1)
  else none

section Slot

variable {replay : Replay} {index pass : Nat}

theorem nextSlot_eq_some_iff :
    replay.nextSlot = some (index, pass) ↔
      (replay.cursor < replay.commands.size ∧ index = replay.cursor ∧ pass = replay.pass) ∨
      (replay.commands.size ≤ replay.cursor ∧ replay.looping = true ∧
        0 < replay.commands.size ∧ index = 0 ∧ pass = replay.pass + 1) := by
  unfold nextSlot
  by_cases inside : replay.cursor < replay.commands.size
  · rw [if_pos inside, Option.some.injEq, Prod.mk.injEq]
    constructor
    · rintro ⟨rfl, rfl⟩
      exact .inl ⟨inside, rfl, rfl⟩
    · rintro (⟨-, rfl, rfl⟩ | ⟨outside, -⟩)
      · exact ⟨rfl, rfl⟩
      · omega
  · rw [if_neg inside]
    by_cases wraps : replay.looping = true ∧ 0 < replay.commands.size
    · rw [if_pos wraps, Option.some.injEq, Prod.mk.injEq]
      constructor
      · rintro ⟨rfl, rfl⟩
        exact .inr ⟨by omega, wraps.1, wraps.2, rfl, rfl⟩
      · rintro (⟨inside', -⟩ | ⟨-, -, -, rfl, rfl⟩)
        · exact absurd inside' inside
        · exact ⟨rfl, rfl⟩
    · rw [if_neg wraps]
      constructor
      · intro impossible
        cases impossible
      · rintro (⟨inside', -⟩ | ⟨-, looping, nonempty, -⟩)
        · exact absurd inside' inside
        · exact absurd ⟨looping, nonempty⟩ wraps

theorem nextSlot_eq_none_iff :
    replay.nextSlot = none ↔
      replay.commands.size ≤ replay.cursor ∧
        (replay.looping = false ∨ replay.commands.size = 0) := by
  unfold nextSlot
  by_cases inside : replay.cursor < replay.commands.size
  · simp only [inside, if_true, reduceCtorEq, false_iff]
    omega
  · cases looping : replay.looping <;> simp [inside] <;> omega

theorem index_lt_of_nextSlot (slot : replay.nextSlot = some (index, pass)) :
    index < replay.commands.size := by
  rcases nextSlot_eq_some_iff.1 slot with ⟨inside, rfl, -⟩ | ⟨-, -, nonempty, rfl, -⟩
  · exact inside
  · exact nonempty

theorem advance_of_nextSlot_none (finished : replay.nextSlot = none) (sink : σ) :
    replay.advance sink = .ok (.finished, replay, sink) := by
  obtain ⟨outside, stops⟩ := nextSlot_eq_none_iff.1 finished
  have notInside : ¬ replay.cursor < replay.commands.size := by omega
  rw [advance, dif_neg notInside]
  rcases stops with once | empty
  · simp [once]
  · simp [empty]

theorem advance_of_nextSlot_some (slot : replay.nextSlot = some (index, pass)) (sink : σ) :
    ∃ symbol, replay.commands[index]? = some symbol ∧
      replay.advance sink = replay.executeAt index pass symbol sink := by
  have within := index_lt_of_nextSlot slot
  refine ⟨replay.commands[index], Array.getElem?_eq_getElem within, ?_⟩
  rcases nextSlot_eq_some_iff.1 slot with ⟨inside, rfl, rfl⟩ | ⟨outside, looping, nonempty, rfl, rfl⟩
  · rw [advance, dif_pos inside]
  · have notInside : ¬ replay.cursor < replay.commands.size := by omega
    rw [advance, dif_neg notInside, if_pos looping, dif_pos nonempty]

end Slot

section Execute

variable {replay : Replay} {effect : Effect} {index pass : Nat} {symbol : Char} {sink : σ}
  {fault : Fault}

theorem perform_eq_error_iff :
    replay.perform effect index sink = .error fault ↔
      (effect = .push ∧ replay.config.maxStackDepth ≤ replay.saved.length ∧
        fault = .stackOverflow index replay.config.maxStackDepth) ∨
      (effect = .pop ∧ replay.saved = [] ∧ fault = .stackUnderflow index) := by
  cases effect
  case push =>
    by_cases full : replay.config.maxStackDepth ≤ replay.saved.length
    · simp [perform, full, eq_comm]
    · simp [perform, full]
  case pop =>
    cases saved : replay.saved with
    | nil => simp [perform, saved, eq_comm]
    | cons top rest => simp [perform, saved]
  all_goals simp [perform]

/-- An effect that goes through changes the number of saved turtles by its stack change, keeps
it within the limit, and draws one segment exactly when it steps forward. -/
theorem perform_of_ok {turtle : Turtle} {saved : List Turtle} {after : σ}
    (performed : replay.perform effect index sink = .ok (turtle, saved, after)) :
    (saved.length : Int) = replay.saved.length + effect.stackChange ∧
      (replay.saved.length ≤ replay.config.maxStackDepth →
        saved.length ≤ replay.config.maxStackDepth) ∧
      after = if effect = .forward then Sink.draw sink replay.turtle.position turtle.position
        else sink := by
  cases effect
  case forward =>
    simp only [perform, Except.ok.injEq, Prod.mk.injEq] at performed
    obtain ⟨rfl, rfl, rfl⟩ := performed
    simp [Effect.stackChange]
  case push =>
    by_cases full : replay.config.maxStackDepth ≤ replay.saved.length
    · simp [perform, full] at performed
    · simp only [perform, full, if_false, Except.ok.injEq, Prod.mk.injEq] at performed
      obtain ⟨rfl, rfl, rfl⟩ := performed
      simp [Effect.stackChange]
      omega
  case pop =>
    cases stack : replay.saved with
    | nil => simp [perform, stack] at performed
    | cons top rest =>
      simp only [perform, stack, Except.ok.injEq, Prod.mk.injEq] at performed
      obtain ⟨rfl, rfl, rfl⟩ := performed
      simp [Effect.stackChange]
      omega
  all_goals
    simp only [perform, Except.ok.injEq, Prod.mk.injEq] at performed
    obtain ⟨rfl, rfl, rfl⟩ := performed
    simp [Effect.stackChange]

/-- A command that executes is reported with its position, moves the cursor past it, and
records the turtle's position when it belongs to the first pass. -/
theorem executeAt_eq_ok {step : Step} {next : Replay} {after : σ}
    (executed : replay.executeAt index pass symbol sink = .ok (step, next, after)) :
    ∃ effect turtle saved, replay.rules.effect? symbol = some effect ∧
      replay.perform effect index sink = .ok (turtle, saved, after) ∧
      step = .executed index symbol effect ∧
      next = { replay with
        turtle := turtle, saved := saved, cursor := index + 1, pass := pass,
        points := if pass = 0 then replay.points.push turtle.position else replay.points } := by
  cases found : replay.rules.effect? symbol with
  | none => simp [executeAt, found] at executed
  | some effect =>
    cases performed : replay.perform effect index sink with
    | error fault => simp [executeAt, found, performed] at executed
    | ok result =>
      obtain ⟨turtle, saved, sink'⟩ := result
      simp only [executeAt, found, performed, Except.ok.injEq, Prod.mk.injEq] at executed
      obtain ⟨rfl, rfl, rfl⟩ := executed
      exact ⟨effect, turtle, saved, rfl, performed, rfl, rfl⟩

theorem executeAt_eq_error_iff :
    replay.executeAt index pass symbol sink = .error fault ↔
      (replay.rules.effect? symbol = none ∧ fault = .unknownSymbol symbol) ∨
      ∃ effect, replay.rules.effect? symbol = some effect ∧
        replay.perform effect index sink = .error fault := by
  cases found : replay.rules.effect? symbol with
  | none => simp [executeAt, found, eq_comm]
  | some effect =>
    cases performed : replay.perform effect index sink with
    | error other => simp [executeAt, found, performed]
    | ok result => simp [executeAt, found, performed]

end Execute

/-- The next step of the replay is refused with `fault`: its command has no rule, or saves with
the limit reached, or restores with nothing saved. -/
def Stuck (replay : Replay) (fault : Fault) : Prop :=
  ∃ index pass symbol, replay.nextSlot = some (index, pass) ∧
    replay.commands[index]? = some symbol ∧
    ((replay.rules.effect? symbol = none ∧ fault = .unknownSymbol symbol) ∨
      (replay.rules.effect? symbol = some .push ∧
        replay.config.maxStackDepth ≤ replay.saved.length ∧
        fault = .stackOverflow index replay.config.maxStackDepth) ∨
      (replay.rules.effect? symbol = some .pop ∧ replay.saved = [] ∧
        fault = .stackUnderflow index))

section Step

variable {replay : Replay} {sink : σ}

/-- A step is refused exactly when the replay is stuck, whatever the sink. -/
theorem advance_eq_error_iff {fault : Fault} :
    replay.advance sink = .error fault ↔ replay.Stuck fault := by
  cases slot : replay.nextSlot with
  | none =>
    simp only [advance_of_nextSlot_none slot sink, reduceCtorEq, false_iff]
    rintro ⟨index, pass, symbol, stuckSlot, -⟩
    rw [slot] at stuckSlot
    cases stuckSlot
  | some position =>
    obtain ⟨index, pass⟩ := position
    obtain ⟨symbol, found, advanced⟩ := advance_of_nextSlot_some slot sink
    rw [advanced, executeAt_eq_error_iff]
    constructor
    · rintro (missing | ⟨effect, known, refused⟩)
      · exact ⟨index, pass, symbol, slot, found, .inl missing⟩
      · rcases perform_eq_error_iff.1 refused with ⟨rfl, full, named⟩ | ⟨rfl, empty, named⟩
        · exact ⟨index, pass, symbol, slot, found, .inr (.inl ⟨known, full, named⟩)⟩
        · exact ⟨index, pass, symbol, slot, found, .inr (.inr ⟨known, empty, named⟩)⟩
    · -- the stuck command is the one at the replay's next slot, so the step runs it
      rintro ⟨index', pass', symbol', stuckSlot, found', kind⟩
      rw [slot, Option.some.injEq, Prod.mk.injEq] at stuckSlot
      obtain ⟨rfl, rfl⟩ := stuckSlot
      rw [found, Option.some.injEq] at found'
      subst found'
      rcases kind with missing | ⟨known, full, named⟩ | ⟨known, empty, named⟩
      · exact .inl missing
      · exact .inr ⟨.push, known, perform_eq_error_iff.2 (.inl ⟨rfl, full, named⟩)⟩
      · exact .inr ⟨.pop, known, perform_eq_error_iff.2 (.inr ⟨rfl, empty, named⟩)⟩

/-- A step that finishes leaves the replay and the sink as they were, and happens exactly when
no command is next. -/
theorem advance_eq_finished {next : Replay} {after : σ}
    (finished : replay.advance sink = .ok (.finished, next, after)) :
    replay.nextSlot = none ∧ next = replay ∧ after = sink := by
  cases slot : replay.nextSlot with
  | none =>
    rw [advance_of_nextSlot_none slot sink, Except.ok.injEq, Prod.mk.injEq, Prod.mk.injEq]
      at finished
    exact ⟨rfl, finished.2.1.symm, finished.2.2.symm⟩
  | some position =>
    obtain ⟨index, pass⟩ := position
    obtain ⟨symbol, -, advanced⟩ := advance_of_nextSlot_some slot sink
    rw [advanced] at finished
    obtain ⟨effect, turtle, saved, -, -, reported, -⟩ := executeAt_eq_ok finished
    cases reported

/-- A step that executed a command ran the command at `nextSlot`, with the effect that its rule
gives. -/
theorem advance_eq_executed {index : Nat} {symbol : Char} {effect : Effect} {next : Replay}
    {after : σ} (advanced : replay.advance sink = .ok (.executed index symbol effect, next, after)) :
    ∃ pass turtle saved, replay.nextSlot = some (index, pass) ∧
      replay.commands[index]? = some symbol ∧ replay.rules.effect? symbol = some effect ∧
      replay.perform effect index sink = .ok (turtle, saved, after) ∧
      next = { replay with
        turtle := turtle, saved := saved, cursor := index + 1, pass := pass,
        points := if pass = 0 then replay.points.push turtle.position else replay.points } := by
  cases slot : replay.nextSlot with
  | none => simp [advance_of_nextSlot_none slot sink] at advanced
  | some position =>
    obtain ⟨index', pass⟩ := position
    obtain ⟨symbol', command, executes⟩ := advance_of_nextSlot_some slot sink
    rw [executes] at advanced
    obtain ⟨effect', turtle, saved, known, performed, reported, rfl⟩ := executeAt_eq_ok advanced
    injection reported with sameIndex sameSymbol sameEffect
    subst sameIndex sameSymbol sameEffect
    exact ⟨pass, turtle, saved, rfl, command, known, performed, rfl⟩

theorem advance_executes_of_inside (inside : replay.cursor < replay.commands.size) {step : Step}
    {next : Replay} {after : σ} (advanced : replay.advance sink = .ok (step, next, after)) :
    ∃ index symbol effect, step = .executed index symbol effect := by
  have slot : replay.nextSlot = some (replay.cursor, replay.pass) := by
    simp [nextSlot, inside]
  obtain ⟨symbol, -, executes⟩ := advance_of_nextSlot_some slot sink
  rw [executes] at advanced
  obtain ⟨effect, -, -, -, -, reported, -⟩ := executeAt_eq_ok advanced
  exact ⟨_, _, _, reported⟩

theorem advance_frame {step : Step} {next : Replay} {after : σ}
    (advanced : replay.advance sink = .ok (step, next, after)) :
    next.commands = replay.commands ∧ next.rules = replay.rules ∧
      next.looping = replay.looping ∧ next.config = replay.config := by
  cases step with
  | finished =>
    obtain ⟨-, rfl, -⟩ := advance_eq_finished advanced
    exact ⟨rfl, rfl, rfl, rfl⟩
  | executed index symbol effect =>
    obtain ⟨pass, turtle, saved, -, -, -, -, rfl⟩ := advance_eq_executed advanced
    exact ⟨rfl, rfl, rfl, rfl⟩

/-- The sink after a step has received one segment if the step executed a forward command, and
none otherwise. -/
theorem advance_sink {step : Step} {next : Replay} {after : σ}
    (advanced : replay.advance sink = .ok (step, next, after)) :
    after = Sink.drawAll sink (segmentsOf replay.turtle.position [(step, next)]) := by
  cases step with
  | finished =>
    obtain ⟨-, -, rfl⟩ := advance_eq_finished advanced
    simp [segmentsOf, Sink.drawAll]
  | executed index symbol effect =>
    obtain ⟨pass, turtle, saved, -, -, -, performed, rfl⟩ := advance_eq_executed advanced
    rw [(perform_of_ok performed).2.2]
    cases effect <;> simp [segmentsOf, Sink.drawAll]

end Step

section Pass

variable {replay : Replay}

/-- A pass ends at the replay of its last executed step, or where it started if it executed
none. -/
theorem runPassFrom_replay (executed : Nat) (sink : σ) (fuel : Nat) :
    (replay.runPassFrom executed sink fuel).2.1 =
      ((replay.passLogFrom sink fuel).getLast?.map Prod.snd).getD replay := by
  induction fuel generalizing replay executed sink with
  | zero => rfl
  | succ fuel ih =>
    by_cases inside : replay.cursor < replay.commands.size
    · cases advanced : replay.advance sink with
      | error fault => simp [runPassFrom, passLogFrom, inside, advanced]
      | ok result =>
        obtain ⟨step, next, after⟩ := result
        simp only [runPassFrom, passLogFrom, inside, if_true, advanced, ih, List.getLast?_cons]
        cases (next.passLogFrom after fuel).getLast? <;> rfl
    · simp [runPassFrom, passLogFrom, inside]

/-- A pass sends to the sink exactly the segments of its forward steps. -/
theorem runPassFrom_sink (executed : Nat) (sink : σ) (fuel : Nat) :
    (replay.runPassFrom executed sink fuel).2.2 =
      Sink.drawAll sink (segmentsOf replay.turtle.position (replay.passLogFrom sink fuel)) := by
  induction fuel generalizing replay executed sink with
  | zero => rfl
  | succ fuel ih =>
    by_cases inside : replay.cursor < replay.commands.size
    · cases advanced : replay.advance sink with
      | error fault => simp [runPassFrom, passLogFrom, inside, advanced, segmentsOf, Sink.drawAll]
      | ok result =>
        obtain ⟨step, next, after⟩ := result
        simp only [runPassFrom, passLogFrom, inside, if_true, advanced, ih]
        rw [segmentsOf_cons, Sink.drawAll_append, ← advance_sink advanced]
    · simp [runPassFrom, passLogFrom, inside, segmentsOf, Sink.drawAll]

/-- A pass that fails stops at a command inside the pass whose step is refused with the
pass's fault. -/
theorem runPassFrom_eq_error {executed : Nat} {sink : σ} {fuel : Nat} {fault : Fault}
    (failed : (replay.runPassFrom executed sink fuel).1 = .error fault) :
    let final := replay.runPassFrom executed sink fuel
    final.2.1.cursor < final.2.1.commands.size ∧ final.2.1.advance final.2.2 = .error fault := by
  induction fuel generalizing replay executed sink with
  | zero => simp [runPassFrom] at failed
  | succ fuel ih =>
    by_cases inside : replay.cursor < replay.commands.size
    · cases advanced : replay.advance sink with
      | error other =>
        have stopped : replay.runPassFrom executed sink (fuel + 1) = (.error other, replay, sink) := by
          simp [runPassFrom, inside, advanced]
        rw [stopped, Except.error.injEq] at failed
        rw [stopped, ← failed]
        exact ⟨inside, advanced⟩
      | ok result =>
        obtain ⟨step, next, after⟩ := result
        simp only [runPassFrom, inside, if_true, advanced] at failed ⊢
        exact ih failed
    · simp [runPassFrom, inside] at failed

end Pass

/-- `P` is kept by every executed step, whatever its sink. -/
def StepInvariant (P : Replay → List (Step × Replay) → Prop) : Prop :=
  ∀ {τ : Type} [Sink τ] (replay : Replay) (log : List (Step × Replay)) (sink : τ) (index : Nat)
    (symbol : Char) (effect : Effect) (next : Replay) (after : τ),
    P replay log → replay.advance sink = .ok (.executed index symbol effect, next, after) →
    P next (log ++ [(.executed index symbol effect, next)])

/-- `P` is kept by every change of the configuration that keeps the save limit. -/
def ConfigInvariant (P : Replay → List (Step × Replay) → Prop) : Prop :=
  ∀ (replay : Replay) (log : List (Step × Replay)) (config : TurtleConfig),
    config.maxStackDepth = replay.config.maxStackDepth → P replay log →
    P { replay with config } log

section Invariant

variable {P : Replay → List (Step × Replay) → Prop}

theorem passLogFrom_keeps (stepped : StepInvariant P) {replay : Replay}
    {log : List (Step × Replay)} (start : P replay log) (executed : Nat) (sink : σ) (fuel : Nat) :
    P (replay.runPassFrom executed sink fuel).2.1 (log ++ replay.passLogFrom sink fuel) := by
  -- induction on the fuel, one executed step at a time
  induction fuel generalizing replay log executed sink with
  | zero => simpa [runPassFrom, passLogFrom] using start
  | succ fuel ih =>
    by_cases inside : replay.cursor < replay.commands.size
    · cases advanced : replay.advance sink with
      | error fault => simpa [runPassFrom, passLogFrom, inside, advanced] using start
      | ok result =>
        obtain ⟨step, next, after⟩ := result
        obtain ⟨index, symbol, effect, rfl⟩ := advance_executes_of_inside inside advanced
        have moved := stepped replay log sink index symbol effect next after start advanced
        simpa [runPassFrom, passLogFrom, inside, advanced] using ih moved (executed + 1) after
    · simpa [runPassFrom, passLogFrom, inside] using start

theorem call_keeps (stepped : StepInvariant P) (configured : ConfigInvariant P)
    {replay : Replay} {log : List (Step × Replay)} (start : P replay log) (call : Call) :
    P (replay.call call).1 (log ++ (replay.call call).2) := by
  cases call with
  | advance sink =>
    cases advanced : replay.advance sink with
    | error fault => simpa [Replay.call, advanced] using start
    | ok result =>
      obtain ⟨step, next, after⟩ := result
      cases step with
      | finished =>
        obtain ⟨-, rfl, -⟩ := advance_eq_finished advanced
        simpa [Replay.call, advanced] using start
      | executed index symbol effect =>
        simpa [Replay.call, advanced] using
          stepped replay log sink index symbol effect next after start advanced
  | runPass sink => exact passLogFrom_keeps stepped start 0 sink _
  | setStep step =>
    -- each setter replaces the configuration and keeps the save limit
    rw [show replay.call (.setStep step) = (replay.setStep step, []) from rfl, List.append_nil]
    exact configured replay log { replay.config with step } rfl start
  | setDelta delta =>
    rw [show replay.call (.setDelta delta) = (replay.setDelta delta, []) from rfl,
      List.append_nil]
    exact configured replay log { replay.config with delta } rfl start
  | setOrigin position heading =>
    rw [show replay.call (.setOrigin position heading) =
      (replay.setOrigin position heading, []) from rfl, List.append_nil]
    exact configured replay log
      { replay.config with initialPosition := position, initialHeading := heading } rfl start

/-- A property kept by every executed step and every change of the configuration holds at the end
of every script, for the script's log. -/
theorem script_keeps (stepped : StepInvariant P) (configured : ConfigInvariant P)
    {replay : Replay} {log : List (Step × Replay)} (start : P replay log) (calls : List Call) :
    P (replay.script calls).1 (log ++ (replay.script calls).2) := by
  induction calls generalizing replay log with
  | nil => simpa [script] using start
  | cons first rest ih =>
    simpa [script] using ih (call_keeps stepped configured start first)

theorem runPass_frame (replay : Replay) (sink : σ) :
    (replay.runPass sink).2.1.commands = replay.commands ∧
      (replay.runPass sink).2.1.rules = replay.rules ∧
      (replay.runPass sink).2.1.looping = replay.looping ∧
      (replay.runPass sink).2.1.config = replay.config := by
  have stepped : StepInvariant fun current (_ : List (Step × Replay)) =>
      current.commands = replay.commands ∧ current.rules = replay.rules ∧
        current.looping = replay.looping ∧ current.config = replay.config := by
    intro τ _ current log sink index symbol effect next after framed advanced
    obtain ⟨commands, rules, looping, config⟩ := advance_frame advanced
    exact ⟨commands.trans framed.1, rules.trans framed.2.1, looping.trans framed.2.2.1,
      config.trans framed.2.2.2⟩
  exact @passLogFrom_keeps σ _ _ stepped replay [] ⟨rfl, rfl, rfl, rfl⟩ 0 sink _

theorem script_frame (replay : Replay) (calls : List Call) :
    (replay.script calls).1.commands = replay.commands ∧
      (replay.script calls).1.rules = replay.rules ∧
      (replay.script calls).1.looping = replay.looping ∧
      (replay.script calls).1.config.maxStackDepth = replay.config.maxStackDepth := by
  let Framed : Replay → List (Step × Replay) → Prop := fun current _ =>
    current.commands = replay.commands ∧ current.rules = replay.rules ∧
      current.looping = replay.looping ∧
      current.config.maxStackDepth = replay.config.maxStackDepth
  have stepped : StepInvariant Framed := by
    intro τ _ current log sink index symbol effect next after framed advanced
    obtain ⟨pass, turtle, saved, -, -, -, -, rfl⟩ := advance_eq_executed advanced
    exact framed
  have configured : ConfigInvariant Framed := by
    intro current log config sameLimit ⟨commands, rules, looping, limit⟩
    exact ⟨commands, rules, looping, sameLimit.trans limit⟩
  exact @script_keeps Framed stepped configured replay [] ⟨rfl, rfl, rfl, rfl⟩ calls

end Invariant

end Replay

end PlantPlot
