import Mathlib
import PlantPlot.Proofs.ReplayStep

/-!
# Refused steps

A step is refused before it changes anything, and whether it is refused depends only on the
commands, the rules, the cursor, the looping mode, the saved turtles and the save limit
(`Stuck`). None of the calls between two loads can change these while the step is refused: a
refused step or pass leaves the replay as it was, and the setters change only the step length, the
turn angle and the start. So the same fault comes back until the replay is reloaded.

Main statement: `refused_step_sticks`, also for a pass, which stops at the replay of its last
executed step with the cursor on the refused command.
-/

namespace PlantPlot

namespace Replay

variable {replay : Replay} {fault : Fault}

theorem Stuck.reconfigured (stuck : replay.Stuck fault) {config : TurtleConfig}
    (sameLimit : config.maxStackDepth = replay.config.maxStackDepth) :
    ({ replay with config } : Replay).Stuck fault := by
  obtain ⟨index, pass, symbol, slot, found, kind⟩ := stuck
  refine ⟨index, pass, symbol, slot, found, ?_⟩
  simp only [sameLimit]
  exact kind

/-- The fault of a stuck replay names the command that the step would run: the one at the
cursor, or the first one when a looping replay starts a new pass. -/
theorem Stuck.names (stuck : replay.Stuck fault) :
    ∃ index symbol, replay.commands[index]? = some symbol ∧
      ((replay.cursor < replay.commands.size ∧ index = replay.cursor) ∨
        (replay.commands.size ≤ replay.cursor ∧ replay.looping = true ∧ index = 0)) ∧
      (fault = .unknownSymbol symbol ∨
        fault = .stackOverflow index replay.config.maxStackDepth ∨
        fault = .stackUnderflow index) := by
  obtain ⟨index, pass, symbol, slot, found, kind⟩ := stuck
  refine ⟨index, symbol, found, ?_, ?_⟩
  · rcases nextSlot_eq_some_iff.1 slot with ⟨inside, atCursor, -⟩ | ⟨outside, looping, -, first, -⟩
    · exact .inl ⟨inside, atCursor⟩
    · exact .inr ⟨outside, looping, first⟩
  · rcases kind with ⟨-, named⟩ | ⟨-, -, named⟩ | ⟨-, -, named⟩
    · exact .inl named
    · exact .inr (.inl named)
    · exact .inr (.inr named)

/-- `current` is `replay` with at most its configuration changed, keeping the save limit, and no
step was logged on the way. -/
def Unmoved (replay current : Replay) (log : List (Step × Replay)) : Prop :=
  log = [] ∧ ∃ config : TurtleConfig, config.maxStackDepth = replay.config.maxStackDepth ∧
    current = { replay with config }

theorem unmoved_step (stuck : replay.Stuck fault) : StepInvariant replay.Unmoved := by
  intro τ _ current log sink index symbol effect next after staying advanced
  obtain ⟨-, config, sameLimit, rfl⟩ := staying
  -- a stuck replay refuses every step, so no step executes
  have refused : ({ replay with config } : Replay).advance sink = .error fault :=
    advance_eq_error_iff.2 (stuck.reconfigured sameLimit)
  rw [advanced] at refused
  cases refused

theorem unmoved_reconfigured : ConfigInvariant replay.Unmoved := by
  intro current log config sameLimit staying
  obtain ⟨noSteps, earlier, earlierLimit, rfl⟩ := staying
  exact ⟨noSteps, config, sameLimit.trans earlierLimit, rfl⟩

/-- After a refused step, every script of calls executes nothing and changes only the step
length, the turn angle and the start, so its next step is refused with the same fault. -/
theorem script_of_stuck (stuck : replay.Stuck fault) (calls : List Call) :
    (replay.script calls).2 = [] ∧
      (∃ config : TurtleConfig, config.maxStackDepth = replay.config.maxStackDepth ∧
        (replay.script calls).1 = { replay with config }) ∧
      (replay.script calls).1.Stuck fault := by
  obtain ⟨noSteps, config, sameLimit, final⟩ :=
    @script_keeps replay.Unmoved (unmoved_step stuck) unmoved_reconfigured replay []
      ⟨rfl, replay.config, rfl, rfl⟩ calls
  rw [List.nil_append] at noSteps
  refine ⟨noSteps, ⟨config, sameLimit, final⟩, ?_⟩
  rw [final]
  exact stuck.reconfigured sameLimit

/-- A refused step changes nothing, and its fault names the command it would run: at the cursor,
or the first one when a looping replay starts a new pass. Until the next load or reset, every
later script of calls, whatever its sinks and settings, executes nothing and changes only the
step length, the turn angle and the start, so every later step is refused with the same fault.
A pass that is refused stops at the replay of its last executed step, having drawn only that
step's segments and those before it, with the cursor on the refused command, whose fault it
reports. -/
theorem refused_step_sticks (replay : Replay) :
    (∀ {σ : Type} [Sink σ] (sink : σ) (fault : Fault), replay.advance sink = .error fault →
      (∃ index symbol, replay.commands[index]? = some symbol ∧
        ((replay.cursor < replay.commands.size ∧ index = replay.cursor) ∨
          (replay.commands.size ≤ replay.cursor ∧ replay.looping = true ∧ index = 0)) ∧
        (fault = .unknownSymbol symbol ∨
          fault = .stackOverflow index replay.config.maxStackDepth ∨
          fault = .stackUnderflow index)) ∧
      replay.call (.advance sink) = (replay, []) ∧
      ∀ calls : List Call, (replay.script calls).2 = [] ∧
        (∃ config : TurtleConfig, config.maxStackDepth = replay.config.maxStackDepth ∧
          (replay.script calls).1 = { replay with config }) ∧
        ∀ {τ : Type} [Sink τ] (later : τ), (replay.script calls).1.advance later = .error fault) ∧
    (∀ {σ : Type} [Sink σ] (sink : σ) (fault : Fault), (replay.runPass sink).1 = .error fault →
      let stopped := (replay.runPass sink).2
      stopped.1 = ((replay.passLog sink).getLast?.map Prod.snd).getD replay ∧
      stopped.2 = Sink.drawAll sink (segmentsOf replay.turtle.position (replay.passLog sink)) ∧
      stopped.1.cursor < stopped.1.commands.size ∧
      stopped.1.advance stopped.2 = .error fault ∧
      ∃ symbol, stopped.1.commands[stopped.1.cursor]? = some symbol ∧
        (fault = .unknownSymbol symbol ∨
          fault = .stackOverflow stopped.1.cursor stopped.1.config.maxStackDepth ∨
          fault = .stackUnderflow stopped.1.cursor)) := by
  refine ⟨fun sink fault refused => ?_, fun sink fault failed => ?_⟩
  · have stuck := advance_eq_error_iff.1 refused
    refine ⟨stuck.names, by simp [Replay.call, refused], fun calls => ?_⟩
    obtain ⟨noSteps, reconfigured, stillStuck⟩ := script_of_stuck stuck calls
    exact ⟨noSteps, reconfigured, fun later => advance_eq_error_iff.2 stillStuck⟩
  · intro stopped
    obtain ⟨inside, refused⟩ := runPassFrom_eq_error failed
    obtain ⟨index, symbol, found, position, named⟩ := (advance_eq_error_iff.1 refused).names
    -- inside the pass, the refused command is the one at the cursor
    have atCursor : index = stopped.1.cursor := by
      rcases position with ⟨-, atCursor⟩ | ⟨outside, -⟩
      · exact atCursor
      · exact absurd inside (Nat.not_lt.2 outside)
    subst atCursor
    exact ⟨runPassFrom_replay 0 sink _, runPassFrom_sink 0 sink _, inside, refused, symbol, found,
      named⟩

/-- A restore with nothing saved is refused, and stays refused whatever calls follow. -/
theorem lone_restore_refused_for_good :
    let replay := (Replay.new TurtleConfig.standard false).load #[']']
      (RuleTable.empty.insert ']' ⟨[']'], .pop⟩)
    replay.advance (#[] : Array Segment) = .error (.stackUnderflow 0) ∧
      ∀ calls : List Call, ∀ {τ : Type} [Sink τ] (later : τ),
        (replay.script calls).1.advance later = .error (.stackUnderflow 0) := by
  intro replay
  have refused : replay.advance (#[] : Array Segment) = .error (.stackUnderflow 0) := rfl
  exact ⟨refused, fun calls => (((refused_step_sticks replay).1 _ _ refused).2.2 calls).2.2⟩

end Replay

end PlantPlot
