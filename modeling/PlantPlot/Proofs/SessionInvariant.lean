import Mathlib
import PlantPlot.Proofs.SessionLoad
import PlantPlot.Proofs.StandardSession
import PlantPlot.Proofs.Closure
import PlantPlot.Proofs.Balance

/-!
# What every session keeps

A session keeps the facts of its program in several places: the program with its rules and turn
angle, the replay's commands, rules and configuration, and the settings' step length and save
limit. `Session.Consistent` says that they agree and that the program validates. A new session
is consistent, and every call keeps it so, failed calls included (`consistent_call`). The
commands of a valid program's expansion all have rules, so a consistent session never stops at a
symbol without one.

Main statement: `reachable_sessions_agree`.
-/

namespace PlantPlot

/-- The expansion of a valid program uses only symbols with rules. -/
theorem Program.expand_valid {program : Program} {engine : Engine} {commands : List Char}
    (valid : program.validate = .ok ()) (expanded : program.expand engine = .ok commands) :
    program.rules.validate commands = .ok () := by
  obtain ⟨initiatorValid, closedOk⟩ := (Program.validate_eq_ok_iff program).1 valid
  obtain ⟨reached, ran, reachedValid⟩ := RuleTable.run_valid_of_closed
    (RuleTable.validateClosed_eq_ok_iff.1 closedOk) initiatorValid program.generations
  unfold Program.expand at expanded
  by_cases above : engine.maxGenerations < program.generations
  · rw [Engine.run_of_above initiatorValid above] at expanded
    cases expanded
  · -- below the generation ceiling the bounded run is the free run or stops at a ceiling
    rw [Engine.run_of_within initiatorValid (Nat.le_of_not_lt above)] at expanded
    rcases Engine.runFrom_cases engine program.rules program.initiator 1 program.generations with
      same | ⟨_, _, _, _, _, _, _, _, stopped, _⟩
    · rw [same, ran, Except.ok.injEq] at expanded
      exact expanded ▸ reachedValid
    · rw [stopped] at expanded
      cases expanded

namespace Replay

variable {σ : Type} [Sink σ] {replay : Replay}

/-- A replay whose commands all have rules never refuses a step for a symbol without one. -/
theorem advance_ne_unknownSymbol
    (known : ∀ symbol ∈ replay.commands.toList, replay.rules.contains symbol = true)
    (sink : σ) (symbol : Char) : replay.advance sink ≠ .error (.unknownSymbol symbol) := by
  intro refused
  obtain ⟨index, pass, found, -, command, kind⟩ := advance_eq_error_iff.1 refused
  have member : found ∈ replay.commands.toList :=
    Array.mem_toList_iff.2 (Array.mem_of_getElem? command)
  rcases kind with ⟨missing, -⟩ | ⟨pushes, -, named⟩ | ⟨pops, -, named⟩
  · rw [RuleTable.effect?_eq_none_iff, known found member] at missing
    cases missing
  · cases named
  · cases named

end Replay

namespace Session

variable {session next : Session} {program : Program}

/-- The copies of the program's facts in a session agree: the active program validates, the
replay runs its expansion under the session's ceilings with its rules and turn angle, and steps
and saves as the settings say. -/
structure Consistent (session : Session) : Prop where
  valid : session.program.validate = .ok ()
  expanded : session.program.expand session.config.engine = .ok session.replay.commands.toList
  rules_eq : session.replay.rules = session.program.rules
  delta_eq : session.replay.config.delta = session.program.delta
  step_eq : session.replay.config.step = session.config.step
  limit_eq : session.replay.config.maxStackDepth = session.config.maxStackDepth

/-- A load makes a session consistent, provided its replay already steps and saves as the
settings say. -/
theorem consistent_of_load (stepEq : session.replay.config.step = session.config.step)
    (limitEq : session.replay.config.maxStackDepth = session.config.maxStackDepth)
    (loaded : session.load program = .ok next) : next.Consistent := by
  have valid := (load_eq_ok loaded).1
  have fresh := loaded_of_load loaded
  have replayConfig := fresh.replayConfig_eq
  refine ⟨fresh.program_eq ▸ valid, ?_, ?_, ?_, ?_, ?_⟩
  · rw [fresh.program_eq, fresh.config_eq]
    exact fresh.commands_eq
  · rw [fresh.rules_eq, fresh.program_eq]
  · rw [replayConfig, fresh.program_eq]
  · rw [replayConfig, fresh.config_eq]
    exact stepEq
  · rw [replayConfig, fresh.config_eq]
    exact limitEq

theorem Consistent.load (consistent : session.Consistent)
    (loaded : session.load program = .ok next) : next.Consistent :=
  consistent_of_load consistent.step_eq consistent.limit_eq loaded

theorem Consistent.withReplay (consistent : session.Consistent) {replay : Replay}
    {canvas : Canvas} (commands : replay.commands = session.replay.commands)
    (rules : replay.rules = session.replay.rules) (config : replay.config = session.replay.config) :
    ({ session with replay, canvas } : Session).Consistent where
  valid := consistent.valid
  expanded := commands ▸ consistent.expanded
  rules_eq := rules.trans consistent.rules_eq
  delta_eq := config ▸ consistent.delta_eq
  step_eq := config ▸ consistent.step_eq
  limit_eq := config ▸ consistent.limit_eq

/-- Every call keeps a session consistent, whether it succeeds or not. -/
theorem consistent_call (consistent : session.Consistent) (request : Call) :
    (session.call request).Consistent := by
  cases request with
  | loadProgram program =>
    cases loaded : session.load program with
    | error fault => simpa [call, loaded] using consistent
    | ok next => simpa [call, loaded] using consistent.load loaded
  | loadText text =>
    cases loaded : session.loadText text with
    | error fault => simpa [call, loaded] using consistent
    | ok next =>
      obtain ⟨program, -, programLoaded⟩ := loadText_eq_ok loaded
      simpa [call, loaded] using consistent.load programLoaded
  | loadFile files path =>
    cases loaded : session.loadFile files path with
    | error fault => simpa [call, loaded] using consistent
    | ok next =>
      obtain ⟨text, -, textLoaded⟩ := loadFile_eq_ok loaded
      obtain ⟨program, -, programLoaded⟩ := loadText_eq_ok textLoaded
      simpa [call, loaded] using consistent.load programLoaded
  | tick =>
    cases advanced : session.replay.advance session.canvas with
    | error fault => simpa [call, tick, advanced] using consistent
    | ok result =>
      obtain ⟨step, replay, canvas⟩ := result
      obtain ⟨commands, rules, -, config⟩ := Replay.advance_frame advanced
      simpa [call, tick, advanced] using consistent.withReplay commands rules config
  | runPass =>
    obtain ⟨commands, rules, -, config⟩ := session.replay.runPass_frame session.canvas
    exact consistent.withReplay commands rules config
  | setStep step =>
    exact { consistent with step_eq := rfl }
  | setDelta delta =>
    exact { consistent with delta_eq := rfl }

theorem consistent_new {config : PlotterConfig} (made : Session.new config = .ok session) :
    session.Consistent := by
  unfold Session.new at made
  cases canvas : Canvas.new config.canvasWidth config.canvasHeight with
  | error fault => simp [canvas] at made
  | ok canvas =>
    rw [canvas] at made
    -- the new replay steps and saves as the settings say
    exact consistent_of_load rfl rfl made

theorem Reachable.consistent {config : PlotterConfig} (reachable : session.Reachable config) :
    session.Consistent := by
  induction reachable with
  | new made => exact consistent_new made
  | called request _ consistent => exact consistent_call consistent request

theorem Consistent.commands_known (consistent : session.Consistent) :
    ∀ symbol ∈ session.replay.commands.toList, session.replay.rules.contains symbol = true := by
  rw [consistent.rules_eq, ← RuleTable.validate_eq_ok_iff]
  exact Program.expand_valid consistent.valid consistent.expanded

/-- Every session reachable from a new one, by loads of programs, text and files, steps, passes
and new step lengths and turn angles, successful or refused, keeps its copies in step: the active
program validates, the replay runs exactly its expansion under the session's ceilings, with its
rules and turn angle, the settings' step length and the settings' save limit. So no step and no
pass of such a session stops at a symbol without a rule. -/
theorem reachable_sessions_agree (config : PlotterConfig) (session : Session)
    (reachable : session.Reachable config) :
    session.program.validate = .ok () ∧
    session.program.expand session.config.engine = .ok session.replay.commands.toList ∧
    session.replay.rules = session.program.rules ∧
    session.replay.config.delta = session.program.delta ∧
    session.replay.config.step = session.config.step ∧
    session.replay.config.maxStackDepth = session.config.maxStackDepth ∧
    (∀ symbol, session.tick ≠ .error (.unknownSymbol symbol)) ∧
    (∀ symbol, session.runPass.1 ≠ .error (.unknownSymbol symbol)) := by
  have consistent := reachable.consistent
  have known := consistent.commands_known
  refine ⟨consistent.valid, consistent.expanded, consistent.rules_eq, consistent.delta_eq,
    consistent.step_eq, consistent.limit_eq, fun symbol ticked => ?_, fun symbol failed => ?_⟩
  · -- a refused tick is a refused step of the replay
    cases advanced : session.replay.advance session.canvas with
    | error fault =>
      simp only [tick, advanced, Except.error.injEq] at ticked
      subst ticked
      exact Replay.advance_ne_unknownSymbol known session.canvas symbol advanced
    | ok result => simp [tick, advanced] at ticked
  · -- a refused pass stops at a refused step of a replay with the same commands and rules
    obtain ⟨-, refused⟩ := Replay.runPassFrom_eq_error failed
    obtain ⟨commands, rules, -, -⟩ := session.replay.runPass_frame session.canvas
    refine Replay.advance_ne_unknownSymbol ?_ _ symbol refused
    rw [Replay.runPass] at commands rules
    rw [commands, rules]
    exact known

/-- A new session under the standard settings is reachable, and keeps its copies in step. -/
theorem standard_session_agrees :
    ∃ session : Session, session.Reachable PlotterConfig.standard ∧
      session.program.validate = .ok () ∧
      session.program.expand session.config.engine = .ok session.replay.commands.toList ∧
      session.replay.rules = session.program.rules ∧
      session.replay.config.delta = session.program.delta ∧
      session.replay.config.step = session.config.step ∧
      session.replay.config.maxStackDepth = session.config.maxStackDepth ∧
      (∀ symbol, session.tick ≠ .error (.unknownSymbol symbol)) ∧
      (∀ symbol, session.runPass.1 ≠ .error (.unknownSymbol symbol)) := by
  obtain ⟨session, made⟩ := Session.new_standard_ok
  exact ⟨session, .new made, reachable_sessions_agree PlotterConfig.standard session (.new made)⟩

end Session

end PlantPlot
