import Mathlib
import PlantPlot.Proofs.SessionInvariant

/-!
# When a replay ends

A step finishes exactly when no command is next: the replay is past its last command and either
does not loop or has no command at all to start a new pass with (`advance_finishes_iff`).
`isFinished` tests only the first of the two cases. So it says what the next step does exactly
when the replay does not loop or has a command, and a looping replay with no commands finishes
every step without being finished.

In a reachable session the replay loops exactly when the settings say, and replays the active
program's expansion. So there `isFinished` says what the next tick does exactly when the settings
do not loop or the active program expands to some command.

Main statement: `isFinished_matches_step_unless_empty_loop`; the looping replay of a program that
expands to nothing, reached from a new session, is `empty_loop_finishes_unannounced`.
-/

namespace PlantPlot

namespace Replay

variable {σ : Type} [Sink σ]

theorem advance_finishes_iff_nextSlot (replay : Replay) (sink : σ) :
    (∃ next after, replay.advance sink = .ok (.finished, next, after)) ↔ replay.nextSlot = none :=
  ⟨fun ⟨_, _, finished⟩ => (advance_eq_finished finished).1,
    fun none => ⟨replay, sink, advance_of_nextSlot_none none sink⟩⟩

theorem isFinished_eq_true_iff (replay : Replay) :
    replay.isFinished = true ↔ replay.looping = false ∧ replay.commands.size ≤ replay.cursor := by
  simp [isFinished]

/-- A step finishes exactly when the replay is finished or has no commands at all. -/
theorem advance_finishes_iff (replay : Replay) (sink : σ) :
    (∃ next after, replay.advance sink = .ok (.finished, next, after)) ↔
      replay.isFinished = true ∨ replay.commands.size = 0 := by
  rw [advance_finishes_iff_nextSlot, nextSlot_eq_none_iff, isFinished_eq_true_iff]
  constructor
  · rintro ⟨past, once | empty⟩
    · exact .inl ⟨once, past⟩
    · exact .inr empty
  · rintro (⟨once, past⟩ | empty)
    · exact ⟨past, .inl once⟩
    · exact ⟨by omega, .inr empty⟩

/-- `isFinished` says whether the next step finishes exactly when the replay does not loop or has
a command. -/
theorem isFinished_iff_finishes_iff (replay : Replay) (sink : σ) :
    (replay.isFinished = true ↔ ∃ next after, replay.advance sink = .ok (.finished, next, after)) ↔
      replay.looping = false ∨ 0 < replay.commands.size := by
  rw [advance_finishes_iff, isFinished_eq_true_iff, iff_self_or]
  constructor
  · -- with no commands the step finishes, so a replay that says so does not loop
    intro announced
    by_cases empty : replay.commands.size = 0
    · exact .inl (announced empty).1
    · exact .inr (Nat.pos_of_ne_zero empty)
  · rintro (once | nonempty) empty
    · exact ⟨once, by omega⟩
    · omega

end Replay

namespace Session

variable {session : Session} {config : PlotterConfig}

theorem tick_finishes_iff (session : Session) :
    (∃ next, session.tick = .ok (.finished, next)) ↔
      ∃ next after, session.replay.advance session.canvas = .ok (.finished, next, after) := by
  cases advanced : session.replay.advance session.canvas with
  | error fault => simp [tick, advanced]
  | ok result =>
    obtain ⟨step, replay, canvas⟩ := result
    cases step <;> simp [tick, advanced]

/-- A new session is the standard program loaded into a replay that loops as the settings say. -/
theorem loaded_of_new (made : Session.new config = .ok session) :
    ∃ canvas, (Session.mk config .standard canvas
      (Replay.new (config.turtle Program.standard.delta) config.looping)).Loaded .standard
        session := by
  unfold Session.new at made
  cases canvas : Canvas.new config.canvasWidth config.canvasHeight with
  | error fault => simp [canvas] at made
  | ok canvas' =>
    rw [canvas] at made
    exact ⟨canvas', loaded_of_load made⟩

theorem looping_call (session : Session) (request : Call) :
    (session.call request).replay.looping = session.replay.looping := by
  cases request with
  | loadProgram program =>
    cases loaded : session.load program with
    | error fault => simp [call, loaded]
    | ok next => simpa [call, loaded] using (loaded_of_load loaded).looping_eq
  | loadText text =>
    cases loaded : session.loadText text with
    | error fault => simp [call, loaded]
    | ok next =>
      obtain ⟨program, -, programLoaded⟩ := loadText_eq_ok loaded
      simpa [call, loaded] using (loaded_of_load programLoaded).looping_eq
  | loadFile files path =>
    cases loaded : session.loadFile files path with
    | error fault => simp [call, loaded]
    | ok next =>
      obtain ⟨text, -, textLoaded⟩ := loadFile_eq_ok loaded
      obtain ⟨program, -, programLoaded⟩ := loadText_eq_ok textLoaded
      simpa [call, loaded] using (loaded_of_load programLoaded).looping_eq
  | tick =>
    cases advanced : session.replay.advance session.canvas with
    | error fault => simp [call, tick, advanced]
    | ok result =>
      obtain ⟨step, replay, canvas⟩ := result
      simpa [call, tick, advanced] using (Replay.advance_frame advanced).2.2.1
  | runPass => exact (session.replay.runPass_frame session.canvas).2.2.1
  | setStep step => rfl
  | setDelta delta => rfl

/-- The replay of a reachable session loops exactly when the settings say. -/
theorem Reachable.looping_eq (reachable : session.Reachable config) :
    session.replay.looping = config.looping := by
  induction reachable with
  | new made =>
    obtain ⟨canvas, loaded⟩ := loaded_of_new made
    exact loaded.looping_eq
  | called request _ same => exact (looping_call _ request).trans same

theorem Consistent.commands_pos_iff (consistent : session.Consistent) :
    0 < session.replay.commands.size ↔
      ∃ commands, session.program.expand session.config.engine = .ok commands ∧ commands ≠ [] := by
  rw [consistent.expanded]
  simp [Array.size_pos_iff]

end Session

/-- Whether a replay is finished says what its next step does exactly when the replay does not
loop or has a command: a looping replay with no commands finishes every step but is never
finished. In a session reachable under `config`, whether its replay is finished says what the next
tick does exactly when the settings do not loop or the active program expands to some command. -/
theorem isFinished_matches_step_unless_empty_loop {σ : Type} [Sink σ] (replay : Replay)
    (sink : σ) (config : PlotterConfig) (session : Session)
    (reachable : session.Reachable config) :
    ((replay.isFinished = true ↔
        ∃ next after, replay.advance sink = .ok (.finished, next, after)) ↔
      replay.looping = false ∨ 0 < replay.commands.size) ∧
    ((session.replay.isFinished = true ↔ ∃ next, session.tick = .ok (.finished, next)) ↔
      config.looping = false ∨
        ∃ commands, session.program.expand session.config.engine = .ok commands ∧
          commands ≠ []) := by
  refine ⟨replay.isFinished_iff_finishes_iff sink, ?_⟩
  -- a tick is a step of the session's replay onto its canvas
  rw [Session.tick_finishes_iff, ← reachable.looping_eq,
    ← reachable.consistent.commands_pos_iff]
  exact session.replay.isFinished_iff_finishes_iff session.canvas

/-- A new session under the standard settings loops, so whether it is finished says what its next
tick does exactly when the standard program expands to some command. -/
theorem new_standard_session_announces_finish :
    ∃ session : Session, session.Reachable PlotterConfig.standard ∧
      ((session.replay.isFinished = true ↔ ∃ next, session.tick = .ok (.finished, next)) ↔
        PlotterConfig.standard.looping = false ∨
          ∃ commands, session.program.expand session.config.engine = .ok commands ∧
            commands ≠ []) := by
  obtain ⟨session, made⟩ := Session.new_standard_ok
  exact ⟨session, .new made, (isFinished_matches_step_unless_empty_loop
    (Replay.new TurtleConfig.standard true) (#[] : Array Segment) PlotterConfig.standard session
    (.new made)).2⟩

/-- A looping replay with no commands is not finished, yet its next step finishes. Such a replay
is reached from a new standard session by loading text whose initiator `A` rewrites to nothing. -/
theorem empty_loop_finishes_unannounced :
    (Replay.new TurtleConfig.standard true).isFinished = false ∧
      (Replay.new TurtleConfig.standard true).advance (#[] : Array Segment) =
        .ok (.finished, Replay.new TurtleConfig.standard true, #[]) ∧
      ∃ session : Session, session.Reachable PlotterConfig.standard ∧
        session.replay.commands.size = 0 ∧ session.replay.isFinished = false ∧
        session.tick = .ok (.finished, session) := by
  refine ⟨rfl, rfl, ?_⟩
  obtain ⟨started, made⟩ := Session.new_standard_ok
  obtain ⟨_, fresh⟩ := Session.loaded_of_new made
  let emptied : Program :=
    { Program.standard with initiator := ['A'], rules := Program.standard.rules.define 'A' [] }
  have applied : started.program.apply "ic:A\nA:" = .ok emptied := by
    rw [fresh.program_eq]
    rfl
  have expanded : emptied.expand started.config.engine = .ok [] := by
    rw [fresh.config_eq]
    rfl
  have valid : emptied.validate = .ok () := rfl
  obtain ⟨next, loaded⟩ : ∃ next, started.load emptied = .ok next := by
    simp [Session.load, valid, expanded]
  have called : started.call (.loadText "ic:A\nA:") = next := by
    simp [Session.call, Session.loadText, applied, loaded]
  have reachable : next.Reachable PlotterConfig.standard :=
    called ▸ .called (.loadText "ic:A\nA:") (.new made)
  -- the program expands to nothing, and the replay loops as the standard settings say
  have empty : next.replay.commands.size = 0 := by
    have commands := (Session.loaded_of_load loaded).commands_eq
    rw [expanded, Except.ok.injEq] at commands
    simpa using commands.symm
  have looping : next.replay.looping = true := reachable.looping_eq
  have finishes : next.replay.nextSlot = none :=
    Replay.nextSlot_eq_none_iff.2 ⟨by omega, .inr empty⟩
  refine ⟨next, reachable, empty, by simp [Replay.isFinished, looping], ?_⟩
  simp [Session.tick, Replay.advance_of_nextSlot_none finishes]

end PlantPlot
