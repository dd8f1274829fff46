import Mathlib
import PlantPlot.Session.Script
import PlantPlot.Proofs.ReplayStep

/-!
# Loads are all or nothing

A load decides whether it succeeds before it changes anything: validation and expansion depend on
the program and the session's ceilings alone (`load_eq_error_iff`). A refused load leaves the
session as it was; a load that succeeds replaces the program, restarts the replay from the
session's origin with the program's commands and turn angle, and blanks the canvas (`Loaded`).
Program text loads exactly when it applies to the active program and the result expands.

Main statement: `load_is_atomic`.
-/

namespace PlantPlot

theorem Program.validate_of_apply {program next : Program} {text : String}
    (applied : program.apply text = .ok next) : next.validate = .ok () := by
  unfold Program.apply at applied
  cases lines : program.applyLines 1 (Text.lines text) with
  | error fault => simp [lines] at applied
  | ok candidate =>
    cases valid : candidate.validate with
    | error fault => simp [lines, valid] at applied
    | ok => simp_all

theorem Canvas.pixel?_clear (canvas : Canvas) {x y : Nat} (column : x < canvas.width)
    (row : y < canvas.height) : canvas.clear.pixel? x y = some 0 := by
  simp [Canvas.pixel?, Canvas.clear, column, row]

namespace Session

/-- `next` is `session` with `program` freshly loaded: the settings kept, `program` active, its
commands replayed from the start with its rules and turn angle, the turtle at the session's
origin with nothing saved or recorded, and a blank canvas of the same size. -/
structure Loaded (session : Session) (program : Program) (next : Session) : Prop where
  config_eq : next.config = session.config
  program_eq : next.program = program
  commands_eq : program.expand session.config.engine = .ok next.replay.commands.toList
  rules_eq : next.replay.rules = program.rules
  cursor_eq : next.replay.cursor = 0
  pass_eq : next.replay.pass = 0
  stackDepth_eq : next.replay.stackDepth = 0
  turtle_eq : next.replay.turtle = ⟨session.config.origin, session.config.initialHeading⟩
  points_eq : next.replay.points = #[]
  replayConfig_eq : next.replay.config = { session.replay.config with
    delta := program.delta, initialPosition := session.config.origin,
    initialHeading := session.config.initialHeading }
  looping_eq : next.replay.looping = session.replay.looping
  blank : ∀ x y, x < next.canvas.width → y < next.canvas.height → next.canvas.pixel? x y = some 0
  drawn_eq : next.canvas.drawn = 0
  clipped_eq : next.canvas.clipped = 0
  width_eq : next.canvas.width = session.canvas.width
  height_eq : next.canvas.height = session.canvas.height

variable {session next : Session} {program : Program}

/-- A load fails exactly when the program does not validate or does not expand under the
session's ceilings, with that fault. -/
theorem load_eq_error_iff {fault : Fault} :
    session.load program = .error fault ↔
      program.validate = .error fault ∨
        (program.validate = .ok () ∧ program.expand session.config.engine = .error fault) := by
  unfold load
  cases valid : program.validate with
  | error other => simp
  | ok =>
    cases expanded : program.expand session.config.engine with
    | error other => simp
    | ok commands => simp

/-- A load that succeeds loads the program's expansion. -/
theorem load_eq_ok (loaded : session.load program = .ok next) :
    program.validate = .ok () ∧ ∃ commands, program.expand session.config.engine = .ok commands ∧
      next = { session with
        program := program,
        replay := session.replay.setDelta program.delta
          |>.setOrigin session.config.origin session.config.initialHeading
          |>.load commands.toArray program.rules,
        canvas := session.canvas.clear } := by
  unfold load at loaded
  cases valid : program.validate with
  | error fault => simp [valid] at loaded
  | ok =>
    cases expanded : program.expand session.config.engine with
    | error fault => simp [valid, expanded] at loaded
    | ok commands =>
      simp only [valid, expanded, Except.ok.injEq] at loaded
      exact ⟨rfl, commands, rfl, loaded.symm⟩

theorem loaded_of_load (loaded : session.load program = .ok next) : session.Loaded program next := by
  obtain ⟨-, commands, expanded, rfl⟩ := load_eq_ok loaded
  exact {
    config_eq := rfl
    program_eq := rfl
    commands_eq := by
      show program.expand session.config.engine = .ok commands.toArray.toList
      rw [List.toList_toArray]
      exact expanded
    rules_eq := rfl
    cursor_eq := rfl
    pass_eq := rfl
    stackDepth_eq := rfl
    turtle_eq := rfl
    points_eq := rfl
    replayConfig_eq := rfl
    looping_eq := rfl
    blank := fun _ _ column row => session.canvas.pixel?_clear column row
    drawn_eq := rfl
    clipped_eq := rfl
    width_eq := rfl
    height_eq := rfl }

theorem loadText_eq_ok {text : String} (loaded : session.loadText text = .ok next) :
    ∃ program, session.program.apply text = .ok program ∧ session.load program = .ok next := by
  unfold loadText at loaded
  cases applied : session.program.apply text with
  | error fault => simp [applied] at loaded
  | ok program =>
    rw [applied] at loaded
    exact ⟨program, rfl, loaded⟩

/-- Program text loads exactly when it applies to the active program and the result expands
under the session's ceilings. -/
theorem loadText_ok_iff (text : String) :
    (∃ next, session.loadText text = .ok next) ↔
      ∃ program commands, session.program.apply text = .ok program ∧
        program.expand session.config.engine = .ok commands := by
  constructor
  · rintro ⟨next, loaded⟩
    obtain ⟨program, applied, programLoaded⟩ := loadText_eq_ok loaded
    obtain ⟨-, commands, expanded, -⟩ := load_eq_ok programLoaded
    exact ⟨program, commands, applied, expanded⟩
  · rintro ⟨program, commands, applied, expanded⟩
    have valid := Program.validate_of_apply applied
    have loads : session.loadText text = session.load program := by simp [loadText, applied]
    rw [loads]
    simp [load, valid, expanded]

theorem loadFile_of_missing (files : String → FileRead) {path : String}
    (missing : files path = .missing) : session.loadFile files path = .error (.notFound path) := by
  simp [loadFile, missing]

theorem loadFile_eq_ok {files : String → FileRead} {path : String}
    (loaded : session.loadFile files path = .ok next) :
    ∃ text, files path = .contents text ∧ session.loadText text = .ok next := by
  unfold loadFile at loaded
  cases found : files path with
  | missing => simp [found] at loaded
  | unreadable error => simp [found] at loaded
  | contents text =>
    rw [found] at loaded
    exact ⟨text, rfl, loaded⟩

/-- Loads are all or nothing. A load fails exactly when the program does not validate or does
not expand under the session's ceilings, so the outcome is settled before anything changes, and a
refused load, of a program, of text or of a file that does not exist, leaves the session as it
was. Text loads exactly when it applies to the active program and the result expands. A load
that succeeds makes the program active, replays its expansion from the start at the session's
origin and heading with the program's turn angle, and blanks the canvas. -/
theorem load_is_atomic (session : Session) :
    (∀ program fault, session.load program = .error fault ↔
      program.validate = .error fault ∨
        (program.validate = .ok () ∧ program.expand session.config.engine = .error fault)) ∧
    (∀ program, (∃ fault, session.load program = .error fault) →
      session.call (.loadProgram program) = session) ∧
    (∀ text, (∃ fault, session.loadText text = .error fault) →
      session.call (.loadText text) = session) ∧
    (∀ files path, files path = .missing →
      session.loadFile files path = .error (.notFound path) ∧
        session.call (.loadFile files path) = session) ∧
    (∀ text, (∃ next, session.loadText text = .ok next) ↔
      ∃ program commands, session.program.apply text = .ok program ∧
        program.expand session.config.engine = .ok commands) ∧
    (∀ program next, session.load program = .ok next → session.Loaded program next) ∧
    (∀ text next, session.loadText text = .ok next →
      ∃ program, session.program.apply text = .ok program ∧ session.Loaded program next) ∧
    (∀ files path next, session.loadFile files path = .ok next →
      ∃ text program, files path = .contents text ∧ session.program.apply text = .ok program ∧
        session.Loaded program next) := by
  refine ⟨fun _ _ => load_eq_error_iff, ?_, ?_, ?_, loadText_ok_iff, fun _ _ => loaded_of_load,
    ?_, ?_⟩
  · rintro program ⟨fault, refused⟩
    simp [call, refused]
  · rintro text ⟨fault, refused⟩
    simp [call, refused]
  · intro files path missing
    have refused : session.loadFile files path = .error (.notFound path) :=
      loadFile_of_missing files missing
    exact ⟨refused, by simp [call, refused]⟩
  · intro text next loaded
    obtain ⟨program, applied, programLoaded⟩ := loadText_eq_ok loaded
    exact ⟨program, applied, loaded_of_load programLoaded⟩
  · intro files path next loaded
    obtain ⟨text, found, textLoaded⟩ := loadFile_eq_ok loaded
    obtain ⟨program, applied, programLoaded⟩ := loadText_eq_ok textLoaded
    exact ⟨text, program, found, applied, loaded_of_load programLoaded⟩

end Session

end PlantPlot
