import Mathlib
import PlantPlot.Proofs.Growth
import PlantPlot.Proofs.Engine

/-!
# Closed grammars

A program is accepted when its initiator and its productions use only symbols with rules. That
is what every later rewriting relies on: a run, a growth prediction or a bounded run of an
accepted program never meets a symbol without a rule, however many generations it goes, so the
only faults left to a bounded run are its two ceilings. Main statement:
`closed_runs_never_lack_rules`.
-/

namespace PlantPlot

theorem Program.validate_eq_ok_iff (program : Program) :
    program.validate = .ok () ↔
      program.rules.validate program.initiator = .ok () ∧
        program.rules.validateClosed = .ok () := by
  unfold Program.validate
  cases program.rules.validate program.initiator <;> simp

namespace RuleTable

variable {table : RuleTable}

/-- Growth from a valid word under a closed table is always a prediction. -/
theorem growth_ok_of_closed (closed : table.Closed) {initiator : List Char}
    (valid : table.validate initiator = .ok ()) (generations : Nat) :
    ∃ lengths, table.growth initiator generations = .ok lengths := by
  cases grown : table.growth initiator generations with
  | ok lengths => exact ⟨lengths, rfl⟩
  | error fault =>
      -- a failed prediction points at a generation with a symbol without a rule
      obtain ⟨reached, _, stuck, ran, symbol, inStuck, unknown, _⟩ :=
        growthFrom_eq_error (Tally.ofWord_counts initiator) ((growth_eq_error_iff valid).1 grown)
      obtain ⟨word, ranValid, wordValid⟩ := run_valid_of_closed closed valid reached
      rw [ran, Except.ok.injEq] at ranValid
      subst ranValid
      have known := (validate_eq_ok_iff table stuck).1 wordValid symbol inStuck
      simp [known] at unknown

end RuleTable

namespace Engine

/-- A bounded run from a valid word under a closed table ends in a word or at a ceiling. -/
theorem run_within_ceilings_of_closed {table : RuleTable} (closed : table.Closed)
    {initiator : List Char} (valid : table.validate initiator = .ok ()) (engine : Engine)
    (generations : Nat) :
    (∃ word, engine.run table initiator generations = .ok word) ∨
      (∃ asked limit, engine.run table initiator generations =
        .error (.generationLimit asked limit)) ∨
      ∃ generation symbols limit, engine.run table initiator generations =
        .error (.growthLimit generation symbols limit) := by
  by_cases above : engine.maxGenerations < generations
  · exact .inr (.inl ⟨_, _, run_of_above valid above⟩)
  · rw [run_of_within valid (Nat.le_of_not_lt above)]
    rcases runFrom_cases engine table initiator 1 generations with same |
      ⟨_, _, _, _, _, _, _, _, stopped, _⟩
    · obtain ⟨word, ran, _⟩ := RuleTable.run_valid_of_closed closed valid generations
      exact .inl ⟨word, same.trans ran⟩
    · exact .inr (.inr ⟨_, _, _, stopped⟩)

end Engine

/-- The closure check accepts exactly the tables whose productions use only symbols with rules.
From an initiator that passes validation, under such a table, every run succeeds with a valid
word, every growth prediction succeeds, and every bounded run either succeeds or stops at one of
its two ceilings: no symbol without a rule is ever met. -/
theorem closed_runs_never_lack_rules (table : RuleTable) (initiator : List Char) :
    (table.validateClosed = .ok () ↔ table.Closed) ∧
    (table.validateClosed = .ok () → table.validate initiator = .ok () → ∀ generations,
      (∃ reached, table.run initiator generations = .ok reached ∧
        table.validate reached = .ok ()) ∧
      (∃ lengths, table.growth initiator generations = .ok lengths) ∧
      ∀ engine : Engine,
        (∃ word, engine.run table initiator generations = .ok word) ∨
        (∃ asked limit, engine.run table initiator generations =
          .error (.generationLimit asked limit)) ∨
        ∃ generation symbols limit, engine.run table initiator generations =
          .error (.growthLimit generation symbols limit)) := by
  refine ⟨RuleTable.validateClosed_eq_ok_iff, fun closedOk valid generations => ?_⟩
  have closed := RuleTable.validateClosed_eq_ok_iff.1 closedOk
  exact ⟨RuleTable.run_valid_of_closed closed valid generations,
    RuleTable.growth_ok_of_closed closed valid generations,
    fun engine => Engine.run_within_ceilings_of_closed closed valid engine generations⟩

end PlantPlot
