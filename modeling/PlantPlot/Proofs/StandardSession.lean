import Mathlib
import PlantPlot.Proofs.Engine
import PlantPlot.Session.Basic

/-!
# The standard session

A generation is at most the longest production times as long as the word it rewrites
(`expand_length_le`), so `g` generations multiply the length by at most that width to the power
`g` (`run_length_le`). The standard program's longest production has eleven symbols, so its five
generations never exceed `11 ^ 5` symbols, and under ceilings that allow that much the bounded run
is the free run, which succeeds on the program's closed rules. So a session can be made under
every configuration with a canvas and such ceilings (`Session.new_ok`), the standard one among
them.
-/

namespace PlantPlot

namespace RuleTable

variable {table : RuleTable}

/-- The length of the longest production of the table. -/
def widest (table : RuleTable) : Nat :=
  (table.entries.map fun entry => entry.2.production.length).foldr max 0

theorem rewritten_length_le (symbol : Char) : (table.rewritten symbol).length ≤ table.widest := by
  unfold rewritten
  cases found : table.get? symbol with
  | none => exact Nat.zero_le _
  | some rule =>
    have member := get?_eq_some_iff.1 found
    exact List.le_max_of_le (List.mem_map.2 ⟨(symbol, rule), member, rfl⟩) (le_refl _)

theorem expand_length_le {word next : List Char} (expanded : table.expand word = .ok next) :
    next.length ≤ table.widest * word.length := by
  -- a word that rewrites is valid, and then it rewrites symbol by symbol
  have valid : table.validate word = .ok () := by
    cases checked : table.validate word with
    | ok => rfl
    | error fault =>
      rw [expand_eq_error_iff.2 checked] at expanded
      cases expanded
  rw [expand_of_valid valid, Except.ok.injEq] at expanded
  subst expanded
  calc (word.flatMap table.rewritten).length
      = (word.map fun symbol => (table.rewritten symbol).length).sum := List.length_flatMap
    _ ≤ (word.map fun symbol => (table.rewritten symbol).length).length • table.widest :=
        List.sum_le_card_nsmul _ _ (by
          intro length member
          obtain ⟨symbol, -, rfl⟩ := List.mem_map.1 member
          exact rewritten_length_le symbol)
    _ = table.widest * word.length := by rw [List.length_map, smul_eq_mul, Nat.mul_comm]

/-- A run of `generations` generations makes a word at most `widest ^ generations` times longer. -/
theorem run_length_le {word reached : List Char} {generations : Nat}
    (ran : table.run word generations = .ok reached) :
    reached.length ≤ table.widest ^ generations * word.length := by
  induction generations generalizing reached with
  | zero =>
    rw [run_zero, Except.ok.injEq] at ran
    simp [ran]
  | succ generations ih =>
    rw [run_succ] at ran
    cases earlier : table.run word generations with
    | error fault => simp [earlier, bind, Except.bind] at ran
    | ok middle =>
      simp only [earlier, bind, Except.bind] at ran
      calc reached.length ≤ table.widest * middle.length := expand_length_le ran
        _ ≤ table.widest * (table.widest ^ generations * word.length) :=
            Nat.mul_le_mul_left _ (ih earlier)
        _ = table.widest ^ (generations + 1) * word.length := by ring

end RuleTable

namespace Program

theorem standard_validate : standard.validate = .ok () := rfl

theorem standard_widest : standard.rules.widest = 11 := rfl

/-- Under ceilings that allow five generations of `11 ^ 5` symbols, the standard program
expands. -/
theorem standard_expand_ok {engine : Engine} (generations : 5 ≤ engine.maxGenerations)
    (symbols : 11 ^ 5 ≤ engine.maxSymbols) : ∃ commands, standard.expand engine = .ok commands := by
  have closed := RuleTable.validateClosed_eq_ok_iff.1
    (rfl : standard.rules.validateClosed = .ok ())
  have valid : standard.rules.validate standard.initiator = .ok () := rfl
  -- every generation fits under the symbol ceiling, so the bounded run is the free run
  have fits : ∀ k, 1 ≤ k → k ≤ 5 → ∀ word, standard.rules.run standard.initiator k = .ok word →
      word.length ≤ engine.maxSymbols := by
    intro k _ atMost word ran
    have bound := RuleTable.run_length_le ran
    rw [standard_widest] at bound
    have grows : 11 ^ k ≤ 11 ^ 5 := Nat.pow_le_pow_right (by norm_num) atMost
    have single : standard.initiator.length = 1 := rfl
    rw [single, Nat.mul_one] at bound
    omega
  obtain ⟨commands, ran, -⟩ := RuleTable.run_valid_of_closed closed valid 5
  exact ⟨commands, (Engine.run_eq_run_of_fits generations (.inl (by norm_num)) fits).trans ran⟩

end Program

/-- A session can be made under every configuration whose canvas can be made and whose ceilings
allow the standard program's five generations of at most `11 ^ 5` symbols. -/
theorem Session.new_ok (config : PlotterConfig)
    (canvas : ∃ canvas, Canvas.new config.canvasWidth config.canvasHeight = .ok canvas)
    (generations : 5 ≤ config.maxGenerations) (symbols : 11 ^ 5 ≤ config.maxSymbols) :
    ∃ session, Session.new config = .ok session := by
  obtain ⟨canvas, made⟩ := canvas
  obtain ⟨commands, expanded⟩ := @Program.standard_expand_ok config.engine generations symbols
  simp [Session.new, made, Session.load, Program.standard_validate, expanded]

theorem Session.new_standard_ok : ∃ session, Session.new PlotterConfig.standard = .ok session :=
  Session.new_ok _ ⟨_, rfl⟩ (by decide) (by decide)

end PlantPlot
