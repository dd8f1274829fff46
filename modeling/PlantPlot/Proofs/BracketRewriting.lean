import Mathlib
import PlantPlot.Program.Basic
import PlantPlot.Proofs.Balance
import PlantPlot.Proofs.Rewriting

/-!
# Rewriting keeps brackets balanced

The weight of a symbol is its depth as a one-symbol word: one for a save, minus one for a
restore, zero otherwise. A table respects brackets when each production uses only symbols with
rules, has the weight of its symbol, and never dips below the symbol's own weight on the way:
no prefix of it restores more than the symbol itself does.

Under such a table a settled word (one the bracket check accepts) rewrites to a settled word of
the same depth (`settled_flatMap_rewritten`), so the bracket check gives the same answer on every
generation of a run. The standard plant respects brackets, and so each of its generations closes
every save it opens. Main statement: `rewriting_keeps_brackets_balanced`.
-/

namespace PlantPlot

namespace RuleTable

variable {table : RuleTable}

/-- Every production uses only symbols with rules, has the weight of its symbol, and no prefix
of it has a weight below the least of zero and that weight. -/
def RespectsBrackets (table : RuleTable) : Prop :=
  ∀ symbol rule, table.get? symbol = some rule →
    (∀ out ∈ rule.production, table.contains out = true) ∧
    table.depth rule.production = table.depth [symbol] ∧
    ∀ before, before <+: rule.production → min 0 (table.depth [symbol]) ≤ table.depth before

theorem respectsBrackets_iff :
    table.RespectsBrackets ↔ ∀ entry ∈ table.entries,
      entry.2.production.all table.contains = true ∧
      table.depth entry.2.production = table.depth [entry.1] ∧
      ∀ before ∈ entry.2.production.inits, min 0 (table.depth [entry.1]) ≤ table.depth before := by
  simp only [List.mem_inits, List.all_eq_true]
  constructor
  · intro respects entry member
    exact respects entry.1 entry.2 (get?_eq_some_iff.2 member)
  · intro respects symbol rule found
    exact respects (symbol, rule) (get?_eq_some_iff.1 found)

instance : DecidablePred RespectsBrackets :=
  fun _ => decidable_of_iff _ respectsBrackets_iff.symm

theorem rewritten_of_get? {symbol : Char} {rule : Rule} (found : table.get? symbol = some rule) :
    table.rewritten symbol = rule.production := by
  simp [rewritten, found]

/-- A settled word stays settled when a tail is appended whose symbols all have rules and none
of whose prefixes takes the word's depth below zero. -/
theorem Settled.append {word tail : List Char} (settled : table.Settled word)
    (known : ∀ symbol ∈ tail, table.contains symbol = true)
    (above : ∀ before, before <+: tail → 0 ≤ table.depth word + table.depth before) :
    table.Settled (word ++ tail) := by
  induction tail using List.reverseRecOn with
  | nil => simpa using settled
  | append_singleton init last ih =>
    rw [← List.append_assoc, settled_append_singleton, List.append_assoc, depth_append]
    refine ⟨ih (fun symbol member => known symbol (by simp [member])) ?_, known last (by simp),
      above _ (List.prefix_refl _)⟩
    intro before isPrefix
    exact above before (List.prefix_append_of_prefix isPrefix)

/-- Under a table that respects brackets, rewriting a settled word symbol by symbol gives a
settled word of the same depth. -/
theorem settled_flatMap_rewritten (respects : table.RespectsBrackets) {word : List Char}
    (settled : table.Settled word) :
    table.Settled (word.flatMap table.rewritten) ∧
      table.depth (word.flatMap table.rewritten) = table.depth word := by
  induction word using List.reverseRecOn with
  | nil => exact ⟨settled_nil, rfl⟩
  | append_singleton init last ih =>
    obtain ⟨initSettled, known, whole⟩ := settled_append_singleton.1 settled
    obtain ⟨rewrittenSettled, sameDepth⟩ := ih initSettled
    obtain ⟨effect, found⟩ := exists_effect_of_contains known
    obtain ⟨rule, ruled, -⟩ := Option.map_eq_some_iff.1 found
    obtain ⟨producedKnown, weight, prefixes⟩ := respects last rule ruled
    have initNonneg := initSettled.depth_nonneg
    rw [depth_append] at whole
    rw [List.flatMap_append, List.flatMap_singleton, rewritten_of_get? ruled]
    refine ⟨rewrittenSettled.append producedKnown fun before isPrefix => ?_, ?_⟩
    · -- a prefix of the last production dips at most to the weight of `last`, and the word up
      -- to and including `last` is settled
      have dip := prefixes before isPrefix
      omega
    · rw [depth_append, depth_append, sameDepth, weight]

theorem validate_of_settled {word : List Char} (settled : table.Settled word) :
    table.validate word = .ok () :=
  (validate_eq_ok_iff table word).2 settled.1

/-- One generation under a table that respects brackets keeps the bracket check's answer. -/
theorem expand_keeps_balance (respects : table.RespectsBrackets) {word : List Char} {saves : Nat}
    (balanced : table.balance word = .ok saves) :
    ∃ next, table.expand word = .ok next ∧ table.balance next = .ok saves := by
  obtain ⟨settled, reported⟩ := balance_eq_ok_iff.1 balanced
  obtain ⟨nextSettled, sameDepth⟩ := settled_flatMap_rewritten respects settled
  refine ⟨_, expand_of_valid (validate_of_settled settled), balance_eq_ok_iff.2 ⟨nextSettled, ?_⟩⟩
  rw [sameDepth]
  exact reported

/-- Every run under a table that respects brackets keeps the bracket check's answer. -/
theorem run_keeps_balance (respects : table.RespectsBrackets) (generations : Nat) :
    ∀ {word : List Char} {saves : Nat}, table.balance word = .ok saves →
      ∃ reached, table.run word generations = .ok reached ∧ table.balance reached = .ok saves := by
  induction generations with
  | zero => exact fun balanced => ⟨_, rfl, balanced⟩
  | succ generations ih =>
    intro word saves balanced
    obtain ⟨next, expanded, nextBalanced⟩ := expand_keeps_balance respects balanced
    rw [run_succ_of_expand expanded]
    exact ih nextBalanced

end RuleTable

theorem Program.standard_respectsBrackets : Program.standard.rules.RespectsBrackets := by
  decide +kernel

theorem Program.standard_initiator_balance :
    Program.standard.rules.balance Program.standard.initiator = .ok 0 := rfl

/-- Under a table that respects brackets, a word the bracket check accepts rewrites to a word it
accepts with the same number of saves left open, and so does every generation of every run. The
standard plant respects brackets, and each of its generations is balanced. -/
theorem rewriting_keeps_brackets_balanced :
    (∀ table : RuleTable, table.RespectsBrackets →
      (∀ word saves, table.balance word = .ok saves →
        ∃ next, table.expand word = .ok next ∧ table.balance next = .ok saves) ∧
      ∀ initiator saves, table.balance initiator = .ok saves → ∀ generations,
        ∃ reached, table.run initiator generations = .ok reached ∧
          table.balance reached = .ok saves) ∧
    Program.standard.rules.RespectsBrackets ∧
    ∀ generations, ∃ reached,
      Program.standard.rules.run Program.standard.initiator generations = .ok reached ∧
        Program.standard.rules.balance reached = .ok 0 := by
  refine ⟨fun table respects => ⟨fun word saves balanced => ?_, fun initiator saves balanced
    generations => ?_⟩, Program.standard_respectsBrackets, fun generations => ?_⟩
  · exact RuleTable.expand_keeps_balance respects balanced
  · exact RuleTable.run_keeps_balance respects generations balanced
  · exact RuleTable.run_keeps_balance Program.standard_respectsBrackets generations
      Program.standard_initiator_balance

theorem plant_rewrites_balanced_branch :
    Program.standard.rules.RespectsBrackets ∧
      Program.standard.rules.balance ['F', '[', '+', 'F', ']'] = .ok 0 ∧
      ∃ next, Program.standard.rules.expand ['F', '[', '+', 'F', ']'] = .ok next ∧
        Program.standard.rules.balance next = .ok 0 :=
  ⟨Program.standard_respectsBrackets, rfl,
    (rewriting_keeps_brackets_balanced.1 _ Program.standard_respectsBrackets).1 _ _ rfl⟩

end PlantPlot
