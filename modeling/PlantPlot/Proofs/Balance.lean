import Mathlib
import PlantPlot.Grammar.Balance

/-!
# What the bracket check accepts

The depth of a word is the number of its saves less the number of its restores. A word is
settled when all its symbols have rules and none of its prefixes has a negative depth: it never
restores a turtle that was not saved. Being settled is closed under prefixes, so a word that is
not settled has a first symbol that unsettles it (`exists_first_failure`).

The bracket check accepts exactly the settled words, with their depth
(`balance_eq_ok_iff`), and otherwise reports the first symbol that unsettles the word: a symbol
without a rule, or a restore at depth zero, named by its position (`balance_eq_error_iff`).
-/

namespace PlantPlot

/-- A word that fails a property its empty prefix has holds it up to a first symbol. -/
theorem exists_first_failure {α : Type} {holds : List α → Prop} (holdsNil : holds [])
    (word : List α) (fails : ¬ holds word) :
    ∃ before symbol after, word = before ++ symbol :: after ∧ holds before ∧
      ¬ holds (before ++ [symbol]) := by
  induction word using List.reverseRecOn with
  | nil => exact absurd holdsNil fails
  | append_singleton init last ih =>
      by_cases initHolds : holds init
      · exact ⟨init, last, [], rfl, initHolds, fails⟩
      · obtain ⟨before, symbol, after, split, held, broken⟩ := ih initHolds
        exact ⟨before, symbol, after ++ [last], by simp [split], held, broken⟩

namespace RuleTable

variable {table : RuleTable}

/-- How many more saves than restores the effects of `word` make. -/
def depth (table : RuleTable) (word : List Char) : Int :=
  ((word.countP fun symbol => table.effect? symbol = some .push : Nat) : Int) -
    ((word.countP fun symbol => table.effect? symbol = some .pop : Nat) : Int)

/-- Every symbol of `word` has a rule, and no prefix of it restores more often than it saves. -/
def Settled (table : RuleTable) (word : List Char) : Prop :=
  (∀ symbol ∈ word, table.contains symbol = true) ∧
    ∀ before, before <+: word → 0 ≤ table.depth before

@[simp] theorem depth_nil : table.depth [] = 0 := rfl

theorem depth_append (before after : List Char) :
    table.depth (before ++ after) = table.depth before + table.depth after := by
  simp only [depth, List.countP_append]
  omega

theorem depth_singleton (symbol : Char) :
    table.depth [symbol] =
      (if table.effect? symbol = some .push then 1 else 0) -
        (if table.effect? symbol = some .pop then 1 else 0) := by
  by_cases pushes : table.effect? symbol = some .push <;>
    by_cases pops : table.effect? symbol = some .pop <;>
    simp [depth, pushes, pops]

theorem effect?_eq_none_iff {symbol : Char} :
    table.effect? symbol = none ↔ table.contains symbol = false := by
  cases found : table.get? symbol <;> simp [effect?, contains, found]

theorem contains_of_effect? {symbol : Char} {effect : Effect}
    (found : table.effect? symbol = some effect) : table.contains symbol = true := by
  cases known : table.contains symbol
  · rw [← effect?_eq_none_iff, found] at known
    cases known
  · rfl

theorem exists_effect_of_contains {symbol : Char} (known : table.contains symbol = true) :
    ∃ effect, table.effect? symbol = some effect := by
  cases found : table.effect? symbol with
  | none =>
      rw [effect?_eq_none_iff, known] at found
      cases found
  | some effect => exact ⟨effect, rfl⟩

theorem settled_nil : table.Settled [] :=
  ⟨fun _ member => by simp at member, fun before isPrefix => by
    rw [List.prefix_nil.1 isPrefix]
    exact le_refl _⟩

theorem Settled.of_prefix {word before : List Char} (settled : table.Settled word)
    (isPrefix : before <+: word) : table.Settled before :=
  ⟨fun symbol member => settled.1 symbol (isPrefix.subset member),
    fun shorter shorterPrefix => settled.2 shorter (shorterPrefix.trans isPrefix)⟩

theorem Settled.depth_nonneg {word : List Char} (settled : table.Settled word) :
    0 ≤ table.depth word :=
  settled.2 word (List.prefix_refl word)

theorem settled_append_singleton {word : List Char} {symbol : Char} :
    table.Settled (word ++ [symbol]) ↔
      table.Settled word ∧ table.contains symbol = true ∧
        0 ≤ table.depth (word ++ [symbol]) := by
  constructor
  · intro settled
    exact ⟨settled.of_prefix (List.prefix_append _ _), settled.1 symbol (by simp),
      settled.depth_nonneg⟩
  · rintro ⟨settled, known, whole⟩
    refine ⟨fun other member => ?_, fun before isPrefix => ?_⟩
    · rcases List.mem_append.1 member with inWord | isLast
      · exact settled.1 other inWord
      · rw [List.mem_singleton.1 isLast]
        exact known
    · rcases List.prefix_concat_iff.1 isPrefix with rfl | shorter
      · exact whole
      · exact settled.2 before shorter

/-- A settled word stops being settled at the next symbol exactly when that symbol has no rule
or restores with nothing saved. -/
theorem not_settled_append_singleton {word : List Char} (settled : table.Settled word)
    (symbol : Char) :
    ¬ table.Settled (word ++ [symbol]) ↔
      table.effect? symbol = none ∨
        (table.effect? symbol = some .pop ∧ table.depth word = 0) := by
  have nonneg := settled.depth_nonneg
  rw [settled_append_singleton, depth_append, depth_singleton]
  cases found : table.effect? symbol with
  | none =>
      have missing := effect?_eq_none_iff.1 found
      simp [missing]
  | some effect =>
      have known := contains_of_effect? found
      cases effect <;> simp [settled, known] <;> omega

/-- The bracket check runs through a concatenation one part after the other. -/
theorem balanceFrom_append (index saves : Nat) (before after : List Char) :
    table.balanceFrom index saves (before ++ after) =
      match table.balanceFrom index saves before with
      | .ok reached => table.balanceFrom (index + before.length) reached after
      | .error fault => .error fault := by
  induction before generalizing index saves with
  | nil => simp [balanceFrom]
  | cons symbol rest ih =>
      cases found : table.effect? symbol with
      | none => simp [balanceFrom, found]
      | some effect =>
          cases effect <;> simp only [List.cons_append, balanceFrom, found, ih,
            List.length_cons, Nat.add_assoc, Nat.add_comm 1]
          split <;> simp

theorem balance_of_settled {word : List Char} (settled : table.Settled word) :
    table.balance word = .ok (table.depth word).toNat := by
  induction word using List.reverseRecOn with
  | nil => rfl
  | append_singleton init last ih =>
      obtain ⟨initSettled, known, whole⟩ := settled_append_singleton.1 settled
      have initNonneg := initSettled.depth_nonneg
      obtain ⟨effect, found⟩ := exists_effect_of_contains known
      rw [depth_append, depth_singleton] at whole ⊢
      rw [balance, balanceFrom_append, ← balance, ih initSettled]
      cases effect <;> simp [balanceFrom, found] at whole ⊢
      case push => omega
      case pop =>
        -- the restore finds a save: the depth before it is positive
        have opened : ¬ table.depth init ≤ 0 := by omega
        simp only [opened, if_false, Except.ok.injEq]
        omega

/-- The check fails at the first symbol that unsettles the word, with that symbol's fault. -/
theorem balance_of_break {word before after : List Char} {symbol : Char}
    (split : word = before ++ symbol :: after) (settled : table.Settled before)
    (breaks : ¬ table.Settled (before ++ [symbol])) :
    (table.effect? symbol = none ∧ table.balance word = .error (.unknownSymbol symbol)) ∨
      (table.effect? symbol = some .pop ∧ table.depth before = 0 ∧
        table.balance word = .error (.stackUnderflow before.length)) := by
  have nonneg := settled.depth_nonneg
  rw [split, balance, balanceFrom_append, ← balance, balance_of_settled settled, Nat.zero_add]
  rcases (not_settled_append_singleton settled symbol).1 breaks with missing | ⟨pops, empty⟩
  · exact .inl ⟨missing, by simp [balanceFrom, missing]⟩
  · refine .inr ⟨pops, empty, ?_⟩
    have closed : (table.depth before).toNat = 0 := by omega
    simp [balanceFrom, pops, closed]

/-- The check accepts exactly the settled words, and reports their depth. -/
theorem balance_eq_ok_iff {word : List Char} {saves : Nat} :
    table.balance word = .ok saves ↔ table.Settled word ∧ (saves : Int) = table.depth word := by
  constructor
  · intro accepted
    by_cases settled : table.Settled word
    · rw [balance_of_settled settled, Except.ok.injEq] at accepted
      exact ⟨settled, by rw [← accepted]; exact Int.toNat_of_nonneg settled.depth_nonneg⟩
    · obtain ⟨before, symbol, after, split, held, breaks⟩ :=
        exists_first_failure settled_nil word settled
      rcases balance_of_break split held breaks with ⟨_, refused⟩ | ⟨_, _, refused⟩ <;>
        rw [refused] at accepted <;> cases accepted
  · rintro ⟨settled, reported⟩
    rw [balance_of_settled settled, ← reported]
    rfl

/-- The check refuses a word at the first symbol that unsettles it: a symbol without a rule, or
a restore with nothing saved, named by its position. -/
theorem balance_eq_error_iff {word : List Char} {fault : Fault} :
    table.balance word = .error fault ↔
      ∃ before symbol after, word = before ++ symbol :: after ∧ table.Settled before ∧
        ((table.effect? symbol = none ∧ fault = .unknownSymbol symbol) ∨
          (table.effect? symbol = some .pop ∧ table.depth before = 0 ∧
            fault = .stackUnderflow before.length)) := by
  constructor
  · intro refused
    by_cases settled : table.Settled word
    · rw [balance_of_settled settled] at refused
      cases refused
    · obtain ⟨before, symbol, after, split, held, breaks⟩ :=
        exists_first_failure settled_nil word settled
      refine ⟨before, symbol, after, split, held, ?_⟩
      rcases balance_of_break split held breaks with
        ⟨missing, failed⟩ | ⟨pops, empty, failed⟩
      · rw [failed, Except.error.injEq] at refused
        exact .inl ⟨missing, refused.symm⟩
      · rw [failed, Except.error.injEq] at refused
        exact .inr ⟨pops, empty, refused.symm⟩
  · rintro ⟨before, symbol, after, split, held, ⟨missing, rfl⟩ | ⟨pops, empty, rfl⟩⟩
    · have breaks := (not_settled_append_singleton held symbol).2 (.inl missing)
      rcases balance_of_break split held breaks with ⟨_, failed⟩ | ⟨pops, _, _⟩
      · exact failed
      · rw [missing] at pops
        cases pops
    · have breaks := (not_settled_append_singleton held symbol).2 (.inr ⟨pops, empty⟩)
      rcases balance_of_break split held breaks with ⟨missing, _⟩ | ⟨_, _, failed⟩
      · rw [missing] at pops
        cases pops
      · exact failed

end RuleTable

end PlantPlot
