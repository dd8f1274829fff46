import PlantPlot.Grammar.Effect
import PlantPlot.Fault

/-!
# Rule tables

A rule table gives some symbols a rule each. It is kept as a list of entries in ascending order
of the symbols' code points, with that order as a proof field, so that two tables that give the
same rules are equal and a listing of a table is in code-point order.

Main statements: `get?_insert` (an insertion replaces exactly the rule of its symbol) and
`validate_eq_ok_iff` (a word passes validation exactly when each of its symbols has a rule).
-/

namespace PlantPlot

/-- The keys of a list of entries ascend strictly, so that each symbol occurs at most once. -/
def KeysAscend (entries : List (Char × Rule)) : Prop :=
  entries.Pairwise fun earlier later => earlier.1 < later.1

/-- Puts `(symbol, rule)` into an ascending list of entries, in place of the entry of `symbol`
if there is one. -/
def insertEntry (symbol : Char) (rule : Rule) : List (Char × Rule) → List (Char × Rule)
  | [] => [(symbol, rule)]
  | entry :: rest =>
    if symbol < entry.1 then (symbol, rule) :: entry :: rest
    else if symbol = entry.1 then (symbol, rule) :: rest
    else entry :: insertEntry symbol rule rest

theorem char_lt_of_not_lt_of_ne {a b : Char} (notBelow : ¬a < b) (different : a ≠ b) : b < a := by
  rw [Char.lt_def] at notBelow ⊢
  have valDifferent : a.val ≠ b.val := fun same => different (Char.ext same)
  rw [UInt32.lt_iff_toNat_lt] at notBelow ⊢
  have : a.val.toNat ≠ b.val.toNat := fun same => valDifferent (UInt32.toNat_inj.1 same)
  omega

theorem mem_insertEntry {symbol : Char} {rule : Rule} {entries : List (Char × Rule)}
    {entry : Char × Rule} (member : entry ∈ insertEntry symbol rule entries) :
    entry = (symbol, rule) ∨ entry ∈ entries := by
  induction entries with
  | nil => simpa [insertEntry] using member
  | cons first rest ih =>
    unfold insertEntry at member
    split at member
    · simpa using member
    · split at member
      · simp only [List.mem_cons] at member
        rcases member with same | inRest
        · exact .inl same
        · exact .inr (List.mem_cons_of_mem _ inRest)
      · simp only [List.mem_cons] at member
        rcases member with same | inRest
        · exact .inr (same ▸ List.mem_cons_self)
        · rcases ih inRest with same | old
          · exact .inl same
          · exact .inr (List.mem_cons_of_mem _ old)

theorem insertEntry_keysAscend {symbol : Char} {rule : Rule} {entries : List (Char × Rule)}
    (sorted : KeysAscend entries) : KeysAscend (insertEntry symbol rule entries) := by
  induction entries with
  | nil => simp [insertEntry, KeysAscend]
  | cons first rest ih =>
    unfold KeysAscend at sorted ⊢
    rw [List.pairwise_cons] at sorted
    unfold insertEntry
    split
    · next below =>
      refine List.Pairwise.cons ?_ (List.Pairwise.cons sorted.1 sorted.2)
      intro later member
      rcases List.mem_cons.1 member with rfl | inRest
      · exact below
      · exact Char.lt_trans below (sorted.1 later inRest)
    · split
      · next same =>
        refine List.Pairwise.cons ?_ sorted.2
        intro later inRest
        rw [same]
        exact sorted.1 later inRest
      · next notBelow different =>
        refine List.Pairwise.cons ?_ (ih sorted.2)
        intro later member
        rcases mem_insertEntry member with rfl | inRest
        · exact char_lt_of_not_lt_of_ne notBelow different
        · exact sorted.1 later inRest

theorem char_beq_eq_false {a b : Char} (different : a ≠ b) : (a == b) = false := by
  simpa using different

theorem lookup_insertEntry (symbol : Char) (rule : Rule) (entries : List (Char × Rule))
    (query : Char) :
    (insertEntry symbol rule entries).lookup query =
      if query = symbol then some rule else entries.lookup query := by
  induction entries with
  | nil =>
    by_cases same : query = symbol
    · simp [insertEntry, same]
    · simp [insertEntry, List.lookup_cons, same, char_beq_eq_false same]
  | cons first rest ih =>
    obtain ⟨key, old⟩ := first
    unfold insertEntry
    split
    · by_cases same : query = symbol
      · simp [same]
      · simp [List.lookup_cons, same, char_beq_eq_false same]
    · split
      · next keySame =>
        by_cases same : query = symbol
        · simp [same]
        · have other : query ≠ key := fun atKey => same (atKey.trans keySame.symm)
          simp [List.lookup_cons, same, char_beq_eq_false same, char_beq_eq_false other]
      · next notBelow different =>
        by_cases atKey : query = key
        · subst atKey
          have other : query ≠ symbol := fun same => different same.symm
          simp [other]
        · simp [List.lookup_cons, char_beq_eq_false atKey, ih]

/-- A table of rules, one for each symbol it knows, listed by ascending code point. -/
structure RuleTable where
  /-- The symbols with their rules, in ascending order of code point. -/
  entries : List (Char × Rule)
  /-- Each symbol occurs once, and the entries ascend. -/
  keysAscend : KeysAscend entries

namespace RuleTable

/-- The table without rules. -/
def empty : RuleTable :=
  ⟨[], List.Pairwise.nil⟩

instance : Inhabited RuleTable := ⟨empty⟩

/-- The rule of a symbol, if the table has one. -/
def get? (table : RuleTable) (symbol : Char) : Option Rule :=
  table.entries.lookup symbol

/-- The effect of a symbol, if the table has a rule for it. -/
def effect? (table : RuleTable) (symbol : Char) : Option Effect :=
  (table.get? symbol).map Rule.effect

/-- Whether the table has a rule for the symbol. -/
def contains (table : RuleTable) (symbol : Char) : Bool :=
  (table.get? symbol).isSome

/-- The number of symbols with a rule. -/
def size (table : RuleTable) : Nat :=
  table.entries.length

/-- Whether no symbol has a rule. -/
def isEmpty (table : RuleTable) : Bool :=
  table.entries.isEmpty

/-- The table with `rule` for `symbol`, in place of the rule it had. -/
def insert (table : RuleTable) (symbol : Char) (rule : Rule) : RuleTable :=
  ⟨insertEntry symbol rule table.entries, insertEntry_keysAscend table.keysAscend⟩

/-- The table with `symbol` rewriting to `production` and acting as its conventional effect. -/
def define (table : RuleTable) (symbol : Char) (production : List Char) : RuleTable :=
  table.insert symbol ⟨production, Effect.conventional symbol⟩

/-- Accepts a word whose symbols all have rules; otherwise names the first symbol without one. -/
def validate (table : RuleTable) (word : List Char) : Except Fault Unit :=
  match word.find? fun symbol => !table.contains symbol with
  | some symbol => .error (.unknownSymbol symbol)
  | none => .ok ()

/-- Accepts a table whose productions use only symbols that have rules. The productions are
checked in ascending order of their symbols, each from its first symbol on, so the symbol
named in a fault does not depend on how the table was built. -/
def validateClosed (table : RuleTable) : Except Fault Unit :=
  table.entries.forM fun entry => table.validate entry.2.production

theorem get?_empty (symbol : Char) : empty.get? symbol = none := rfl

theorem get?_insert (table : RuleTable) (symbol : Char) (rule : Rule) (query : Char) :
    (table.insert symbol rule).get? query = if query = symbol then some rule else table.get? query :=
  lookup_insertEntry symbol rule table.entries query

theorem contains_eq_isSome (table : RuleTable) (symbol : Char) :
    table.contains symbol = (table.get? symbol).isSome := rfl

theorem validate_eq_ok_iff (table : RuleTable) (word : List Char) :
    table.validate word = .ok () ↔ ∀ symbol ∈ word, table.contains symbol = true := by
  unfold validate
  split
  · next symbol found =>
    simp only [reduceCtorEq, false_iff, Classical.not_forall]
    have member := List.mem_of_find?_eq_some found
    have missing := List.find?_some found
    exact ⟨symbol, member, by simpa using missing⟩
  · next notFound =>
    simp only [true_iff]
    intro symbol member
    have := List.find?_eq_none.1 notFound symbol member
    simpa using this

end RuleTable

end PlantPlot
