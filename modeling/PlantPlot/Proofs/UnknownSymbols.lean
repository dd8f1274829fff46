import Mathlib
import PlantPlot.Program.Basic
import PlantPlot.Proofs.Engine

/-!
# Which unknown symbol a fault names

One generation rewrites a word symbol by symbol, so it is the concatenation of the symbols'
productions and it distributes over joined words (`expand_append`). It refuses a word exactly
where validation does, naming the same first symbol without a rule, and so does the bounded
generation, which measures the word before it builds it.

The closure check visits the rules by ascending symbol, so the fault it reports is fixed by the
rules alone: the first unknown symbol of the production of the least symbol whose production has
one (`validateClosed_eq_error_iff`). A program's initiator is checked before any production.
-/

namespace PlantPlot

/-- A sequence of checks fails exactly at its first failing check, with that check's fault. -/
theorem forM_eq_error_iff {α ε : Type} (check : α → Except ε Unit) (items : List α) (fault : ε) :
    items.forM check = .error fault ↔
      ∃ before item after, items = before ++ item :: after ∧
        (∀ earlier ∈ before, check earlier = .ok ()) ∧ check item = .error fault := by
  induction items with
  | nil => simp [pure, Except.pure]
  | cons first rest ih =>
    rw [show (first :: rest).forM check = (check first >>= fun _ => rest.forM check) from rfl]
    cases checked : check first with
    | error firstFault =>
      simp only [bind, Except.bind, Except.error.injEq]
      constructor
      · intro same
        exact ⟨[], first, rest, rfl, by simp, checked.trans (congrArg _ same)⟩
      · intro found
        obtain ⟨before, item, after, split, earlierOk, failed⟩ := found
        cases before with
        | nil =>
          obtain ⟨rfl, rfl⟩ := List.cons.inj split
          exact Except.error.inj (checked.symm.trans failed)
        | cons earliest before =>
          have earliestOk := earlierOk earliest List.mem_cons_self
          rw [← (List.cons.inj split).1, checked] at earliestOk
          cases earliestOk
    | ok =>
      simp only [bind, Except.bind]
      rw [ih]
      constructor
      · intro found
        obtain ⟨before, item, after, split, earlierOk, failed⟩ := found
        refine ⟨first :: before, item, after, by rw [split, List.cons_append], ?_, failed⟩
        intro earlier member
        rcases List.mem_cons.1 member with rfl | inBefore
        · exact checked
        · exact earlierOk earlier inBefore
      · intro found
        obtain ⟨before, item, after, split, earlierOk, failed⟩ := found
        cases before with
        | nil =>
          obtain ⟨rfl, -⟩ := List.cons.inj split
          rw [checked] at failed
          cases failed
        | cons earliest before =>
          obtain ⟨-, restSplit⟩ := List.cons.inj split
          exact ⟨before, item, after, restSplit,
            fun earlier member => earlierOk earlier (List.mem_cons_of_mem _ member), failed⟩

namespace RuleTable

variable {table : RuleTable}

/-- A word whose symbols all have rules rewrites to the joined productions, and the bounded
generation measures that word's length before building it. -/
theorem expand_of_valid_measured {word : List Char} (valid : table.validate word = .ok ()) :
    table.expand word = .ok (word.flatMap table.rewritten) ∧
      Engine.expandedSize table word = .ok (word.flatMap table.rewritten).length := by
  have expanded := expand_of_valid valid
  refine ⟨expanded, ?_⟩
  rw [Engine.expandedSize_eq, expanded]
  rfl

/-- A word with a symbol without a rule is refused by rewriting, free or bounded, with the fault
of validation. -/
theorem expand_of_invalid {word : List Char} {fault : Fault}
    (invalid : table.validate word = .error fault) :
    table.expand word = .error fault ∧
      ∀ (engine : Engine) generation, engine.expand table word generation = .error fault := by
  have refused := expand_eq_error_iff.2 invalid
  refine ⟨refused, fun engine generation => ?_⟩
  rw [Engine.expand_eq, refused]

/-- Rewriting distributes over joined words, faults included: the fault of the first part comes
before anything in the second. -/
theorem expand_append (first second : List Char) :
    table.expand (first ++ second) =
      table.expand first >>= fun head => table.expand second >>= fun tail => .ok (head ++ tail) := by
  simp only [expand_eq_map_flatten, List.mapM_append]
  cases first.mapM table.production <;> cases second.mapM table.production <;>
    simp [Except.map, bind, Except.bind, pure, Except.pure]

/-- In a table's entries, the entries before the entry of a symbol hold the smaller symbols and
the entries after it the larger ones. -/
theorem keys_around {before after : List (Char × Rule)} {entry : Char × Rule}
    (split : table.entries = before ++ entry :: after) :
    (∀ earlier ∈ before, earlier.1 < entry.1) ∧ ∀ later ∈ after, entry.1 < later.1 := by
  have ascending := table.keysAscend
  rw [KeysAscend, split, List.pairwise_append, List.pairwise_cons] at ascending
  exact ⟨fun earlier member => ascending.2.2 earlier member entry List.mem_cons_self,
    ascending.2.1.1⟩

theorem mem_before_of_lt {before after : List (Char × Rule)} {entry : Char × Rule}
    (split : table.entries = before ++ entry :: after) {lower : Char} {rule : Rule}
    (found : table.get? lower = some rule) (below : lower < entry.1) : (lower, rule) ∈ before := by
  have member := get?_eq_some_iff.1 found
  rw [split, List.mem_append, List.mem_cons] at member
  rcases member with inBefore | rfl | inAfter
  · exact inBefore
  · exact absurd below (Char.lt_irrefl _)
  · exact absurd ((keys_around split).2 _ inAfter) (Char.lt_asymm below)

/-- The closure check fails exactly at the least symbol whose production has a symbol without a
rule, naming the first such symbol of that production. -/
theorem validateClosed_eq_error_iff {fault : Fault} :
    table.validateClosed = .error fault ↔
      ∃ symbol rule before unknown after, table.get? symbol = some rule ∧
        rule.production = before ++ unknown :: after ∧
        (∀ known ∈ before, table.contains known = true) ∧ table.contains unknown = false ∧
        (∀ lower lowerRule, table.get? lower = some lowerRule → lower < symbol →
          ∀ out ∈ lowerRule.production, table.contains out = true) ∧
        fault = .unknownSymbol unknown := by
  rw [validateClosed, forM_eq_error_iff]
  constructor
  · intro failing
    obtain ⟨before, ⟨symbol, rule⟩, after, split, earlierOk, failed⟩ := failing
    obtain ⟨known, unknown, rest, production, knownOk, missing, named⟩ :=
      validate_eq_error_iff.1 failed
    refine ⟨symbol, rule, known, unknown, rest, get?_eq_some_iff.2 (by simp [split]),
      production, knownOk, missing, ?_, named⟩
    intro lower lowerRule found below
    exact (validate_eq_ok_iff table _).1 (earlierOk _ (mem_before_of_lt split found below))
  · intro failing
    obtain ⟨symbol, rule, known, unknown, rest, found, production, knownOk, missing, lowerOk,
      named⟩ := failing
    obtain ⟨before, after, split⟩ := List.mem_iff_append.1 (get?_eq_some_iff.1 found)
    refine ⟨before, (symbol, rule), after, split, ?_,
      validate_eq_error_iff.2 ⟨known, unknown, rest, production, knownOk, missing, named⟩⟩
    intro earlier member
    have below := (keys_around split).1 earlier member
    exact (validate_eq_ok_iff table _).2
      (lowerOk earlier.1 earlier.2 (get?_eq_some_iff.2 (by simp [split, member])) below)

end RuleTable

namespace Program

theorem validate_of_unknown_initiator {program : Program} {before after : List Char}
    {symbol : Char} (split : program.initiator = before ++ symbol :: after)
    (allKnown : ∀ known ∈ before, program.rules.contains known = true)
    (missing : program.rules.contains symbol = false) :
    program.validate = .error (.unknownSymbol symbol) := by
  rw [validate, RuleTable.validate_eq_error_iff.2 ⟨before, symbol, after, split, allKnown, missing,
    rfl⟩]

theorem validate_of_valid_initiator {program : Program}
    (valid : program.rules.validate program.initiator = .ok ()) :
    program.validate = program.rules.validateClosed := by
  rw [validate, valid]

end Program

/-- Rewriting is the concatenation of productions. A word whose symbols all have rules rewrites
to its symbols' productions joined in order, and the bounded generation measures exactly that
length first. Any other word is refused by free and bounded rewriting alike, with validation's
fault, which names the word's first symbol without a rule. So rewriting a joined word is
rewriting its parts and joining the results. -/
theorem expand_concatenates_productions (table : RuleTable) :
    (∀ word, table.validate word = .ok () →
      table.expand word = .ok (word.flatMap table.rewritten) ∧
        Engine.expandedSize table word = .ok (word.flatMap table.rewritten).length) ∧
    (∀ word fault, table.validate word = .error fault →
      (∃ before symbol after, word = before ++ symbol :: after ∧
        (∀ known ∈ before, table.contains known = true) ∧ table.contains symbol = false ∧
        fault = .unknownSymbol symbol) ∧
      table.expand word = .error fault ∧
      ∀ (engine : Engine) generation, engine.expand table word generation = .error fault) ∧
    ∀ first second, table.expand (first ++ second) =
      table.expand first >>= fun head => table.expand second >>= fun tail => .ok (head ++ tail) :=
  ⟨fun _ valid => RuleTable.expand_of_valid_measured valid,
    fun _ _ invalid => ⟨RuleTable.validate_eq_error_iff.1 invalid,
      RuleTable.expand_of_invalid invalid⟩,
    RuleTable.expand_append⟩

theorem plant_step_concatenates :
    Program.standard.rules.validate ['F', '+'] = .ok () ∧
      Program.standard.rules.expand ['F', '+'] = .ok ("F[+F]F[-F]F".toList ++ ['+']) ∧
      Engine.expandedSize Program.standard.rules ['F', '+'] = .ok 12 := by
  have valid : Program.standard.rules.validate ['F', '+'] = .ok () := rfl
  obtain ⟨expanded, measured⟩ := (expand_concatenates_productions Program.standard.rules).1 _ valid
  exact ⟨valid, expanded.trans rfl, measured.trans rfl⟩

/-- The faults of program validation do not depend on how the rule table was built. A failed
closure check names the first symbol without a rule in the production of the least symbol whose
production has one, and a program whose initiator has a symbol without a rule is refused for the
first such symbol before any production is looked at. -/
theorem validation_faults_are_least (program : Program) :
    (∀ fault, program.rules.validateClosed = .error fault ↔
      ∃ symbol rule before unknown after, program.rules.get? symbol = some rule ∧
        rule.production = before ++ unknown :: after ∧
        (∀ known ∈ before, program.rules.contains known = true) ∧
        program.rules.contains unknown = false ∧
        (∀ lower lowerRule, program.rules.get? lower = some lowerRule → lower < symbol →
          ∀ out ∈ lowerRule.production, program.rules.contains out = true) ∧
        fault = .unknownSymbol unknown) ∧
    (∀ before symbol after, program.initiator = before ++ symbol :: after →
      (∀ known ∈ before, program.rules.contains known = true) →
      program.rules.contains symbol = false →
      program.validate = .error (.unknownSymbol symbol)) ∧
    (program.rules.validate program.initiator = .ok () →
      program.validate = program.rules.validateClosed) :=
  ⟨fun _ => RuleTable.validateClosed_eq_error_iff,
    fun _ _ _ split allKnown missing => Program.validate_of_unknown_initiator split allKnown missing,
    Program.validate_of_valid_initiator⟩

/-- The standard plant with two rules whose productions name symbols without rules, and an
initiator with one. -/
def Program.brokenPlant : Program :=
  { Program.standard with
    initiator := ['F', 'X']
    rules := Program.standard.rules
      |>.insert 'Q' ⟨['F', 'Z'], .noOp⟩
      |>.insert 'P' ⟨['+', 'Y', 'Z'], .noOp⟩ }

theorem broken_plant_faults :
    Program.brokenPlant.initiator = ['F'] ++ 'X' :: [] ∧
      (∀ known ∈ ['F'], Program.brokenPlant.rules.contains known = true) ∧
      Program.brokenPlant.rules.contains 'X' = false ∧
      Program.brokenPlant.validate = .error (.unknownSymbol 'X') ∧
      Program.brokenPlant.rules.validateClosed = .error (.unknownSymbol 'Y') := by
  have allKnown : ∀ known ∈ ['F'], Program.brokenPlant.rules.contains known = true := by
    simp only [List.mem_singleton, forall_eq]
    rfl
  exact ⟨rfl, allKnown, rfl,
    (validation_faults_are_least Program.brokenPlant).2.1 ['F'] 'X' [] rfl allKnown rfl, rfl⟩

end PlantPlot
