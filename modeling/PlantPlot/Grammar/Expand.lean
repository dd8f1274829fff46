import PlantPlot.Grammar.RuleTable

/-!
# Rewriting

One generation replaces every symbol of a word by its production, in order; a symbol without a
rule stops the rewriting and is named in the fault. A run rewrites an axiom generation after
generation, and stops early once a generation rewrites to itself, since all later ones are the
same word.

The loops carry their result in an accumulator, so that words of millions of symbols are
rewritten in constant stack space.
-/

namespace PlantPlot

namespace RuleTable

/-- The production of a symbol, or the fault that the symbol has no rule. -/
def production (table : RuleTable) (symbol : Char) : Except Fault (List Char) :=
  match table.get? symbol with
  | some rule => .ok rule.production
  | none => .error (.unknownSymbol symbol)

/-- Appends the productions of the symbols of a word to `done`, stopping at the first symbol
without a rule. -/
def expandOnto (table : RuleTable) (done : Array Char) : List Char → Except Fault (Array Char)
  | [] => .ok done
  | symbol :: rest =>
    match table.get? symbol with
    | some rule => table.expandOnto (done ++ rule.production) rest
    | none => .error (.unknownSymbol symbol)

/-- One generation: every symbol of the word replaced by its production. -/
def expand (table : RuleTable) (word : List Char) : Except Fault (List Char) :=
  (table.expandOnto #[] word).map Array.toList

/-- Rewrites `word` for at most `generations` generations, stopping as soon as a generation
rewrites to itself. -/
def run (table : RuleTable) (word : List Char) : (generations : Nat) → Except Fault (List Char)
  | 0 => .ok word
  | generations + 1 =>
    match table.expand word with
    | .error fault => .error fault
    | .ok next => if next == word then .ok word else table.run next generations

theorem production_eq_ok_iff (table : RuleTable) (symbol : Char) (production : List Char) :
    table.production symbol = .ok production ↔
      ∃ rule, table.get? symbol = some rule ∧ rule.production = production := by
  unfold RuleTable.production
  split <;> simp_all

theorem run_zero (table : RuleTable) (word : List Char) : table.run word 0 = .ok word := rfl

/-- Rewriting onto an accumulator appends the productions of the word, in order, or fails
where looking the productions up fails. -/
theorem expandOnto_map_toList (table : RuleTable) (done : Array Char) (word : List Char) :
    (table.expandOnto done word).map Array.toList =
      (word.mapM table.production).map fun parts => done.toList ++ parts.flatten := by
  induction word generalizing done with
  | nil => simp [expandOnto, Except.map, pure, Except.pure]
  | cons symbol rest ih =>
    unfold expandOnto
    cases found : table.get? symbol with
    | none => simp [production, found, List.mapM_cons, Except.map, bind, Except.bind]
    | some rule =>
      have step := ih (done ++ rule.production)
      simp only [production, found, List.mapM_cons]
      cases rests : rest.mapM table.production with
      | error fault => simp_all [Except.map, bind, Except.bind]
      | ok parts => simp_all [Except.map, bind, Except.bind, pure, Except.pure]

/-- One generation is the concatenation of the productions of the word's symbols. -/
theorem expand_eq_map_flatten (table : RuleTable) (word : List Char) :
    table.expand word = (word.mapM table.production).map List.flatten := by
  have accumulated := expandOnto_map_toList table #[] word
  simp only [List.nil_append] at accumulated
  exact accumulated

end RuleTable

end PlantPlot
