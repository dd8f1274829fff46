import PlantPlot.Grammar.Expand

/-!
# Growth

The length of every generation of a run can be predicted without building the words: it is
enough to know how often each symbol occurs. A `Tally` holds those counts; one generation turns
each occurrence of a symbol into the symbols of its production. Counts are capped at
`countCeiling`, the largest 128-bit count, so that growth can be predicted far beyond the
lengths any word could reach.

The prediction stops as soon as a generation leaves the tally as it was (a grammar that no
longer grows, or counts that all reached the cap): the last length then holds for every
remaining generation.
-/

namespace PlantPlot

/-- The largest count a tally holds; larger counts are capped here. -/
def countCeiling : Nat := Nat.pow 2 128 - 1

/-- Addition of counts, capped at `countCeiling`. -/
def cappedAdd (a b : Nat) : Nat := min (a + b) countCeiling

/-- How often each symbol occurs in a word: entries in ascending order of symbol, none with a
count of zero. -/
abbrev Tally := List (Char × Nat)

namespace Tally

/-- Adds `count` occurrences of `symbol`. -/
def add (symbol : Char) (count : Nat) : Tally → Tally
  | [] => [(symbol, cappedAdd 0 count)]
  | entry :: rest =>
    if symbol < entry.1 then (symbol, cappedAdd 0 count) :: entry :: rest
    else if symbol = entry.1 then (symbol, cappedAdd entry.2 count) :: rest
    else entry :: add symbol count rest

/-- The tally of a word. -/
def ofWord (word : List Char) : Tally :=
  word.foldl (fun tally symbol => tally.add symbol 1) []

/-- The number of symbols counted, capped at `countCeiling`. -/
def total (tally : Tally) : Nat :=
  tally.foldl (fun sum entry => cappedAdd sum entry.2) 0

/-- The tally of the next generation: each symbol's count goes to every symbol of its
production. A symbol without a rule is a fault. -/
def step (table : RuleTable) (tally : Tally) : Except Fault Tally :=
  tally.foldlM (fun next entry => do
    let production ← table.production entry.1
    pure (production.foldl (fun next out => next.add out entry.2) next)) []

end Tally

/-- Appends the lengths of at most `generations` further generations to `lengths`, stopping
once a generation leaves the tally unchanged. -/
def RuleTable.growthFrom (table : RuleTable) (tally : Tally) (lengths : Array Nat) :
    (generations : Nat) → Except Fault (Array Nat)
  | 0 => .ok lengths
  | generations + 1 =>
    match tally.step table with
    | .error fault => .error fault
    | .ok next =>
      if next == tally then .ok lengths
      else table.growthFrom next (lengths.push next.total) generations

/-- The predicted length of each generation of a run from `initiator`, the initiator's own length
first. The initiator must use only symbols with rules. -/
def RuleTable.growth (table : RuleTable) (initiator : List Char) (generations : Nat) :
    Except Fault (List Nat) :=
  match table.validate initiator with
  | .error fault => .error fault
  | .ok () =>
    (table.growthFrom (Tally.ofWord initiator) #[initiator.length] generations).map Array.toList

end PlantPlot
