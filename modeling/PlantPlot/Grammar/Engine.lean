import PlantPlot.Grammar.Expand

/-!
# Bounded rewriting

An `Engine` rewrites like `RuleTable.run`, under two ceilings: a run may ask for at most
`maxGenerations` generations, and no generation may hold more than `maxSymbols` symbols. The
size of a generation is known from the production lengths before the generation is built, so
a word over the ceiling is never built.
-/

namespace PlantPlot

/-- Ceilings on rewriting. -/
structure Engine where
  /-- The most symbols one generation may hold. -/
  maxSymbols : Nat
  /-- The most generations a run may ask for. -/
  maxGenerations : Nat
  deriving DecidableEq, Repr

namespace Engine

/-- Four million symbols and 1024 generations. -/
def standard : Engine := ⟨4000000, 1024⟩

/-- Adds the production lengths of the symbols of a word to `size`, stopping at the first
symbol without one; `lengths` gives each symbol with a rule the length of its production. -/
def expandedSizeFrom (lengths : List (Char × Nat)) (size : Nat) : List Char → Except Fault Nat
  | [] => .ok size
  | symbol :: rest =>
    match lengths.lookup symbol with
    | some length => expandedSizeFrom lengths (size + length) rest
    | none => .error (.unknownSymbol symbol)

/-- The length of the next generation of a word. Each production's length is taken once, so
the cost does not grow with the length of the generation being measured. -/
def expandedSize (table : RuleTable) (word : List Char) : Except Fault Nat :=
  expandedSizeFrom (table.entries.map fun entry => (entry.1, entry.2.production.length)) 0 word

/-- One generation, refused when it would hold more than `maxSymbols` symbols; `generation`
is the number that a fault reports. -/
def expand (engine : Engine) (table : RuleTable) (word : List Char) (generation : Nat) :
    Except Fault (List Char) :=
  match expandedSize table word with
  | .error fault => .error fault
  | .ok size =>
    if engine.maxSymbols < size then .error (.growthLimit generation size engine.maxSymbols)
    else table.expand word

/-- Rewrites `word` for at most `remaining` generations, the first of which is numbered
`generation`, stopping as soon as a generation rewrites to itself. -/
def runFrom (engine : Engine) (table : RuleTable) (word : List Char) (generation : Nat) :
    (remaining : Nat) → Except Fault (List Char)
  | 0 => .ok word
  | remaining + 1 =>
    match engine.expand table word generation with
    | .error fault => .error fault
    | .ok next =>
      if next == word then .ok word else engine.runFrom table next (generation + 1) remaining

/-- A bounded run: the initiator must use only symbols with rules, and at most
`maxGenerations` generations may be asked for, even of a grammar that stops growing early. -/
def run (engine : Engine) (table : RuleTable) (initiator : List Char) (generations : Nat) :
    Except Fault (List Char) :=
  match table.validate initiator with
  | .error fault => .error fault
  | .ok () =>
    if engine.maxGenerations < generations then
      .error (.generationLimit generations engine.maxGenerations)
    else engine.runFrom table initiator 1 generations

end Engine

end PlantPlot
