import PlantPlot.Text.Quoted

/-!
# Faults

Every operation of the library that can refuse its input answers with a `Fault`, which names
the cause and carries what a message needs. `Fault.message` is the one place where the causes
are put into words, and `Fault.isFatal` says which causes leave the caller nothing to go on
with: only a missing program file is harmless, since the active program stays loaded.
-/

namespace PlantPlot

open Text

/-- Why a line of program text was refused. -/
inductive LineFault where
  /-- The line has no colon between a key and a value; carries the raw line. -/
  | missingColon (line : String)
  /-- The value of the generation count `n` is not a 32-bit count. -/
  | badGenerations (value : String)
  /-- The value of the turn angle `delta` is not a finite number. -/
  | badDelta (value : String)
  /-- The axiom `ic` is empty. -/
  | emptyAxiom
  /-- The key of a rule line is empty. -/
  | emptyRuleSymbol
  deriving DecidableEq, Repr

/-- The reason given for a refused line; raw text in it is quoted. -/
def LineFault.reason : LineFault → String
  | .missingColon line => "expected `key:value`, got " ++ quote line
  | .badGenerations value => "`n` must be a non-negative integer, got " ++ quote value
  | .badDelta value => "`delta` must be a number, got " ++ quote value
  | .emptyAxiom => "empty axiom"
  | .emptyRuleSymbol => "empty rule symbol"

/-- Why an operation refused to go on. -/
inductive Fault where
  /-- A symbol in an axiom, a production or a command sequence has no rule. -/
  | unknownSymbol (symbol : Char)
  /-- A pop was executed with no saved state, at the given command. -/
  | stackUnderflow (index : Nat)
  /-- A push at the given command would hold more saved states than the limit. -/
  | stackOverflow (index : Nat) (limit : Nat)
  /-- A line of program text was refused; lines count from one. -/
  | parse (line : Nat) (reason : LineFault)
  /-- No program file exists at the given path. -/
  | notFound (path : String)
  /-- A program file exists but could not be read as text; carries the system's description. -/
  | io (error : String)
  /-- The given generation would hold more symbols than the limit. -/
  | growthLimit (generation : Nat) (symbols : Nat) (limit : Nat)
  /-- More generations were asked for than the limit allows. -/
  | generationLimit (generations : Nat) (limit : Nat)
  /-- A canvas needs at least one pixel, and no more than a 64-bit count. -/
  | invalidCanvas (width : Nat) (height : Nat)
  deriving DecidableEq, Repr

namespace Fault

/-- The message of a fault. A symbol is shown as it is; the text of a refused line is quoted. -/
def message : Fault → String
  | .unknownSymbol symbol => "Unknown symbol '" ++ symbol.toString ++ "'"
  | .stackUnderflow index => "State stack underflow at command " ++ toString index
  | .stackOverflow index limit =>
    "State stack overflow at command " ++ toString index ++ " (limit " ++ toString limit ++ ")"
  | .parse line reason => "Parse error on line " ++ toString line ++ ": " ++ reason.reason
  | .notFound path => "Program file not found: " ++ path
  | .io error => "I/O error: " ++ error
  | .growthLimit generation symbols limit =>
    "Generation " ++ toString generation ++ " would produce " ++ toString symbols ++
      " symbols (limit " ++ toString limit ++ ")"
  | .generationLimit generations limit =>
    toString generations ++ " generations requested (limit " ++ toString limit ++ ")"
  | .invalidCanvas width height =>
    "Invalid canvas dimensions " ++ toString width ++ "x" ++ toString height

/-- Whether the fault stops the work at hand. A missing program file does not: the program
that was active stays loaded and can still be replayed. -/
def isFatal : Fault → Bool
  | .notFound _ => false
  | _ => true

theorem isFatal_eq_false_iff (fault : Fault) : fault.isFatal = false ↔ ∃ path, fault = .notFound path := by
  cases fault <;> simp [isFatal]

end Fault

end PlantPlot
