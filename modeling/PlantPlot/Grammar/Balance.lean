import PlantPlot.Grammar.RuleTable

/-!
# Bracket balance

Before a command sequence is replayed, its saves and restores can be checked without moving the
turtle: a restore needs an open save before it. `RuleTable.balance` walks the commands with the
number of open saves and reports how many stay open at the end, or the first command that would
restore with none open. The effects come from the rule table, so a symbol without a rule is a
fault.
-/

namespace PlantPlot

namespace RuleTable

/-- Walks `commands`, the first of which has position `index`, with `depth` saves open. -/
def balanceFrom (table : RuleTable) (index depth : Nat) : List Char → Except Fault Nat
  | [] => .ok depth
  | symbol :: rest =>
    match table.effect? symbol with
    | some .push => table.balanceFrom (index + 1) (depth + 1) rest
    | some .pop =>
      if depth = 0 then .error (.stackUnderflow index)
      else table.balanceFrom (index + 1) (depth - 1) rest
    | some _ => table.balanceFrom (index + 1) depth rest
    | none => .error (.unknownSymbol symbol)

/-- The number of saves left open after the commands, or the fault of the first command that
restores with no save open or has no rule. -/
def balance (table : RuleTable) (commands : List Char) : Except Fault Nat :=
  table.balanceFrom 0 0 commands

end RuleTable

end PlantPlot
