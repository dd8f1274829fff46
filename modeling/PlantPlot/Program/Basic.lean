import PlantPlot.Grammar.Engine

/-!
# Programs

A program says what to grow: an initiator word, a rule table, how many generations to rewrite
it, and the angle by which the turtle turns. The standard program is the bracketed plant
`F → F[+F]F[-F]F` at five generations, turning by 25.7 degrees, with the rules of a curve
(`L`, `R`) beside it.
-/

namespace PlantPlot

/-- What to grow and how to draw it. -/
structure Program where
  /-- How many generations the initiator is rewritten. -/
  generations : Nat
  /-- The turn angle, in degrees. -/
  delta : Float32
  /-- The word that the first generation starts from. -/
  initiator : List Char
  /-- The rules of the symbols. -/
  rules : RuleTable

/-- The turn and bracket symbols, each rewriting to itself with its conventional effect. -/
def RuleTable.base : RuleTable :=
  ['+', '-', '[', ']'].foldl
    (fun table symbol => table.insert symbol (Rule.constant symbol (Effect.conventional symbol)))
    RuleTable.empty

namespace Program

/-- The bracketed plant at five generations, turning by 25.7 degrees; the symbols `F`, `L` and
`R` all step forward. -/
def standard : Program where
  generations := 5
  delta := 25.7
  initiator := ['F']
  rules := RuleTable.base
    |>.insert 'F' ⟨"F[+F]F[-F]F".toList, .forward⟩
    |>.insert 'L' ⟨"L+R+".toList, .forward⟩
    |>.insert 'R' ⟨"-L-".toList, .forward⟩

instance : Inhabited Program := ⟨standard⟩

/-- Accepts a program whose initiator and productions use only symbols with rules; the
initiator is checked first. -/
def validate (program : Program) : Except Fault Unit :=
  match program.rules.validate program.initiator with
  | .error fault => .error fault
  | .ok () => program.rules.validateClosed

/-- The command sequence of a program: its initiator rewritten for its generations, under the
engine's ceilings. -/
def expand (program : Program) (engine : Engine) : Except Fault (List Char) :=
  engine.run program.rules program.initiator program.generations

end Program

end PlantPlot
