/-!
# Effects and rules

A symbol plays two parts. Rewritten, it is replaced by its production; executed, it makes the
turtle act. A `Rule` keeps both: the production drives the growth of the word, the `Effect`
drives the drawing. The conventional effects are those of the classic turtle alphabet: `F` steps
forward, `+` and `-` turn, `[` and `]` save and restore the turtle.
-/

namespace PlantPlot

/-- What the turtle does when it executes a symbol. -/
inductive Effect where
  /-- Step forward by the step length, drawing a segment. -/
  | forward
  /-- Turn by the turn angle, to the left (the heading grows). -/
  | turnLeft
  /-- Turn by the turn angle, to the right (the heading shrinks). -/
  | turnRight
  /-- Save the turtle's position and heading. -/
  | push
  /-- Restore the most recently saved position and heading. -/
  | pop
  /-- Nothing: the symbol is there only to be rewritten. -/
  | noOp
  deriving DecidableEq, Repr, Inhabited

namespace Effect

/-- The conventional effect of a symbol: `F` steps, `+` turns right, `-` turns left, `[` saves and
`]` restores; every other symbol, `f` included, only rewrites. -/
def conventional : Char → Effect
  | 'F' => .forward
  | '+' => .turnRight
  | '-' => .turnLeft
  | '[' => .push
  | ']' => .pop
  | _ => .noOp

/-- The effect's name, as it is written in rule listings. -/
def name : Effect → String
  | .forward => "Forward"
  | .turnLeft => "TurnLeft"
  | .turnRight => "TurnRight"
  | .push => "Push"
  | .pop => "Pop"
  | .noOp => "NoOp"

/-- Reads an effect back from its name. -/
def ofName? : String → Option Effect
  | "Forward" => some .forward
  | "TurnLeft" => some .turnLeft
  | "TurnRight" => some .turnRight
  | "Push" => some .push
  | "Pop" => some .pop
  | "NoOp" => some .noOp
  | _ => none

theorem ofName?_name (effect : Effect) : ofName? effect.name = some effect := by
  cases effect <;> rfl

end Effect

/-- The rewriting and the execution of one symbol. -/
structure Rule where
  /-- The symbols that replace the symbol in the next generation. -/
  production : List Char
  /-- What the turtle does when it executes the symbol. -/
  effect : Effect
  deriving DecidableEq, Repr, Inhabited

/-- The rule that rewrites `symbol` to itself. -/
def Rule.constant (symbol : Char) (effect : Effect) : Rule :=
  ⟨[symbol], effect⟩

end PlantPlot
