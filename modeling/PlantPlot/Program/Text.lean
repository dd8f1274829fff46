import PlantPlot.Program.Basic
import PlantPlot.Text.Lines
import PlantPlot.Text.Blank
import PlantPlot.Text.Numeral
import PlantPlot.Decimal.Read

/-!
# Program text

Program text changes a program line by line. A line is `key:value`, cut at its first colon, with
blanks trimmed from key and value; blank lines are skipped.

* `n` sets the number of generations, a 32-bit count;
* `delta` sets the turn angle, a finite decimal number;
* `ic` sets the initiator, which must not be empty;
* any other key gives its first character the rule that rewrites it to the value, with the
  character's conventional effect. The rest of the key is ignored, and the value may be empty.

Text is applied all or nothing: the first refused line is the answer, and so is a result whose
initiator or productions use a symbol without a rule.
-/

namespace PlantPlot

open Text

/-- What one line of program text asks for. -/
inductive Directive where
  /-- Set the number of generations. -/
  | generations (count : Nat)
  /-- Set the turn angle. -/
  | delta (angle : Float32)
  /-- Set the initiator. -/
  | initiator (word : List Char)
  /-- Give a symbol the rule that rewrites it to `production`. -/
  | rule (symbol : Char) (production : List Char)

namespace Directive

/-- The directive of a key and a value, both trimmed. -/
def ofKeyValue (key value : String) : Except LineFault Directive :=
  if key = "n" then
    match parseCount? value with
    | some count => .ok (.generations count)
    | none => .error (.badGenerations value)
  else if key = "delta" then
    match Decimal.parse? value with
    | some number =>
      let angle := number.toBinary32
      if angle.isFinite then .ok (.delta angle) else .error (.badDelta value)
    | none => .error (.badDelta value)
  else if key = "ic" then
    if value.isEmpty then .error .emptyAxiom else .ok (.initiator value.toList)
  else
    match key.toList with
    | symbol :: _ => .ok (.rule symbol value.toList)
    | [] => .error .emptyRuleSymbol

/-- The directive of a line, or none for a blank line. -/
def ofLine? (line : String) : Except LineFault (Option Directive) :=
  if (trim line).isEmpty then .ok none
  else
    match line.toList.span (· ≠ ':') with
    | (key, _ :: value) => (ofKeyValue (trim (String.ofList key)) (trim (String.ofList value))).map some
    | (_, []) => .error (.missingColon line)

end Directive

namespace Program

/-- The program changed as the directive says. -/
def direct (program : Program) : Directive → Program
  | .generations count => { program with generations := count }
  | .delta angle => { program with delta := angle }
  | .initiator word => { program with initiator := word }
  | .rule symbol production => { program with rules := program.rules.define symbol production }

/-- Applies the lines, the first of which has number `number`, stopping at the first refused line. -/
def applyLines (program : Program) (number : Nat) : List String → Except Fault Program
  | [] => .ok program
  | line :: rest =>
    match Directive.ofLine? line with
    | .error fault => .error (.parse number fault)
    | .ok none => applyLines program (number + 1) rest
    | .ok (some directive) => applyLines (program.direct directive) (number + 1) rest

/-- The program with every line of the text applied; the result must pass `Program.validate`. -/
def apply (program : Program) (text : String) : Except Fault Program :=
  match program.applyLines 1 (lines text) with
  | .error fault => .error fault
  | .ok next =>
    match next.validate with
    | .error fault => .error fault
    | .ok () => .ok next

/-- The program that text describes on top of the standard program. -/
def parse (text : String) : Except Fault Program :=
  standard.apply text

end Program

end PlantPlot
