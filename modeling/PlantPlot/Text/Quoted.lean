import PlantPlot.Text.Unprintable
import PlantPlot.Text.GraphemeExtend

/-!
# Quoted text

Error messages show an offending line or value as quoted text: the characters between two
double quotes, where a quote, a backslash, the tab, the carriage return, the line feed and the
null character are written with a backslash, and every other character that is not printable
or that would attach to its neighbour is written as its code point in lowercase hexadecimal,
`\u{..}`. All other characters stand for themselves.

The main statement is `quote_eq`: the quoted form is the concatenation of the written forms of
the characters, so quoting is a word homomorphism between the quotes.
-/

namespace PlantPlot.Text

/-- The lowercase hexadecimal digits of `n`, without leading zeros. -/
def hexDigits (n : Nat) : List Char :=
  Nat.toDigits 16 n

/-- How one character is written inside quoted text. -/
def escapeChar (c : Char) : List Char :=
  match c with
  | '\x00' => ['\\', '0']
  | '\t' => ['\\', 't']
  | '\r' => ['\\', 'r']
  | '\n' => ['\\', 'n']
  | '\\' => ['\\', '\\']
  | '"' => ['\\', '"']
  | _ =>
    if isGraphemeExtend c || isUnprintable c then
      ['\\', 'u', '\x7b'] ++ hexDigits c.toNat ++ ['\x7d']
    else
      [c]

/-- The characters of `s` in their written forms, without the enclosing quotes. -/
def escapeAll (s : List Char) : List Char :=
  s.flatMap escapeChar

/-- The quoted form of a text. -/
def quote (s : String) : String :=
  String.ofList ('"' :: escapeAll s.toList ++ ['"'])

theorem escapeAll_nil : escapeAll [] = [] := rfl

theorem escapeAll_cons (c : Char) (s : List Char) :
    escapeAll (c :: s) = escapeChar c ++ escapeAll s := by
  simp [escapeAll]

theorem escapeAll_append (s t : List Char) :
    escapeAll (s ++ t) = escapeAll s ++ escapeAll t := by
  simp [escapeAll]

/-- A quoted text is its characters' written forms between two double quotes. -/
theorem quote_eq (s : String) :
    (quote s).toList = '"' :: (s.toList.flatMap escapeChar ++ ['"']) := by
  simp [quote, escapeAll]

/-- Every character has a written form of at least one character. -/
theorem escapeChar_ne_nil (c : Char) : escapeChar c ≠ [] := by
  unfold escapeChar
  split
  all_goals simp
  split <;> simp

end PlantPlot.Text
