import PlantPlot.Text.CodeRanges

/-!
# Blank characters and trimming

The blanks are the characters with the Unicode property White_Space: the tab, line feed, line
and form feed, carriage return, space, next line, no-break space, the Ogham space mark, the
spaces from the en quad to the hair space, the line and paragraph separators, the narrow
no-break space, the medium mathematical space and the ideographic space. The zero width space
and the byte order mark are not blank.
-/

namespace PlantPlot.Text

/-- The code points of the blank characters, as closed ranges. -/
def blankRanges : List (Nat × Nat) :=
  [(0x9, 0xD), (0x20, 0x20), (0x85, 0x85), (0xA0, 0xA0), (0x1680, 0x1680), (0x2000, 0x200A),
   (0x2028, 0x2029), (0x202F, 0x202F), (0x205F, 0x205F), (0x3000, 0x3000)]

/-- Whether a character is blank. -/
def isBlank (c : Char) : Bool :=
  inRanges blankRanges c.toNat

/-- The text without its leading and trailing blanks. -/
def trim (text : String) : String :=
  String.ofList ((text.toList.dropWhile isBlank).reverse.dropWhile isBlank).reverse

/-- Every character that core counts as whitespace is blank. -/
theorem isBlank_of_isWhitespace (c : Char) (white : c.isWhitespace = true) : isBlank c = true := by
  simp only [Char.isWhitespace, Bool.or_eq_true, decide_eq_true_eq] at white
  rcases white with ((space | tab) | cr) | lf
  all_goals subst_vars; decide

end PlantPlot.Text
