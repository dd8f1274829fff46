/-!
# Character classes as ranges of code points

A class of characters taken from the Unicode tables is a list of closed ranges of code points,
ascending and apart, so that each code point is covered at most once. Membership is a scan
over the list.
-/

namespace PlantPlot.Text

/-- Whether the code point `n` lies in one of the closed `ranges`. -/
def inRanges (ranges : List (Nat × Nat)) (n : Nat) : Bool :=
  ranges.any fun range => range.1 ≤ n && n ≤ range.2

theorem inRanges_nil (n : Nat) : inRanges [] n = false := rfl

theorem inRanges_cons (range : Nat × Nat) (ranges : List (Nat × Nat)) (n : Nat) :
    inRanges (range :: ranges) n = ((range.1 ≤ n && n ≤ range.2) || inRanges ranges n) := rfl

end PlantPlot.Text
