/-!
# Lines of text

Text is cut into lines at line feeds. A carriage return right before a line feed belongs to the
line break; any other carriage return is an ordinary character. A line feed ends a line, so a
final line feed does not start an empty last line, and empty text has no lines.
-/

namespace PlantPlot.Text

/-- Cuts the rest of a text into lines, with the current line's characters held in reverse
and the finished lines in `done`. -/
def linesFrom (current : List Char) (done : Array String) : List Char → Array String
  | [] => if current.isEmpty then done else done.push (String.ofList current.reverse)
  | c :: rest =>
    if c = '\n' then
      let line := match current with
        | '\r' :: earlier => earlier
        | _ => current
      linesFrom [] (done.push (String.ofList line.reverse)) rest
    else linesFrom (c :: current) done rest

/-- The lines of a text. -/
def lines (text : String) : List String :=
  (linesFrom [] #[] text.toList).toList

end PlantPlot.Text
