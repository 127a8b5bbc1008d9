import ServiceTree.Text.Split

/-!
# Lines of a text

A line ends with a line feed, or with a carriage return and a line feed. What follows the last line
feed is a line only if there is something.
-/

namespace ServiceTree.Text

/-- A line without the carriage return in front of its line feed. -/
def withoutReturn (line : List Char) : List Char :=
  if line.getLast? = some '\r' then line.dropLast else line

/-- The lines that pieces between line feeds make. -/
def linesOf : List (List Char) → List (List Char)
  | [] => []
  | [last] => if last.isEmpty then [] else [last]
  | line :: rest => withoutReturn line :: linesOf rest

/-- The lines of a text. -/
def lines (text : String) : List String :=
  (linesOf (pieces (· == '\n') text.toList)).map String.ofList

end ServiceTree.Text
