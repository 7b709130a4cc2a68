/-!
# Lines of a text

A line ends at a line feed, and one carriage return directly before that line feed belongs to the
line end. A carriage return anywhere else is an ordinary character, also at the very end of the
text. Nothing follows a final line feed, so the empty text has no line and `"a\n"` has one.
-/

namespace DartSource.Text

/-- The lines of a list of characters. -/
def lineChars : List Char → List (List Char)
  | [] => []
  | '\n' :: rest => [] :: lineChars rest
  | '\r' :: '\n' :: rest => [] :: lineChars rest
  | c :: rest =>
    match lineChars rest with
    | [] => [[c]]
    | line :: more =>
      -- a line feed directly after `c` has already closed this line as an empty one
      (c :: line) :: more

/-- The lines of a text. -/
def lines (s : String) : List String :=
  (lineChars s.toList).map String.ofList

end DartSource.Text
