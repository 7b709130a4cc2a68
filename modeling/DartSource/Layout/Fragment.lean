import DartSource.Text.Blank
import DartSource.Text.Lines

/-!
# Fragments

A fragment is a piece of source that does not know yet how far it will be indented. Lines and doc
comments take the indentation of the place where they are put; raw text and blank lines take none;
a block puts its body one level deeper than its header and its closing line.
-/

namespace DartSource

/-- A piece of source text, still without indentation. -/
inductive Fragment where
  /-- One line of text. -/
  | line (text : String)
  /-- An empty line. -/
  | blank
  /-- Text that is put as it is, with neither indentation nor line end. -/
  | raw (text : String)
  /-- A doc comment, one comment line for each line of the text. -/
  | doc (text : String)
  /-- A header, a body one level deeper, and a closing line if there is one. -/
  | block (header : String) (body : List Fragment) (close : Option String)
  deriving Repr, Inhabited

namespace Fragment

/-- One line of a body text: a line of blanks becomes an empty line, so that no indentation is left
standing on it. -/
def ofLine (text : String) : Fragment :=
  if Text.allBlank text then .blank else .line text

/-- A text of several lines, each line a fragment of its own. -/
def ofText (text : String) : List Fragment :=
  (Text.lines text).map ofLine

/-- The comment line for one line of a doc text: the mark alone when the line is empty. -/
def docLine (text : String) : String :=
  if text = "" then "///" else "/// " ++ text

/-- A header with its body in braces, or with empty braces when there is no body. -/
def braced (header : String) (body : List Fragment) : Fragment :=
  if body.isEmpty then .line (header ++ " \x7b\x7d")
  else .block (header ++ " \x7b") body (some "\x7d")

end Fragment

end DartSource
