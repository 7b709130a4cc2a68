/-!
# Blank characters and trimming

A character is **blank** when it carries the white-space property: twenty-five code points in ten
ranges. The zero-width space, the byte-order mark and the information separators are not among
them, so a line that holds only one of those counts as a line with text.

All trimming in the library goes by this one class. The work is done on `List Char`; the `String`
forms are the same functions seen through `String.toList`.
-/

namespace DartSource.Text

/-- The white-space code points as inclusive ranges, in ascending order. -/
def blankRanges : List (Nat × Nat) :=
  [(0x09, 0x0D), (0x20, 0x20), (0x85, 0x85), (0xA0, 0xA0), (0x1680, 0x1680), (0x2000, 0x200A),
   (0x2028, 0x2029), (0x202F, 0x202F), (0x205F, 0x205F), (0x3000, 0x3000)]

/-- A blank character: one whose code point lies in `blankRanges`. -/
def isBlank (c : Char) : Bool :=
  blankRanges.any fun range => range.1 ≤ c.toNat && c.toNat ≤ range.2

/-- The characters from the first one on that fails `p`, read from the end. -/
def dropEndWhile (p : Char → Bool) (cs : List Char) : List Char :=
  (cs.reverse.dropWhile p).reverse

/-- The characters without the blanks at either end. -/
def trimChars (cs : List Char) : List Char :=
  dropEndWhile isBlank (cs.dropWhile isBlank)

/-- The text without the blanks at either end. -/
def trim (s : String) : String :=
  String.ofList (trimChars s.toList)

/-- The text holds nothing but blanks; the empty text does. -/
def allBlank (s : String) : Bool :=
  s.toList.all isBlank

/-- The text without the line feeds at either end. Blanks of other kinds stay, so the indentation
of a first line survives. -/
def trimNewlines (s : String) : String :=
  String.ofList (dropEndWhile (· == '\n') (s.toList.dropWhile (· == '\n')))

/-- Texts side by side, a comma and a space between neighbours. -/
def commaSep (parts : List String) : String :=
  ", ".intercalate parts

end DartSource.Text
