import DartSource.Text.Blank

/-!
# The header of a generated file

A generated file opens with a notice and with a banner of three comment lines: two rules of stars,
and between them the name of the generator in the middle of a third row of stars. When the stars
cannot be shared out evenly the odd one goes to the right. A name that is too long for the row is
not cut.
-/

namespace DartSource

namespace Banner

/-- The line that tells readers not to edit the file. -/
def notice : String :=
  "// GENERATED CODE - DO NOT MODIFY BY HAND"

/-- The number of characters in a row of the banner, the comment mark apart. -/
def width : Nat := 50

/-- So many stars. -/
def stars (count : Nat) : String :=
  String.ofList (List.replicate count '*')

/-- The row with the generator's name. The width counts characters, not bytes. -/
def titleRow (generator : String) : String :=
  let title := " " ++ Text.trim generator ++ " "
  let filler := width - title.length
  stars (filler / 2) ++ title ++ stars (filler - filler / 2)

/-- The banner for a generator, three lines with their line ends. -/
def text (generator : String) : String :=
  "// " ++ stars width ++ "\n// " ++ titleRow generator ++ "\n// " ++ stars width ++ "\n"

end Banner

end DartSource
