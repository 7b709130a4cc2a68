/-!
# Indentation units

The indentation of a file is one unit, repeated once for each level. A unit is a number of spaces,
which may be none, or a tab.
-/

namespace DartSource

/-- How one level of indentation is written. -/
inductive Indent where
  /-- So many spaces. -/
  | spaces (count : Nat)
  /-- One tab. -/
  | tab
  deriving DecidableEq, Repr

namespace Indent

/-- The text of one level. -/
def unit : Indent → String
  | .spaces count => String.ofList (List.replicate count ' ')
  | .tab => "\t"

/-- The indentation that a width stands for: no width at all means tabs. -/
def ofWidth (width : Nat) : Indent :=
  if width = 0 then .tab else .spaces width

/-- The customary indentation of Dart: two spaces. -/
def standard : Indent :=
  .spaces 2

instance : Inhabited Indent := ⟨standard⟩

end Indent

end DartSource
