import DartSource.Number.Double

/-!
# Trees

A description is a text in one of two notations, and both denote trees: scalars, lists, and tables
that bind names to trees. A table keeps its entries in the order in which the notation presents
them, repetitions included, because what a repetition means is for the reader of the table to say.

Two kinds of integer are told apart. One notation writes signed integers only; the other presents
every integer without a minus sign as a natural number, and some readers accept only that.

A part of a text can be well formed and still denote nothing that could be kept: a number beyond
the range, half of a character that takes two escapes, a nesting that is too deep. Such a part is
`unreadable`. It does no harm where the reader skips it and is refused wherever it is looked at. A
part that is spelled like a number and denotes none is `undefined`. Even skipping it counts as
looking at it, so it does no harm only where no reader comes by.
-/

namespace DartSource

/-- What a description denotes before its tables are read as records. -/
inductive Tree where
  | null
  | bool (value : Bool)
  /-- An integer of a notation with signed integers, or one with a minus sign. -/
  | int (value : Int)
  /-- An integer without a sign. -/
  | natural (value : Nat)
  | double (value : Double)
  | text (value : String)
  | list (items : List Tree)
  /-- Names bound to trees, in the order of the notation. -/
  | table (entries : List (String × Tree))
  /-- Well formed, but not a value that can be kept. -/
  | unreadable
  /-- Spelled like a number, but not a value at all. -/
  | undefined
  deriving Repr, Inhabited

namespace Tree

mutual

/-- Every part of the tree can be kept. -/
def isReadable : Tree → Bool
  | .unreadable | .undefined => false
  | .list items => areReadable items
  | .table entries => haveReadable entries
  | _ => true

/-- Every item can be kept. -/
def areReadable : List Tree → Bool
  | [] => true
  | item :: rest => isReadable item && areReadable rest

/-- Every bound tree can be kept. -/
def haveReadable : List (String × Tree) → Bool
  | [] => true
  | (_, value) :: rest => isReadable value && haveReadable rest

end

mutual

/-- Every part of the tree can be skipped. -/
def isDefined : Tree → Bool
  | .undefined => false
  | .list items => areDefined items
  | .table entries => haveDefined entries
  | _ => true

/-- Every item can be skipped. -/
def areDefined : List Tree → Bool
  | [] => true
  | item :: rest => isDefined item && areDefined rest

/-- Every bound tree can be skipped. -/
def haveDefined : List (String × Tree) → Bool
  | [] => true
  | (_, value) :: rest => isDefined value && haveDefined rest

end

/-- Entries by ascending name. -/
def sortEntries (entries : List (String × Tree)) : List (String × Tree) :=
  entries.mergeSort fun a b => decide (a.1 ≤ b.1)

/-- A table with its names in ascending order. -/
def ofEntries (entries : List (String × Tree)) : Tree :=
  .table (sortEntries entries)

/-- The integer that a tree is, whichever way it is written. -/
def integer? : Tree → Option Int
  | .int value => some value
  | .natural value => some value
  | _ => none

/-- The least integer of sixty-four bits. -/
def minInt : Int := -(Nat.pow 2 63 : Int)

/-- The greatest integer of sixty-four bits. -/
def maxInt : Int := (Nat.pow 2 63 : Int) - 1

/-- The greatest natural number of sixty-four bits. -/
def maxNatural : Nat := Nat.pow 2 64 - 1

end Tree

/-- What is left of a text, or of a row of tokens, after something was read from its front. -/
abbrev Rest (input : List α) := { rest : List α // rest.length < input.length }

namespace Rest

/-- What is left after the first element. -/
def tail (first : α) (rest : List α) : Rest (first :: rest) :=
  ⟨rest, by simp⟩

/-- What is left of a rest is left of the whole. -/
def trans {input : List α} (rest : Rest input) (more : Rest rest.val) : Rest input :=
  ⟨more.val, Nat.lt_trans more.property rest.property⟩

/-- What is left of a list that is no longer than the input is left of the input. -/
def ofLe {input shorter : List α} (rest : Rest shorter) (h : shorter.length ≤ input.length) :
    Rest input :=
  ⟨rest.val, Nat.lt_of_lt_of_le rest.property h⟩

end Rest

/-- Dropping elements from the front never makes a list longer. -/
theorem length_dropWhile_le (p : α → Bool) (input : List α) :
    (input.dropWhile p).length ≤ input.length := by
  induction input with
  | nil => simp
  | cons first rest ih =>
    rw [List.dropWhile_cons]
    split
    · exact Nat.le_trans ih (by simp)
    · simp

/-- Dropping a run that is not empty leaves less. -/
theorem length_dropWhile_lt {p : α → Bool} {input : List α}
    (h : (input.takeWhile p).isEmpty = false) : (input.dropWhile p).length < input.length := by
  have split := congrArg List.length (List.takeWhile_append_dropWhile (p := p) (l := input))
  rw [List.length_append] at split
  have : 0 < (input.takeWhile p).length := by
    cases run : input.takeWhile p with
    | nil => simp [run] at h
    | cons _ _ => simp
  omega

end DartSource
