/-!
# Slash-separated paths

A path is read as a list of **segments**: the components between slashes, where empty components
and `.` say nothing and `..` takes back the component before it. A `..` with nothing to take back
stays, so the segments of a path are a run of `..` followed by ordinary components.

The work is done on characters; `segments` and `joinSegments` are the same on texts.
-/

namespace DartSource.Path

/-- The text with every backslash turned into a slash. -/
def normalize (s : String) : String :=
  String.ofList (s.toList.map fun c => if c = '\\' then '/' else c)

/-- The components between slashes, empty ones included. -/
def splitChars : List Char → List (List Char)
  | [] => [[]]
  | c :: rest =>
    if c = '/' then [] :: splitChars rest
    else
      match splitChars rest with
      | [] => [[c]]
      | part :: more => (c :: part) :: more

/-- The component that climbs to the parent. -/
def up : List Char := ['.', '.']

/-- Puts a component on a stack of segments, the last one on top. -/
def push (stack : List (List Char)) (part : List Char) : List (List Char) :=
  if part = [] ∨ part = ['.'] then stack
  else if part = up then
    match stack with
    | [] => [up]
    | top :: rest => if top = up then up :: top :: rest else rest
  else part :: stack

/-- The segments of a list of characters. -/
def segmentChars (cs : List Char) : List (List Char) :=
  ((splitChars cs).foldl push []).reverse

/-- Components with a slash between neighbours. -/
def joinChars : List (List Char) → List Char
  | [] => []
  | [part] => part
  | part :: more => part ++ '/' :: joinChars more

/-- The length of the longest common beginning of two lists. -/
def commonLength : List (List Char) → List (List Char) → Nat
  | a :: as, b :: bs => if a = b then commonLength as bs + 1 else 0
  | _, _ => 0

/-- The way from one directory to a target: as many steps up as the directory has segments of its
own, then the segments that only the target has. -/
def wayChars (target base : List (List Char)) : List (List Char) :=
  let shared := commonLength target base
  List.replicate (base.length - shared) up ++ target.drop shared

/-- The path of `target` as seen from the directory of the file `origin`. -/
def relative (target origin : String) : String :=
  let goal := segmentChars (normalize target).toList
  let base := (segmentChars (normalize origin).toList).dropLast
  String.ofList (joinChars (wayChars goal base))

/-- The text without the slashes at its start. -/
def dropSlashes (cs : List Char) : List Char :=
  cs.dropWhile (· == '/')

/-- The text without the `./` steps at its start. -/
def dropDotSlashes : List Char → List Char
  | '.' :: '/' :: rest => dropDotSlashes rest
  | cs => cs

/-- What follows a beginning of a text, if the text has that beginning. -/
def after? (start : List Char) (cs : List Char) : Option (List Char) :=
  if start.isPrefixOf cs then some (cs.drop start.length) else none

end DartSource.Path
