import DartSource.Script.Command

/-!
# Patterns of scripts

A pattern is a row of signs, most of them runs of characters from a set. It is written in one of two
ways: with marks for any characters, as shells read the names of files and the patterns of `case`,
or as an expression, as `grep` and `sed` do. Sets are rows of ranges, in `tr` as well.
-/

namespace DartSource.Script

/-! ### Sets -/

/-- A set of characters, by ranges from a first character to a last one. -/
abbrev Ranges := List (Char × Char)

/-- The classes of characters that have a name. -/
def namedRanges : List (String × Ranges) :=
  [("[:alnum:]", [('0', '9'), ('A', 'Z'), ('a', 'z')]), ("[:alpha:]", [('A', 'Z'), ('a', 'z')]),
    ("[:blank:]", [('\t', '\t'), (' ', ' ')]), ("[:digit:]", [('0', '9')]),
    ("[:lower:]", [('a', 'z')]), ("[:space:]", [('\t', '\x0d'), (' ', ' ')]),
    ("[:upper:]", [('A', 'Z')]), ("[:xdigit:]", [('0', '9'), ('A', 'F'), ('a', 'f')]),
    ("[:punct:]", [('!', '/'), (':', '@'), ('[', '\x60'), ('\x7b', '~')])]

/-- The set that a text denotes by characters, ranges and classes. -/
def ranges : List Char → Ranges
  | [] => []
  | first :: rest =>
    match namedRanges.find? fun entry => entry.1.toList.isPrefixOf (first :: rest) with
    | some (name, named) => named ++ ranges (rest.drop (name.length - 1))
    | none =>
      if rest.head? = some '-' ∧ 1 < rest.length then
        (first, rest.getD 1 first) :: ranges (rest.drop 2)
      else (first, first) :: ranges rest
termination_by text => text.length
decreasing_by all_goals simp only [List.length_drop, List.length_cons]; omega

def Ranges.holds (set : Ranges) (c : Char) : Bool :=
  set.any fun (first, last) => first ≤ c && c ≤ last

/-- The text between two brackets, behind the first of them, and what follows. A bracket at the very
front does not close, nor does one that belongs to a class. -/
def bracketed? (inFront : Bool) : List Char → Option (List Char × List Char)
  | [] => none
  | ':' :: ']' :: rest =>
    (bracketed? false rest).map fun (inner, after) => (':' :: ']' :: inner, after)
  | c :: rest =>
    if c = ']' ∧ !inFront then some ([], rest)
    else (bracketed? false rest).map fun (inner, after) => (c :: inner, after)

/-! ### Signs -/

/-- A part of a pattern. -/
inductive Sign where
  /-- A run of characters. -/
  | run (accepts : Char → Bool) (least : Nat) (most : Option Nat)
  /-- The front of the text, or its back. -/
  | edge (isFront : Bool)
  /-- A place that the pattern asks to be remembered. -/
  | note

/-- One character. -/
def Sign.one (accepts : Char → Bool) : Sign := .run accepts 1 (some 1)

/-- The set that brackets denote, and what follows them. -/
def bracketSign? (text : List Char) : Option ((Char → Bool) × List Char) :=
  let isNegated := text.head? == some '!' || text.head? == some '^'
  (bracketed? true (if isNegated then text.drop 1 else text)).map fun (inner, after) =>
    (fun c => (ranges inner).holds c != isNegated, after)

/-- The pattern that a shell reads in characters, each with whether it stood in quotes. -/
def shellSigns : Nat → List (Char × Bool) → List Sign
  | 0, _ | _, [] => []
  | fuel + 1, (c, quoted) :: rest =>
    if quoted then .one (· == c) :: shellSigns fuel rest
    else if c = '*' then .run (fun _ => true) 0 none :: shellSigns fuel rest
    else if c = '?' then .one (fun _ => true) :: shellSigns fuel rest
    else
      match if c = '[' then bracketSign? (rest.map Prod.fst) else none with
      | some (accepts, after) =>
        .one accepts :: shellSigns fuel (rest.drop (rest.length - after.length))
      | none => .one (· == c) :: shellSigns fuel rest

/-- The pattern that is written as an expression. In an extended one, marks need no backslash. -/
def expressionSigns (extended : Bool) (inFront : Bool) : Nat → List Char → List Sign
  | 0, _ | _, [] => []
  | fuel + 1, c :: rest =>
    let isEscaped := c == '\\' && !rest.isEmpty
    let mark := if isEscaped then rest.headD c else c
    let after := if isEscaped then rest.drop 1 else rest
    -- Brackets group with a backslash, or without one in an extended expression.
    if (mark = '(' ∨ mark = ')') ∧ isEscaped ≠ extended then
      .note :: expressionSigns extended (mark == '(') fuel after
    else if c = '^' ∧ (inFront ∨ extended) then
      .edge true :: expressionSigns extended true fuel rest
    else if c = '$' ∧ (rest.isEmpty ∨ extended) then
      .edge false :: expressionSigns extended false fuel rest
    else
      let plain : (Char → Bool) × List Char :=
        if isEscaped then (fun d => d == (if mark = 'n' then '\n' else mark), after)
        else if c = '.' then (fun _ => true, rest)
        else ((if c = '[' then bracketSign? rest else none).getD (fun d => d == c, rest))
      let accepts := plain.1
      let goOn := fun (least : Nat) (most : Option Nat) (rest : List Char) =>
        Sign.run accepts least most :: expressionSigns extended false fuel rest
      match extended, plain.2 with
      | _, '*' :: rest => goOn 0 none rest
      | true, '+' :: rest | false, '\\' :: '+' :: rest => goOn 1 none rest
      | true, '?' :: rest | false, '\\' :: '?' :: rest => goOn 0 (some 1) rest
      | _, rest => goOn 1 (some 1) rest

/-! ### Matches -/

/-- What is left behind each match at the front of a text, the longest runs first, with what was
left at the places to be remembered. -/
def remainders : List Sign → Bool → List Char → List (List Char × List (List Char))
  | [], _, text => [(text, [])]
  | .edge isFront :: signs, atFront, text =>
    if if isFront then atFront else text.isEmpty then remainders signs atFront text else []
  | .note :: signs, atFront, text =>
    (remainders signs atFront text).map fun (rest, notes) => (rest, text :: notes)
  | .run accepts least most :: signs, atFront, text =>
    let longest := (text.takeWhile accepts).length
    let lengths := List.range (min longest (most.getD longest) + 1)
    (lengths.reverse.filter (least ≤ ·)).flatMap fun n =>
      remainders signs (atFront && n == 0) (text.drop n)

end DartSource.Script
