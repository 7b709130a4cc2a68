import DartSource.Script.Tool

/-!
# Searching and editing lines

`grep` shows the lines that an expression matches. `sed` carries out edits on each line, on all
lines or on those at an address, and shows what has become of the line.
-/

namespace DartSource.Script

/-- The first match in a text that is not empty right behind another one, if `isBehind`: what stands
in front of it, what follows it, and what was left at the places to be remembered. -/
def search (signs : List Sign) : Bool → Bool → List Char →
    Option (List Char × List Char × List (List Char))
  | atFront, isBehind, text =>
    let found := (remainders signs atFront text).find? fun entry =>
      !isBehind || entry.1.length != text.length
    match found, text with
    | some (rest, notes), _ => some ([], rest, notes)
    | none, [] => none
    | none, c :: more => (search signs false false more).map fun (before, found) =>
      (c :: before, found)

/-- The pattern that options and an expression give. -/
def Options.signs (options : Options) (expression : String) : List Sign :=
  let text := expression.toList
  if options.has 'F' then text.map fun c => .one (· == c)
  else expressionSigns (options.has 'E' || options.has 'r') true (text.length + 1) text

/-- Shows the lines that match, or their number. -/
def grep (setting : Setting) (options : Options) : Effect :=
  let operands := (options.value? 'e').toList ++ options.operands
  let fold := fun (text : String) => if options.has 'i' then text.toLower else text
  let signs := options.signs (fold (operands.headD ""))
  let source := setting.copy { operands := operands.drop 1 }
  let lines := ((endedLines source.output).map withoutEnd).zipIdx 1
  let found := lines.filter fun (line, _) =>
    (search signs true false (fold (String.ofList line)).toList).isSome != options.has 'v'
  let shown := found.map fun (line, i) =>
    if options.has 'n' then (toString i).toList ++ ':' :: line else line
  let shown := if options.has 'c' then [(toString found.length).toList] else shown
  { source with
    output := if options.has 'q' then [] else shown.flatMap (· ++ ['\n'])
    status := if source.status ≠ 0 then 2 else if found.isEmpty then 1 else 0 }

/-! ### Edits -/

/-- A line that an edit is for. -/
inductive Address where
  | line (number : Nat)
  | last
  | matching (signs : List Sign)

/-- What an edit does. -/
inductive Act where
  /-- Puts a text in place of the first match, or of all. The text has numbers where it repeats the
  match or a part of it. -/
  | substitute (signs : List Sign) (text : List (Char ⊕ Nat)) (everywhere prints : Bool)
  | delete
  | print
  | quit

structure Edit where
  /-- The first and the last line that it is for, if it is not for all. -/
  span : Option (Address × Address)
  /-- It is for the other lines. -/
  isNegated : Bool
  act : Act

/-- The text up to a mark, and what follows it. A backslash keeps the mark from its meaning. -/
def upTo (mark : Char) : List Char → List Char × List Char
  | [] => ([], [])
  | '\\' :: c :: rest =>
    let (inner, after) := upTo mark rest
    (if c = mark then c :: inner else '\\' :: c :: inner, after)
  | c :: rest =>
    if c = mark then ([], rest)
    else
      let (inner, after) := upTo mark rest
      (c :: inner, after)

/-- The text that takes the place of a match. -/
def readReplacement : List Char → List (Char ⊕ Nat)
  | [] => []
  | '&' :: rest => .inr 0 :: readReplacement rest
  | '\\' :: c :: rest =>
    (if c.isDigit then .inr (c.toNat - '0'.toNat) else .inl ((escape? c).getD c)) ::
      readReplacement rest
  | c :: rest => .inl c :: readReplacement rest

/-- An address at the front of a text, and what follows it. -/
def readAddress (extended : Bool) (text : List Char) : Option Address × List Char :=
  match text with
  | '$' :: rest => (some .last, rest)
  | '/' :: rest =>
    let (inner, after) := upTo '/' rest
    (some (.matching (expressionSigns extended true (inner.length + 1) inner)), after)
  | text =>
    let digits := text.takeWhile Char.isDigit
    ((number? 10 digits).map .line, text.drop digits.length)

/-- The edits that a text denotes, if it denotes any. -/
def readEdits (extended : Bool) : Nat → List Char → Option (List Edit)
  | 0, _ => none
  | fuel + 1, text => do
    let text := text.dropWhile " ;\n".toList.contains
    if text.isEmpty then return []
    let (first, text) := readAddress extended text
    let (second, text) :=
      if text.head? = some ',' then readAddress extended (text.drop 1) else (none, text)
    let span := first.map fun first => (first, second.getD first)
    let isNegated := text.head? == some '!'
    match if isNegated then text.drop 1 else text with
    | 'd' :: rest => return ⟨span, isNegated, .delete⟩ :: (← readEdits extended fuel rest)
    | 'p' :: rest => return ⟨span, isNegated, .print⟩ :: (← readEdits extended fuel rest)
    | 'q' :: rest => return ⟨span, isNegated, .quit⟩ :: (← readEdits extended fuel rest)
    | 's' :: mark :: rest =>
      let (expression, rest) := upTo mark rest
      let (replacement, rest) := upTo mark rest
      let flags := rest.takeWhile "gp".toList.contains
      let act := Act.substitute
        (expressionSigns extended true (expression.length + 1) expression)
        (readReplacement replacement) (flags.contains 'g') (flags.contains 'p')
      return ⟨span, isNegated, act⟩ :: (← readEdits extended fuel (rest.drop flags.length))
    | _ => none

/-- The edit is for the line with the number, of as many as there are. -/
def Edit.selects (edit : Edit) (total number : Nat) (line : List Char) : Bool :=
  let place := fun (address : Address) =>
    match address with
    | .line n => n
    | _ => total
  let isMeant :=
    match edit.span with
    | none => true
    | some (.matching signs, _) => (search signs true false line).isSome
    | some (first, final) => place first ≤ number && number ≤ max (place first) (place final)
  isMeant != edit.isNegated

/-- Puts a text in place of the first match, or of all, if there is any. -/
def substitute (signs : List Sign) (text : List (Char ⊕ Nat)) (everywhere : Bool) :
    Nat → Bool → Bool → List Char → Option (List Char)
  | 0, _, _, _ => none
  | fuel + 1, atFront, isBehind, line => do
    let (before, rest, notes) ← search signs atFront isBehind line
    let part := fun (start stop : List Char) => start.take (start.length - stop.length)
    let start := line.drop before.length
    let new := text.flatMap fun
      | .inl c => [c]
      | .inr 0 => part start rest
      | .inr n => part (notes.getD (2 * n - 2) []) (notes.getD (2 * n - 1) [])
    -- Behind a match, an empty one is no other.
    let more := if everywhere then substitute signs text true fuel false true rest else none
    return before ++ new ++ more.getD rest

/-- Carries out edits on a line: the lines to be shown in front of it, what has become of it, and
whether it is the last one. -/
def applyEdits (total number : Nat) :
    List Edit → List Char → List (List Char) × Option (List Char) × Bool
  | [], line => ([], some line, false)
  | edit :: edits, line =>
    if !edit.selects total number line then applyEdits total number edits line
    else
      match edit.act with
      | .delete => ([], none, false)
      | .quit => ([], some line, true)
      | .print =>
        let (shown, rest) := applyEdits total number edits line
        (line :: shown, rest)
      | .substitute signs text everywhere prints =>
        match substitute signs text everywhere (line.length + 2) true false line with
        | none => applyEdits total number edits line
        | some line =>
          let (shown, rest) := applyEdits total number edits line
          (if prints then line :: shown else shown, rest)

/-- Carries out edits on lines, from the one with the number on. What is shown comes with the number
of its line. -/
def editLines (isQuiet : Bool) (edits : List Edit) (total : Nat) :
    Nat → List (List Char) → List (Nat × List Char)
  | _, [] => []
  | number, line :: rest =>
    let (shown, kept, isLast) := applyEdits total number edits line
    let shown := (if isQuiet then shown else shown ++ kept.toList).map (number, ·)
    if isLast then shown else shown ++ editLines isQuiet edits total (number + 1) rest

/-- Edits lines. -/
def sed (setting : Setting) (options : Options) : Effect :=
  let given := options.values.map Prod.snd
  let scripts := if given.isEmpty then options.operands.take 1 else given
  let operands := if given.isEmpty then options.operands.drop 1 else options.operands
  let script := ("\n".intercalate scripts).toList
  match readEdits (options.has 'E' || options.has 'r') (script.length + 1) script with
  | none => setting.refuse 1 "unknown command"
  | some edits =>
    let source := setting.copy { operands }
    let lines := (endedLines source.output).map withoutEnd
    let shown := editLines (options.has 'n') edits lines.length 1 lines
    let output := shown.flatMap fun (_, line) => line ++ ['\n']
    -- The last line lacks its end wherever it is shown last.
    let isOpen := source.output.getLast? != some '\n' &&
      shown.getLast?.any fun entry => entry.1 == lines.length
    { source with output := if isOpen then output.dropLast else output }

end DartSource.Script
