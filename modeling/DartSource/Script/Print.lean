import DartSource.Script.Command

/-!
# Printing and calculating

`printf` prints its arguments as the fields of a pattern say, and as often as it takes to use them
all up. Expressions between double brackets are calculated in whole numbers, by the operators of
one level after the other.
-/

namespace DartSource.Script

/-! ### Printing -/

/-- The character of a letter behind a backslash. -/
def escape? (c : Char) : Option Char :=
  ("abfnrtv\\".toList.zip ['\x07', '\x08', '\x0c', '\n', '\x0d', '\t', '\x0b', '\\']).lookup c

/-- A text with its escapes carried out, up to one that stops it. In numbers that are `zeroLed`, the
zero does not count. -/
def unescape (zeroLed : Bool) : List Char → List Char
  | [] => []
  | '\\' :: rest =>
    let digits := ((rest.drop zeroLed.toNat).take 3).takeWhile fun c => c.isDigit && c < '8'
    if if zeroLed then rest.head? = some '0' else !digits.isEmpty then
      let number := (number? 8 digits).getD 0
      Char.ofNat (number % 256) :: unescape zeroLed (rest.drop (zeroLed.toNat + digits.length))
    else
      match rest.head?, rest.head?.bind escape? with
      | some 'c', _ => []
      | _, some c => c :: unescape zeroLed (rest.drop 1)
      | _, none => '\\' :: unescape zeroLed rest
  | c :: rest => c :: unescape zeroLed rest
termination_by text => text.length
decreasing_by all_goals simp only [List.length_drop, List.length_cons]; omega

/-- A field of a pattern. -/
structure Field where
  flags : List Char
  width : Nat
  precision : Option Nat
  conversion : Char
  deriving DecidableEq, Repr, Inhabited

/-- The characters and fields of a pattern. -/
def patternParts : List Char → List (Char ⊕ Field)
  | [] => []
  | '%' :: rest =>
    let flags := rest.takeWhile "-0+ #".toList.contains
    let width := (rest.drop flags.length).takeWhile Char.isDigit
    let after := rest.drop (flags.length + width.length)
    let precision := if after.head? = some '.' then (after.drop 1).takeWhile Char.isDigit else []
    let after := if after.head? = some '.' then after.drop (precision.length + 1) else after
    .inr { flags, width := (number? 10 width).getD 0, precision := number? 10 precision
           conversion := after.headD '%' } :: patternParts (after.drop 1)
  | c :: rest => .inl c :: patternParts rest
termination_by text => text.length
decreasing_by all_goals simp only [List.length_drop, List.length_cons]; (try split) <;> grind

/-- The number that a text denotes. -/
def integer? (text : List Char) : Option Int :=
  match text with
  | '-' :: digits => (number? 10 digits).map fun n => -(n : Int)
  | digits => (number? 10 digits).map Int.ofNat

/-- What a field makes of an argument. -/
def Field.print (field : Field) (arg : List Char) : List Char :=
  let number := (integer? arg).getD 0
  let text :=
    match field.conversion with
    | 's' => arg.take (field.precision.getD arg.length)
    | 'b' => unescape true arg
    | 'c' => arg.take 1
    | 'x' => Nat.toDigits 16 number.toNat
    | 'X' => (Nat.toDigits 16 number.toNat).map Char.toUpper
    | 'o' => Nat.toDigits 8 number.toNat
    | _ => (toString number).toList
  let isText := "sbc".toList.contains field.conversion
  let padding := List.replicate (field.width - text.length)
  if field.flags.contains '-' then text ++ padding ' '
  else if field.flags.contains '0' ∧ !isText then
    let sign := text.takeWhile (· == '-')
    sign ++ padding '0' ++ text.drop sign.length
  else padding ' ' ++ text

/-- Prints the parts of a pattern once: the text, and the arguments that are left. -/
def printOnce : List (Char ⊕ Field) → List String → List Char × List String
  | [], args => ([], args)
  | .inl c :: parts, args =>
    let (text, args) := printOnce parts args
    (c :: text, args)
  | .inr field :: parts, args =>
    let (text, rest) := printOnce parts (if field.conversion = '%' then args else args.drop 1)
    (if field.conversion = '%' then '%' :: text
      else field.print (args.headD "").toList ++ text, rest)

/-- Prints arguments by a pattern. -/
def printAll (parts : List (Char ⊕ Field)) : Nat → List String → List Char
  | 0, _ => []
  | fuel + 1, args =>
    let (text, rest) := printOnce parts args
    if rest.isEmpty ∨ rest.length = args.length then text else text ++ printAll parts fuel rest

/-! ### Calculating -/

/-- The operators, by levels of which the later ones bind more tightly. There is no result if there
is nothing to divide by. -/
def operators : List (List (String × (Int → Int → Option Int))) :=
  let truth (p : Bool) : Option Int := some (if p then 1 else 0)
  [[("||", fun a b => truth (a != 0 || b != 0))],
    [("&&", fun a b => truth (a != 0 && b != 0))],
    [("==", fun a b => truth (a == b)), ("!=", fun a b => truth (a != b))],
    [("<=", fun a b => truth (a ≤ b)), (">=", fun a b => truth (b ≤ a)),
      ("<", fun a b => truth (a < b)), (">", fun a b => truth (b < a))],
    [("+", fun a b => some (a + b)), ("-", fun a b => some (a - b))],
    [("*", fun a b => some (a * b)), ("/", fun a b => if b = 0 then none else some (a.tdiv b)),
      ("%", fun a b => if b = 0 then none else some (a.tmod b))]]

mutual

/-- The value of an expression of operators from a level on, and the text behind it. -/
def calculate (value : List Char → Option Int) : Nat → Nat → List Char → Option (Int × List Char)
  | 0, _, _ => none
  | fuel + 1, level, text =>
    if level < operators.length then do
      let (first, rest) ← calculate value fuel (level + 1) text
      calculateMore value fuel level first rest
    else
      match text with
      | '(' :: rest =>
        match calculate value fuel 0 rest with
        | some (inner, ')' :: rest) => some (inner, rest)
        | _ => none
      | '-' :: rest => (calculate value fuel level rest).map fun (n, rest) => (-n, rest)
      | '+' :: rest => calculate value fuel level rest
      | '!' :: rest =>
        (calculate value fuel level rest).map fun (n, rest) => (if n = 0 then 1 else 0, rest)
      | text => do
        let word := text.takeWhile fun c => c.isAlphanum || c == '_'
        let number ← value word
        return (number, text.drop word.length)

/-- The value of an expression that goes on behind its first operand. -/
def calculateMore (value : List Char → Option Int) :
    Nat → Nat → Int → List Char → Option (Int × List Char)
  | 0, _, _, _ => none
  | fuel + 1, level, first, text =>
    match (operators.getD level []).find? fun entry => entry.1.toList.isPrefixOf text with
    | none => some (first, text)
    | some (mark, apply) => do
      let (second, rest) ← calculate value fuel (level + 1) (text.drop mark.length)
      let result ← apply first second
      calculateMore value fuel level result rest

end

end DartSource.Script
