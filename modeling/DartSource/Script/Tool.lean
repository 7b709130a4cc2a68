import DartSource.Assoc
import DartSource.Script.Pattern
import DartSource.Script.Print

/-!
# Tools

Programs that scripts call: to copy and select lines, to put them in order, and to exchange
characters. Each is a function from what it finds, its options and its operands to what it writes
and to the status with which it ends. Most make one text of another, and leave it to `Setting.copy`
where that one comes from.
-/

namespace DartSource.Script

/-- What a tool finds. -/
structure Setting where
  /-- The name by which it is called. -/
  name : String
  files : List (String × List Char)
  input : List Char

/-- What a tool does. -/
structure Effect where
  output : List Char := []
  complaint : String := ""
  status : Nat := 0
  /-- The input has been read. -/
  isFed : Bool := false
  /-- The files as the tool leaves them, if it changes them. -/
  files : Option (List (String × List Char)) := none
  deriving Inhabited

/-- Options, with their values if they take one, and operands. -/
structure Options where
  flags : List Char := []
  values : List (Char × String) := []
  operands : List String := []
  deriving DecidableEq, Repr, Inhabited

namespace Options

def has (options : Options) (c : Char) : Bool := options.flags.contains c

def value? (options : Options) (c : Char) : Option String := options.values.lookup c

/-- Adds the options of a row of letters. The last letter may take the next argument as its value,
and any letter that takes one has the rest of the row as its value. -/
def addLetters (known valued : List Char) :
    List Char → List String → Options → Except Char (Options × List String)
  | [], rest, options => .ok (options, rest)
  | c :: letters, rest, options =>
    if valued.contains c then
      let value := if letters.isEmpty then rest.headD "" else String.ofList letters
      let rest := if letters.isEmpty then rest.drop 1 else rest
      .ok ({ options with values := options.values ++ [(c, value)] }, rest)
    else if known.contains c then
      addLetters known valued letters rest { options with flags := options.flags ++ [c] }
    else .error c

/-- Reads arguments: the options, or a complaint about one that is not known. -/
def read (known valued : List Char) : Nat → List String → Options → Except String Options
  | 0, _, options | _, [], options => .ok options
  | fuel + 1, arg :: rest, options =>
    match arg.toList with
    | ['-', '-'] => .ok { options with operands := options.operands ++ rest }
    | '-' :: '-' :: _ => .error ("unrecognized option '" ++ arg ++ "'")
    | '-' :: c :: letters =>
      match addLetters known valued (c :: letters) rest options with
      | .ok (options, rest) => read known valued fuel rest options
      | .error c => .error ("invalid option -- '" ++ String.singleton c ++ "'")
    | _ => read known valued fuel rest { options with operands := options.operands ++ [arg] }

end Options

/-- Ends with a complaint. -/
def Setting.refuse (setting : Setting) (status : Nat) (complaint : String) : Effect :=
  { complaint := setting.name ++ ": " ++ complaint ++ "\n", status }

/-- Copies the input, or the files that are named in its place. -/
def Setting.copy (setting : Setting) (options : Options) : Effect :=
  let operands := if options.operands.isEmpty then ["-"] else options.operands
  let isInput := fun (path : String) => path == "-" || path == "/dev/stdin"
  let text? := fun (path : String) =>
    if isInput path then some setting.input else Assoc.get? path setting.files
  let missing := operands.filter fun path => (text? path).isNone
  { output := operands.flatMap fun path => (text? path).getD []
    complaint := String.join (missing.map fun path =>
      setting.name ++ ": " ++ path ++ ": No such file or directory\n")
    status := if missing.isEmpty then 0 else 1
    isFed := operands.any isInput }

/-! ### Lines -/

/-- Makes lines of lines. -/
def onLines (act : List (List Char) → List (List Char)) (text : List Char) : List Char :=
  (act ((endedLines text).map withoutEnd)).flatMap (· ++ ['\n'])

/-- Makes a line of each line, by its place, and leaves the ends as they are. -/
def onEachLine (act : Nat → List Char → List Char) (text : List Char) : List Char :=
  ((endedLines text).zipIdx 1).flatMap fun (line, i) =>
    act i (withoutEnd line) ++ line.drop (withoutEnd line).length

/-- The first items, as many as an amount says, or all but as many at the back. The last items are
meant if `fromBack`, and the amount may then say with which item they start. -/
def portion (fromBack : Bool) (amount : List Char) (items : List α) : List α :=
  let digits := amount.dropWhile fun c => c == '-' || c == '+'
  let n := (number? 10 digits).getD 0
  match fromBack, amount.head? with
  | false, some '-' => items.take (items.length - n)
  | false, _ => items.take n
  | true, some '+' => items.drop (n - 1)
  | true, _ => items.drop (items.length - n)

/-- The text at the front or at the back, by characters or by lines. -/
def ends (fromBack : Bool) (options : Options) (text : List Char) : List Char :=
  match options.value? 'c' with
  | some amount => portion fromBack amount.toList text
  | none =>
    (portion fromBack ((options.value? 'n').getD "10").toList (endedLines text)).flatten

/-- Equal lines next to each other, with their number. -/
def counted : List (List Char) → List (Nat × List Char)
  | [] => []
  | line :: rest =>
    match counted rest with
    | (n, next) :: more =>
      if line = next then (n + 1, next) :: more else (1, line) :: (n, next) :: more
    | [] => [(1, line)]

/-- A number in a column. -/
def column (width n : Nat) : List Char :=
  List.replicate (width - (toString n).length) ' ' ++ (toString n).toList

/-- The order of lines: by their bytes, or by the numbers at their fronts first. -/
def precedes (byNumber : Bool) (a b : List Char) : Bool :=
  let key := fun (line : List Char) =>
    let line := line.dropWhile (· == ' ')
    let sign := line.takeWhile (· == '-')
    (integer? (sign ++ (line.drop sign.length).takeWhile Char.isDigit)).getD 0
  if byNumber ∧ key a ≠ key b then key a < key b else compareOfLessAndEq a b |>.isLE

/-- Lines in their order. -/
def sortLines (options : Options) (lines : List (List Char)) : List (List Char) :=
  let sorted := lines.mergeSort (precedes (options.has 'n'))
  let sorted := if options.has 'u' then (counted sorted).map Prod.snd else sorted
  if options.has 'r' then sorted.reverse else sorted

/-- Lines without repetitions next to each other, or only those that are repeated, or not. -/
def distinctLines (options : Options) (lines : List (List Char)) : List (List Char) :=
  let kept := (counted lines).filter fun (n, _) =>
    (!options.has 'd' || 1 < n) && (!options.has 'u' || n == 1)
  kept.map fun (n, line) => if options.has 'c' then column 7 n ++ ' ' :: line else line

/-- The numbers of lines, words and characters of a text, those that are asked for. -/
def counts (options : Options) (text : List Char) : List Nat :=
  let isSpace := fun (c : Char) => c == ' ' || ('\t' ≤ c && c ≤ '\x0d')
  let words := (text.foldl (fun (n, inWord) c =>
    (if !isSpace c && !inWord then n + 1 else n, !isSpace c)) (0, false)).1
  let all := [('l', text.count '\n'), ('w', words), ('c', text.length)]
  (all.filter fun entry => options.flags.isEmpty || options.has entry.1).map Prod.snd

/-- The items at the positions of a list such as `1,3-5,7-`. -/
def pick (positions : String) (items : List α) : List α :=
  let spans := (positions.splitOn ",").map fun part =>
    let (first, last) := part.toList.span (· != '-')
    ((number? 10 first).getD 1,
      if last.isEmpty then number? 10 first else number? 10 (last.drop 1))
  (items.zipIdx 1).filterMap fun (item, i) =>
    if spans.any fun (first, last) => first ≤ i && last.all (i ≤ ·) then some item else none

/-- The parts of a line that are asked for. -/
def cutLine (options : Options) (line : List Char) : List Char :=
  let delimiter := ((options.value? 'd').getD "\t").toList
  match options.value? 'f' with
  | none => pick (((options.value? 'c').or (options.value? 'b')).getD "") line
  | some positions =>
    let fields := (String.ofList line).splitOn (String.ofList delimiter)
    if fields.length = 1 then line
    else List.intercalate delimiter ((pick positions fields).map String.toList)

/-! ### Characters -/

/-- The characters of a set in their order. -/
def charsOf (text : String) : List Char :=
  (ranges (unescape false text.toList)).flatMap fun (first, last) =>
    (List.range (last.toNat + 1 - first.toNat)).map fun i => Char.ofNat (first.toNat + i)

/-- A text in which runs of a character from a set are one character. -/
def squeeze (set : List Char) : List Char → List Char
  | a :: b :: rest =>
    if a == b && set.contains a then squeeze set (b :: rest) else a :: squeeze set (b :: rest)
  | rest => rest

/-- Exchanges, drops or squeezes characters. The last character of the second set stands for all
that it lacks. -/
def exchange (options : Options) (text : List Char) : List Char :=
  let own := charsOf (options.operands.headD "")
  let isMeant := fun c => own.contains c != options.has 'c'
  let target := (options.operands[1]?.map charsOf).getD []
  let changed :=
    if options.has 'd' then text.filter fun c => !isMeant c
    else if target.isEmpty then text
    else text.map fun c =>
      if !isMeant c then c
      else if options.has 'c' then target.getLastD c
      else target.getD (own.idxOf c) (target.getLastD c)
  let squeezed := if target.isEmpty then own else target
  if options.has 's' then squeeze squeezed changed else changed

end DartSource.Script
