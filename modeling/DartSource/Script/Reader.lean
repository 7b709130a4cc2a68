import DartSource.Script.Command

/-!
# Reading scripts

From the text of a script to its commands. Words and commands hold each other, a word through the
commands whose output it stands for, so their readers form one family. Every call passes on less
fuel than it was given, and `fuelFor` is more than a text can use up: a reader that calls another
without moving on does so only a few times in a row.

A document follows the line that announces it. Its reader cuts it out of the text, so that the rest
of the line is read as if the document were not there.
-/

namespace DartSource.Script

/-- A step of reading: from the text that is left to what is left behind it, if there is what the
step reads. -/
abbrev Read := StateT (List Char) Option

/-! ### Characters -/

def isBlank (c : Char) : Bool := c == ' ' || c == '\t'

/-- A character that ends a word. -/
def isDelimiter (c : Char) : Bool := " \t\n;&|<>()".toList.contains c

def isNameChar (c : Char) : Bool := c.isAlphanum || c == '_'

/-- A character that a backslash keeps from its meaning between double quotes. -/
def isGuarded (c : Char) : Bool := c == '$' || c == '\x60' || c == '\\'

/-- The name of a variable at the front. -/
def nameAt (input : List Char) : List Char :=
  if input.head?.any Char.isDigit then [] else input.takeWhile isNameChar

/-- The name of a parameter at the front. One digit is a name, in braces more of them are. -/
def paramAt (inBraces : Bool) (input : List Char) : List Char :=
  match input with
  | [] => []
  | c :: _ =>
    if c.isDigit && inBraces then input.takeWhile Char.isDigit
    else if c.isDigit || "#*@?$!-".toList.contains c then [c]
    else nameAt input

/-- The form of an expansion by the marks behind the name, and the number of the marks. -/
def formAt : List Char → Form × Nat
  | ':' :: '-' :: _ => (.fallback true false, 2)
  | ':' :: '=' :: _ => (.fallback true true, 2)
  | ':' :: '+' :: _ => (.replace true, 2)
  | '-' :: _ => (.fallback false false, 1)
  | '=' :: _ => (.fallback false true, 1)
  | '+' :: _ => (.replace false, 1)
  | '#' :: '#' :: _ => (.dropFront true, 2)
  | '#' :: _ => (.dropFront false, 1)
  | '%' :: '%' :: _ => (.dropBack true, 2)
  | '%' :: _ => (.dropBack false, 1)
  | _ => (.plain, 0)

/-- The text without the space at its front: blanks, a comment, line ends behind a backslash, and
other line ends if `acrossLines`. -/
def dropSpace (acrossLines inComment : Bool) : List Char → List Char
  | [] => []
  | '\\' :: rest =>
    match inComment, rest with
    | true, rest => dropSpace acrossLines true rest
    | false, '\n' :: rest => dropSpace acrossLines false rest
    | false, rest => '\\' :: rest
  | c :: rest =>
    if c = '\n' then if acrossLines then dropSpace acrossLines false rest else c :: rest
    else if inComment || c = '#' then dropSpace acrossLines true rest
    else if isBlank c then dropSpace acrossLines false rest
    else c :: rest

/-- The mark at the front that is no part of a word. -/
def markAt : List Char → List Char
  | a :: b :: _ => if a = b ∧ (a = '&' ∨ a = '|' ∨ a = ';') then [a, b] else [a]
  | input => input

/-- The words that end a row of commands. -/
def closingWords : List String :=
  ["\x7d", "do", "done", "elif", "else", "esac", "fi", "then"]

/-- A row of commands cannot go on here. -/
def isClosing (input : List Char) : Bool :=
  let word := String.ofList (input.takeWhile fun c => !isDelimiter c)
  input.isEmpty || input.head? == some ')' || markAt input == [';', ';'] ||
    closingWords.contains word

/-- An expression to be calculated, up to the two brackets that close it. -/
def expressionAt : Nat → List Char → List Char
  | _, [] => []
  | depth, c :: rest =>
    if depth = 0 ∧ c = ')' then []
    else
      let next := if c = '(' then depth + 1 else if c = ')' then depth - 1 else depth
      c :: expressionAt next rest

/-- The text up to the next backquote, without the backslashes that it needs there, and the text
from the backquote on. -/
def backquotedAt : List Char → List Char × List Char
  | [] => ([], [])
  | '\\' :: c :: rest =>
    let (inner, after) := backquotedAt rest
    (if isGuarded c then (c :: inner, after) else ('\\' :: c :: inner, after))
  | c :: rest =>
    if c = '\x60' then ([], c :: rest)
    else
      let (inner, after) := backquotedAt rest
      (c :: inner, after)

/-! ### Steps -/

/-- Moves on over a word, if it stands here or on a later line. -/
def skipWord (word : String) : Read Bool := do
  modify (dropSpace true false)
  let input ← get
  if input.takeWhile (fun c => !isDelimiter c) = word.toList then
    set (input.drop word.length)
    return true
  else return false

/-- Moves on over a mark, if it stands here. -/
def skipMark (mark : String) : Read Bool := do
  modify (dropSpace false false)
  let input ← get
  if markAt input = mark.toList then
    set (input.drop mark.length)
    return true
  else return false

/-- Moves on over the end of a command, if another one may follow. -/
def skipEnd : Read Bool := do
  if ← skipMark ";" then return true
  else skipMark "\n"

/-- There must be what the step looks for. -/
def expect (step : Read Bool) : Read Unit := do
  if !(← step) then failure

/-- The name of a variable, which must stand here. -/
def readName : Read String := do
  modify (dropSpace false false)
  let input ← get
  let name := nameAt input
  set (input.drop name.length)
  if name.isEmpty then failure else return String.ofList name

/-- Reads a text of its own from its beginning to its end. -/
def within (text : List Char) (step : Read α) : Read α := do
  let outer ← get
  set text
  let result ← step
  if (← get).isEmpty then
    set outer
    return result
  else failure

/-- What stands between single quotes. -/
def readRaw : Read (List Piece) := do
  let input ← get
  let inner := input.takeWhile (· != '\x27')
  set (input.drop (inner.length + 1))
  if inner.length = input.length then failure else return [.text inner true]

/-- Cuts the lines of a document out of the text: from the next line on, up to one that ends it. -/
def cutDocument (dropsTabs : Bool) (delimiter : List Char) : Read (List Char) := do
  let input ← get
  let front := withoutEnd input
  let plain := fun (line : List Char) => if dropsTabs then line.dropWhile (· == '\t') else line
  let (body, after) := (endedLines (input.drop (front.length + 1))).span fun line =>
    withoutEnd (plain line) != delimiter
  set (front ++ '\n' :: (after.drop 1).flatten)
  return body.flatMap plain

/-- The characters of a word without expansions. -/
def plainText (pieces : List Piece) : List Char :=
  pieces.flatMap fun piece => match piece with | .text chars _ => chars | _ => []

/-- A part of the word stood in quotes. -/
def holdsQuotes (pieces : List Piece) : Bool :=
  pieces.any fun piece => match piece with | .text _ quoted => quoted | _ => false

/-! ### Words and commands -/

mutual

/-- The pieces of a word, up to a character that ends it. -/
def readWord : Nat → (Char → Bool) → Read (List Piece)
  | 0, _ => failure
  | fuel + 1, ends => do
    match ← get with
    | [] => return []
    | '\\' :: '\n' :: rest =>
      set rest
      readWord fuel ends
    | '\\' :: c :: rest =>
      set rest
      let more ← readWord fuel ends
      return .text [c] true :: more
    | c :: rest =>
      if ends c then return []
      else
        set rest
        let first ←
          if c = '\x27' then readRaw
          else if c = '"' then do
            let inner ← readQuoted fuel true
            pure (if inner.isEmpty then [.text [] true] else inner)
          else readPlain fuel false c
        let more ← readWord fuel ends
        return first ++ more

/-- The pieces between double quotes, or of a text that ends by itself. -/
def readQuoted : Nat → Bool → Read (List Piece)
  | 0, _ => failure
  | fuel + 1, inQuotes => do
    match ← get with
    | [] => if inQuotes then failure else return []
    | '\\' :: c :: rest =>
      set rest
      let more ← readQuoted fuel inQuotes
      let isDropped := isGuarded c || (c == '"' && inQuotes)
      return .text (if c = '\n' then [] else if isDropped then [c] else ['\\', c]) true :: more
    | c :: rest =>
      set rest
      if c = '"' ∧ inQuotes then return []
      else
        let first ← readPlain fuel true c
        let more ← readQuoted fuel inQuotes
        return first ++ more

/-- The pieces that start with a character that is no quote. -/
def readPlain : Nat → Bool → Char → Read (List Piece)
  | 0, _, _ => failure
  | fuel + 1, quoted, c => do
    if c = '$' then readDollar fuel quoted
    else if c = '\x60' then
      let (inner, after) := backquotedAt (← get)
      if after.isEmpty then failure
      let body ← within inner (readList fuel)
      set (after.drop 1)
      return [.output body quoted]
    else return [.text [c] quoted]

/-- The expansion behind a dollar sign. -/
def readDollar : Nat → Bool → Read (List Piece)
  | 0, _ => failure
  | fuel + 1, quoted => do
    match ← get with
    | '(' :: '(' :: rest =>
      let inner := expressionAt 0 rest
      let expression ← within inner (readQuoted fuel false)
      set (rest.drop inner.length)
      expect (skipMark ")")
      expect (skipMark ")")
      return [.number expression quoted]
    | '(' :: rest =>
      set rest
      let body ← readList fuel
      expect (skipMark ")")
      return [.output body quoted]
    | input =>
      if input.head? = some '\x7b' then
        let input := input.drop 1
        let counted := paramAt true (input.drop 1)
        let isCounted := input.head? = some '#' ∧ !counted.isEmpty
        let name := if isCounted then counted else paramAt true input
        let (form, length) := if isCounted then (.length, 1) else formAt (input.drop name.length)
        set (input.drop (name.length + length))
        let operand ← readWord fuel (· == '\x7d')
        expect (skipMark "\x7d")
        if name.isEmpty ∨ (form = .plain ∧ !operand.isEmpty) then failure
        else return [.param (String.ofList name) form operand quoted]
      else
        let name := paramAt false input
        set (input.drop name.length)
        if name.isEmpty then return [.text ['$'] quoted]
        else return [.param (String.ofList name) .plain [] quoted]

/-- Commands, up to something that ends a row of commands. -/
def readList : Nat → Read (List Command)
  | 0 => failure
  | fuel + 1 => do
    modify (dropSpace true false)
    if isClosing (← get) then return []
    else
      let first ← readPipeline fuel
      let first ← readChain fuel first
      if ← skipEnd then
        let more ← readList fuel
        return first :: more
      else return [first]

/-- Commands that must not be missing, up to a word that must follow. -/
def readBody : Nat → String → Read (List Command)
  | 0, _ => failure
  | fuel + 1, closing => do
    let body ← readList fuel
    expect (skipWord closing)
    if body.isEmpty then failure else return body

/-- What is chained to a command. -/
def readChain : Nat → Command → Read Command
  | 0, _ => failure
  | fuel + 1, first => do
    let ifFirst ← skipMark "&&"
    if ifFirst || (← skipMark "||") then
      let second ← readPipeline fuel
      readChain fuel (.chain ifFirst first second)
    else return first

/-- A command, or commands of which each reads what the one before it writes. -/
def readPipeline : Nat → Read Command
  | 0 => failure
  | fuel + 1 => do
    if ← skipWord "!" then
      let inner ← readPipeline fuel
      return .negated inner
    else
      match ← readStages fuel with
      | [single] => return single
      | stages => return .pipeline stages

/-- The stages of a pipeline. -/
def readStages : Nat → Read (List Command)
  | 0 => failure
  | fuel + 1 => do
    let first ← readCommand fuel
    if ← skipMark "|" then
      let more ← readStages fuel
      return first :: more
    else return [first]

/-- A command with its redirections. -/
def readCommand : Nat → Read Command
  | 0 => failure
  | fuel + 1 => do
    let command ← readBare fuel
    let (_, words, redirects) ← readSimple fuel false
    -- The words of a simple command have been read with it.
    if !words.isEmpty then failure
    else return if redirects.isEmpty then command else .redirected command redirects

/-- A command without the redirections behind its last word. -/
def readBare : Nat → Read Command
  | 0 => failure
  | fuel + 1 => do
    if ← skipWord "\x7b" then
      let body ← readBody fuel "\x7d"
      return .group body
    else if ← skipWord "if" then readBranch fuel
    else if ← skipWord "case" then
      modify (dropSpace false false)
      let subject ← readWord fuel isDelimiter
      expect (skipWord "in")
      let arms ← readArms fuel
      return .choose subject arms
    else if ← skipWord "for" then
      let name ← readName
      let isListed ← skipWord "in"
      let (_, words, _) ← if isListed then readSimple fuel false else pure ([], [], [])
      let _ ← skipEnd
      expect (skipWord "do")
      let body ← readBody fuel "done"
      return .each name (if isListed then some words else none) body
    else if ← skipMark "(" then
      let body ← readList fuel
      expect (skipMark ")")
      return .subshell body
    else
      let whileSucceeds ← skipWord "while"
      if whileSucceeds || (← skipWord "until") then
        let condition ← readBody fuel "do"
        let body ← readBody fuel "done"
        return .loop (!whileSucceeds) condition body
      else
        -- A name in front of two brackets is given to a command; any other is a word.
        let input ← get
        let name := nameAt input
        set (input.drop name.length)
        if !name.isEmpty && (← skipMark "(") then
          expect (skipMark ")")
          let body ← readCommand fuel
          return .define (String.ofList name) body
        else
          set input
          let (assignments, words, redirects) ← readSimple fuel true
          if assignments.isEmpty && words.isEmpty && redirects.isEmpty then failure
          else return .simple (input.count '\n') assignments words redirects

/-- The rest of a command under a condition. -/
def readBranch : Nat → Read Command
  | 0 => failure
  | fuel + 1 => do
    let condition ← readBody fuel "then"
    let body ← readList fuel
    if ← skipWord "elif" then
      let more ← readBranch fuel
      return .branch condition body [more]
    else if ← skipWord "else" then
      let otherwise ← readBody fuel "fi"
      return .branch condition body otherwise
    else
      expect (skipWord "fi")
      return .branch condition body []

/-- Commands by patterns. -/
def readArms : Nat → Read (List (List (List Piece) × List Command))
  | 0 => failure
  | fuel + 1 => do
    if ← skipWord "esac" then return []
    else
      let _ ← skipMark "("
      let patterns ← readPatterns fuel
      let body ← readList fuel
      if ← skipMark ";;" then
        let more ← readArms fuel
        return (patterns, body) :: more
      else
        expect (skipWord "esac")
        return [(patterns, body)]

/-- The patterns of an arm. -/
def readPatterns : Nat → Read (List (List Piece))
  | 0 => failure
  | fuel + 1 => do
    modify (dropSpace false false)
    let first ← readWord fuel isDelimiter
    if ← skipMark "|" then
      let more ← readPatterns fuel
      return first :: more
    else
      expect (skipMark ")")
      return [first]

/-- The assignments, words and redirections of a command. Assignments stand in front of the first
word only. -/
def readSimple : Nat → Bool →
    Read (List (String × List Piece) × List (List Piece) × List Redirect)
  | 0, _ => failure
  | fuel + 1, inFront => do
    modify (dropSpace false false)
    let input ← get
    let digits := input.takeWhile Char.isDigit
    let mark := (input.drop digits.length).take 1
    let name := nameAt input
    if mark = ['<'] ∨ mark = ['>'] then
      set (input.drop digits.length)
      let redirect ← readRedirect fuel (number? 10 digits)
      let (assignments, words, redirects) ← readSimple fuel inFront
      return (assignments, words, redirect :: redirects)
    else if input.head?.all isDelimiter then return ([], [], [])
    else if inFront ∧ !name.isEmpty ∧ (input.drop name.length).head? = some '=' then
      set (input.drop (name.length + 1))
      let value ← readWord fuel isDelimiter
      let (assignments, words, redirects) ← readSimple fuel true
      return ((String.ofList name, value) :: assignments, words, redirects)
    else
      let word ← readWord fuel isDelimiter
      let (_, words, redirects) ← readSimple fuel false
      return ([], word :: words, redirects)

/-- A redirection of the stream with the number that stood in front. -/
def readRedirect : Nat → Option Nat → Read Redirect
  | 0, _ => failure
  | fuel + 1, number => do
    match ← get with
    | '<' :: '<' :: rest =>
      let dropsTabs := rest.head? == some '-'
      set (dropSpace false false (if dropsTabs then rest.drop 1 else rest))
      let delimiter ← readWord fuel isDelimiter
      let text ← cutDocument dropsTabs (plainText delimiter)
      -- Quotes in the delimiter keep the document as it stands.
      if holdsQuotes delimiter then return .document (number.getD 0) [.text text true]
      else
        let pieces ← within text (readQuoted fuel false)
        return .document (number.getD 0) pieces
    | mark :: rest =>
      let isSame := rest.head? == some '&'
      let isAppended := mark == '>' && rest.head? == some '>'
      set (dropSpace false false (if isSame || isAppended then rest.drop 1 else rest))
      let target ← readWord fuel isDelimiter
      let number := number.getD (if mark = '<' then 0 else 1)
      if target.isEmpty then failure
      else if isSame then return .same number target
      else
        let access := if mark = '<' then .read else if isAppended then .append else .write
        return .file number access target
    | [] => failure

end

/-- More fuel than a text can use up. -/
def fuelFor (text : List Char) : Nat := 16 * (text.length + 4)

/-- The commands of a script, up to one that cannot be read, if there is one. The flag says that
there is none. -/
def commands (text : List Char) : List Command × Bool :=
  go (text.length + 1) text
where
  /-- A command takes a character at least. -/
  go : Nat → List Char → List Command × Bool
    | 0, _ => ([], false)
    | fuel + 1, text =>
      let text := dropSpace true false text
      if text.isEmpty then ([], true)
      else
        let item : Read (Command × Bool) := do
          let first ← readPipeline (fuelFor text)
          let command ← readChain (fuelFor text) first
          let isEnded ← skipEnd
          return (command, isEnded)
        match item.run text with
        | none => ([], false)
        | some ((command, isEnded), rest) =>
          if isEnded || rest.isEmpty then
            let (more, isWhole) := go fuel rest
            (command :: more, isWhole)
          else ([], false)

end DartSource.Script
