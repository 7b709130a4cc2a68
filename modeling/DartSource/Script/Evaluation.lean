import DartSource.Script.Shell
import DartSource.Script.Toolbox

/-!
# Carrying out scripts

Words are expanded and commands are carried out in one family of functions, because each needs the
other: a word may stand for the output of commands, and commands are made of words. Every call
passes on less fuel than it was given; a script that uses up all of it is one that does not end.

A word is first turned into bits, in which it still shows what stood in quotes, and the bits are
then split into fields.
-/

namespace DartSource.Script

/-! ### Fields -/

/-- A bit of a word. -/
inductive Bit where
  | char (c : Char) (quoted : Bool)
  /-- Something that makes a field though it has no characters. -/
  | hollow
  /-- A place at which the word is split, with the character that stands there if it is not. -/
  | cut (c : Char)
  deriving DecidableEq, Repr, Inhabited

/-- The bits of a value. Only what is not in quotes is split. -/
def Shell.valueBits (shell : Shell) (quoted : Bool) (text : List Char) : List Bit :=
  if quoted then .hollow :: text.map (.char · true)
  else text.map fun c => if shell.isSeparator c then .cut c else .char c false

/-- The bits of the arguments, each in a field of its own. -/
def Shell.argumentBits (shell : Shell) (quoted : Bool) : List Bit :=
  List.intercalate [.cut ' '] (shell.args.map fun arg => shell.valueBits quoted arg.toList)

/-- The characters of a word that is not split, and whether they stood in quotes. -/
def joinBits (bits : List Bit) : List (Char × Bool) :=
  bits.filterMap fun
    | .char c quoted => some (c, quoted)
    | .cut c => some (c, false)
    | .hollow => none

/-- The fields of a word. -/
def splitBits (bits : List Bit) : List String :=
  let fields := bits.foldr (fun bit fields =>
    match bit, fields with
    | .cut _, fields => [] :: fields
    | bit, field :: rest => (bit :: field) :: rest
    | bit, [] => [[bit]]) [[]]
  (fields.filter fun field => !field.isEmpty).map fun field =>
    String.ofList ((joinBits field).map Prod.fst)

/-- The values of as many variables as there are words for, the last of which takes the rest. -/
def splitLine (shell : Shell) : Nat → List Char → List String
  | 0, _ => []
  | more + 1, line =>
    let line := line.dropWhile shell.isSeparator
    if more = 0 then [String.ofList (line.reverse.dropWhile shell.isSeparator).reverse]
    else
      let word := line.takeWhile fun c => !shell.isSeparator c
      String.ofList word :: splitLine shell more (line.drop word.length)

/-- The shortest or the longest front of a text that matches a pattern is dropped, or back. -/
def dropMatch (atFront longest : Bool) (signs : List Sign) (text : List Char) : List Char :=
  let parts := (List.range (text.length + 1)).map fun n => (text.take n, text.drop n)
  let found := parts.filter fun (front, back) =>
    (remainders signs true (if atFront then front else back)).any fun entry => entry.1.isEmpty
  let found := found.map fun (front, back) => if atFront then back else front
  -- The kept parts get shorter from the front on, and longer from the back.
  ((if atFront == longest then found.getLast? else found.head?)).getD text

/-! ### Commands of the shell -/

/-- Makes a number stand for a file, if there is one to be opened. -/
def openFile (number : Nat) (access : Access) (path : String) : Run Bool := do
  let shell ← get
  if path = "/dev/null" then
    set (shell.connect number (some .nowhere))
    return true
  else
    match access, Assoc.get? path shell.files with
    | .read, some text =>
      set (shell.connectNew number text)
      return true
    | .read, none =>
      refuse 2 ("cannot open " ++ path ++ ": No such file")
      return false
    | access, old =>
      let text := if access = .append then old.getD [] else []
      let shell := { shell with files := Assoc.put path text shell.files }
      set (shell.connect number (some (.file path)))
      return true

/-- Carries out a tool. -/
def runTool (act : Setting → List String → Effect) (name : String) (args : List String) :
    Run Unit :=
  modify fun shell =>
    let effect := act { name, files := shell.files, input := shell.input } args
    let shell := if effect.isFed then shell.leaveInput [] else shell
    let shell := { shell with status := effect.status, files := effect.files.getD shell.files }
    (shell.write 1 effect.output).write 2 effect.complaint.toList

/-- Reads a line into variables. -/
def readLine (args : List String) : Run Unit := do
  let shell ← get
  let isRaw := args.head? == some "-r"
  let names := if isRaw then args.drop 1 else args
  let input := shell.input
  let line := input.takeWhile (· != '\n')
  let plain := if isRaw then line else line.filter (· != '\\')
  let shell := shell.leaveInput (input.drop (line.length + 1))
  let values := splitLine shell names.length plain
  set ((names.zip values).foldl (fun shell (name, value) => shell.assign name value) shell)
  finish (if line.length < input.length then 0 else 1)

/-- The status of a script that is ended by a signal. -/
def signalStatus (signal : String) : Nat :=
  let names := [("HUP", 1), ("INT", 2), ("QUIT", 3), ("KILL", 9), ("PIPE", 13), ("TERM", 15)]
  128 + ((names.lookup signal).orElse fun _ => number? 10 signal.toList).getD 15

/-- The number in the first argument, or the usual one. -/
def numberIn (args : List String) (usual : Nat) : Nat :=
  (args.head?.bind fun arg => number? 10 arg.toList).getD usual

/-- Carries out one of the commands that change the state of the shell or end something. -/
def builtin? (name : String) (args : List String) : Option (Run Unit) :=
  match name with
  | "exit" => some do
    finish (numberIn args (← get).status % 256)
    throw .leave
  | "return" => some do
    finish (numberIn args (← get).status % 256)
    throw .back
  | "break" => some (throw (.halt (numberIn args 1) false))
  | "continue" => some (throw (.halt (numberIn args 1) true))
  | "shift" => some do
    modify fun shell => { shell with args := shell.args.drop (numberIn args 1) }
    finish 0
  | "set" => some do
    let isStrict := args.any fun arg => arg.startsWith "-" && arg.contains 'e'
    let operands := (args.dropWhile (· != "--")).drop 1
    modify fun shell => { shell with
      isStrict := shell.isStrict || isStrict
      args := if args.contains "--" then operands
        else if args.head?.any fun arg => !arg.startsWith "-" && !arg.startsWith "+" then args
        else shell.args }
    finish 0
  | "export" | "readonly" | "local" => some do
    modify fun shell => args.foldl (fun shell arg =>
      let own := (arg.splitOn "=").headD ""
      let shell := if name = "local" then { shell with locals := own :: shell.locals } else shell
      if arg = own then shell
      else shell.assign own ("=".intercalate ((arg.splitOn "=").drop 1))) shell
    finish 0
  | "unset" => some do
    modify fun shell => args.foldl (fun shell name => shell.restore { name := "" } name) shell
    finish 0
  | "read" => some (readLine args)
  | "trap" => some do
    modify fun shell =>
      if args.contains "EXIT" then { shell with atExit := args.headD "" } else shell
    finish 0
  | "kill" => some do
    let signal := (args.head?.filter (·.startsWith "-")).map (·.drop 1)
    modify fun shell => { shell with atExit := "" }
    finish (signalStatus ((signal.map (·.toString)).getD "TERM"))
    throw .leave
  | _ => none

/-! ### Words and commands -/

mutual

/-- The bits of a word. -/
def wordBits : Nat → List Piece → Run (List Bit)
  | 0, _ => throw .leave
  | fuel + 1, pieces => do
    let bits ← pieces.mapM (pieceBits fuel)
    return bits.flatten

/-- The text of a word that is not split. -/
def wordText : Nat → List Piece → Run String
  | 0, _ => throw .leave
  | fuel + 1, pieces => do
    let bits ← wordBits fuel pieces
    return String.ofList ((joinBits bits).map Prod.fst)

/-- The pattern that a word denotes. -/
def wordSigns : Nat → List Piece → Run (List Sign)
  | 0, _ => throw .leave
  | fuel + 1, pieces => do
    let bits ← wordBits fuel pieces
    return shellSigns (bits.length + 1) (joinBits bits)

/-- The bits of a piece. -/
def pieceBits : Nat → Piece → Run (List Bit)
  | 0, _ => throw .leave
  | fuel + 1, piece => do
    match piece with
    | .text chars quoted => return if chars.isEmpty then [.hollow] else chars.map (.char · quoted)
    | .output body quoted =>
      let text ← capture fuel body
      return (← get).valueBits quoted text
    | .number expression quoted =>
      let text ← wordText fuel expression
      let shell ← get
      let text := text.toList.filter fun c => !isBlank c && c != '\n'
      let value := fun (word : List Char) =>
        if (nameAt word).isEmpty then integer? word
        else
          let text := ((shell.value? (String.ofList word)).getD "").toList
          if text.isEmpty then some 0 else integer? text
      -- A character is passed after eight steps at most: there are six levels of operators.
      match calculate value (8 * (text.length + 8)) 0 text with
      | some (result, []) => return shell.valueBits quoted (toString result).toList
      | _ => fatal ("arithmetic expression: expecting primary: \"" ++ String.ofList text ++ "\"")
    | .param name form operand quoted =>
      let shell ← get
      let value := shell.value? name
      let text := (value.getD "").toList
      let isMissing := fun (orEmpty : Bool) => value.all fun text => orEmpty && text == ""
      let own :=
        if name = "@" ∨ (name = "*" ∧ !quoted) then shell.argumentBits quoted
        else shell.valueBits quoted text
      let other := do
        let bits ← wordBits fuel operand
        pure (if quoted then .hollow :: (joinBits bits).map (.char ·.1 true) else bits)
      match form with
      | .plain => return own
      | .length => return shell.valueBits quoted (toString text.length).toList
      | .fallback orEmpty assigns =>
        if isMissing orEmpty then
          let bits ← other
          if assigns then
            modify fun shell => shell.assign name (String.ofList ((joinBits bits).map Prod.fst))
          return bits
        else return own
      | .replace orEmpty => if isMissing orEmpty then return shell.valueBits quoted [] else other
      | .dropFront longest =>
        return shell.valueBits quoted (dropMatch true longest (← wordSigns fuel operand) text)
      | .dropBack longest =>
        return shell.valueBits quoted (dropMatch false longest (← wordSigns fuel operand) text)

/-- What commands print, without the line ends at the back. -/
def capture : Nat → List Command → Run (List Char)
  | 0, _ => throw .leave
  | fuel + 1, body => do
    let before ← get
    set (before.connectNew 1 [])
    inSubshell fuel body
    modify fun shell => { shell with ports := before.ports, captured := shell.status }
    -- The new stream is the one behind those that there were.
    let text := (← get).textOf before.streams.length
    return (text.reverse.dropWhile (· == '\n')).reverse

/-- Carries out commands that leave no trace but in streams and files. -/
def inSubshell : Nat → List Command → Run Unit
  | 0, _ => throw .leave
  | fuel + 1, body => do
    let before ← get
    -- However early the commands end, what is around them goes on.
    let _ ← attempt (runAll fuel body)
    modify fun after =>
      { before with streams := after.streams, files := after.files, status := after.status }

/-- Carries out commands one after the other. -/
def runAll : Nat → List Command → Run Unit
  | 0, _ => throw .leave
  | fuel + 1, commands => commands.forM (run fuel)

/-- Carries out a command. -/
def run : Nat → Command → Run Unit
  | 0, _ => throw .leave
  | fuel + 1, command => do
    match command with
    | .simple linesLeft assignments words redirects =>
      modify fun shell => { shell with captured := 0, line := shell.lineEnds + 1 - linesLeft }
      let fields ← words.mapM (wordBits fuel)
      let fields := fields.flatMap splitBits
      let before ← get
      -- Without a command to carry out, redirections and assignments stay.
      let isLasting := fields.isEmpty || fields == ["exec"]
      let undo := fun (shell : Shell) =>
        if isLasting then shell
        else assignments.foldl (fun shell (name, _) => shell.restore before name)
          { shell with ports := before.ports }
      tidy (runSimple fuel assignments fields redirects) undo
      insist
    | .group body => runAll fuel body
    | .subshell body =>
      inSubshell fuel body
      insist
    | .branch condition body otherwise =>
      if ← checked (runAll fuel condition) then runAll fuel body
      else
        -- A command that is left out has succeeded.
        finish 0
        runAll fuel otherwise
    | .loop whileFails condition body => runLoop fuel whileFails condition body 0
    | .each name words body =>
      let fields ← match words with
        | none => return ← runEach fuel name (← get).args body
        | some words => words.mapM (wordBits fuel)
      finish 0
      runEach fuel name (fields.flatMap splitBits) body
    | .choose subject arms =>
      let text ← wordText fuel subject
      finish 0
      runArms fuel text.toList arms
    | .define name body =>
      modify fun shell => { shell with functions := (name, body) :: shell.functions }
      finish 0
    | .redirected inner redirects =>
      let before ← get
      let step := do if ← redirectAll fuel redirects then run fuel inner
      tidy step fun shell => { shell with ports := before.ports }
      insist
    | .pipeline stages =>
      let before ← get
      runStages fuel stages
      modify fun shell => { shell with ports := before.ports }
      insist
    | .negated inner =>
      let hasSucceeded ← checked (run fuel inner)
      finish (if hasSucceeded then 1 else 0)
    | .chain ifFirst first second =>
      if (← checked (run fuel first)) == ifFirst then run fuel second

/-- Carries out the command that fields denote, with its assignments and redirections. -/
def runSimple : Nat → List (String × List Piece) → List String → List Redirect → Run Unit
  | 0, _, _, _ => throw .leave
  | fuel + 1, assignments, fields, redirects => do
    if ← redirectAll fuel redirects then
      assignments.forM fun (name, value) => do
        let text ← wordText fuel value
        modify fun shell => shell.assign name text
      match fields with
      | [] => finish (← get).captured
      | ["exec"] => finish 0
      -- The command takes the place of the script.
      | "exec" :: fields =>
        runSimple fuel [] fields []
        throw .leave
      | "command" :: fields => runSimple fuel [] fields []
      | "eval" :: fields =>
        let (body, isWhole) := commands (" ".intercalate fields).toList
        runAll fuel body
        if !isWhole then fatal "eval: Syntax error"
      | name :: args =>
        let shell ← get
        match shell.functions.lookup name, builtin? name args, (programName? name).bind tool? with
        -- Commands of the script's own come first.
        | some body, _, _ =>
          set { shell with args, locals := [] }
          tidy (endsWith .back (run fuel body)) fun after =>
            { after.locals.foldl (fun after name => after.restore shell name) after with
              args := shell.args, locals := shell.locals }
        | none, some step, _ => step
        | none, none, some act => runTool act name args
        | none, none, none => refuse 127 (name ++ ": not found")

/-- Makes numbers stand for something else, in turn. -/
def redirectAll : Nat → List Redirect → Run Bool
  | 0, _ => throw .leave
  | _ + 1, [] => return true
  | fuel + 1, redirect :: rest => do
    let isDone ← match redirect with
      | .file number access path => do
        let path ← wordText fuel path
        openFile number access path
      | .same number other => do
        let other ← wordText fuel other
        -- A text that is no number, such as a dash, closes the stream.
        modify fun shell =>
          shell.connect number ((number? 10 other.toList).bind shell.port?)
        pure true
      | .document number text => do
        let text ← wordText fuel text
        modify fun shell => shell.connectNew number text.toList
        pure true
    if isDone then redirectAll fuel rest else return false

/-- Carries out the stages of a pipeline. -/
def runStages : Nat → List Command → Run Unit
  | 0, _ | _, [] => throw .leave
  | fuel + 1, [last] => inSubshell fuel [last]
  | fuel + 1, stage :: rest => do
    let before ← get
    set (before.connectNew 1 [])
    -- Stages are carried out in turn: a stage finds all that the one before it has written.
    inSubshell fuel [stage]
    modify fun shell =>
      { shell with ports := before.ports }.connect 0 (some (.stream before.streams.length))
    runStages fuel rest

/-- Carries out the rounds of a loop. The status of the last one is given. -/
def runLoop : Nat → Bool → List Command → List Command → Nat → Run Unit
  | 0, _, _, _, _ => throw .leave
  | fuel + 1, whileFails, condition, body, status => do
    if (← checked (runAll fuel condition)) != whileFails then
      if ← goesOn (runAll fuel body) then
        runLoop fuel whileFails condition body (← get).status
    else finish status

/-- Carries out commands for each of some texts. -/
def runEach : Nat → String → List String → List Command → Run Unit
  | 0, _, _, _ => throw .leave
  | _ + 1, _, [], _ => return
  | fuel + 1, name, field :: rest, body => do
    modify fun shell => shell.assign name field
    if ← goesOn (runAll fuel body) then runEach fuel name rest body

/-- Carries out the first arm that has a pattern for the text. -/
def runArms : Nat → List Char → List (List (List Piece) × List Command) → Run Unit
  | 0, _, _ => throw .leave
  | _ + 1, _, [] => return
  | fuel + 1, text, (patterns, body) :: rest => do
    let signs ← patterns.mapM (wordSigns fuel)
    if signs.any fun signs => (remainders signs true text).any fun entry => entry.1.isEmpty then
      runAll fuel body
    else runArms fuel text rest

end

end DartSource.Script
