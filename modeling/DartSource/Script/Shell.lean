import DartSource.Assoc
import DartSource.Script.Reader

/-!
# The state of a script

A script that runs has variables, arguments, commands of its own, and numbers that stand for the
streams which it reads and writes. Streams and files are data, so running a script changes nothing
but its state.

`Run` is a step of a script. It may end early, by a `Flow` that says how far: out of a loop, out of
a command, or out of the script. The state is kept either way.
-/

namespace DartSource.Script

/-- What the number of a stream stands for. -/
inductive Port where
  /-- A stream, by its place among the streams. -/
  | stream (index : Nat)
  /-- The end of a file. -/
  | file (path : String)
  /-- Nothing is read there, and what is written is lost. -/
  | nowhere
  deriving DecidableEq, Repr, Inhabited

/-- The state of a script. -/
structure Shell where
  /-- The name under which the script was started. -/
  name : String
  args : List String := []
  bindings : List (String × String) := []
  functions : List (String × Command) := []
  files : List (String × List Char) := []
  /-- What streams still hold. -/
  streams : List (List Char) := []
  ports : List (Nat × Port) := []
  status : Nat := 0
  /-- The line of the script that is carried out, and how many line ends the script has. -/
  line : Nat := 1
  lineEnds : Nat := 0
  /-- The status of the commands whose output the words of the command under way stand for. -/
  captured : Nat := 0
  /-- Variables that are given back their values at the end of the script's own command that is
  under way. -/
  locals : List String := []
  /-- A command that fails ends the script. -/
  isStrict : Bool := false
  /-- The text that is carried out at the end, be it early or not. -/
  atExit : String := ""

/-- How a step ends early. -/
inductive Flow where
  /-- The script is over. -/
  | leave
  /-- The command of the script's own is over. -/
  | back
  /-- So many loops are over, and the last of them may go on with its next round. -/
  | halt (loops : Nat) (goesOn : Bool)
  deriving DecidableEq, Repr, Inhabited

/-- A step of a script. -/
abbrev Run := ExceptT Flow (StateM Shell)

namespace Shell

/-! ### Streams -/

/-- What a number stands for. -/
def port? (shell : Shell) (number : Nat) : Option Port :=
  (shell.ports.find? fun entry => entry.1 == number).map Prod.snd

/-- Makes a number stand for something, or for nothing. -/
def connect (shell : Shell) (number : Nat) (port : Option Port) : Shell :=
  let others := shell.ports.filter fun entry => entry.1 != number
  { shell with ports := port.toList.map (number, ·) ++ others }

/-- Makes a number stand for a new stream with a text in it. -/
def connectNew (shell : Shell) (number : Nat) (text : List Char) : Shell :=
  { shell with streams := shell.streams ++ [text] }.connect number
    (some (.stream shell.streams.length))

/-- What a stream holds. -/
def textOf (shell : Shell) (index : Nat) : List Char := shell.streams.getD index []

/-- Writes a text. -/
def write (shell : Shell) (number : Nat) (text : List Char) : Shell :=
  match shell.port? number with
  | some (.stream index) =>
    { shell with streams := shell.streams.set index (shell.textOf index ++ text) }
  | some (.file path) =>
    let old := (Assoc.get? path shell.files).getD []
    { shell with files := Assoc.put path (old ++ text) shell.files }
  | _ => shell

/-- What is there to be read. -/
def input (shell : Shell) : List Char :=
  match shell.port? 0 with
  | some (.stream index) => shell.textOf index
  | _ => []

/-- Leaves a rest of what is there to be read. -/
def leaveInput (shell : Shell) (rest : List Char) : Shell :=
  match shell.port? 0 with
  | some (.stream index) => { shell with streams := shell.streams.set index rest }
  | _ => shell

/-! ### Variables -/

/-- Sets a variable. -/
def assign (shell : Shell) (name value : String) : Shell :=
  { shell with bindings := Assoc.put name value shell.bindings }

/-- Gives a variable the value that it has in another state. -/
def restore (shell before : Shell) (name : String) : Shell :=
  match Assoc.get? name before.bindings with
  | some value => shell.assign name value
  | none => { shell with bindings := shell.bindings.filter fun entry => entry.1 != name }

/-- The number of the script among all that runs. -/
def process : String := "4711"

/-- The value of a parameter. -/
def value? (shell : Shell) (name : String) : Option String :=
  match name with
  | "#" => some (toString shell.args.length)
  | "?" => some (toString shell.status)
  | "$" => some process
  | "0" => some shell.name
  | "-" => some (if shell.isStrict then "e" else "")
  | "@" | "*" =>
    let separator := String.ofList (((Assoc.get? "IFS" shell.bindings).getD " ").toList.take 1)
    if shell.args.isEmpty then none else some (separator.intercalate shell.args)
  | _ =>
    match number? 10 name.toList with
    | some index => shell.args[index - 1]?
    | none => Assoc.get? name shell.bindings

/-- A character at which values are split. -/
def isSeparator (shell : Shell) (c : Char) : Bool :=
  ((Assoc.get? "IFS" shell.bindings).getD " \t\n").toList.contains c

end Shell

/-! ### Steps -/

/-- Ends a command with a status. -/
def finish (status : Nat) : Run Unit := modify fun shell => { shell with status }

/-- Ends a command that has failed, with a complaint. -/
def refuse (status : Nat) (complaint : String) : Run Unit :=
  modify fun shell =>
    let place := shell.name ++ ": " ++ toString shell.line ++ ": "
    { shell.write 2 (place ++ complaint ++ "\n").toList with status }

/-- Ends a script that has failed, with a complaint. -/
def fatal (complaint : String) : Run α := do
  refuse 2 complaint
  throw .leave

/-- Carries out a step and says how it ended early, if it did. -/
def attempt (step : Run Unit) : Run (Option Flow) :=
  tryCatch (do step; return none) fun flow => return some flow

/-- Carries out a step and changes the state at its end, early or not. -/
def tidy (step : Run Unit) (change : Shell → Shell) : Run Unit := do
  let flow ← attempt step
  modify change
  flow.forM throw

/-- The last command has succeeded. -/
def succeeded : Run Bool := do
  let shell ← get
  return shell.status == 0

/-- Carries out a step of which the script looks at the status itself. -/
def checked (step : Run Unit) : Run Bool := do
  let before ← get
  set { before with isStrict := false }
  tidy step fun shell => { shell with isStrict := before.isStrict }
  succeeded

/-- Carries out a step that may end early by itself in this way. -/
def endsWith (ending : Flow) (step : Run Unit) : Run Unit := do
  let flow ← attempt step
  if flow ≠ some ending then flow.forM throw

/-- Carries out a round of a loop and says whether there is to be another one. -/
def goesOn (round : Run Unit) : Run Bool := do
  match ← attempt round with
  | none => return true
  | some (.halt (loops + 2) again) => throw (.halt (loops + 1) again)
  -- This loop is the last one that is meant.
  | some (.halt _ again) => return again
  | some flow => throw flow

/-- Ends a strict script if the last command has failed. -/
def insist : Run Unit := do
  let shell ← get
  if shell.isStrict ∧ shell.status ≠ 0 then throw .leave

end DartSource.Script
