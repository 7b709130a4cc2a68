import DartSource.Formatting.Formatter
import DartSource.Script.Evaluation

/-!
# Programs

How a program behaves that is known by its name, or whose text is a script. A script is started by
the interpreter that its first line names behind two marks; a text without such a line, or with one
that names nothing known, cannot be started.
-/

namespace DartSource.Script

/-- The steps that a script may take. One that takes more does not end. -/
def stepLimit : Nat := 1000000

/-- How a step goes, in a shell that has been started. -/
def outcome (name : String) (args : List String) (files : List (String × List Char))
    (input : List UInt8) (step : Run Unit) : Outcome :=
  let streams := [ofBytes input, [], []]
  let ports := (List.range 3).map fun number => (number, Port.stream number)
  let final := ((attempt step).run.run { name, args, files, streams, ports }).2
  .ended final.status (toBytes (final.textOf 1)) (toBytes (final.textOf 2))

def shellNames : List String := ["sh", "dash", "bash"]

/-- Carries out a script. -/
def runScript (script : List Char) : Run Unit := do
  modify fun shell => { shell with lineEnds := script.count '\n' }
  let (body, isWhole) := commands script
  let flow ← attempt (runAll stepLimit body)
  if flow.isNone && !isWhole then
    modify fun shell => { shell with line := shell.lineEnds + 1 }
    refuse 2 "Syntax error: end of file unexpected"
  let shell ← get
  runAll stepLimit (commands shell.atExit.toList).1
  finish shell.status

/-- The words of the first line of a script, behind the two marks that make it one. The first of
them must be a path. -/
def interpreter? (script : List Char) : Option (List String) :=
  match script with
  | '#' :: '!' :: rest =>
    let words := splitBits ((withoutEnd rest).map fun c =>
      if isBlank c then .cut c else .char c false)
    if words.head?.any (·.toList.contains '/') then some words else none
  | _ => none

/-- How the script behaves that the file at a path holds. -/
def start (path script : String) (args : List String) (input : List UInt8) : Outcome :=
  let chars := ofBytes (Text.toBytes script)
  match interpreter? chars with
  | none => .notStarted
  | some words =>
    let names := words.map programName?
    let name := if names.head? = some (some "env") then (names[1]?).join else names.head?.join
    if name.any shellNames.contains then outcome path args [(path, chars)] input (runScript chars)
    else .notStarted

/-- How the program of that name behaves. A shell takes its first argument for a script. -/
def program (name : String) (args : List String) (input : List UInt8) : Outcome :=
  match programName? name with
  | none => .notStarted
  | some bare =>
    if shellNames.contains bare then
      outcome name args [] input do
        modify fun shell => { shell with line := 0 }
        refuse 2 ("cannot open " ++ args.headD "" ++ ": No such file")
    else
      match tool? bare with
      | none => .notStarted
      | some act => outcome name args [] input (runTool act name args)

end DartSource.Script
