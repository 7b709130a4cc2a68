import DartSource.Script.Editor

/-!
# Tools by their names

The tools that scripts find, those that only print or decide among them.
-/

namespace DartSource.Script

/-- Whether a condition holds, if it has a form that there is. -/
def condition? (files : List (String × List Char)) : List String → Option Bool
  | [] => some false
  | [text] => some (text != "")
  | "!" :: rest => (condition? files rest).map (!·)
  | ["-n", text] => some (text != "")
  | ["-z", text] => some (text == "")
  | [operator, path] =>
    let text? := Assoc.get? path files
    let isDirectory := ["/", ".", "/bin", "/dev", "/tmp", "/usr"].contains path
    match operator with
    | "-f" | "-r" | "-w" | "-x" => some text?.isSome
    | "-s" => some (text?.any fun text => !text.isEmpty)
    | "-d" => some isDirectory
    | "-e" => some (isDirectory || text?.isSome || path == "/dev/null")
    | _ => none
  | [a, "=", b] => some (a == b)
  | [a, "!=", b] => some (a != b)
  | [a, operator, b] => do
    let a ← integer? a.toList
    let b ← integer? b.toList
    match operator with
    | "-eq" => some (a == b)
    | "-ne" => some (a != b)
    | "-lt" => some (a < b)
    | "-le" => some (a ≤ b)
    | "-gt" => some (b < a)
    | "-ge" => some (b ≤ a)
    | _ => none
  | _ => none

/-- Decides a condition. -/
def decideCondition (setting : Setting) (args : List String) : Effect :=
  match condition? setting.files args with
  | some holds => { status := if holds then 0 else 1 }
  | none => setting.refuse 2 "unexpected operator"

/-- The name of a program that is there, by its name or its path. -/
def programName? (path : String) : Option String :=
  let (name, around) := path.toList.reverse.span (· != '/')
  if around.isEmpty ∨ ["/bin/", "/usr/bin/"].contains (String.ofList around.reverse) then
    some (String.ofList name.reverse)
  else none

/-- A tool: letters of options without a value, letters of options with one, and what it does. -/
structure Tool where
  known : String := ""
  valued : String := ""
  act : Setting → Options → Effect

/-- A tool that makes a text of another one. -/
def Tool.filter (known valued : String) (act : Options → List Char → List Char) : Tool :=
  { known, valued
    act := fun setting options =>
      let source := setting.copy options
      { source with output := act options source.output } }

/-- Copies a text to files as well. -/
def tee (setting : Setting) (options : Options) : Effect :=
  let write := fun (files : List (String × List Char)) (path : String) =>
    let old := if options.has 'a' then (Assoc.get? path files).getD [] else []
    Assoc.put path (old ++ setting.input) files
  { output := setting.input, isFed := true
    files := some (options.operands.foldl write setting.files) }

/-- The tools that read options. -/
def tools : List (String × Tool) :=
  [("cat", .filter "nu" "" fun options =>
      if options.has 'n' then onEachLine fun i line => column 6 i ++ '\t' :: line else id),
    ("head", .filter "q" "nc" (ends false)),
    ("tail", .filter "q" "nc" (ends true)),
    ("tac", .filter "" "" fun _ text => (endedLines text).reverse.flatten),
    ("rev", .filter "" "" fun _ => onEachLine fun _ line => line.reverse),
    ("cut", .filter "s" "bcdf" fun options => onLines (List.map (cutLine options))),
    ("sort", .filter "nru" "" fun options => onLines (sortLines options)),
    ("uniq", .filter "cdu" "" fun options => onLines (distinctLines options)),
    ("wc", .filter "lwc" "" fun options text =>
      let numbers := counts options text
      let width := if numbers.length = 1 then 0 else 7
      let name := if options.operands.isEmpty then [] else ' ' :: (options.operands.headD "").toList
      List.intercalate [' '] (numbers.map (column width)) ++ name ++ ['\n']),
    ("tr", { known := "cds", act := fun setting options =>
      { output := exchange options setting.input, isFed := true } }),
    ("tee", { known := "a", act := tee }),
    ("rm", { known := "f", act := fun setting options =>
      { files := some (setting.files.filter fun entry => !options.operands.contains entry.1) } }),
    ("grep", { known := "ceiFEnoqv", valued := "e", act := grep }),
    ("sed", { known := "Enr", valued := "e", act := sed })]

/-- What a tool does that reads its options first. -/
def Tool.apply (tool : Tool) (setting : Setting) (args : List String) : Effect :=
  match Options.read tool.known.toList tool.valued.toList (args.length + 1) args {} with
  | .ok options => tool.act setting options
  | .error complaint =>
    setting.refuse 1
      (complaint ++ "\nTry '" ++ setting.name ++ " --help' for more information.")

/-- What the tool of a name does with arguments, if there is one. -/
def tool? (name : String) : Option (Setting → List String → Effect) :=
  match name with
  | "true" | ":" | "sleep" => some fun _ _ => {}
  | "false" => some fun _ _ => { status := 1 }
  | "echo" => some fun _ args =>
    let (args, ending) := if args.head? = some "-n" then (args.drop 1, "") else (args, "\n")
    { output := unescape true (" ".intercalate args ++ ending).toList }
  | "printf" => some fun _ args =>
    let args := if args.head? = some "--" then args.drop 1 else args
    let pattern := patternParts (unescape false (args.headD "").toList)
    { output := printAll pattern (args.length + 1) (args.drop 1) }
  | "seq" => some fun _ args =>
    let bounds := args.filterMap fun arg => number? 10 arg.toList
    let first := if bounds.length = 1 then 1 else bounds.headD 1
    let numbers := (List.range (bounds.getLastD 0 + 1)).filter (first ≤ ·)
    { output := numbers.flatMap fun n => (toString n).toList ++ ['\n'] }
  | "test" => some decideCondition
  | "[" => some fun setting args =>
    if args.getLast? = some "]" then decideCondition setting args.dropLast
    else setting.refuse 2 "missing ]"
  | _ => (tools.lookup name).map fun tool setting args =>
    match args.head?.map String.toList with
    | some ('-' :: c :: more) =>
      -- A number in place of an option is a number of lines.
      if c.isDigit then tool.apply setting ("-n" :: String.ofList (c :: more) :: args.drop 1)
      else tool.apply setting args
    | _ => tool.apply setting args

end DartSource.Script
