import DartSource.Fault
import DartSource.Record.Modifier

/-!
# Failures of descriptions

Why a description does not give a file. Either its text cannot be had or read, or one of its
records is at fault: by itself, because what it says makes no sense, or because the node that it
describes breaks a rule. A failure of a record carries the path to the record.
-/

namespace DartSource

/-- The notations of descriptions. -/
inductive Format where
  | json
  | toml
  deriving DecidableEq, Repr, Inhabited

/-! ### Paths -/

/-- A step from a record to one inside it. -/
inductive RecordPath.Step where
  /-- To the record in a field. -/
  | field (name : String)
  /-- To a record in a list. -/
  | item (name : String) (index : Nat)
  deriving DecidableEq, Repr, Inhabited

/-- The way from a library to one of its records. -/
structure RecordPath where
  steps : List RecordPath.Step := []
  deriving DecidableEq, Repr, Inhabited

namespace RecordPath

/-- A step as it is written. -/
def Step.text : Step → String
  | .field name => name
  | .item name index => name ++ "[" ++ toString index ++ "]"

/-- The path to the record in a field. -/
def field (path : RecordPath) (name : String) : RecordPath :=
  ⟨path.steps ++ [.field name]⟩

/-- The path to a record in a list. -/
def item (path : RecordPath) (name : String) (index : Nat) : RecordPath :=
  ⟨path.steps ++ [.item name index]⟩

/-- The steps with dots between them. -/
def text (path : RecordPath) : String :=
  ".".intercalate (path.steps.map Step.text)

end RecordPath

/-! ### Failures -/

/-- What a record may say that makes no sense, whatever node it describes. -/
inductive Misuse where
  /-- A keyword that records of this kind do not have. -/
  | notAccepted (modifier : Record.Modifier) (what : String)
  /-- A keyword that is given twice. -/
  | repeated (modifier : Record.Modifier)
  /-- More than one keyword that limits how a type may be used. -/
  | severalLimits
  /-- An initial value as an expression and as a constant. -/
  | twoValues
  /-- An owner whose library name is empty. -/
  | emptyLibraryName
  deriving DecidableEq, Repr, Inhabited

/-- The misuse in words. -/
def Misuse.message : Misuse → String
  | .notAccepted modifier what => "modifier '" ++ modifier.text ++ "' is not accepted on " ++ what
  | .repeated modifier => "modifier '" ++ modifier.text ++ "' is repeated"
  | .severalLimits => "at most one of 'base', 'interface', 'final' and 'sealed' may be given"
  | .twoValues => "'default' and 'value' cannot both be set"
  | .emptyLibraryName => "library name is empty"

/-- Why a description does not give a file. -/
inductive Failure where
  /-- The file of that name cannot be read. -/
  | unreadable (file : String)
  /-- The text is no description in its notation. -/
  | malformed (format : Format)
  /-- The record makes no sense. -/
  | record (path : RecordPath) (cause : Misuse)
  /-- The node that the record describes cannot be built. -/
  | build (path : RecordPath) (cause : Fault)
  deriving DecidableEq, Repr, Inhabited

namespace Failure

/-- The message of a failure. The cause of a node that cannot be built has a message of its own. -/
def message : Failure → String
  | .unreadable file => "failed to read '" ++ file ++ "'"
  | .malformed _ => "failed to parse library description"
  | .record path cause => "invalid record at '" ++ path.text ++ "': " ++ cause.message
  | .build path _ => "cannot build '" ++ path.text ++ "'"

/-- The code of a failure. -/
def code : Failure → String
  | .unreadable _ => "dartgen::io"
  | .malformed .json => "dartgen::json_error"
  | .malformed .toml => "dartgen::parse_error"
  | .record _ _ => "dartgen::invalid_record"
  | .build _ _ => "dartgen::lower_error"

/-- Advice for the one who wrote the description. -/
def help? : Failure → Option String
  | .build _ _ => some "the record describes Dart that would not compile; see the cause below"
  | _ => none

end Failure

end DartSource
