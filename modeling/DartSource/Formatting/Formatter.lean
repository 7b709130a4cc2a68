import DartSource.SourceFile
import DartSource.Text.Lossy

/-!
# Formatters

A formatter takes the whole text of a file and gives it back laid out anew, or says why it did
not. The formatter of the language is a program: it is started with arguments, given the source,
and ends with a status, an output and a complaint. Running a program is not the work of this
library; what follows from its outcome is.
-/

namespace DartSource

/-- Why a text was not formatted. -/
inductive FormattingFault where
  /-- The formatter gives a reason of its own. -/
  | refused (reason : String)
  /-- The program could not be started. -/
  | notStarted (program : String)
  /-- The program ended with a status that means failure, and with this complaint. -/
  | failed (complaint : String)
  deriving DecidableEq, Repr, Inhabited

/-- The fault in words. -/
def FormattingFault.message : FormattingFault → String
  | .refused reason => reason
  | .notStarted program => "failed to run " ++ program ++ " format"
  | .failed complaint => "dart format failed:\n" ++ complaint

/-- Lays out a text, or says why not. -/
abbrev Formatter := String → Except FormattingFault String

/-- The formatter that leaves every text as it is. -/
def Formatter.passthrough : Formatter := .ok

/-- The text of the file, formatted if there is a formatter. -/
def SourceFile.formatted (file : SourceFile) (formatter : Option Formatter) :
    Except FormattingFault String :=
  match formatter with
  | some format => format file.render
  | none => .ok file.render

/-- How the run of a program went. -/
inductive Outcome where
  /-- It could not be started. -/
  | notStarted
  /-- It ended with a status, zero meaning success, and with what it wrote. -/
  | ended (status : Nat) (output complaint : List UInt8)
  deriving DecidableEq, Repr, Inhabited

/-- A formatter that is a program. -/
structure ExternalFormatter where
  program : String := "dart"
  /-- The width of the page, if it is not left to the program. -/
  lineLength : Option Nat := none
  deriving DecidableEq, Repr, Inhabited

namespace ExternalFormatter

/-- The arguments that the program is started with. -/
def arguments (formatter : ExternalFormatter) : List String :=
  ["format", "--output=show"] ++
    formatter.lineLength.toList.map fun width => "--line-length=" ++ toString width

/-- What the outcome of the program means. -/
def conclude (formatter : ExternalFormatter) : Outcome → Except FormattingFault String
  | .notStarted => .error (.notStarted formatter.program)
  | .ended status output complaint =>
    if status = 0 then .ok (Text.ofBytes output) else .error (.failed (Text.ofBytes complaint))

/-- The formatter, where `run` says how a program behaves on arguments and an input. -/
def formatter (external : ExternalFormatter)
    (run : String → List String → List UInt8 → Outcome) : Formatter := fun source =>
  external.conclude (run external.program external.arguments (Text.toBytes source))

end ExternalFormatter

end DartSource
