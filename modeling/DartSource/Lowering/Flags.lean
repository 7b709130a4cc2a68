import DartSource.Declaration.Supertype
import DartSource.Lowering.Failure
import DartSource.Record.Basic

/-!
# Checking modifiers

Every kind of record accepts a set of keywords, each at most once. The first keyword that is not
accepted or comes again is reported; a keyword that is neither accepted nor new counts as not
accepted. Once the check has passed, the order of the keywords does not matter.
-/

namespace DartSource

/-- The keywords that a kind of record accepts, and what such a record is called. -/
structure Acceptance where
  what : String
  modifiers : List Record.Modifier
  deriving DecidableEq, Repr, Inhabited

namespace Acceptance

/-- Imports can be deferred. -/
def anImport : Acceptance :=
  ⟨"an import", [.deferred]⟩

/-- The keywords of classes. -/
def aClass : Acceptance :=
  ⟨"a class", [.abstract, .base, .interface, .final, .sealed, .mixin]⟩

/-- The keywords of mixins. -/
def aMixin : Acceptance :=
  ⟨"a mixin", [.base, .interface, .final, .sealed]⟩

/-- The keywords of functions. -/
def aFunction : Acceptance :=
  ⟨"a function", [.external, .async, .generator]⟩

/-- The keywords of top-level variables. -/
def aVariable : Acceptance :=
  ⟨"a variable", [.external, .late, .const, .final]⟩

/-- The keywords of fields. -/
def aProperty : Acceptance :=
  ⟨"a property", [.static, .const, .final, .late, .covariant, .external]⟩

/-- The keywords of getters. -/
def aGetter : Acceptance :=
  ⟨"a getter", [.static, .external, .async, .generator]⟩

/-- The keywords of setters. -/
def aSetter : Acceptance :=
  ⟨"a setter", [.static, .external]⟩

/-- The keywords of constructors. -/
def aConstructor : Acceptance :=
  ⟨"a constructor", [.const, .factory, .external]⟩

/-- The keywords of methods. -/
def aMethod : Acceptance :=
  ⟨"a method", [.static, .override, .external, .async, .generator]⟩

/-- The keywords of parameters. -/
def aParameter : Acceptance :=
  ⟨"a parameter", [.named, .optional, .required, .this, .super]⟩

/-- What is wrong with the first keyword that cannot follow those seen before. -/
def misuseAfter? (acceptance : Acceptance) (seen : List Record.Modifier) :
    List Record.Modifier → Option Misuse
  | [] => none
  | modifier :: rest =>
    if modifier ∉ acceptance.modifiers then some (.notAccepted modifier acceptance.what)
    else if modifier ∈ seen then some (.repeated modifier)
    else acceptance.misuseAfter? (seen ++ [modifier]) rest

/-- The keywords are all accepted and distinct. -/
def check (acceptance : Acceptance) (path : RecordPath) (modifiers : List Record.Modifier) :
    Except Failure Unit :=
  match acceptance.misuseAfter? [] modifiers with
  | some cause => .error (.record path cause)
  | none => .ok ()

end Acceptance

namespace Lowering

/-- The keywords that limit how a type may be used. -/
def limits : List (Record.Modifier × ClassModifier) :=
  [(.base, .base), (.interface, .interface), (.final, .final), (.sealed, .sealed)]

/-- The one limit among the keywords, if there is any. More than one make no sense. -/
def limit? (path : RecordPath) (modifiers : List Record.Modifier) :
    Except Failure (Option ClassModifier) :=
  match limits.filter fun limit => limit.1 ∈ modifiers with
  | [] => .ok none
  | [limit] => .ok (some limit.2)
  | _ => .error (.record path .severalLimits)

end Lowering

end DartSource
