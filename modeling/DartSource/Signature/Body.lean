import DartSource.Layout.Fragment
import DartSource.Rule

/-!
# Bodies

What follows a signature: statements in braces, an expression behind an arrow, or nothing but a
semicolon. The statements and the expression are opaque texts. Which of the three a callable may
have depends on its keywords, and these rules are the same for every kind of callable.
-/

namespace DartSource

/-- A body, as source text. -/
inductive Body where
  /-- Statements in braces. -/
  | block (text : String)
  /-- An expression behind an arrow. -/
  | arrow (expression : String)
  deriving DecidableEq, Repr, Inhabited

namespace Body

/-- The body is an expression. -/
def isArrow : Body → Bool
  | .arrow _ => true
  | .block _ => false

/-- The keyword between a signature and its body, with a space in front of it. -/
def marker (isAsync isGenerator : Bool) : String :=
  match isAsync, isGenerator with
  | false, false => ""
  | true, false => " async"
  | false, true => " sync*"
  | true, true => " async*"

/-- Something external has no body and is neither asynchronous nor a generator; anything else has a
body, and a generator's body is a block. -/
def rules (subject : Subject) (isExternal isAsync isGenerator : Bool) (body : Option Body) :
    List Rule :=
  [subject.must (!(isExternal && body.isSome)) .unexpectedBody,
   subject.exclusive ("external", isExternal) ("async", isAsync),
   subject.exclusive ("external", isExternal) ("generator", isGenerator),
   subject.must (isExternal || body.isSome) .missingBody,
   subject.exclusive ("=>", body.any isArrow) ("generator", isGenerator)]

/-- A signature with its body. A block of blanks counts as empty; otherwise its lines keep their
own indentation, and only the line feeds at its two ends are left out. -/
def attach (signature : String) : Option Body → List Fragment
  | none => [.line (signature ++ ";")]
  | some (.arrow expression) =>
    Fragment.ofText (signature ++ " => " ++ Text.trim expression ++ ";")
  | some (.block text) =>
    if Text.allBlank text then [.line (signature ++ " \x7b\x7d")]
    else
      [.block (signature ++ " \x7b") (Fragment.ofText (Text.trimNewlines text)) (some "\x7d")]

end Body

end DartSource
