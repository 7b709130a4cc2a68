import DartSource.Layout.Fragment
import DartSource.Member.Rank

/-!
# Arguments and initializers

The arguments of a call, and the entries of a constructor's initializer list. The list is written
with assertions first, then field assignments, then the call of the superclass constructor; a
redirection stands alone.
-/

namespace DartSource

/-- The arguments of a call: positional ones, then labelled ones. Labels may repeat. -/
structure Arguments where
  positional : List String := []
  named : List (String × String) := []
  deriving DecidableEq, Repr, Inhabited

namespace Arguments

/-- There are no arguments. -/
def isEmpty (arguments : Arguments) : Bool :=
  arguments.positional.isEmpty && arguments.named.isEmpty

/-- The arguments, separated by commas. -/
def text (arguments : Arguments) : String :=
  Text.commaSep
    (arguments.positional ++ arguments.named.map fun entry => entry.1 ++ ": " ++ entry.2)

end Arguments

/-- An entry of an initializer list. -/
inductive Initializer where
  /-- `assert(condition)`, perhaps with a message. -/
  | assert (condition : String) (message : Option String)
  /-- `name = value` -/
  | field (name value : String)
  /-- A call of a superclass constructor, the unnamed one if no name is given. -/
  | superCall (constructor : Option String) (arguments : Arguments)
  /-- A call of another constructor of the same class. -/
  | redirect (constructor : Option String) (arguments : Arguments)
  deriving DecidableEq, Repr, Inhabited

namespace Initializer

/-- A redirection. -/
def isRedirect : Initializer → Bool
  | .redirect _ _ => true
  | _ => false

/-- A call of a superclass constructor. -/
def isSuper : Initializer → Bool
  | .superCall _ _ => true
  | _ => false

/-- The field or constructor that an entry names. -/
def target? : Initializer → Option String
  | .assert _ _ => none
  | .field name _ => some name
  | .superCall constructor _ => constructor
  | .redirect constructor _ => constructor

/-- The place of an entry's kind in the list. -/
def rank : Initializer → Nat
  | .assert _ _ => 0
  | .field _ _ => 1
  | .superCall _ _ => 2
  | .redirect _ _ => 3

/-- A call of a constructor through `receiver`. -/
def callText (receiver : String) (constructor : Option String) (arguments : Arguments) : String :=
  receiver ++
    (match constructor with
      | some name => "." ++ name
      | none => "") ++
    "(" ++ arguments.text ++ ")"

/-- The text of an entry. -/
def text : Initializer → String
  | .assert condition (some message) => "assert(" ++ condition ++ ", " ++ message ++ ")"
  | .assert condition none => "assert(" ++ condition ++ ")"
  | .field name value => name ++ " = " ++ value
  | .superCall constructor arguments => callText "super" constructor arguments
  | .redirect constructor arguments => callText "this" constructor arguments

/-- An entry that stands alone. -/
def fragments (entry : Initializer) : List Fragment :=
  [.raw entry.text]

/-- The entries in the order in which they are written. -/
def arrange (entries : List Initializer) : List Initializer :=
  byRank rank 4 entries

end Initializer

end DartSource
