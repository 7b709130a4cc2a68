import DartSource.Member.Accessor
import DartSource.Member.Constructor
import DartSource.Member.Method
import DartSource.Member.Property

/-!
# Members

A member of a type: a field, getter, setter, constructor or method. The body of a type lists its
members in this order of kinds, with an empty line between two neighbours unless both are fields.
-/

namespace DartSource

/-- A member of a class, enum, mixin or extension. -/
inductive Member where
  | property (member : Property)
  | getter (member : Getter)
  | setter (member : Setter)
  | constructor (member : Constructor)
  | method (member : Method)
  deriving DecidableEq, Repr, Inhabited

namespace Member

/-- The place of a member's kind in the body of a type. -/
def rank : Member → Nat
  | .property _ => 0
  | .getter _ => 1
  | .setter _ => 2
  | .constructor _ => 3
  | .method _ => 4

/-- The member as a constructor. -/
def constructor? : Member → Option Constructor
  | .constructor member => some member
  | _ => none

/-- The member is a constructor. -/
def isConstructor (member : Member) : Bool :=
  member.constructor?.isSome

/-- The member is a field. -/
def isProperty : Member → Bool
  | .property _ => true
  | _ => false

/-- The member is a field of the instances. -/
def isInstanceField : Member → Bool
  | .property member => !member.isStatic
  | _ => false

/-- The member with what stands above it. -/
def fragments : Member → List Fragment
  | .property member => member.fragments
  | .getter member => member.fragments
  | .setter member => member.fragments
  | .constructor member => member.fragments
  | .method member => member.fragments

/-- The members in the order of a body. -/
def arrange (members : List Member) : List Member :=
  byRank rank 5 members

/-- Members in the given order, an empty line between two that are not both fields. -/
def spaced : List Member → List Fragment
  | [] => []
  | [last] => last.fragments
  | first :: second :: rest =>
    first.fragments ++
      (if first.isProperty && second.isProperty then [] else [.blank]) ++
      spaced (second :: rest)

/-- The body that members make up. -/
def bodyFragments (members : List Member) : List Fragment :=
  spaced (arrange members)

end Member

end DartSource
