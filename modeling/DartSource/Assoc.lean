/-!
# Association lists in order of first insertion

The library keeps named things in the order in which their names first appeared. Giving a name
again replaces its value and leaves it where it stands.
-/

namespace DartSource.Assoc

/-- Binds a name: at its old place if it has one, at the end otherwise. -/
def put (name : String) (value : α) : List (String × α) → List (String × α)
  | [] => [(name, value)]
  | entry :: rest =>
    if entry.1 = name then (name, value) :: rest else entry :: put name value rest

/-- The value of a name. -/
def get? (name : String) (entries : List (String × α)) : Option α :=
  (entries.find? fun entry => entry.1 == name).map Prod.snd

/-- Binds all entries of a list in turn, so that every name stands where it came first and has the
value that it was given last. -/
def ofList (entries : List (String × α)) : List (String × α) :=
  entries.foldl (fun acc entry => put entry.1 entry.2 acc) []

/-- The same names with the same values, in whatever order, where values are compared by `eq`. Both
lists name each name once. -/
def sameBindings (eq : α → α → Bool) (a b : List (String × α)) : Bool :=
  a.length == b.length && a.all fun entry =>
    match get? entry.1 b with
    | some value => eq entry.2 value
    | none => false

end DartSource.Assoc
