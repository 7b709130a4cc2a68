/-!
# Arranging by rank

Members of a type and initializers of a constructor are laid out by kind, and each kind keeps the
order in which its members were given. `byRank` collects the ranks one after the other.
-/

namespace DartSource

/-- The items of rank zero, then those of rank one, and so on below `count`, each rank in the given
order. -/
def byRank (rank : α → Nat) (count : Nat) (items : List α) : List α :=
  (List.range count).flatMap fun r => items.filter fun item => rank item == r

end DartSource
