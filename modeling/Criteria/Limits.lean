/-!
# Limits

How large a condition may grow: the entries about one field in one group, the groups directly below a group,
and the levels below the root.
-/

namespace Criteria

/-- The limits on a condition. -/
structure Limits where
  maxEntries : Nat
  maxGroups : Nat
  maxNesting : Nat
  deriving DecidableEq

namespace Limits

/-- The limits where none are given. -/
def standard : Limits :=
  ⟨10000, 100, 100⟩

instance : Inhabited Limits := ⟨standard⟩

end Limits

end Criteria
