import Criteria.Proofs.Meaning
import Mathlib.Algebra.GroupWithZero.Nat
import Mathlib.Algebra.Order.BigOperators.Group.List
import Mathlib.Algebra.Order.Group.Nat

/-!
# Number of entries and depth

A tree has the entries of its bags and those of the groups below it, and it is as deep as the deepest of these groups
and one level more.
-/

namespace Criteria.Group

theorem count_mk (logical : Logical) (fields : Keyed Bag) (groups : List Group) :
    (mk logical fields groups).count =
      (fields.entries.map fun entry => entry.2.count).sum + (groups.map count).sum := by
  rw [count, fold_mk, Keyed.values, List.map_map]
  rfl

theorem foldl_max_le_iff (ns : List Nat) (start bound : Nat) :
    ns.foldl max start ≤ bound ↔ start ≤ bound ∧ ∀ n ∈ ns, n ≤ bound := by
  induction ns generalizing start with
  | nil => simp
  | cons n ns ih => rw [List.foldl_cons, ih, Nat.max_le, List.forall_mem_cons, and_assoc]

theorem depth_le_iff (logical : Logical) (fields : Keyed Bag) (groups : List Group) (bound : Nat) :
    (mk logical fields groups).depth ≤ bound ↔ ∀ g ∈ groups, g.depth < bound := by
  rw [depth, fold_mk, foldl_max_le_iff, List.forall_mem_map, List.forall_mem_map]
  exact and_iff_right (Nat.zero_le bound)

theorem depth_lt_of_mem {logical : Logical} {fields : Keyed Bag} {groups : List Group} {g : Group} (mem : g ∈ groups) :
    g.depth < (mk logical fields groups).depth :=
  (depth_le_iff logical fields groups _).mp (Nat.le_refl _) g mem

end Criteria.Group
