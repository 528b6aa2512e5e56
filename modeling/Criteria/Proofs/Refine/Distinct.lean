import Criteria.Proofs.Row
import Criteria.Refine.Distinct

/-!
# Removing duplicates keeps the meaning

Every element of a list has a kept element that is itself or equal to it, so whatever does not tell equal
elements apart sees the same of a list and of its distinct elements.  That holds of how entries come out on a
row, and of what groups say.
-/

namespace Criteria.Refine

variable {α β : Type} {same : α → α → Bool}

theorem sublist_of_distinctFrom (kept xs : List α) : (distinctFrom same kept xs).Sublist xs := by
  induction xs generalizing kept with
  | nil => exact List.Sublist.refl _
  | cons x xs ih =>
      rw [distinctFrom]
      split
      · exact (ih kept).cons x
      · exact (ih (x :: kept)).cons_cons x

theorem distinct_sublist (xs : List α) : (distinct same xs).Sublist xs :=
  sublist_of_distinctFrom [] xs

theorem distinct_subset (xs : List α) : distinct same xs ⊆ xs :=
  (distinct_sublist xs).subset

/-- Every element is kept, or equal to one that is. -/
theorem exists_kept_of_mem (same : α → α → Bool) (kept : List α) {xs : List α} {x : α} (mem : x ∈ xs) :
    ∃ k ∈ kept ++ distinctFrom same kept xs, k = x ∨ same k x = true := by
  induction xs generalizing kept with
  | nil => cases mem
  | cons y xs ih =>
      rw [distinctFrom]
      split
      · rename_i found
        cases mem with
        | head =>
            obtain ⟨k, hk, equal⟩ := List.any_eq_true.mp found
            exact ⟨k, List.mem_append_left _ hk, .inr equal⟩
        | tail _ mem => exact ih kept mem
      · cases mem with
        | head => exact ⟨x, List.mem_append_right _ List.mem_cons_self, .inl rfl⟩
        | tail _ mem =>
            obtain ⟨k, hk, equal⟩ := ih (y :: kept) mem
            refine ⟨k, ?_, equal⟩
            rw [List.cons_append, List.mem_cons, List.mem_append] at hk
            rw [List.mem_append, List.mem_cons]
            rcases hk with rfl | hk | hk
            · exact .inr (.inl rfl)
            · exact .inl hk
            · exact .inr (.inr hk)

/-- What does not tell equal elements apart takes the same values on the distinct elements. -/
theorem mem_map_distinct {f : α → β} (congr : ∀ a b, same a b = true → f a = f b) (xs : List α) (y : β) :
    y ∈ (distinct same xs).map f ↔ y ∈ xs.map f := by
  constructor
  · exact fun mem => List.map_subset f (distinct_subset xs) mem
  · intro mem
    obtain ⟨x, hx, rfl⟩ := List.mem_map.mp mem
    obtain ⟨k, hk, equal⟩ := exists_kept_of_mem same [] hx
    refine List.mem_map.mpr ⟨k, hk, ?_⟩
    rcases equal with rfl | equal
    · rfl
    · exact congr k x equal

theorem any_distinct {f : α → Bool} (congr : ∀ a b, same a b = true → f a = f b) (xs : List α) :
    (distinct same xs).any f = xs.any f := by
  have mem := mem_map_distinct congr xs true
  rw [List.mem_map, List.mem_map] at mem
  rw [Bool.eq_iff_iff, List.any_eq_true, List.any_eq_true]
  exact mem

theorem distinct_eq_nil_iff (xs : List α) : distinct same xs = [] ↔ xs = [] := by
  constructor
  · intro empty
    refine List.eq_nil_iff_forall_not_mem.mpr fun x mem => ?_
    obtain ⟨k, hk, -⟩ := exists_kept_of_mem same [] mem
    rw [List.nil_append, ← distinct, empty] at hk
    cases hk
  · rintro rfl
    rfl

theorem isEmpty_distinct (xs : List α) : (distinct same xs).isEmpty = xs.isEmpty := by
  rw [Bool.eq_iff_iff, List.isEmpty_iff, List.isEmpty_iff, distinct_eq_nil_iff]

/-! ## Entries -/

/-- Entries that are equal for a field come out alike. -/
structure Respects (field : Field) (t : Tests) : Prop where
  equals : ∀ a b, field.isEqual a b = true → t.equals a = t.equals b
  within : ∀ a b, sameRange field a b = true → t.within a = t.within b
  passes : ∀ a b, sameComparison field a b = true → t.passes a = t.passes b

/-- Rows respect the fields of their schema. -/
theorem respects_of_field? (row : Row) {schema : Schema} {name : String} {field : Field}
    (found : schema.field? name = some field) : Respects field (row.tests schema name) := by
  cases ordered : field.order with
  | none =>
      have equal (a b : Value) : field.isEqual a b = a.same b := by rw [Field.isEqual, ordered]
      have lawful := row.tests_lawful schema name
      refine {
        equals := fun a b h => lawful.equals_congr a b (equal a b ▸ h)
        within := fun a b h => lawful.within_congr a b ?_
        passes := fun a b h => lawful.passes_congr a b ?_ }
      · simp only [sameRange, equal, Bool.and_eq_true, beq_iff_eq] at h
        simp [Range.same, h]
      · simp only [sameComparison, equal, Bool.and_eq_true, beq_iff_eq] at h
        simp [Comparison.same, h]
  | some order =>
      have alike {a b : Value} (h : field.isEqual a b = true) (c : Value) :
          order.compare a c = order.compare b c := by
        rw [Field.isEqual, ordered, ValueOrder.isEqual_iff] at h
        exact order.partialComparison.congr_left a b c h
      rw [row.tests_of_order found ordered]
      refine {
        equals := fun a b h => order.isEqual_congr _ (alike h)
        within := fun a b h => ?_
        passes := fun a b h => ?_ }
      · simp only [sameRange, Bool.and_eq_true, beq_iff_eq] at h
        rcases h with ⟨⟨⟨hlower, hupper⟩, lower⟩, upper⟩
        exact order.within_congr _ (alike lower) (alike upper) hlower hupper
      · simp only [sameComparison, Bool.and_eq_true, beq_iff_eq] at h
        exact order.passes_congr _ (alike h.2) h.1

/-- A bag without duplicates says the same. -/
theorem agree_distinctBag {field : Field} {t : Tests} (respects : Respects field t) (bag : Bag) :
    t.Agree (distinctBag field bag) bag := by
  have operators (c d : Comparison) (h : sameComparison field c d = true) : c.operator = d.operator := by
    simp only [sameComparison, Bool.and_eq_true, beq_iff_eq] at h
    exact h.1
  have values (c d : Comparison) (h : sameComparison field c d = true) :
      t.equals c.value = t.equals d.value := by
    simp only [sameComparison, Bool.and_eq_true] at h
    exact respects.equals _ _ h.2
  have same (m n : TextMatch) (h : (m == n) = true) : m = n := beq_iff_eq.mp h
  constructor
  · rw [Bool.eq_iff_iff, Bag.isEmpty_iff, Bag.isEmpty_iff]
    simp only [distinctBag, distinct_eq_nil_iff]
  · have widens : (distinctBag field bag).widens = bag.widens := by
      simp only [Bag.widens, distinctBag, isEmpty_distinct]
      rw [any_distinct (fun c d h => by rw [operators c d h]),
        any_distinct (fun m n h => by rw [same m n h])]
    have admits : t.admits (distinctBag field bag) = t.admits bag := by
      simp only [Tests.admits, distinctBag]
      rw [any_distinct (fun a b h => respects.equals a.value b.value h),
        any_distinct respects.within,
        any_distinct (fun c d h => by rw [operators c d h, respects.passes c d h]),
        any_distinct (fun m n h => by rw [same m n h])]
    have refuses : t.refuses (distinctBag field bag) = t.refuses bag := by
      simp only [Tests.refuses, distinctBag]
      rw [any_distinct (fun a b h => respects.equals a.value b.value h),
        any_distinct respects.within,
        any_distinct (fun c d h => by rw [operators c d h, values c d h]),
        any_distinct (fun m n h => by rw [same m n h])]
    rw [Tests.accepts, Tests.accepts, widens, admits, refuses]

/-! ## Groups -/

theorem distinctGroups_mk (logical : Logical) (fields : Keyed Bag) (groups : List Group) :
    distinctGroups (.mk logical fields groups) =
      .mk logical fields (distinct Group.same (groups.map distinctGroups)) := by
  rw [distinctGroups, Group.fold_mk]

/-- A tree without duplicate groups says the same. -/
theorem meaning_distinctGroups {tests : String → Tests} (lawful : ∀ name, (tests name).Lawful)
    (group : Group) : (distinctGroups group).meaning tests = group.meaning tests := by
  induction group with
  | step logical fields groups ih =>
      have below : groups.filterMap (Group.meaning tests) =
          (groups.map distinctGroups).filterMap (Group.meaning tests) := by
        rw [List.filterMap_map]
        exact List.filterMap_congr fun g mem => (ih g mem).symm
      rw [distinctGroups_mk, Group.meaning_mk, Group.meaning_mk, below]
      refine Logical.combine_congr _ fun b => ?_
      have mem := mem_map_distinct (fun a b => Group.meaning_of_same lawful (a := a) (b := b))
        (groups.map distinctGroups) (some b)
      rw [List.mem_map, List.mem_map] at mem
      rw [List.mem_append, List.mem_append, List.mem_filterMap, List.mem_filterMap, mem]

theorem allBags_distinctGroups {P : String → Bag → Prop} {group : Group} (all : group.AllBags P) :
    (distinctGroups group).AllBags P := by
  induction group with
  | step logical fields groups ih =>
      rw [Group.allBags_mk] at all
      rw [distinctGroups_mk, Group.allBags_mk]
      refine ⟨all.1, fun g mem => ?_⟩
      obtain ⟨child, hchild, rfl⟩ := List.mem_map.mp (distinct_subset _ mem)
      exact ih child hchild (all.2 child hchild)

end Criteria.Refine
