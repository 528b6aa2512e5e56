import Criteria.Proofs.ValueOrder
import Criteria.Refine.Distinct

/-!
# Equality of entries

The equalities by which duplicates are found are symmetric and transitive.  But not every value equals itself: a value
that its field does not compare, or that is not a number, equals nothing.
-/

namespace Criteria

/-- An equality that need not hold between an element and itself. -/
structure PartialEquality {α : Type} (same : α → α → Bool) : Prop where
  symm : ∀ a b, same a b = true → same b a = true
  trans : ∀ a b c, same a b = true → same b c = true → same a c = true

namespace PartialEquality

variable {α β : Type} {same : α → α → Bool}

theorem ofDecidableEq [DecidableEq α] : PartialEquality fun a b : α => a == b where
  symm _ _ h := beq_iff_eq.mpr (beq_iff_eq.mp h).symm
  trans _ _ _ hab hbc := beq_iff_eq.mpr ((beq_iff_eq.mp hab).trans (beq_iff_eq.mp hbc))

theorem ofComparison {compare : α → α → Option Ordering} (laws : PartialComparison compare) :
    PartialEquality fun a b => compare a b == some .eq where
  symm _ _ h := beq_iff_eq.mpr (laws.eq_symm (beq_iff_eq.mp h))
  trans _ _ _ hab hbc := beq_iff_eq.mpr (laws.eq_trans (beq_iff_eq.mp hab) (beq_iff_eq.mp hbc))

/-- Equality of a part. -/
theorem onPart (laws : PartialEquality same) (part : β → α) : PartialEquality fun a b => same (part a) (part b) where
  symm a b := laws.symm (part a) (part b)
  trans a b c := laws.trans (part a) (part b) (part c)

/-- Equality in two respects. -/
theorem and {other : α → α → Bool} (first : PartialEquality same) (second : PartialEquality other) :
    PartialEquality fun a b => same a b && other a b where
  symm a b h := by
    rw [Bool.and_eq_true] at h ⊢
    exact ⟨first.symm a b h.1, second.symm a b h.2⟩
  trans a b c hab hbc := by
    rw [Bool.and_eq_true] at hab hbc ⊢
    exact ⟨first.trans a b c hab.1 hbc.1, second.trans a b c hab.2 hbc.2⟩

/-- What is equal can be put in the place of one another. -/
theorem congr_left (laws : PartialEquality same) {a b : α} (equal : same a b = true) (c : α) :
    same a c = same b c := by
  rw [Bool.eq_iff_iff]
  exact ⟨laws.trans b a c (laws.symm a b equal), laws.trans a b c equal⟩

theorem comm (laws : PartialEquality same) (a b : α) : same a b = same b a := by
  rw [Bool.eq_iff_iff]
  exact ⟨laws.symm a b, laws.symm b a⟩

/-- If nothing equals anything in front of it, nothing equals anything behind it either. -/
theorem pairwise_both (laws : PartialEquality same) {xs : List α} (apart : xs.Pairwise fun a b => same a b = false) :
    xs.Pairwise fun a b => same a b = false ∧ same b a = false :=
  apart.imp fun {a b} differs => ⟨differs, (laws.comm b a).trans differs⟩

end PartialEquality

namespace Value

theorem partialEquality_same : PartialEquality same where
  symm a b h := by
    rcases (same_iff a b).mp h with ⟨rfl, -⟩ | ⟨x, y, rfl, rfl, equal⟩
    · exact h
    · exact (same_iff _ _).mpr (.inr ⟨y, x, rfl, rfl, Binary64.partialComparison.eq_symm equal⟩)
  trans a b c hab hbc := by
    rw [same_congr_left hab]
    exact hbc

end Value

namespace Field

theorem partialEquality_isEqual (field : Field) : PartialEquality field.isEqual := by
  cases ordered : field.order with
  | none =>
      have same : field.isEqual = Value.same := by
        funext a b
        rw [isEqual, ordered]
      rw [same]
      exact Value.partialEquality_same
  | some order =>
      have same : field.isEqual = order.isEqual := by
        funext a b
        rw [isEqual, ordered]
      rw [same]
      exact PartialEquality.ofComparison order.partialComparison

end Field

namespace Refine

variable (field : Field)

theorem partialEquality_sameSingle : PartialEquality (sameSingle field) :=
  field.partialEquality_isEqual.onPart Single.value

theorem partialEquality_sameRange : PartialEquality (sameRange field) :=
  (((PartialEquality.ofDecidableEq.onPart Range.includesLower).and
    (PartialEquality.ofDecidableEq.onPart Range.includesUpper)).and
      (field.partialEquality_isEqual.onPart Range.lower)).and (field.partialEquality_isEqual.onPart Range.upper)

theorem partialEquality_sameComparison : PartialEquality (sameComparison field) :=
  (PartialEquality.ofDecidableEq.onPart Comparison.operator).and (field.partialEquality_isEqual.onPart Comparison.value)

end Refine

end Criteria
