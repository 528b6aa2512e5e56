import Criteria.Proofs.Rearranged
import Criteria.Proofs.Refine.Equality
import Criteria.Proofs.Refine.Partition

/-!
# Like entries

Values are alike for a field if they are the same or equal, and entries if they consist of like values.  Like elements
equal the same elements, so that of them as many stay as there were or just one, whichever one of them comes first.
Ranges that contain each other are equal, so that places decide between equal ranges only and the rest depends on what
is contained, which is the same for like ranges.
-/

namespace Criteria

/-! ## Likeness -/

/-- Decides whether two values are the same, or equal for a field. -/
def Field.isAlike (field : Field) (v w : Value) : Bool :=
  v == w || field.isEqual v w

/-- A likeness beside an equality: equal elements are alike, and like elements equal the same elements. -/
structure Likeness {α : Type} (same alike : α → α → Bool) : Prop where
  equivalence : Equivalence fun a b => alike a b = true
  alike_of_same : ∀ a b, same a b = true → alike a b = true
  same_congr : ∀ a b c, alike a b = true → same a c = same b c

namespace Likeness

variable {α β : Type} {same alike : α → α → Bool}

theorem ofDecidableEq [DecidableEq α] : Likeness (fun a b : α => a == b) fun a b => a == b where
  equivalence := {
    refl a := beq_self_eq_true a
    symm h := PartialEquality.ofDecidableEq.symm _ _ h
    trans hab hbc := PartialEquality.ofDecidableEq.trans _ _ _ hab hbc }
  alike_of_same _ _ h := h
  same_congr _ _ _ h := by rw [beq_iff_eq.mp h]

/-- What is the same or equal is alike. -/
theorem orSelf [DecidableEq α] (laws : PartialEquality same) : Likeness same fun a b => a == b || same a b where
  equivalence := {
    refl a := by rw [beq_self_eq_true, Bool.true_or]
    symm {a b} h := by
      rw [Bool.or_eq_true, beq_iff_eq] at h ⊢
      exact h.imp Eq.symm (laws.symm a b)
    trans {a b c} hab hbc := by
      rw [Bool.or_eq_true, beq_iff_eq] at hab
      rcases hab with rfl | hab
      · exact hbc
      · rw [Bool.or_eq_true, beq_iff_eq] at hbc ⊢
        rcases hbc with rfl | hbc
        · exact .inr hab
        · exact .inr (laws.trans a b c hab hbc) }
  alike_of_same a b h := by rw [h, Bool.or_true]
  same_congr a b c h := by
    rw [Bool.or_eq_true, beq_iff_eq] at h
    rcases h with rfl | h
    · rfl
    · exact laws.congr_left h c

/-- Likeness of a part. -/
theorem onPart (laws : Likeness same alike) (part : β → α) :
    Likeness (fun a b => same (part a) (part b)) fun a b => alike (part a) (part b) where
  equivalence := laws.equivalence.comap part
  alike_of_same a b := laws.alike_of_same (part a) (part b)
  same_congr a b c := laws.same_congr (part a) (part b) (part c)

/-- Likeness in two respects. -/
theorem and {same' alike' : α → α → Bool} (first : Likeness same alike) (second : Likeness same' alike') :
    Likeness (fun a b => same a b && same' a b) fun a b => alike a b && alike' a b where
  equivalence := {
    refl a := by rw [Bool.and_eq_true]; exact ⟨first.equivalence.refl a, second.equivalence.refl a⟩
    symm h := by
      rw [Bool.and_eq_true] at h ⊢
      exact h.imp first.equivalence.symm second.equivalence.symm
    trans hab hbc := by
      rw [Bool.and_eq_true] at hab hbc ⊢
      exact ⟨first.equivalence.trans hab.1 hbc.1, second.equivalence.trans hab.2 hbc.2⟩ }
  alike_of_same a b h := by
    rw [Bool.and_eq_true] at h ⊢
    exact h.imp (first.alike_of_same a b) (second.alike_of_same a b)
  same_congr a b c h := by
    rw [Bool.and_eq_true] at h
    rw [first.same_congr a b c h.1, second.same_congr a b c h.2]

end Likeness

theorem Field.likeness_isAlike (field : Field) : Likeness field.isEqual field.isAlike :=
  .orSelf field.partialEquality_isEqual

theorem Field.isAlike_of_eq (field : Field) {v w : Value} (same : v = w) : field.isAlike v w = true := by
  rw [isAlike, same, beq_self_eq_true, Bool.true_or]

namespace Refine

/-- Likeness of single values for a field; views do not count. -/
def alikeSingle (field : Field) (a b : Single) : Bool :=
  field.isAlike a.value b.value

/-- Likeness of ranges for a field: like bounds that belong to the ranges or not in the same way. -/
def alikeRange (field : Field) (a b : Range) : Bool :=
  a.includesLower == b.includesLower && a.includesUpper == b.includesUpper &&
    field.isAlike a.lower b.lower && field.isAlike a.upper b.upper

/-- Likeness of comparisons for a field: one operator and like values. -/
def alikeComparison (field : Field) (a b : Comparison) : Bool :=
  a.operator == b.operator && field.isAlike a.value b.value

section Entries

variable (field : Field)

theorem likeness_alikeSingle : Likeness (sameSingle field) (alikeSingle field) :=
  field.likeness_isAlike.onPart Single.value

theorem likeness_alikeRange : Likeness (sameRange field) (alikeRange field) :=
  (((Likeness.ofDecidableEq.onPart Range.includesLower).and (Likeness.ofDecidableEq.onPart Range.includesUpper)).and
    (field.likeness_isAlike.onPart Range.lower)).and (field.likeness_isAlike.onPart Range.upper)

theorem alikeRange_iff (a b : Range) :
    alikeRange field a b = true ↔ ((a.includesLower = b.includesLower ∧ a.includesUpper = b.includesUpper) ∧
      field.isAlike a.lower b.lower = true) ∧ field.isAlike a.upper b.upper = true := by
  rw [alikeRange, Bool.and_eq_true, Bool.and_eq_true, Bool.and_eq_true, beq_iff_eq, beq_iff_eq]

theorem likeness_alikeComparison : Likeness (sameComparison field) (alikeComparison field) :=
  (Likeness.ofDecidableEq.onPart Comparison.operator).and (field.likeness_isAlike.onPart Comparison.value)

end Entries

/-! ## Duplicates -/

section Duplicates

variable {α : Type} {same alike : α → α → Bool}

/-- What equals nothing is never a duplicate. -/
theorem countP_distinctFrom {p : α → Bool} (unequal : ∀ x, p x = true → ∀ k, same k x = false) (kept xs : List α) :
    (distinctFrom same kept xs).countP p = xs.countP p := by
  induction xs generalizing kept with
  | nil => rfl
  | cons x xs ih =>
      rw [distinctFrom]
      split
      · rename_i found
        obtain ⟨k, -, equal⟩ := List.any_eq_true.mp found
        have other : ¬p x = true := fun h => Bool.false_ne_true ((unequal x h k).symm.trans equal)
        rw [ih, List.countP_cons_of_neg other]
      · rw [List.countP_cons, List.countP_cons, ih]

/-- Of the elements like one that equals itself there is one left if there was any, and of others all. -/
theorem countP_distinct (laws : PartialEquality same) (likeness : Likeness same alike) (a : α) (xs : List α) :
    (distinct same xs).countP (alike a) =
      if same a a then (xs.any (same a)).toNat else xs.countP (alike a) := by
  have congr {b : α} (like : alike a b = true) (c : α) : same a c = same b c := likeness.same_congr a b c like
  split
  · rename_i self
    have like (b : α) : alike a b = same a b := by
      rw [Bool.eq_iff_iff]
      refine ⟨fun h => ?_, likeness.alike_of_same a b⟩
      rw [laws.comm, ← congr h a]
      exact self
    have once : (distinct same xs).Pairwise fun b c => ¬(alike a b = true ∧ alike a c = true) := by
      refine (pairwise_distinct xs).imp fun {b c} differs both => ?_
      rw [like, like] at both
      rw [laws.trans b a c (laws.symm a b both.1) both.2] at differs
      cases differs
    have tells (b c : α) (equal : same b c = true) : same a b = same a c := by
      rw [laws.comm a b, laws.comm a c]
      exact laws.congr_left equal a
    rw [countP_eq_toNat_any once, List.any_congr rfl like, any_distinct tells]
  · rename_i unequal
    refine countP_distinctFrom (fun b like k => ?_) [] xs
    rw [Bool.eq_false_iff]
    -- What equals something equals itself, and what it is like does so too.
    intro equal
    have self := laws.trans b k b (laws.symm k b equal) equal
    rw [← congr like, laws.comm a b, ← congr like] at self
    exact unequal self

theorem rearranged_distinct (laws : PartialEquality same) (likeness : Likeness same alike) {xs ys : List α}
    (h : Rearranged alike xs ys) : Rearranged alike (distinct same xs) (distinct same ys) := by
  rw [Rearranged.iff_countP likeness.equivalence]
  intro a
  have present : xs.any (same a) = ys.any (same a) := h.any_eq fun b c like => by
    rw [laws.comm a b, laws.comm a c, likeness.same_congr b c a like]
  rw [countP_distinct laws likeness, countP_distinct laws likeness, present,
    (Rearranged.iff_countP likeness.equivalence).mp h a]

end Duplicates

/-! ## What ranges contain -/

section Ranges

variable {field : Field} {order : ValueOrder} (ordered : field.order = some order)
include ordered

theorem compare_congr_left {a b : Value} (like : field.isAlike a b = true) (c : Value) :
    field.compare a c = field.compare b c := by
  rw [Field.isAlike, Bool.or_eq_true, beq_iff_eq, Field.isEqual, ordered, order.isEqual_iff] at like
  rw [Field.compare, Field.compare, ordered, Option.bind_some, Option.bind_some]
  rcases like with rfl | equal
  · rfl
  · exact order.partialComparison.congr_left a b c equal

theorem compare_congr {a b c d : Value} (like : field.isAlike a b = true) (likeToo : field.isAlike c d = true) :
    field.compare a c = field.compare b d := by
  have swap (v w : Value) : field.compare v w = (field.compare w v).map Ordering.swap := by
    rw [Field.compare, Field.compare, ordered]
    exact order.partialComparison.swap w v
  rw [compare_congr_left ordered like, swap b c, compare_congr_left ordered likeToo, ← swap]

theorem contains_congr {a b c d : Range} (like : alikeRange field a b = true) (likeToo : alikeRange field c d = true) :
    contains field a c = contains field b d := by
  obtain ⟨⟨⟨includesLower, includesUpper⟩, lower⟩, upper⟩ := (alikeRange_iff field _ _).mp like
  obtain ⟨⟨⟨includesLowerToo, includesUpperToo⟩, lowerToo⟩, upperToo⟩ := (alikeRange_iff field _ _).mp likeToo
  rw [contains, contains, compare_congr ordered lower lowerToo, compare_congr ordered upperToo upper, includesLower,
    includesUpper, includesLowerToo, includesUpperToo]

theorem covers_congr {a b : Range} {v w : Value} (like : alikeRange field a b = true)
    (likeToo : field.isAlike v w = true) : covers field a v = covers field b w := by
  obtain ⟨⟨⟨includesLower, includesUpper⟩, lower⟩, upper⟩ := (alikeRange_iff field _ _).mp like
  rw [covers, covers, compare_congr ordered lower likeToo, compare_congr ordered likeToo upper, includesLower,
    includesUpper]

omit ordered in
/-- Of two bounds neither of which lies further out the values are equal, and both or none belong to their range. -/
theorem bounds_eq {v w : Value} {p q : Bool}
    (here : order.compare v w = some .lt ∨ order.compare v w = some .eq ∧ (q = true → p = true))
    (there : order.compare w v = some .lt ∨ order.compare w v = some .eq ∧ (p = true → q = true)) :
    order.compare v w = some .eq ∧ p = q := by
  have laws := order.partialComparison
  rcases here with less | ⟨equal, implies⟩
  · rcases there with greater | ⟨equal, -⟩
    · exact absurd (laws.lt_trans _ _ _ less greater) (laws.not_lt_self v)
    · exact absurd (laws.lt_of_lt_of_eq less equal) (laws.not_lt_self v)
  · rcases there with greater | ⟨-, implied⟩
    · exact absurd (laws.lt_of_eq_of_lt equal greater) (laws.not_lt_self v)
    · exact ⟨equal, Bool.eq_iff_iff.mpr ⟨implied, implies⟩⟩

/-- Ranges that contain each other are equal. -/
theorem sameRange_of_contains {a b : Range} (first : contains field a b = true) (second : contains field b a = true) :
    sameRange field a b = true := by
  rw [contains_iff ordered] at first second
  obtain ⟨lower, includesLower⟩ := bounds_eq first.1 second.1
  obtain ⟨upper, includesUpper⟩ := bounds_eq second.2 first.2
  rw [sameRange, Bool.and_eq_true, Bool.and_eq_true, Bool.and_eq_true, beq_iff_eq, beq_iff_eq, Field.isEqual,
    Field.isEqual, ordered, order.isEqual_iff, order.isEqual_iff]
  exact ⟨⟨⟨includesLower, includesUpper.symm⟩, lower⟩, upper⟩

/-- A range is superfluous if another one contains it without being contained in it, or if an equal one stands in front
of it. -/
theorem any_outdoes_eq {ranges : List Range} {r : Range} {place : Nat} (placed : (r, place) ∈ ranges.zipIdx) :
    (ranges.zipIdx.any fun other => outdoes field other (r, place)) =
      ((ranges.any fun q => contains field q r && !contains field r q) ||
        (ranges.take place).any fun q => sameRange field q r) := by
  obtain ⟨_, here⟩ := List.getElem?_eq_some_iff.mp (List.mem_zipIdx_iff_getElem?.mp placed)
  rw [Bool.eq_iff_iff, Bool.or_eq_true, List.any_eq_true, List.any_eq_true, List.any_eq_true]
  constructor
  · rintro ⟨⟨q, other⟩, listed, beats⟩
    obtain ⟨-, contained, before⟩ := (outdoes_iff _ _).mp beats
    obtain ⟨inside, there⟩ := List.getElem?_eq_some_iff.mp (List.mem_zipIdx_iff_getElem?.mp listed)
    cases back : contains field r q with
    | false => exact .inl ⟨q, List.fst_mem_of_mem_zipIdx listed, Bool.and_eq_true_iff.mpr ⟨contained, by rw [back]; rfl⟩⟩
    | true =>
        refine .inr ⟨q, ?_, sameRange_of_contains ordered contained back⟩
        exact List.mem_take_iff_getElem.mpr ⟨other, Nat.lt_min.mpr ⟨before back, inside⟩, there⟩
  · rintro (⟨q, listed, beats⟩ | ⟨q, listed, same⟩)
    · rw [Bool.and_eq_true, Bool.not_eq_true'] at beats
      obtain ⟨other, inside, rfl⟩ := List.getElem_of_mem listed
      refine ⟨(ranges[other], other), List.mem_zipIdx_iff_getElem?.mpr (List.getElem?_eq_getElem inside), ?_⟩
      refine (outdoes_iff _ _).mpr ⟨?_, beats.1, fun back => ?_⟩
      · rintro rfl
        rw [here, beats.2] at beats
        cases beats.1
      · rw [beats.2] at back
        cases back
    · obtain ⟨other, earlier, rfl⟩ := List.mem_take_iff_getElem.mp listed
      obtain ⟨before, inside⟩ := Nat.lt_min.mp earlier
      refine ⟨(ranges[other], other), List.mem_zipIdx_iff_getElem?.mpr (List.getElem?_eq_getElem inside), ?_⟩
      exact (outdoes_iff _ _).mpr ⟨Nat.ne_of_gt before, contains_of_sameRange ordered same, fun _ => before⟩

/-- The ranges that stay are the distinct ones that no range contains without being contained in it. -/
theorem dropContained_eq (ranges : List Range) :
    dropContained field ranges =
      (distinct (sameRange field) ranges).filter fun r =>
        !ranges.any fun q => contains field q r && !contains field r q := by
  rw [distinct_eq (partialEquality_sameRange field).trans, dropContained, List.filter_map, List.filter_filter]
  congr 1
  refine List.filter_congr fun entry placed => ?_
  rw [any_outdoes_eq ordered placed, Bool.not_or]
  rfl

theorem rearranged_dropContained {rs qs : List Range} (h : Rearranged (alikeRange field) rs qs) :
    Rearranged (alikeRange field) (dropContained field rs) (dropContained field qs) := by
  rw [dropContained_eq ordered, dropContained_eq ordered]
  refine (rearranged_distinct (partialEquality_sameRange field) (likeness_alikeRange field) h).filter fun r q like => ?_
  rw [h.any_eq fun a b likeToo => ?_]
  rw [contains_congr ordered likeToo like, contains_congr ordered like likeToo]

theorem rearranged_dropCovered {rs qs : List Range} (h : Rearranged (alikeRange field) rs qs) {xs ys : List Single}
    (h' : Rearranged (alikeSingle field) xs ys) :
    Rearranged (alikeSingle field) (dropCovered field rs xs) (dropCovered field qs ys) := by
  refine h'.filter fun a b like => ?_
  rw [h.any_eq fun r q likeToo => covers_congr ordered likeToo like]

end Ranges

end Refine

end Criteria
