import Criteria.Field.ValueOrder
import Mathlib.Data.Int.Order.Basic
import Mathlib.Tactic.Linarith
import Mathlib.Tactic.Ring

/-!
# Laws of the orders of values

An order compares some pairs of values and leaves others alone.  Where it compares, it behaves as a linear
order: reversing a pair reverses the answer, lower is transitive, and values that compare as equal are
interchangeable.  The same holds of equality of values, and every order treats equal values alike.
-/

namespace Criteria

/-- What a comparison that may have no answer must satisfy to be an order where it has one. -/
structure PartialComparison {α : Type} (compare : α → α → Option Ordering) : Prop where
  swap : ∀ a b, compare b a = (compare a b).map Ordering.swap
  lt_trans : ∀ a b c, compare a b = some .lt → compare b c = some .lt → compare a c = some .lt
  congr_left : ∀ a b c, compare a b = some .eq → compare a c = compare b c

namespace PartialComparison

variable {α : Type} {compare : α → α → Option Ordering}

/-- A comparison with an answer for every pair. -/
theorem ofTotal (cmp : α → α → Ordering) [Std.TransCmp cmp] :
    PartialComparison fun a b => some (cmp a b) where
  swap a b := congrArg some Std.OrientedCmp.eq_swap
  lt_trans a b c hab hbc := by
    simp only [Option.some.injEq] at hab hbc ⊢
    exact Std.TransCmp.lt_trans hab hbc
  congr_left a b c hab := by
    simp only [Option.some.injEq] at hab ⊢
    exact Std.TransCmp.congr_left hab

/-- A comparison of some elements by a key; the others do not compare. -/
theorem onKey {β : Type} {cmp : β → β → Option Ordering} (laws : PartialComparison cmp)
    (key : α → Option β) :
    PartialComparison fun a b =>
      match key a, key b with
      | some i, some j => cmp i j
      | _, _ => none where
  swap a b := by
    cases key a with
    | none => cases key b <;> rfl
    | some i =>
        cases key b with
        | none => rfl
        | some j => exact laws.swap i j
  lt_trans a b c hab hbc := by
    cases ha : key a with
    | none => simp [ha] at hab
    | some i =>
        cases hb : key b with
        | none => simp [ha, hb] at hab
        | some j =>
            cases hc : key c with
            | none => simp [hb, hc] at hbc
            | some k =>
                simp only [ha, hb, hc] at hab hbc ⊢
                exact laws.lt_trans i j k hab hbc
  congr_left a b c hab := by
    cases ha : key a with
    | none => simp [ha] at hab
    | some i =>
        cases hb : key b with
        | none => simp [ha, hb] at hab
        | some j =>
            simp only [ha, hb] at hab ⊢
            cases key c with
            | none => rfl
            | some k => exact laws.congr_left i j k hab

/-- Two comparisons side by side, of elements of two sorts that do not compare with each other. -/
def beside {β γ : Type} (left : β → β → Option Ordering) (right : γ → γ → Option Ordering) :
    β ⊕ γ → β ⊕ γ → Option Ordering
  | .inl a, .inl b => left a b
  | .inr a, .inr b => right a b
  | _, _ => none

theorem besideLaws {β γ : Type} {left : β → β → Option Ordering} {right : γ → γ → Option Ordering}
    (leftLaws : PartialComparison left) (rightLaws : PartialComparison right) :
    PartialComparison (beside left right) where
  swap a b := by
    cases a with
    | inl a =>
        cases b with
        | inl b => exact leftLaws.swap a b
        | inr b => rfl
    | inr a =>
        cases b with
        | inl b => rfl
        | inr b => exact rightLaws.swap a b
  lt_trans a b c hab hbc := by
    cases a with
    | inl a =>
        cases b with
        | inr b => cases hab
        | inl b =>
            cases c with
            | inr c => cases hbc
            | inl c => exact leftLaws.lt_trans a b c hab hbc
    | inr a =>
        cases b with
        | inl b => cases hab
        | inr b =>
            cases c with
            | inl c => cases hbc
            | inr c => exact rightLaws.lt_trans a b c hab hbc
  congr_left a b c hab := by
    cases a with
    | inl a =>
        cases b with
        | inr b => cases hab
        | inl b =>
            cases c with
            | inl c => exact leftLaws.congr_left a b c hab
            | inr c => rfl
    | inr a =>
        cases b with
        | inl b => cases hab
        | inr b =>
            cases c with
            | inl c => rfl
            | inr c => exact rightLaws.congr_left a b c hab

theorem congr_right (laws : PartialComparison compare) {a b : α} (c : α)
    (hab : compare a b = some .eq) : compare c a = compare c b := by
  rw [laws.swap a c, laws.swap b c, laws.congr_left a b c hab]

theorem eq_symm (laws : PartialComparison compare) {a b : α} (hab : compare a b = some .eq) :
    compare b a = some .eq := by
  rw [laws.swap a b, hab]
  rfl

theorem eq_trans (laws : PartialComparison compare) {a b c : α} (hab : compare a b = some .eq)
    (hbc : compare b c = some .eq) : compare a c = some .eq := by
  rw [laws.congr_left a b c hab, hbc]

theorem lt_of_eq_of_lt (laws : PartialComparison compare) {a b c : α} (hab : compare a b = some .eq)
    (hbc : compare b c = some .lt) : compare a c = some .lt := by
  rw [laws.congr_left a b c hab, hbc]

theorem lt_of_lt_of_eq (laws : PartialComparison compare) {a b c : α} (hab : compare a b = some .lt)
    (hbc : compare b c = some .eq) : compare a c = some .lt := by
  rw [← laws.congr_right a hbc, hab]

theorem not_lt_self (laws : PartialComparison compare) (a : α) : compare a a ≠ some .lt := by
  intro h
  have swapped := laws.swap a a
  rw [h] at swapped
  cases swapped

end PartialComparison

/-! ## Numbers -/

namespace Binary64

/-- A count of smaller units is a multiple of the count of greater ones. -/
theorem scaled_eq_mul (negative : Bool) (m : Nat) {e u w : Int} (huw : u ≤ w) (hwe : w ≤ e) :
    scaled negative m e u = scaled negative m e w * 2 ^ (w - u).toNat := by
  have split : (e - u).toNat = (e - w).toNat + (w - u).toNat := by omega
  unfold scaled
  rw [split, Nat.pow_eq, Nat.pow_eq, pow_add]
  cases negative <;> simp <;> ring

/-- Multiplying both sides by a power of two keeps their order. -/
theorem compare_mul_two_pow (x y : Int) (k : Nat) :
    Ord.compare (x * 2 ^ k) (y * 2 ^ k) = Ord.compare x y := by
  have positive : (0 : Int) < 2 ^ k := by positivity
  cases h : Ord.compare x y with
  | lt =>
      rw [Int.compare_eq_lt] at h ⊢
      exact Int.mul_lt_mul_of_pos_right h positive
  | eq =>
      rw [Int.compare_eq_eq] at h ⊢
      rw [h]
  | gt =>
      rw [Int.compare_eq_gt] at h ⊢
      exact Int.mul_lt_mul_of_pos_right h positive

/-- Two finite numbers compare as their counts of any unit that is small enough for both. -/
theorem compare_finite (a b : Bool) (m n : Nat) {e f u : Int} (hue : u ≤ e) (huf : u ≤ f) :
    compare (.finite a m e) (.finite b n f) =
      some (Ord.compare (scaled a m e u) (scaled b n f u)) := by
  have hu : u ≤ min e f := by omega
  rw [scaled_eq_mul a m hu (by omega), scaled_eq_mul b n hu (by omega), compare_mul_two_pow]
  rfl

theorem compare_lt_trans (x y z : Binary64) (hxy : x.compare y = some .lt)
    (hyz : y.compare z = some .lt) : x.compare z = some .lt := by
  cases x with
  | nan => simp [compare] at hxy
  | infinite a =>
      cases y with
      | nan => simp [compare] at hxy
      | infinite b =>
          cases z with
          | nan => simp [compare] at hyz
          | infinite c => revert hxy hyz; cases a <;> cases b <;> cases c <;> simp [compare]
          | finite c k g => revert hxy hyz; cases a <;> cases b <;> simp [compare]
      | finite b n f =>
          cases z with
          | nan => simp [compare] at hyz
          | infinite c => revert hxy hyz; cases a <;> cases c <;> simp [compare]
          | finite c k g => revert hxy; cases a <;> simp [compare]
  | finite a m e =>
      cases y with
      | nan => simp [compare] at hxy
      | infinite b =>
          cases z with
          | nan => simp [compare] at hyz
          | infinite c => revert hxy hyz; cases b <;> cases c <;> simp [compare]
          | finite c k g => revert hxy hyz; cases b <;> simp [compare]
      | finite b n f =>
          cases z with
          | nan => simp [compare] at hyz
          | infinite c => revert hyz; cases c <;> simp [compare]
          | finite c k g =>
              have unit : ∃ u, u ≤ e ∧ u ≤ f ∧ u ≤ g := ⟨min e (min f g), by omega⟩
              rcases unit with ⟨u, hue, huf, hug⟩
              rw [compare_finite a b m n hue huf, Option.some.injEq, Int.compare_eq_lt] at hxy
              rw [compare_finite b c n k huf hug, Option.some.injEq, Int.compare_eq_lt] at hyz
              rw [compare_finite a c m k hue hug, Option.some.injEq, Int.compare_eq_lt]
              exact Int.lt_trans hxy hyz

theorem compare_congr_left (x y z : Binary64) (hxy : x.compare y = some .eq) :
    x.compare z = y.compare z := by
  cases x with
  | nan => simp [compare] at hxy
  | infinite a =>
      cases y with
      | nan => simp [compare] at hxy
      | infinite b =>
          have same : a = b := by
            revert hxy
            cases a <;> cases b <;> simp [compare]
          rw [same]
      | finite b n f => revert hxy; cases a <;> simp [compare]
  | finite a m e =>
      cases y with
      | nan => simp [compare] at hxy
      | infinite b => revert hxy; cases b <;> simp [compare]
      | finite b n f =>
          cases z with
          | nan => rfl
          | infinite c => rfl
          | finite c k g =>
              have unit : ∃ u, u ≤ e ∧ u ≤ f ∧ u ≤ g := ⟨min e (min f g), by omega⟩
              rcases unit with ⟨u, hue, huf, hug⟩
              rw [compare_finite a b m n hue huf, Option.some.injEq, Int.compare_eq_eq] at hxy
              rw [compare_finite a c m k hue hug, compare_finite b c n k huf hug, hxy]

theorem compare_swap (x y : Binary64) : y.compare x = (x.compare y).map Ordering.swap := by
  cases x with
  | nan => cases y <;> rfl
  | infinite a =>
      cases y with
      | nan => rfl
      | infinite b => cases a <;> cases b <;> rfl
      | finite b n f => cases a <;> rfl
  | finite a m e =>
      cases y with
      | nan => rfl
      | infinite b => cases b <;> rfl
      | finite b n f =>
          have unit : ∃ u, u ≤ e ∧ u ≤ f := ⟨min e f, by omega⟩
          rcases unit with ⟨u, hue, huf⟩
          rw [compare_finite a b m n hue huf, compare_finite b a n m huf hue]
          exact congrArg some Std.OrientedOrd.eq_swap

theorem partialComparison : PartialComparison compare :=
  ⟨compare_swap, compare_lt_trans, compare_congr_left⟩

end Binary64

/-! ## Dates and date-times -/

instance : Std.TransCmp Date.compare :=
  inferInstanceAs (Std.TransCmp
    (compareLex (compareOn Date.year) (compareLex (compareOn Date.month) (compareOn Date.day))))

instance : Std.TransCmp TimeOfDay.compare :=
  inferInstanceAs (Std.TransCmp
    (compareLex (compareOn TimeOfDay.hour) (compareLex (compareOn TimeOfDay.minute)
      (compareLex (compareOn TimeOfDay.second) (compareOn TimeOfDay.nanosecond)))))

instance : Std.TransCmp Moment.compare :=
  have : Std.TransCmp fun a b : Moment => a.date.compare b.date :=
    { eq_swap {a b} := @Std.OrientedCmp.eq_swap _ Date.compare _ a.date b.date
      isLE_trans {a b c} := @Std.TransCmp.isLE_trans _ Date.compare _ a.date b.date c.date }
  have : Std.TransCmp fun a b : Moment => a.time.compare b.time :=
    { eq_swap {a b} := @Std.OrientedCmp.eq_swap _ TimeOfDay.compare _ a.time b.time
      isLE_trans {a b c} := @Std.TransCmp.isLE_trans _ TimeOfDay.compare _ a.time b.time c.time }
  inferInstanceAs (Std.TransCmp (compareLex (fun a b : Moment => a.date.compare b.date)
    fun a b : Moment => a.time.compare b.time))

/-! ## Values -/

namespace ValueOrder

/-- The integer of an integer value, or the date of a date. -/
def birthdayKey? : Value → Option (Int ⊕ Date)
  | .integer n => some (.inl n.toInt)
  | .date d => some (.inr d)
  | _ => none

/-- The date of a date, or the date-time of a date-time. -/
def dateKey? : Value → Option (Date ⊕ Moment)
  | .date d => some (.inl d)
  | .moment m => some (.inr m)
  | _ => none

/-- Every order is an order where it compares. -/
theorem partialComparison (order : ValueOrder) : PartialComparison order.compare := by
  cases order with
  | integer =>
      have laws := (PartialComparison.ofTotal (Ord.compare : Int → Int → Ordering)).onKey
        fun v : Value => v.integer?.map Int64.toInt
      convert laws using 1
      funext a b
      cases a <;> cases b <;> rfl
  | number =>
      have laws := Binary64.partialComparison.onKey number?
      convert laws using 1
      funext a b
      cases a <;> cases b <;> rfl
  | date =>
      have laws := ((PartialComparison.ofTotal Date.compare).besideLaws
        (PartialComparison.ofTotal Moment.compare)).onKey dateKey?
      convert laws using 1
      funext a b
      cases a <;> cases b <;> rfl
  | text =>
      have laws := (PartialComparison.ofTotal (Ord.compare : String → String → Ordering)).onKey
        Value.string?
      convert laws using 1
      funext a b
      cases a <;> cases b <;> rfl
  | birthday =>
      have laws := ((PartialComparison.ofTotal (Ord.compare : Int → Int → Ordering)).besideLaws
        (PartialComparison.ofTotal Date.compare)).onKey birthdayKey?
      convert laws using 1
      funext a b
      cases a <;> cases b <;> rfl

end ValueOrder

namespace Value

/-- Equality of values can be told from the answer to a comparison of floats. -/
theorem same_iff (a b : Value) :
    a.same b = true ↔ a = b ∧ (∀ x, a ≠ .float x) ∨
      ∃ x y, a = .float x ∧ b = .float y ∧ x.compare y = some .eq := by
  cases a <;> cases b <;> simp [same, Binary64.same]

/-- Equal values are equal to the same values. -/
theorem same_congr_left {a b : Value} (h : a.same b = true) (c : Value) : a.same c = b.same c := by
  rw [same_iff] at h
  rcases h with ⟨rfl, -⟩ | ⟨x, y, rfl, rfl, equal⟩
  · rfl
  · cases c with
    | float z => simp only [same, Binary64.same, Binary64.compare_congr_left x y z equal]
    | _ => rfl

end Value

/-- Every order treats equal values alike. -/
theorem ValueOrder.compare_congr_of_same (order : ValueOrder) {a b : Value} (h : a.same b = true)
    (c : Value) : order.compare a c = order.compare b c := by
  rw [Value.same_iff] at h
  rcases h with ⟨rfl, -⟩ | ⟨x, y, rfl, rfl, equal⟩
  · rfl
  · cases order with
    | number =>
        simp only [compare, number?]
        cases c with
        | float z => exact Binary64.compare_congr_left x y z equal
        | integer n => exact Binary64.compare_congr_left x y _ equal
        | _ => rfl
    | _ => cases c <;> rfl

end Criteria
