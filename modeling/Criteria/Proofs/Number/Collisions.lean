import Criteria.Proofs.Number.Nearest
import Criteria.Proofs.Refine.Settled

/-!
# Integers that collide as binary64 numbers

In a field of numbers integers are compared by the binary64 numbers nearest to them.  That never turns two of them
around, but different integers may have the same nearest number, from 2 ^ 53 on.  Such integers compare as equal: of two
of them the later one is a duplicate, and no range leads from one to the other unless it includes both.
-/

namespace Criteria

namespace Binary64

open Number

/-! ## Rounding keeps the order -/

theorem nearestEven_bounds (n d : Nat) : n / d ≤ nearestEven n d ∧ nearestEven n d ≤ n / d + 1 := by
  rw [nearestEven]
  split
  · omega
  · split <;> omega

theorem nearestEven_mono {m n : Nat} (d : Nat) (le : m ≤ n) : nearestEven m d ≤ nearestEven n d := by
  have quotients : m / d ≤ n / d := Nat.div_le_div_right le
  rcases Nat.lt_or_eq_of_le quotients with less | same
  · exact ((nearestEven_bounds m d).2.trans less).trans (nearestEven_bounds n d).1
  · have remainders : m % d ≤ n % d := by
      have whole := Nat.div_add_mod m d
      have wholeToo := Nat.div_add_mod n d
      rw [same] at whole
      omega
    rw [nearestEven, nearestEven, same]
    split_ifs <;> omega

/-- What has as many zeros at its end as a number loses bits bounds the nearest whole number if it bounds the number. -/
theorem mul_le_nearestWhole {n k : Nat} (le : k * 2 ^ lostBits n ≤ n) : k * 2 ^ lostBits n ≤ nearestWhole n := by
  refine Nat.mul_le_mul_right _ ?_
  have bound := nearestEven_mono (2 ^ lostBits n) le
  rwa [nearestEven_of_dvd (Nat.two_pow_pos _) (Nat.dvd_mul_left _ k), Nat.mul_div_cancel _ (Nat.two_pow_pos _)] at bound

theorem nearestWhole_le_mul {n k : Nat} (le : n ≤ k * 2 ^ lostBits n) : nearestWhole n ≤ k * 2 ^ lostBits n := by
  refine Nat.mul_le_mul_right _ ?_
  have bound := nearestEven_mono (2 ^ lostBits n) le
  rwa [nearestEven_of_dvd (Nat.two_pow_pos _) (Nat.dvd_mul_left _ k), Nat.mul_div_cancel _ (Nat.two_pow_pos _)] at bound

theorem lostBits_le_log2 (n : Nat) : lostBits n ≤ n.log2 :=
  Nat.sub_le _ _

theorem two_pow_log2_le_nearestWhole {n : Nat} (positive : n ≠ 0) : 2 ^ n.log2 ≤ nearestWhole n := by
  have split : 2 ^ n.log2 = 2 ^ (n.log2 - lostBits n) * 2 ^ lostBits n := by
    rw [← pow_add, Nat.sub_add_cancel (lostBits_le_log2 n)]
  rw [split]
  exact mul_le_nearestWhole (split ▸ Nat.log2_self_le positive)

theorem nearestWhole_le_two_pow (n : Nat) : nearestWhole n ≤ 2 ^ (n.log2 + 1) := by
  have split : 2 ^ (n.log2 + 1) = 2 ^ (n.log2 + 1 - lostBits n) * 2 ^ lostBits n := by
    rw [← pow_add, Nat.sub_add_cancel ((lostBits_le_log2 n).trans (Nat.le_succ _))]
  rw [split]
  exact nearestWhole_le_mul (split ▸ Nat.lt_log2_self.le)

theorem nearestWhole_mono {m n : Nat} (le : m ≤ n) : nearestWhole m ≤ nearestWhole n := by
  rcases Nat.eq_zero_or_pos m with rfl | positive
  · rw [(nearestWhole_eq_self_iff_dvd 0).mpr (Nat.dvd_zero _)]
    exact Nat.zero_le _
  · have filled : n ≠ 0 := by omega
    have bits : m.log2 ≤ n.log2 := (Nat.le_log2 filled).mpr ((Nat.log2_self_le positive.ne').trans le)
    rcases Nat.lt_or_eq_of_le bits with shorter | same
    · calc
        nearestWhole m ≤ 2 ^ (m.log2 + 1) := nearestWhole_le_two_pow m
        _ ≤ 2 ^ n.log2 := Nat.pow_le_pow_right Nat.two_pos shorter
        _ ≤ nearestWhole n := two_pow_log2_le_nearestWhole filled
    · have lost : lostBits m = lostBits n := by rw [lostBits, lostBits, same]
      rw [nearestWhole, nearestWhole, lost]
      exact Nat.mul_le_mul_right _ (nearestEven_mono _ le)

theorem nearestWhole_of_le {n : Nat} (small : n ≤ 2 ^ 53) : nearestWhole n = n := by
  rw [nearestWhole_eq_self_iff]
  rcases Nat.lt_or_eq_of_le small with less | same
  · exact ⟨n, 0, less, (Nat.mul_one n).symm⟩
  · exact ⟨1, 53, by decide, by rw [same, Nat.one_mul]⟩

/-! ## Integers -/

/-- The integer that is nearest to an integer among the binary64 numbers. -/
def nearestInt (n : Int) : Int :=
  signed (decide (n < 0)) (nearestWhole n.natAbs)

/-- Two different integers with the same nearest binary64 number. -/
def Collide (a b : Int) : Prop :=
  a ≠ b ∧ nearestInt a = nearestInt b

theorem nearestInt_mono {a b : Int} (le : a ≤ b) : nearestInt a ≤ nearestInt b := by
  rw [nearestInt, nearestInt, signed, signed]
  by_cases negative : b < 0
  · have below : a < 0 := by omega
    have sizes := nearestWhole_mono (m := b.natAbs) (n := a.natAbs) (by omega)
    rw [decide_eq_true negative, decide_eq_true below, if_pos rfl, if_pos rfl]
    omega
  · rw [decide_eq_false negative, if_neg Bool.false_ne_true]
    split
    · omega
    · rename_i positive
      have above := of_decide_eq_false (Bool.eq_false_iff.mpr positive)
      have sizes := nearestWhole_mono (m := a.natAbs) (n := b.natAbs) (by omega)
      omega

theorem nearestInt_of_natAbs_le {n : Int} (small : n.natAbs ≤ 2 ^ 53) : nearestInt n = n := by
  rw [nearestInt, nearestWhole_of_le small, signed_natAbs]

/-- Rounding takes no integer past one that is a binary64 number itself. -/
theorem collide_natAbs {a b : Int} (collide : Collide a b) :
    2 ^ 53 ≤ a.natAbs ∧ 2 ^ 53 ≤ b.natAbs ∧ (2 ^ 53 < a.natAbs ∨ 2 ^ 53 < b.natAbs) := by
  obtain ⟨differ, same⟩ := collide
  have size (n : Int) : (nearestInt n).natAbs = nearestWhole n.natAbs := natAbs_signed _ _
  have large {n : Nat} (h : 2 ^ 53 ≤ n) : 2 ^ 53 ≤ nearestWhole n := by
    rw [← nearestWhole_of_le (Nat.le_refl (2 ^ 53))]
    exact nearestWhole_mono h
  have sizes : nearestWhole a.natAbs = nearestWhole b.natAbs := by rw [← size, ← size, same]
  have one {m n : Nat} (small : m < 2 ^ 53) (equal : nearestWhole m = nearestWhole n) : n < 2 ^ 53 := by
    by_contra above
    have := large (Nat.le_of_not_lt above)
    rw [← equal, nearestWhole_of_le small.le] at this
    omega
  have exact (ha : a.natAbs ≤ 2 ^ 53) (hb : b.natAbs ≤ 2 ^ 53) : False := by
    rw [nearestInt_of_natAbs_le ha, nearestInt_of_natAbs_le hb] at same
    exact differ same
  refine ⟨?_, ?_, ?_⟩
  · by_contra below
    have := one (Nat.lt_of_not_le below) sizes
    exact exact (by omega) (by omega)
  · by_contra below
    have := one (Nat.lt_of_not_le below) sizes.symm
    exact exact (by omega) (by omega)
  · by_contra within
    exact exact (by omega) (by omega)

theorem compare_nearestInt_of_not_collide {a b : Int} (apart : ¬Collide a b) :
    Ord.compare (nearestInt a) (nearestInt b) = Ord.compare a b := by
  rcases Int.lt_trichotomy a b with less | rfl | greater
  · have differ : nearestInt a ≠ nearestInt b := fun same => apart ⟨by omega, same⟩
    have le := nearestInt_mono less.le
    rw [Int.compare_eq_lt.mpr less, Int.compare_eq_lt]
    omega
  · rw [Int.compare_eq_eq.mpr rfl]
    exact (Int.compare_eq_eq.mpr rfl).symm
  · have differ : nearestInt a ≠ nearestInt b := fun same => apart ⟨by omega, same⟩
    have le := nearestInt_mono greater.le
    rw [Int.compare_eq_gt.mpr greater, Int.compare_eq_gt]
    omega

theorem isWhole_ofInt (n : Int64) : (ofInt n.toInt).IsWhole (decide (n.toInt < 0)) (nearestWhole n.toInt.natAbs) := by
  refine isWhole_ofRatio _ ?_
  have low := n.le_toInt
  have high := n.toInt_lt
  by_cases zero : n.toInt.natAbs = 0
  · rw [zero, Nat.log2_zero]
    exact Nat.zero_le 1000
  · have bits := (Nat.log2_lt zero).mpr (by omega : n.toInt.natAbs < 2 ^ 64)
    omega

end Binary64

/-! ## Fields of numbers -/

open Binary64

namespace Field

variable {field : Field}

theorem compare_integers (numeric : field.order = some .number) (a b : Int64) :
    field.compare (.integer a) (.integer b) = some (Ord.compare (nearestInt a.toInt) (nearestInt b.toInt)) := by
  rw [compare, numeric]
  exact (isWhole_ofInt a).compare (isWhole_ofInt b)

theorem isEqual_integers_iff (numeric : field.order = some .number) (a b : Int64) :
    field.isEqual (.integer a) (.integer b) = true ↔ a = b ∨ Collide a.toInt b.toInt := by
  have compared := compare_integers numeric a b
  rw [compare, numeric, Option.bind_some] at compared
  rw [isEqual, numeric]
  dsimp only
  rw [ValueOrder.isEqual_iff, compared, Option.some.injEq, Int.compare_eq_eq]
  constructor
  · intro same
    by_cases equal : a = b
    · exact .inl equal
    · exact .inr ⟨fun values => equal (Int64.toInt_inj.mp values), same⟩
  · rintro (rfl | ⟨-, same⟩)
    · rfl
    · exact same

/-- Integers compare as integers exactly if they do not collide. -/
theorem compare_integers_eq_iff (numeric : field.order = some .number) (a b : Int64) :
    field.compare (.integer a) (.integer b) = some (Ord.compare a.toInt b.toInt) ↔ ¬Collide a.toInt b.toInt := by
  rw [compare_integers numeric, Option.some.injEq]
  constructor
  · rintro exact ⟨differ, same⟩
    rw [Int.compare_eq_eq.mpr same, eq_comm, Int.compare_eq_eq] at exact
    exact differ exact
  · exact compare_nearestInt_of_not_collide

/-- A range between integers that does not include both is in order exactly if the bounds are and do not collide. -/
theorem checkRange_integers_iff (numeric : field.order = some .number) {r : Range} {a b : Int64}
    (lower : r.lower = .integer a) (upper : r.upper = .integer b)
    (exclusive : ¬(r.includesLower = true ∧ r.includesUpper = true)) :
    field.checkRange r = .ok () ↔ a.toInt < b.toInt ∧ ¬Collide a.toInt b.toInt := by
  have closed : (r.includesLower && r.includesUpper) = false := by
    rw [Bool.eq_false_iff, ne_eq, Bool.and_eq_true]
    exact exclusive
  have ordered : field.inOrder r = true ↔ nearestInt a.toInt < nearestInt b.toInt := by
    rw [inOrder, lower, upper, compare_integers numeric, closed, ← Int.compare_eq_lt]
    cases Ord.compare (nearestInt a.toInt) (nearestInt b.toInt) <;> simp
  have accepted : field.checkRange r = .ok () ↔ field.inOrder r = true := by
    rw [checkRange]
    split <;> simp_all
  rw [accepted, ordered]
  constructor
  · intro less
    have differ : a.toInt ≠ b.toInt := fun same => by rw [same] at less; omega
    have above : ¬b.toInt ≤ a.toInt := fun le => by
      have := nearestInt_mono le
      omega
    exact ⟨by omega, fun collide => by rw [collide.2] at less; omega⟩
  · rintro ⟨less, apart⟩
    have compared := compare_nearestInt_of_not_collide apart
    rw [Int.compare_eq_lt.mpr less] at compared
    exact Int.compare_eq_lt.mp compared

end Field

namespace Refine

variable {field : Field}

/-- Of integers that collide only the first stays in a list of values. -/
theorem pairwise_not_collide (numeric : field.order = some .number) (values : List Single) :
    (distinct (sameSingle field) values).Pairwise fun s t =>
      ∀ a b, s.value = .integer a → t.value = .integer b → a ≠ b ∧ ¬Collide a.toInt b.toInt := by
  refine (pairwise_distinct values).imp fun {s t} apart a b first second => ?_
  have differ : ¬(a = b ∨ Collide a.toInt b.toInt) := by
    rw [← Field.isEqual_integers_iff numeric, ← first, ← second, Bool.not_eq_true]
    exact apart
  exact not_or.mp differ

/-- An integer that is gone from a list of values has left an equal value there; it is the same integer, one that it
collides with, or no integer at all. -/
theorem exists_equal_of_removed (numeric : field.order = some .number) {values : List Single} {s : Single} {a : Int64}
    (mem : s ∈ values) (value : s.value = .integer a) :
    s ∈ distinct (sameSingle field) values ∨
      ∃ k ∈ distinct (sameSingle field) values, field.isEqual k.value (.integer a) = true ∧
        ∀ b, k.value = .integer b → b = a ∨ Collide b.toInt a.toInt := by
  obtain ⟨k, kept, rfl | equal⟩ := exists_kept_of_mem (sameSingle field) [] mem
  · exact .inl kept
  · rw [sameSingle, value] at equal
    refine .inr ⟨k, kept, equal, fun b other => ?_⟩
    rw [other] at equal
    exact (Field.isEqual_integers_iff numeric b a).mp equal

end Refine

/-- In a field of numbers integers compare as integers, and are equal only if they are the same, unless they collide, which
integers below 2 ^ 53 never do.  Of colliding integers only the first stays where duplicates are removed, and an integer
goes only for an equal value, never for another integer that it does not collide with.  A range between integers that
does not include both is refused exactly if its bounds are not in order or collide. -/
theorem Field.integers_exact_iff_not_collide {field : Field} (numeric : field.order = some .number) :
    (∀ a b : Int64,
      (field.compare (.integer a) (.integer b) = some (Ord.compare a.toInt b.toInt) ↔ ¬Collide a.toInt b.toInt) ∧
        (field.isEqual (.integer a) (.integer b) = true ↔ a = b ∨ Collide a.toInt b.toInt)) ∧
      (∀ a b, Collide a b → 2 ^ 53 ≤ a.natAbs ∧ 2 ^ 53 ≤ b.natAbs ∧ (2 ^ 53 < a.natAbs ∨ 2 ^ 53 < b.natAbs)) ∧
      (∀ values : List Single,
        ((Refine.distinct (Refine.sameSingle field) values).Pairwise fun s t =>
          ∀ a b, s.value = .integer a → t.value = .integer b → a ≠ b ∧ ¬Collide a.toInt b.toInt) ∧
        ∀ s ∈ values, ∀ a, s.value = .integer a → s ∈ Refine.distinct (Refine.sameSingle field) values ∨
          ∃ k ∈ Refine.distinct (Refine.sameSingle field) values, field.isEqual k.value (.integer a) = true ∧
            ∀ b, k.value = .integer b → b = a ∨ Collide b.toInt a.toInt) ∧
      ∀ (r : Range) (a b : Int64), r.lower = .integer a → r.upper = .integer b →
        ¬(r.includesLower = true ∧ r.includesUpper = true) →
          (field.checkRange r = .ok () ↔ a.toInt < b.toInt ∧ ¬Collide a.toInt b.toInt) :=
  ⟨fun a b => ⟨compare_integers_eq_iff numeric a b, isEqual_integers_iff numeric a b⟩,
    fun _ _ => collide_natAbs,
    fun values => ⟨Refine.pairwise_not_collide numeric values,
      fun _ mem _ value => Refine.exists_equal_of_removed numeric mem value⟩,
    fun _ _ _ lower upper exclusive => checkRange_integers_iff numeric lower upper exclusive⟩

/-- The first two integers that collide. -/
theorem Binary64.collide_first : Collide 9007199254740992 9007199254740993 :=
  ⟨by decide, by decide +kernel⟩

theorem Field.integers_exact_iff_not_collide_price :
    (number "price" none).order = some .number ∧
      Collide (9007199254740992 : Int64).toInt (9007199254740993 : Int64).toInt ∧
      (number "price" none).isEqual (.integer 9007199254740992) (.integer 9007199254740993) = true := by
  have numeric : (number "price" none).order = some .number := rfl
  have collide : Collide (9007199254740992 : Int64).toInt (9007199254740993 : Int64).toInt := collide_first
  exact ⟨numeric, collide, ((integers_exact_iff_not_collide numeric).1 _ _).2.mpr (.inr collide)⟩

/-- Different integers that a field of numbers takes for the same: the second one is removed as a duplicate of the first,
and the range from one to the other is refused. -/
theorem Field.number_merges_integers :
    (number "price" none).compare (.integer 9007199254740992) (.integer 9007199254740993) = some .eq ∧
      Refine.distinct (Refine.sameSingle (number "price" none))
        [⟨.integer 9007199254740992, "9007199254740992"⟩, ⟨.integer 9007199254740993, "9007199254740993"⟩] =
          [⟨.integer 9007199254740992, "9007199254740992"⟩] ∧
      (number "price" none).checkRange
        ⟨.integer 9007199254740992, .integer 9007199254740993, true, false, "9007199254740992", "9007199254740993"⟩ =
          .error (.invalidRange "9007199254740992" "9007199254740993") := by
  decide +kernel

end Criteria
