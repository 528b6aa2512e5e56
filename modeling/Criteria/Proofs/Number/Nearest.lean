import Criteria.Proofs.ValueOrder

/-!
# Whole numbers among the binary64 numbers

The binary64 number nearest to a natural number is whole again: its significand has room for 53 bits, and what does
not fit is rounded away.  The number itself is kept exactly if nothing but zeros lies behind its first 53 bits.
-/

namespace Criteria.Binary64

open Number

/-! ## Rounding to 53 bits -/

/-- The number of low bits of a natural number that a significand has no room for. -/
def lostBits (n : Nat) : Nat :=
  n.log2 - 52

/-- The whole number that is nearest to a natural number among the binary64 numbers. -/
def nearestWhole (n : Nat) : Nat :=
  nearestEven n (2 ^ lostBits n) * 2 ^ lostBits n

/-- A natural number of at most 53 bits with zeros behind them. -/
def IsExact (n : Nat) : Prop :=
  ∃ m k, m < 2 ^ 53 ∧ n = m * 2 ^ k

theorem nearestEven_of_dvd {n d : Nat} (positive : 0 < d) (divides : d ∣ n) : nearestEven n d = n / d := by
  rw [nearestEven, Nat.mod_eq_zero_of_dvd divides]
  exact if_pos positive

theorem nearestWhole_eq_self_iff_dvd (n : Nat) : nearestWhole n = n ↔ 2 ^ lostBits n ∣ n := by
  constructor
  · exact fun same => Dvd.intro_left _ same
  · intro divides
    rw [nearestWhole, nearestEven_of_dvd (Nat.two_pow_pos _) divides]
    exact Nat.div_mul_cancel divides

theorem lt_mul_two_pow_lostBits (n : Nat) : n < 2 ^ 53 * 2 ^ lostBits n := by
  rw [← pow_add]
  refine Nat.lt_of_lt_of_le Nat.lt_log2_self (Nat.pow_le_pow_right (by decide) ?_)
  rw [lostBits]
  omega

theorem lostBits_le {m k n : Nat} (few : m < 2 ^ 53) (same : n = m * 2 ^ k) : lostBits n ≤ k := by
  rw [lostBits]
  by_cases zero : n = 0
  · rw [zero, Nat.log2_zero]
    omega
  · have below : n < 2 ^ (53 + k) := by
      rw [same, pow_add]
      exact Nat.mul_lt_mul_of_pos_right few (Nat.two_pow_pos k)
    have bits := (Nat.log2_lt zero).mpr below
    omega

/-- Rounding keeps a natural number exactly if it has at most 53 bits up to the zeros at its end. -/
theorem nearestWhole_eq_self_iff (n : Nat) : nearestWhole n = n ↔ IsExact n := by
  rw [nearestWhole_eq_self_iff_dvd]
  constructor
  · intro divides
    refine ⟨n / 2 ^ lostBits n, lostBits n, ?_, (Nat.div_mul_cancel divides).symm⟩
    exact Nat.div_lt_of_lt_mul (Nat.mul_comm _ _ ▸ lt_mul_two_pow_lostBits n)
  · rintro ⟨m, k, few, same⟩
    have zeros := Nat.pow_dvd_pow 2 (lostBits_le few same)
    exact zeros.trans (Dvd.intro_left m same.symm)

/-! ## Binary64 numbers that are whole -/

/-- An integer by its sign and magnitude. -/
def signed (negative : Bool) (n : Nat) : Int :=
  if negative then -n else n

@[simp] theorem natAbs_signed (negative : Bool) (n : Nat) : (signed negative n).natAbs = n := by
  cases negative
  · rfl
  · exact Int.natAbs_neg n

theorem signed_natAbs (n : Int) : signed (decide (n < 0)) n.natAbs = n := by
  rw [signed]
  split
  · rename_i negative
    have := of_decide_eq_true negative
    omega
  · rename_i positive
    have := of_decide_eq_false (Bool.eq_false_iff.mpr positive)
    omega

/-- A binary64 number has a given sign, and its magnitude is a given natural number. -/
def IsWhole (x : Binary64) (negative : Bool) (n : Nat) : Prop :=
  ∃ m e, x = .finite negative m e ∧ m * 2 ^ e.toNat = n * 2 ^ (-e).toNat

theorem isWhole_zero (negative : Bool) : (zero negative).IsWhole negative 0 :=
  ⟨0, minExponent, rfl, by rw [Nat.zero_mul, Nat.zero_mul]⟩

theorem binaryExponent_one {n : Nat} (positive : n ≠ 0) : binaryExponent n 1 = n.log2 := by
  have guess : (n.log2 : Int) - ((1 : Nat).log2 : Int) = n.log2 := by
    rw [show (1 : Nat).log2 = 0 by decide]
    omega
  have fits : 1 * Nat.pow 2 (n.log2 : Int).toNat ≤ n * Nat.pow 2 (-(n.log2 : Int)).toNat := by
    have none : (-(n.log2 : Int)).toNat = 0 := by omega
    rw [none, Int.toNat_natCast, Nat.one_mul, Nat.pow_eq, Nat.pow_eq, pow_zero, Nat.mul_one]
    exact Nat.log2_self_le positive
  rw [binaryExponent, guess]
  exact if_pos fits

/-- The significand of the number nearest to a natural number, before a carry beyond its 53 bits. -/
def rawSignificand (n : Nat) : Nat :=
  nearestEven (n * 2 ^ (52 - n.log2)) (2 ^ lostBits n)

theorem rawSignificand_mul (n : Nat) :
    rawSignificand n * 2 ^ lostBits n = nearestWhole n * 2 ^ (52 - n.log2) := by
  rw [rawSignificand, nearestWhole]
  by_cases short : n.log2 ≤ 52
  · have none : lostBits n = 0 := Nat.sub_eq_zero_of_le short
    rw [none, pow_zero, nearestEven_one, nearestEven_one, Nat.mul_one, Nat.mul_one]
  · have full : 52 - n.log2 = 0 := by omega
    rw [full, pow_zero, Nat.mul_one, Nat.mul_one]

/-- Only a number that fills its significand can carry. -/
theorem log2_ge_of_carry {n : Nat} (carry : rawSignificand n = 2 ^ 53) : 52 ≤ n.log2 := by
  by_contra short
  have none : lostBits n = 0 := by
    rw [lostBits]
    omega
  have scaled : n * 2 ^ (52 - n.log2) = 2 ^ 53 := by
    rwa [rawSignificand, none, pow_zero, nearestEven_one] at carry
  have below : n * 2 ^ (52 - n.log2) < 2 ^ (n.log2 + 1) * 2 ^ (52 - n.log2) :=
    Nat.mul_lt_mul_of_pos_right Nat.lt_log2_self (Nat.two_pow_pos _)
  rw [← pow_add, show n.log2 + 1 + (52 - n.log2) = 53 by omega, scaled] at below
  exact Nat.lt_irrefl _ below

theorem ofRatio_one (negative : Bool) {n : Nat} (positive : n ≠ 0) (small : n.log2 ≤ 1000) :
    ofRatio negative n 1 =
      if rawSignificand n = 2 ^ 53 then .finite negative (2 ^ 52) (n.log2 - 51)
      else .finite negative (rawSignificand n) (n.log2 - 52) := by
  have exponent : max (binaryExponent n 1 - 52) minExponent = (n.log2 : Int) - 52 := by
    rw [binaryExponent_one positive, minExponent]
    omega
  have kept : (-((n.log2 : Int) - 52)).toNat = 52 - n.log2 := by omega
  have lost : ((n.log2 : Int) - 52).toNat = lostBits n := by
    rw [lostBits]
    omega
  have inRange {e : Int} (low : e ≤ 949) : ¬ maxExponent < e := by
    rw [maxExponent]
    omega
  rw [ofRatio, if_neg (not_or.mpr ⟨positive, Nat.one_ne_zero⟩), exponent]
  simp only [kept, lost, Nat.pow_eq, Nat.one_mul]
  rw [rawSignificand]
  generalize nearestEven (n * 2 ^ (52 - n.log2)) (2 ^ lostBits n) = significand
  by_cases carry : significand = 2 ^ 53
  · have carried : (n.log2 : Int) - 52 + 1 = n.log2 - 51 := by omega
    simp only [if_pos carry, carried, if_neg (inRange (e := n.log2 - 51) (by omega))]
  · simp only [if_neg carry, if_neg (inRange (e := n.log2 - 52) (by omega))]

/-- The binary64 number nearest to a natural number is the whole number nearest to it. -/
theorem isWhole_ofRatio (negative : Bool) {n : Nat} (small : n.log2 ≤ 1000) :
    (ofRatio negative n 1).IsWhole negative (nearestWhole n) := by
  by_cases zero : n = 0
  · subst zero
    rw [ofRatio, if_pos (.inl rfl), (nearestWhole_eq_self_iff_dvd 0).mpr (Nat.dvd_zero _)]
    exact isWhole_zero negative
  · rw [ofRatio_one negative zero small]
    have value := rawSignificand_mul n
    split
    · rename_i carry
      have long := log2_ge_of_carry carry
      have none : (-((n.log2 : Int) - 51)).toNat = 0 := by omega
      have one : ((n.log2 : Int) - 51).toNat = 1 + lostBits n := by
        rw [lostBits]
        omega
      refine ⟨2 ^ 52, n.log2 - 51, rfl, ?_⟩
      rw [carry, Nat.sub_eq_zero_of_le long, pow_zero] at value
      rw [none, one, pow_zero, ← value, pow_add, ← Nat.mul_assoc, ← pow_add]
    · have kept : (-((n.log2 : Int) - 52)).toNat = 52 - n.log2 := by omega
      have lost : ((n.log2 : Int) - 52).toNat = lostBits n := by
        rw [lostBits]
        omega
      refine ⟨rawSignificand n, n.log2 - 52, rfl, ?_⟩
      rw [kept, lost]
      exact value

namespace IsWhole

variable {x y : Binary64} {negative other : Bool} {n k : Nat}

theorem isFinite (whole : x.IsWhole negative n) : x.isFinite = true := by
  rcases whole with ⟨m, e, rfl, -⟩
  rfl

theorem abs (whole : x.IsWhole negative n) : x.abs.IsWhole false n := by
  rcases whole with ⟨m, e, rfl, value⟩
  exact ⟨m, e, rfl, value⟩

theorem toInt? (whole : x.IsWhole negative n) : x.toInt? = some (signed negative n) := by
  rcases whole with ⟨m, e, rfl, value⟩
  simp only [Binary64.toInt?, ratio, Nat.pow_eq, value, Nat.mul_mod_left,
    Nat.mul_div_cancel _ (Nat.two_pow_pos (-e).toNat), signed, if_true]

/-- A whole number counts as many small units as it has ones, times the units of a one. -/
theorem scaled {m : Nat} {e unit : Int} (value : m * 2 ^ e.toNat = n * 2 ^ (-e).toNat) (small : unit ≤ 0)
    (fits : unit ≤ e) : Binary64.scaled negative m e unit = signed negative n * 2 ^ (-unit).toNat := by
  have size : m * 2 ^ (e - unit).toNat = n * 2 ^ (-unit).toNat := by
    have split : (e - unit).toNat + (-e).toNat = e.toNat + (-unit).toNat := by omega
    refine Nat.eq_of_mul_eq_mul_right (Nat.two_pow_pos (-e).toNat) ?_
    rw [Nat.mul_assoc, ← pow_add, split, pow_add, ← Nat.mul_assoc, value, Nat.mul_right_comm]
  rw [Binary64.scaled, Nat.pow_eq, size, signed]
  cases negative <;> simp

/-- Whole numbers compare as integers. -/
theorem compare (whole : x.IsWhole negative n) (otherWhole : y.IsWhole other k) :
    x.compare y = some (Ord.compare (signed negative n) (signed other k)) := by
  rcases whole with ⟨m, e, rfl, value⟩
  rcases otherWhole with ⟨l, f, rfl, otherValue⟩
  have unit : ∃ u : Int, u ≤ 0 ∧ u ≤ e ∧ u ≤ f := ⟨min 0 (min e f), by omega, by omega, by omega⟩
  rcases unit with ⟨u, small, left, right⟩
  rw [compare_finite negative other m l left right, scaled value small left, scaled otherValue small right,
    compare_mul_two_pow]

end IsWhole

end Criteria.Binary64
