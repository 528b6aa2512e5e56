import Criteria.Number.Rounding

/-!
# Binary floating-point numbers

Numbers of the binary64 format as exact values: a finite number is a sign, a whole significand and a power of
two.  Every operation computes exactly and rounds once, to the nearest number of the format and, halfway
between two, to the one with the even significand.
-/

namespace Criteria

/-- A binary64 number; `finite negative m e` stands for `m * 2 ^ e`, with the sign in front. -/
inductive Binary64 where
  | nan
  | infinite (negative : Bool)
  | finite (negative : Bool) (significand : Nat) (exponent : Int)
  deriving DecidableEq, Inhabited

namespace Binary64

open Number

/-- The exponent of the numbers next to zero. -/
def minExponent : Int := -1074

/-- The exponent of the greatest finite numbers. -/
def maxExponent : Int := 971

/-- The zero of either sign. -/
def zero (negative : Bool) : Binary64 :=
  .finite negative 0 minExponent

/-- The greatest `k` with `2 ^ k ≤ num / den`, for a positive quotient. -/
def binaryExponent (num den : Nat) : Int :=
  let guess : Int := (num.log2 : Int) - (den.log2 : Int)
  if den * Nat.pow 2 guess.toNat ≤ num * Nat.pow 2 (-guess).toNat then guess else guess - 1

/-- The number nearest to a quotient of natural numbers, with a sign. -/
def ofRatio (negative : Bool) (num den : Nat) : Binary64 :=
  if num = 0 ∨ den = 0 then zero negative
  else
    let exponent := max (binaryExponent num den - 52) minExponent
    let significand := nearestEven (num * Nat.pow 2 (-exponent).toNat) (den * Nat.pow 2 exponent.toNat)
    let (significand, exponent) :=
      if significand = Nat.pow 2 53 then (Nat.pow 2 52, exponent + 1) else (significand, exponent)
    if maxExponent < exponent then .infinite negative
    else .finite negative significand exponent

/-- The number nearest to `m * 2 ^ e`, with a sign. -/
def ofScaled (negative : Bool) (m : Nat) (e : Int) : Binary64 :=
  ofRatio negative (m * Nat.pow 2 e.toNat) (Nat.pow 2 (-e).toNat)

/-- The number nearest to a natural number. -/
def ofNat (n : Nat) : Binary64 :=
  ofRatio false n 1

/-- The number nearest to an integer. -/
def ofInt (n : Int) : Binary64 :=
  ofRatio (decide (n < 0)) n.natAbs 1

/-- The number nearest to `digits * 10 ^ exponent`, with a sign.  Powers beyond the reach of the format are
not computed. -/
def ofDecimal (negative : Bool) (digits : Nat) (exponent : Int) : Binary64 :=
  if digits = 0 then zero negative
  else
    let size : Int := (digits.log2 : Int) / 3 + 1
    if 310 + size < exponent then .infinite negative
    else if exponent + size < -330 then zero negative
    else ofRatio negative (digits * Nat.pow 10 exponent.toNat) (Nat.pow 10 (-exponent).toNat)

/-- Neither infinite nor a NaN. -/
def isFinite : Binary64 → Bool
  | .finite .. => true
  | _ => false

/-- The magnitude of a finite number as a numerator and a denominator. -/
def ratio (significand : Nat) (exponent : Int) : Nat × Nat :=
  (significand * Nat.pow 2 exponent.toNat, Nat.pow 2 (-exponent).toNat)

/-! ## Order -/

/-- A finite number as an integer count of `2 ^ unit`, for a unit at or below its exponent. -/
def scaled (negative : Bool) (significand : Nat) (exponent unit : Int) : Int :=
  let size : Int := (significand * Nat.pow 2 (exponent - unit).toNat : Nat)
  if negative then -size else size

/-- The order of two numbers; a NaN has none, and the two zeros are equal. -/
def compare : Binary64 → Binary64 → Option Ordering
  | .nan, _ => none
  | _, .nan => none
  | .infinite a, .infinite b => some (if a = b then .eq else if a then .lt else .gt)
  | .infinite a, .finite .. => some (if a then .lt else .gt)
  | .finite .., .infinite b => some (if b then .gt else .lt)
  | .finite a m e, .finite b n f =>
      let unit := min e f
      some (Ord.compare (scaled a m e unit) (scaled b n f unit))

/-- Equality of values: a NaN differs from itself, and the two zeros are equal. -/
def same (a b : Binary64) : Bool :=
  a.compare b == some .eq

/-! ## Arithmetic -/

/-- The product. -/
def mul : Binary64 → Binary64 → Binary64
  | .nan, _ => .nan
  | _, .nan => .nan
  | .infinite a, .infinite b => .infinite (a != b)
  | .infinite a, .finite b n _ => if n = 0 then .nan else .infinite (a != b)
  | .finite a m _, .infinite b => if m = 0 then .nan else .infinite (a != b)
  | .finite a m e, .finite b n f => ofScaled (a != b) (m * n) (e + f)

/-- The quotient. -/
def div : Binary64 → Binary64 → Binary64
  | .nan, _ => .nan
  | _, .nan => .nan
  | .infinite _, .infinite _ => .nan
  | .infinite a, .finite b _ _ => .infinite (a != b)
  | .finite a _ _, .infinite b => zero (a != b)
  | .finite a m e, .finite b n f =>
      if n = 0 then (if m = 0 then .nan else .infinite (a != b))
      else
        let (mNum, mDen) := ratio m e
        let (nNum, nDen) := ratio n f
        ofRatio (a != b) (mNum * nDen) (mDen * nNum)

instance : Mul Binary64 := ⟨mul⟩

instance : Div Binary64 := ⟨div⟩

/-- The steps of `power`: squares the base once for each binary digit of the exponent. -/
def powerFrom (result base : Binary64) : Nat → Nat → Binary64
  | 0, _ => result
  | fuel + 1, n =>
      let result := if n % 2 = 1 then result * base else result
      if n / 2 = 0 then result else powerFrom result (base * base) fuel (n / 2)

/-- A whole power, by repeated squaring with a rounding at every product; a negative one divides one. -/
def power (base : Binary64) (n : Int) : Binary64 :=
  let size := powerFrom (ofNat 1) base (n.natAbs.log2 + 1) n.natAbs
  if n < 0 then ofNat 1 / size else size

/-- The magnitude. -/
def abs : Binary64 → Binary64
  | .nan => .nan
  | .infinite _ => .infinite false
  | .finite _ m e => .finite false m e

/-! ## Whole numbers -/

/-- Rounds the magnitude of a finite number to a whole one by the given rule and keeps the sign. -/
def roundWith (rule : Bool → Nat → Nat → Nat) : Binary64 → Binary64
  | .finite negative m e =>
      let (num, den) := ratio m e
      ofRatio negative (rule negative num den) 1
  | other => other

/-- The whole number a finite number is, if it is one. -/
def toInt? : Binary64 → Option Int
  | .finite negative m e =>
      let (num, den) := ratio m e
      if num % den = 0 then
        let n : Int := (num / den : Nat)
        some (if negative then -n else n)
      else none
  | _ => none

end Binary64

end Criteria
