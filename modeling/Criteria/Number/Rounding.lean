/-!
# Rounding of quotients

How a quotient of natural numbers becomes a whole number: down, up, or to the nearest one with a rule for
the quotients that lie halfway.  All denominators are meant to be positive.
-/

namespace Criteria.Number

/-- The least whole number not below the quotient. -/
def ceilDiv (num den : Nat) : Nat :=
  if num % den = 0 then num / den else num / den + 1

/-- The nearest whole number; of two equally near ones the even one. -/
def nearestEven (num den : Nat) : Nat :=
  let quotient := num / den
  let twice := 2 * (num % den)
  if twice < den then quotient
  else if den < twice then quotient + 1
  else quotient + quotient % 2

/-- The nearest whole number; of two equally near ones the greater one. -/
def nearestUp (num den : Nat) : Nat :=
  (2 * num + den) / (2 * den)

/-- The nearest whole number; of two equally near ones the lesser one. -/
def nearestDown (num den : Nat) : Nat :=
  let quotient := num / den
  if den < 2 * (num % den) then quotient + 1 else quotient

@[simp]
theorem ceilDiv_one (num : Nat) : ceilDiv num 1 = num := by
  simp [ceilDiv, Nat.mod_one]

@[simp]
theorem nearestEven_one (num : Nat) : nearestEven num 1 = num := by
  simp [nearestEven, Nat.mod_one]

@[simp]
theorem nearestUp_one (num : Nat) : nearestUp num 1 = num := by
  unfold nearestUp
  omega

@[simp]
theorem nearestDown_one (num : Nat) : nearestDown num 1 = num := by
  simp [nearestDown, Nat.mod_one]

end Criteria.Number
