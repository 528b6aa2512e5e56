import Criteria.Number.Binary64

/-!
# Decimal texts of numbers

The digits of natural numbers and integers, the shortest decimal that reads back as a given binary64 number,
decimals with a fixed number of places, and the reading of decimals.
-/

namespace Criteria.Number

/-! ## Digits -/

/-- The decimal digits of a natural number. -/
def digits (n : Nat) : List Char :=
  Nat.toDigits 10 n

/-- The decimal text of an integer. -/
def integerText (n : Int) : List Char :=
  if n < 0 then '-' :: digits n.natAbs else digits n.natAbs

/-- Puts zeros in front of a text until it is `width` characters long. -/
def padZeros (width : Nat) (text : List Char) : List Char :=
  List.replicate (width - text.length) '0' ++ text

/-- The value of one decimal digit. -/
def digitValue (c : Char) : Nat :=
  c.toNat - '0'.toNat

/-- The value of a run of decimal digits, continuing from the digits already read. -/
def readDigitsFrom (value : Nat) (text : List Char) : Nat :=
  text.foldl (fun value c => 10 * value + digitValue c) value

/-- The value of a run of decimal digits. -/
def readDigits (text : List Char) : Nat :=
  readDigitsFrom 0 text

/-- The integer a decimal text with an optional sign denotes. -/
def integer? (text : List Char) : Option Int :=
  let (negative, body) := match text with
    | '-' :: rest => (true, rest)
    | '+' :: rest => (false, rest)
    | _ => (false, text)
  if body.isEmpty || !body.all Char.isDigit then none
  else some (if negative then -(readDigits body : Int) else (readDigits body : Int))

end Criteria.Number

namespace Criteria.Binary64

open Number

/-! ## The shortest decimal that reads back -/

/-- Which of two equally near decimals is taken. -/
inductive Tie where
  | up
  | even
  deriving DecidableEq

/-- A decimal `digits * 10 ^ exponent`. -/
structure Decimal where
  digits : Nat
  exponent : Int
  deriving DecidableEq

/-- Drops the zeros at the end of the digits; the first argument bounds how many. -/
def Decimal.trimZeros : Nat → Decimal → Decimal
  | 0, d => d
  | fuel + 1, d =>
      if d.digits ≠ 0 ∧ d.digits % 10 = 0 then trimZeros fuel ⟨d.digits / 10, d.exponent + 1⟩ else d

/-- The least `k` with `num / den < 10 ^ k`, for a positive quotient. -/
def decimalExponent (num den : Nat) : Int :=
  let guess : Int := (((num.log2 : Int) - (den.log2 : Int)) * 30103) / 100000
  let below (k : Int) : Bool := num * Nat.pow 10 (-k).toNat < den * Nat.pow 10 k.toNat
  let candidates := [guess - 2, guess - 1, guess, guess + 1, guess + 2]
  (candidates.find? below).getD (guess + 3)

/-- The ends of the reals that round to `m * 2 ^ e`, counted in quarters of a step; below a power of two the
steps are half as wide. -/
def quarterBounds (m : Nat) (e : Int) : Nat × Nat :=
  (if m = Nat.pow 2 52 ∧ minExponent < e then 4 * m - 1 else 4 * m - 2, 4 * m + 2)

/-- Whether a decimal lies among the reals that round to the number `m * 2 ^ e`; the ends belong to them when
the significand is even. -/
def roundsTo (m : Nat) (e : Int) (d : Decimal) : Bool :=
  let step : Int := e - 2
  let value := d.digits * Nat.pow 10 d.exponent.toNat * Nat.pow 2 (-step).toNat
  let scale := Nat.pow 2 step.toNat * Nat.pow 10 (-d.exponent).toNat
  let (low, high) := quarterBounds m e
  if m % 2 = 0 then low * scale ≤ value && value ≤ high * scale
  else low * scale < value && value < high * scale

/-- The decimal with `count` digits that lies nearest to `m * 2 ^ e` and rounds to it, if there is one;
`top` is the decimal exponent of the number. -/
def nearestWith (tie : Tie) (m : Nat) (e top : Int) (count : Nat) : Option Decimal :=
  let place : Int := top - count
  let (num, den) := ratio m e
  let num := num * Nat.pow 10 (-place).toNat
  let den := den * Nat.pow 10 place.toNat
  let below : Decimal := ⟨num / den, place⟩
  let above : Decimal := ⟨num / den + 1, place⟩
  let rest := 2 * (num % den)
  let upper : Bool := match tie with
    | .up => den ≤ rest
    | .even => den < rest || (den == rest && below.digits % 2 == 1)
  match roundsTo m e below, roundsTo m e above with
  | true, true => some (if upper then above else below)
  | true, false => some below
  | false, true => some above
  | false, false => none

/-- The decimal with the fewest digits that rounds to the number `m * 2 ^ e`, and of these the nearest. -/
def shortest (tie : Tie) (m : Nat) (e : Int) : Decimal :=
  if m = 0 then ⟨0, 0⟩
  else
    let (num, den) := ratio m e
    let top := decimalExponent num den
    let found := (List.range 17).findSome? fun n => nearestWith tie m e top (n + 1)
    (found.getD ⟨num, 0⟩).trimZeros 20

/-- The sign of a negative number. -/
def signText (negative : Bool) : List Char :=
  if negative then ['-'] else []

/-- The text of a decimal without an exponent; a whole number has no point. -/
def Decimal.plain (d : Decimal) : List Char :=
  let all := Number.digits d.digits
  if 0 ≤ d.exponent then
    if d.digits = 0 then ['0'] else all ++ List.replicate d.exponent.toNat '0'
  else
    let places := (-d.exponent).toNat
    let padded := padZeros (places + 1) all
    padded.take (padded.length - places) ++ '.' :: padded.drop (padded.length - places)

/-- The shortest decimal text of a number, never with an exponent: `1`, `0.1`, `-0`, `NaN`, `inf`. -/
def text : Binary64 → List Char
  | .nan => "NaN".toList
  | .infinite negative => signText negative ++ "inf".toList
  | .finite negative m e => signText negative ++ (shortest .up m e).plain

/-! ## Fixed places -/

/-- The text with exactly `places` digits after the point, rounded from the exact value with ties to even. -/
def fixedText (places : Nat) : Binary64 → List Char
  | .nan => "NaN".toList
  | .infinite negative => signText negative ++ "inf".toList
  | .finite negative m e =>
      let (num, den) := ratio m e
      let units := nearestEven (num * Nat.pow 10 places) den
      let padded := padZeros (places + 1) (digits units)
      let whole := padded.take (padded.length - places)
      let fraction := padded.drop (padded.length - places)
      signText negative ++ (if places = 0 then whole else whole ++ '.' :: fraction)

/-! ## Reading -/

/-- Splits the digits a text starts with from the rest. -/
def spanDigits (text : List Char) : List Char × List Char :=
  (text.takeWhile Char.isDigit, text.dropWhile Char.isDigit)

/-- The number a decimal text without a sign denotes: digits, a point with more digits, an exponent; at least
one digit before the exponent. -/
def ofUnsignedText? (negative : Bool) (text : List Char) : Option Binary64 :=
  let (whole, rest) := spanDigits text
  let (fraction, rest) := match rest with
    | '.' :: rest => spanDigits rest
    | _ => ([], rest)
  if whole.isEmpty && fraction.isEmpty then none
  else
    let value := readDigits (whole ++ fraction)
    let places : Int := fraction.length
    match rest with
    | [] => some (ofDecimal negative value (-places))
    | mark :: exponent =>
        if mark = 'e' ∨ mark = 'E' then
          (integer? exponent).map fun power => ofDecimal negative value (power - places)
        else none

/-- The number a text denotes: a decimal, or a name of infinity or NaN in any case, with an optional sign. -/
def ofText? (text : List Char) : Option Binary64 :=
  let (negative, body) := match text with
    | '-' :: rest => (true, rest)
    | '+' :: rest => (false, rest)
    | _ => (false, text)
  let name := String.ofList (body.map Char.toLower)
  if name = "inf" ∨ name = "infinity" then some (.infinite negative)
  else if name = "nan" then some .nan
  else ofUnsignedText? negative body

end Criteria.Binary64
