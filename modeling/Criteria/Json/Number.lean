import Criteria.Json.Basic
import Criteria.Number.Decimal

/-!
# Numbers in JSON

How numbers are written as literals, and what a literal stands for.  A literal with neither point nor exponent
that fits a machine word is an integer; any other is a float.  The digits of a float are gathered in a
word, those that no longer fit are dropped, and the word is scaled by a power of ten with one rounding.
-/

namespace Criteria.Json

open Number

/-! ## Writing -/

/-- An integer as a literal. -/
def ofInt (n : Int) : Json :=
  number (integerText n)

/-- The least and the greatest decimal exponent of a float that is written without one. -/
def plainExponents : Int × Int := (-5, 15)

/-- The shortest literal of the magnitude of a finite float; it has a point or an exponent. -/
def floatText (m : Nat) (e : Int) : List Char :=
  let d := Binary64.shortest .even m e
  let all := digits d.digits
  let exponent : Int := d.exponent + all.length - 1
  if plainExponents.1 ≤ exponent ∧ exponent ≤ plainExponents.2 then
    if 0 ≤ d.exponent then d.plain ++ ['.', '0'] else d.plain
  else
    let fraction := all.drop 1
    all.take 1 ++ (if fraction.isEmpty then [] else '.' :: fraction) ++ 'e' ::
      (if exponent < 0 then '-' else '+') :: digits exponent.natAbs

/-- A float as a literal; what is not finite has none. -/
def ofFloat : Binary64 → Json
  | .finite negative m e => number (Binary64.signText negative ++ floatText m e)
  | _ => null

/-! ## Reading -/

/-- The parts of a literal. -/
structure Literal where
  negative : Bool
  whole : List Char
  fraction : Option (List Char)
  exponentNegative : Bool
  exponent : Option (List Char)

/-- Takes a literal apart. -/
def Literal.of (text : List Char) : Literal :=
  let (negative, text) := match text with
    | '-' :: rest => (true, rest)
    | _ => (false, text)
  let (whole, rest) := Binary64.spanDigits text
  let (fraction, rest) := match rest with
    | '.' :: rest =>
        let (fraction, rest) := Binary64.spanDigits rest
        (some fraction, rest)
    | _ => (none, rest)
  match rest with
  | [] => ⟨negative, whole, fraction, false, none⟩
  | _ :: '-' :: exponent => ⟨negative, whole, fraction, true, some exponent⟩
  | _ :: '+' :: exponent => ⟨negative, whole, fraction, false, some exponent⟩
  | _ :: exponent => ⟨negative, whole, fraction, false, some exponent⟩

/-- The numbers from here on do not fit a machine word. -/
def wordLimit : Nat := Nat.pow 2 64

/-- Gathers digits in a word while they fit; gives the word and the digits that were left. -/
def gather (word : Nat) : List Char → Nat × List Char
  | [] => (word, [])
  | c :: rest =>
      let next := 10 * word + digitValue c
      if next < wordLimit then gather next rest else (word, c :: rest)

/-- The digits of a literal as a word and a power of ten. -/
def Literal.significand (l : Literal) : Nat × Int :=
  let (word, left) := gather 0 l.whole
  let fraction := l.fraction.getD []
  let (word, dropped) := gather word fraction
  let taken := fraction.length - dropped.length
  (word, (left.length : Int) - taken)

/-- The greatest power of ten that is used in one step. -/
def greatestPower : Nat := 308

/-- The power of ten as a float. -/
def powerOfTen (n : Nat) : Binary64 :=
  .ofDecimal false 1 n

/-- Scales a float by a power of ten; the first argument bounds the steps.  What becomes infinite is no
number. -/
def scale : Nat → Binary64 → Int → Option Binary64
  | 0, x, _ => some x
  | fuel + 1, x, exponent =>
      if exponent.natAbs ≤ greatestPower then
        if 0 ≤ exponent then
          let y := x * powerOfTen exponent.natAbs
          if y.isFinite then some y else none
        else some (x / powerOfTen exponent.natAbs)
      else if x.same (.zero false) then some x
      else if 0 ≤ exponent then none
      else scale fuel (x / powerOfTen greatestPower) (exponent + greatestPower)

/-- Gives a magnitude its sign. -/
def signed (negative : Bool) (x : Binary64) : Binary64 :=
  match x with
  | .finite _ m e => .finite negative m e
  | .infinite _ => .infinite negative
  | .nan => .nan

/-- The exponents from here on are not computed. -/
def exponentLimit : Nat := Nat.pow 2 31

/-- The float that the parts of a literal stand for. -/
def Literal.float? (l : Literal) : Option Binary64 :=
  let (word, power) := l.significand
  let size := readDigits (l.exponent.getD [])
  if exponentLimit ≤ size then
    if word ≠ 0 ∧ !l.exponentNegative then none else some (.zero l.negative)
  else
    let power := if l.exponentNegative then power - size else power + size
    (scale 8 (.ofNat word) power).map (signed l.negative)

/-- The integer that a literal stands for; a negative zero is none, and neither is what does not fit a machine
word. -/
def integer? (literal : List Char) : Option Int :=
  let l := Literal.of literal
  if l.fraction.isSome || l.exponent.isSome then none
  else
    let n := readDigits l.whole
    if l.negative then
      if 0 < n ∧ n ≤ Nat.pow 2 63 then some (-(n : Int)) else none
    else if n < wordLimit then some n
    else none

/-- The float that a literal stands for; an integer is rounded. -/
def float? (literal : List Char) : Option Binary64 :=
  match integer? literal with
  | some n => some (.ofInt n)
  | none => (Literal.of literal).float?

end Criteria.Json
