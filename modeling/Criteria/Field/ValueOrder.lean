import Criteria.Value

/-!
# Orders of values

How the values of a field compare.  An order compares only values of its own kinds; some orders are
made of steps, so that a value has a next one.
-/

namespace Criteria

/-- The orders a field may put on its values.  These are the ones that come with the library, which leaves room for
others; what is proved here of orders is about these. -/
inductive ValueOrder where
  /-- Integers by size. -/
  | integer
  /-- Integers and floats by their size as binary64 numbers. -/
  | number
  /-- Dates among dates and date-times among date-times. -/
  | date
  /-- Texts by their characters. -/
  | text
  /-- Dates among dates and ages among ages. -/
  | birthday
  deriving DecidableEq

namespace ValueOrder

/-- The binary64 number nearest to a numeric value. -/
def number? : Value → Option Binary64
  | .float x => some x
  | .integer n => some (.ofInt n.toInt)
  | _ => none

/-- The order of two values, or nothing if they do not compare. -/
def compare (order : ValueOrder) (a b : Value) : Option Ordering :=
  match order, a, b with
  | .integer, .integer a, .integer b => some (Ord.compare a.toInt b.toInt)
  | .number, a, b =>
      match number? a, number? b with
      | some a, some b => a.compare b
      | _, _ => none
  | .date, .date a, .date b => some (a.compare b)
  | .date, .moment a, .moment b => some (a.compare b)
  | .text, .string a, .string b => some (Ord.compare a b)
  | .birthday, .date a, .date b => some (a.compare b)
  | .birthday, .integer a, .integer b => some (Ord.compare a.toInt b.toInt)
  | _, _, _ => none

/-- Decides whether two values compare as equal. -/
def isEqual (order : ValueOrder) (a b : Value) : Bool :=
  order.compare a b == some .eq

/-- Decides whether the first value compares as lower. -/
def isLower (order : ValueOrder) (a b : Value) : Bool :=
  order.compare a b == some .lt

/-- Decides whether the first value compares as higher. -/
def isHigher (order : ValueOrder) (a b : Value) : Bool :=
  order.compare a b == some .gt

/-- Decides whether the order is made of steps. -/
def hasSteps : ValueOrder → Bool
  | .integer | .date | .birthday => true
  | .number | .text => false

/-- The integer one step above. -/
def nextInteger? (n : Int64) : Option Value :=
  if n = Int64.maxValue then none else some (.integer (n + 1))

/-- The value one step above: the next integer, the next day, or the same time on the next day. -/
def next? (order : ValueOrder) (v : Value) : Option Value :=
  match order, v with
  | .integer, .integer n => nextInteger? n
  | .birthday, .integer n => nextInteger? n
  | .date, .date d => d.next?.map .date
  | .date, .moment m => m.nextDay?.map .moment
  | .birthday, .date d => d.next?.map .date
  | _, _ => none

end ValueOrder

end Criteria
