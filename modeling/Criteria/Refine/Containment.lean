import Criteria.Refine.Bags

/-!
# Dropping what ranges contain

A range within another range of its list says nothing new, and neither does a single value within a range.
Excluded values and ranges are held against the excluded ranges.  Fields without an order stay as they are.
-/

namespace Criteria.Refine

/-- Decides whether a value lies in a range. -/
def covers (field : Field) (r : Range) (v : Value) : Bool :=
  let aboveLower := match field.compare r.lower v with
    | some .lt => true
    | some .eq => r.includesLower
    | _ => false
  let belowUpper := match field.compare v r.upper with
    | some .lt => true
    | some .eq => r.includesUpper
    | _ => false
  aboveLower && belowUpper

/-- Decides by the bounds whether a range contains another. -/
def contains (field : Field) (outer inner : Range) : Bool :=
  let lower := match field.compare outer.lower inner.lower with
    | some .lt => true
    | some .eq => outer.includesLower || !inner.includesLower
    | _ => false
  let upper := match field.compare inner.upper outer.upper with
    | some .lt => true
    | some .eq => outer.includesUpper || !inner.includesUpper
    | _ => false
  lower && upper

/-- Decides whether the range at one place makes the range at another superfluous.  Of two ranges that contain
each other the first is kept. -/
def outdoes (field : Field) (other range : Range × Nat) : Bool :=
  range.2 != other.2 && contains field other.1 range.1 &&
    (!contains field range.1 other.1 || decide (other.2 < range.2))

/-- The ranges that no other range makes superfluous. -/
def dropContained (field : Field) (ranges : List Range) : List Range :=
  let placed := ranges.zipIdx
  (placed.filter fun range => !placed.any fun other => outdoes field other range).map Prod.fst

/-- The single values that lie in none of the ranges. -/
def dropCovered (field : Field) (ranges : List Range) (values : List Single) : List Single :=
  values.filter fun s => !ranges.any fun r => covers field r s.value

/-- A bag without the entries that its ranges contain. -/
def tightenBag (field : Field) (bag : Bag) : Bag :=
  if field.order.isNone then bag
  else
    let ranges := dropContained field bag.ranges
    let excludedRanges := dropContained field bag.excludedRanges
    { bag with
      ranges
      excludedRanges
      singles := dropCovered field ranges bag.singles
      excludedSingles := dropCovered field excludedRanges bag.excludedSingles }

/-- Drops the entries that ranges contain. -/
def tightenRanges (c : Condition) : Condition :=
  c.mapBags tightenBag

end Criteria.Refine
