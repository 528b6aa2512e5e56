import Criteria.Refine.Bags

/-!
# Removing duplicates

Of equal entries of one kind in one bag the first is kept, and of equal groups below one group too.  Groups
become equal only after their own duplicates are gone, so the deepest groups come first.
-/

namespace Criteria.Refine

variable {α : Type}

/-- The elements of a list that equal none of those kept before them. -/
def distinctFrom (same : α → α → Bool) (kept : List α) : List α → List α
  | [] => []
  | x :: xs =>
      if kept.any fun k => same k x then distinctFrom same kept xs
      else x :: distinctFrom same (x :: kept) xs

/-- The first of every set of equal elements, in the order of the list. -/
def distinct (same : α → α → Bool) (xs : List α) : List α :=
  distinctFrom same [] xs

/-- Equality of single values for a field. -/
def sameSingle (field : Field) (a b : Single) : Bool :=
  field.isEqual a.value b.value

/-- Equality of ranges for a field: equal bounds that belong to the ranges or not in the same way. -/
def sameRange (field : Field) (a b : Range) : Bool :=
  a.includesLower == b.includesLower && a.includesUpper == b.includesUpper &&
    field.isEqual a.lower b.lower && field.isEqual a.upper b.upper

/-- Equality of comparisons for a field. -/
def sameComparison (field : Field) (a b : Comparison) : Bool :=
  a.operator == b.operator && field.isEqual a.value b.value

/-- A bag without duplicates. -/
def distinctBag (field : Field) (bag : Bag) : Bag where
  singles := distinct (sameSingle field) bag.singles
  excludedSingles := distinct (sameSingle field) bag.excludedSingles
  ranges := distinct (sameRange field) bag.ranges
  excludedRanges := distinct (sameRange field) bag.excludedRanges
  comparisons := distinct (sameComparison field) bag.comparisons
  textMatches := distinct (· == ·) bag.textMatches

/-- A tree without equal groups below one group. -/
def distinctGroups : Group → Group :=
  Group.fold fun logical fields below => .mk logical fields (distinct Group.same below)

/-- Removes duplicate entries, then duplicate groups. -/
def removeDuplicates (c : Condition) : Condition :=
  let c := c.mapBags distinctBag
  { c with root := distinctGroups c.root }

end Criteria.Refine
