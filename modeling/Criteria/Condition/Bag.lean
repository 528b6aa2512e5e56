import Criteria.Condition.Entry

/-!
# Bags of entries

All that one group of a condition says about one field: six lists, one for each kind of entry, each in the
order the entries were added.
-/

namespace Criteria

/-- The entries about one field, by kind. -/
structure Bag where
  singles : List Single
  excludedSingles : List Single
  ranges : List Range
  excludedRanges : List Range
  comparisons : List Comparison
  textMatches : List TextMatch
  deriving DecidableEq

namespace Bag

/-- The bag without entries. -/
def empty : Bag :=
  ⟨[], [], [], [], [], []⟩

instance : Inhabited Bag := ⟨empty⟩

/-- Adds an entry behind the others of its kind. -/
def add (bag : Bag) : Entry → Bag
  | .single v => { bag with singles := bag.singles ++ [v] }
  | .excludedSingle v => { bag with excludedSingles := bag.excludedSingles ++ [v] }
  | .range r => { bag with ranges := bag.ranges ++ [r] }
  | .excludedRange r => { bag with excludedRanges := bag.excludedRanges ++ [r] }
  | .comparison c => { bag with comparisons := bag.comparisons ++ [c] }
  | .textMatch m => { bag with textMatches := bag.textMatches ++ [m] }

/-- Adds entries one after another. -/
def addAll (bag : Bag) (entries : List Entry) : Bag :=
  entries.foldl add bag

/-- The bag of a list of entries. -/
def ofList (entries : List Entry) : Bag :=
  empty.addAll entries

/-- The entries of a bag, kind by kind. -/
def toList (bag : Bag) : List Entry :=
  bag.singles.map .single ++ bag.excludedSingles.map .excludedSingle ++ bag.ranges.map .range ++
    bag.excludedRanges.map .excludedRange ++ bag.comparisons.map .comparison ++
    bag.textMatches.map .textMatch

/-- The number of entries of a kind. -/
def countOf (bag : Bag) : Entry.Kind → Nat
  | .single => bag.singles.length
  | .excludedSingle => bag.excludedSingles.length
  | .range => bag.ranges.length
  | .excludedRange => bag.excludedRanges.length
  | .comparison => bag.comparisons.length
  | .textMatch => bag.textMatches.length

/-- The number of entries. -/
def count (bag : Bag) : Nat :=
  bag.singles.length + bag.excludedSingles.length + bag.ranges.length + bag.excludedRanges.length +
    bag.comparisons.length + bag.textMatches.length

/-- Decides whether there are entries of a kind. -/
def has (bag : Bag) (kind : Entry.Kind) : Bool :=
  decide (0 < bag.countOf kind)

/-- Decides whether there are no entries. -/
def isEmpty (bag : Bag) : Bool :=
  bag.count == 0

/-- The bag without the entries of a kind. -/
def without (bag : Bag) : Entry.Kind → Bag
  | .single => { bag with singles := [] }
  | .excludedSingle => { bag with excludedSingles := [] }
  | .range => { bag with ranges := [] }
  | .excludedRange => { bag with excludedRanges := [] }
  | .comparison => { bag with comparisons := [] }
  | .textMatch => { bag with textMatches := [] }

/-- The entries of one bag and behind them, kind by kind, those of another. -/
def append (a b : Bag) : Bag where
  singles := a.singles ++ b.singles
  excludedSingles := a.excludedSingles ++ b.excludedSingles
  ranges := a.ranges ++ b.ranges
  excludedRanges := a.excludedRanges ++ b.excludedRanges
  comparisons := a.comparisons ++ b.comparisons
  textMatches := a.textMatches ++ b.textMatches

instance : Append Bag := ⟨append⟩

/-- Equality of two lists, place by place. -/
def sameList {α : Type} (same : α → α → Bool) : List α → List α → Bool
  | [], [] => true
  | a :: as, b :: bs => same a b && sameList same as bs
  | _, _ => false

/-- Equality of bags: of each kind the same entries in the same order. -/
def same (a b : Bag) : Bool :=
  sameList Single.same a.singles b.singles &&
    sameList Single.same a.excludedSingles b.excludedSingles &&
    sameList Range.same a.ranges b.ranges && sameList Range.same a.excludedRanges b.excludedRanges &&
    sameList Comparison.same a.comparisons b.comparisons && a.textMatches == b.textMatches

@[simp]
theorem count_empty : count empty = 0 := rfl

@[simp]
theorem count_add (bag : Bag) (entry : Entry) : (bag.add entry).count = bag.count + 1 := by
  cases entry <;> simp [add, count] <;> omega

@[simp]
theorem length_toList (bag : Bag) : bag.toList.length = bag.count := by
  simp [toList, count, Nat.add_assoc]

theorem isEmpty_iff_toList (bag : Bag) : bag.isEmpty = true ↔ bag.toList = [] := by
  rw [isEmpty, beq_iff_eq, ← length_toList, List.length_eq_zero_iff]

end Bag

end Criteria
