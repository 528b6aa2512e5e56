import Criteria.Refine.Bags

/-!
# Folding values into ranges

Where the values of a field are made of steps, a run of two or more single values, each one step above the one
before, becomes a range that includes both ends; so `1, 2, 3, 7` becomes `1-3, 7`.  Of equal values the first
counts and the others go.  Excluded values become excluded ranges in the same way.
-/

namespace Criteria.Refine

/-- A single value and its place in the list it comes from. -/
structure Placed where
  single : Single
  place : Nat

/-- The order in which values are lined up: kind by kind, and within a kind by the order of the field. -/
def lineUp (field : Field) (a b : Value) : Ordering :=
  (Ord.compare a.kind.name b.kind.name).then ((field.compare a b).getD .eq)

/-- Decides whether one value may stand in front of another when they are lined up. -/
def standsBefore (field : Field) (a b : Placed) : Bool :=
  lineUp field a.single.value b.single.value != .gt

/-- The values of a list with their places, lined up; equal ones keep their order. -/
def linedUp (field : Field) (values : List Single) : List Placed :=
  (values.zipIdx.map fun entry => ⟨entry.1, entry.2⟩).mergeSort (standsBefore field)

/-- Values that are equal to the first of them. -/
structure Cluster where
  first : Placed
  others : List Placed

/-- Gathers the neighbours that equal the first of their cluster, beginning with a given one. -/
def clustersFrom (field : Field) (first : Placed) (others : List Placed) : List Placed → List Cluster
  | [] => [⟨first, others.reverse⟩]
  | next :: rest =>
      if field.isEqual first.single.value next.single.value then
        clustersFrom field first (next :: others) rest
      else ⟨first, others.reverse⟩ :: clustersFrom field next [] rest

/-- The clusters of a list. -/
def clusters (field : Field) : List Placed → List Cluster
  | [] => []
  | first :: rest => clustersFrom field first [] rest

/-- Decides whether one value is one step above another. -/
def isStep (field : Field) (a b : Value) : Bool :=
  ((field.order.bind fun order => order.next? a)).any fun next => field.isEqual next b

/-- Splits a list where an element does not follow from the one before. -/
def splitRuns {α : Type} (follows : α → α → Bool) : List α → List (List α)
  | [] => []
  | x :: xs =>
      match splitRuns follows xs with
      | (y :: run) :: runs => if follows x y then (x :: y :: run) :: runs else [x] :: (y :: run) :: runs
      | runs => [x] :: runs

/-- The runs of clusters whose values go up by single steps. -/
def runs (field : Field) (cs : List Cluster) : List (List Cluster) :=
  splitRuns (fun a b => isStep field a.first.single.value b.first.single.value) cs

/-- The range from the first to the last value of a run, if it has two or more. -/
def rangeOfRun? : List Cluster → Option Range
  | [] => none
  | [_] => none
  | first :: second :: rest =>
      let last := (second :: rest).getLastD second
      some (.inclusive first.first.single last.first.single)

/-- The places of the values that a run makes superfluous: all of them if it becomes a range, and otherwise
all but the first of its cluster. -/
def droppedOfRun : List Cluster → List Nat
  | [] => []
  | [c] => c.others.map Placed.place
  | cs => cs.flatMap fun c => c.first.place :: c.others.map Placed.place

/-- The values that stay single, and the ranges that runs of values become. -/
def fold (field : Field) (values : List Single) : List Single × List Range :=
  if field.order.any ValueOrder.hasSteps && 2 ≤ values.length then
    let found := runs field (clusters field (linedUp field values))
    let dropped := found.flatMap droppedOfRun
    ((values.zipIdx.filter fun entry => !dropped.contains entry.2).map Prod.fst,
      found.filterMap rangeOfRun?)
  else (values, [])

/-- A bag with its runs of values folded; new ranges stand behind the old ones. -/
def foldBag (field : Field) (bag : Bag) : Bag :=
  if field.hasSteps then
    let (singles, ranges) := fold field bag.singles
    let (excludedSingles, excludedRanges) := fold field bag.excludedSingles
    { bag with
      singles
      ranges := bag.ranges ++ ranges
      excludedSingles
      excludedRanges := bag.excludedRanges ++ excludedRanges }
  else bag

/-- Folds runs of values into ranges. -/
def foldValues (c : Condition) : Condition :=
  c.mapBags foldBag

end Criteria.Refine
