import Criteria.Condition.Entry
import Criteria.Keyed

/-!
# Exchange forms

The form in which conditions are handed to other programs: the same tree, its values as norms, and nothing of
their views.
-/

namespace Criteria.Exchange

/-- A range between two norms. -/
structure RangeForm where
  lower : String
  upper : String
  includesLower : Bool
  includesUpper : Bool
  deriving DecidableEq

/-- A comparison with a norm. -/
structure ComparisonForm where
  operator : Operator
  value : String
  deriving DecidableEq

/-- A match by the full name of its kind, which need not be one that exists. -/
structure MatchForm where
  typeName : String
  value : String
  ignoresCase : Bool
  deriving DecidableEq

/-- The entries about one field. -/
structure BagForm where
  singles : List String
  excludedSingles : List String
  ranges : List RangeForm
  excludedRanges : List RangeForm
  comparisons : List ComparisonForm
  textMatches : List MatchForm
  deriving DecidableEq

/-- A group; how its parts are joined may be left open. -/
inductive GroupForm where
  | mk (fields : Keyed BagForm) (groups : List GroupForm) (logical : Option Logical)

namespace GroupForm

mutual

/-- Gives a value to a group from its own parts and the values of the groups below. -/
def fold {β : Type} (f : Keyed BagForm → List β → Option Logical → β) : GroupForm → β
  | mk fields groups logical => f fields (foldList f groups) logical

/-- Gives values to a list of groups. -/
def foldList {β : Type} (f : Keyed BagForm → List β → Option Logical → β) : List GroupForm → List β
  | [] => []
  | group :: groups => fold f group :: foldList f groups

end

theorem foldList_eq_map {β : Type} (f : Keyed BagForm → List β → Option Logical → β)
    (groups : List GroupForm) : foldList f groups = groups.map (fold f) := by
  induction groups with
  | nil => rfl
  | cons group groups ih => simp [foldList, ih]

theorem fold_mk {β : Type} (f : Keyed BagForm → List β → Option Logical → β) (fields : Keyed BagForm)
    (groups : List GroupForm) (logical : Option Logical) :
    fold f (mk fields groups logical) = f fields (groups.map (fold f)) logical := by
  simp [fold, foldList_eq_map]

/-- A property passes to all groups if it passes from the groups below a group to the group itself. -/
@[induction_eliminator]
theorem induct {P : GroupForm → Prop}
    (step : ∀ fields groups logical, (∀ g ∈ groups, P g) → P (mk fields groups logical))
    (group : GroupForm) : P group :=
  @GroupForm.rec P (fun groups => ∀ g ∈ groups, P g)
    (fun fields groups logical below => step fields groups logical below)
    (fun _ h => absurd h List.not_mem_nil)
    (fun _ _ first others g h =>
      (List.mem_cons.mp h).elim (fun heq => heq ▸ first) (fun hmem => others g hmem))
    group

end GroupForm

end Criteria.Exchange
