import Criteria.Condition.Bag
import Criteria.Keyed

/-!
# Groups

A condition is a tree of groups.  A group joins what it says about fields, a bag for each, with the groups
below it.  Functions on trees are folds: the value of a group comes from its own parts and from the values of
the groups below it.
-/

namespace Criteria

/-- A node of the tree of a condition. -/
inductive Group where
  | mk (logical : Logical) (fields : Keyed Bag) (groups : List Group)

namespace Group

/-- How the parts of the group are joined. -/
def logical : Group → Logical
  | mk logical _ _ => logical

/-- What the group itself says about fields. -/
def fields : Group → Keyed Bag
  | mk _ fields _ => fields

/-- The groups below. -/
def groups : Group → List Group
  | mk _ _ groups => groups

/-- The group that says nothing. -/
def empty (logical : Logical) : Group :=
  mk logical .empty []

instance : Inhabited Group := ⟨empty .all⟩

mutual

/-- Gives a value to a group from its own parts and the values of the groups below. -/
def fold {β : Type} (f : Logical → Keyed Bag → List β → β) : Group → β
  | mk logical fields groups => f logical fields (foldList f groups)

/-- Gives values to a list of groups. -/
def foldList {β : Type} (f : Logical → Keyed Bag → List β → β) : List Group → List β
  | [] => []
  | group :: groups => fold f group :: foldList f groups

end

theorem foldList_eq_map {β : Type} (f : Logical → Keyed Bag → List β → β) (groups : List Group) :
    foldList f groups = groups.map (fold f) := by
  induction groups with
  | nil => rfl
  | cons group groups ih => simp [foldList, ih]

theorem fold_mk {β : Type} (f : Logical → Keyed Bag → List β → β) (logical : Logical)
    (fields : Keyed Bag) (groups : List Group) :
    fold f (mk logical fields groups) = f logical fields (groups.map (fold f)) := by
  simp [fold, foldList_eq_map]

/-- A property passes to all groups if it passes from the groups below a group to the group itself. -/
@[induction_eliminator]
theorem induct {P : Group → Prop}
    (step : ∀ logical fields groups, (∀ g ∈ groups, P g) → P (mk logical fields groups))
    (group : Group) : P group :=
  @Group.rec P (fun groups => ∀ g ∈ groups, P g) step
    (fun _ h => absurd h List.not_mem_nil)
    (fun _ _ first others g h =>
      (List.mem_cons.mp h).elim (fun heq => heq ▸ first) (fun hmem => others g hmem))
    group

/-- Adds entries about a field to those there are. -/
def addField (group : Group) (name : String) (bag : Bag) : Group :=
  match group with
  | mk logical fields groups => mk logical (fields.alter name fun old => old.getD .empty ++ bag) groups

/-- Adds a group behind those below. -/
def addGroup (group child : Group) : Group :=
  match group with
  | mk logical fields groups => mk logical fields (groups ++ [child])

/-- The entries about a field. -/
def field? (group : Group) (name : String) : Option Bag :=
  group.fields.get? name

/-- Decides whether the group itself has entries about a field. -/
def hasField (group : Group) (name : String) : Bool :=
  (group.field? name).any fun bag => !bag.isEmpty

/-- The number of entries of the tree. -/
def count : Group → Nat :=
  fold fun _ fields below => (fields.values.map Bag.count).foldr (· + ·) 0 + below.foldr (· + ·) 0

/-- The number of levels below a group. -/
def depth : Group → Nat :=
  fold fun _ _ below => (below.map (· + 1)).foldl max 0

/-- Decides whether a group has neither entries nor groups below. -/
def isEmpty (group : Group) : Bool :=
  group.fields.values.all Bag.isEmpty && group.groups.isEmpty

/-- Changes every bag of the tree, with a look at the name of its field. -/
def mapBags (f : String → Bag → Bag) : Group → Group :=
  fold fun logical fields below => mk logical (fields.map f) below

/-- Equality of trees: the same joins and bags, whatever the order of fields, and the same groups below in the
same order. -/
def same : Group → Group → Bool :=
  fold fun logical fields below other =>
    logical == other.logical && fields.sameBy Bag.same other.fields &&
      below.length == other.groups.length && (below.zip other.groups).all fun pair => pair.1 pair.2

end Group

end Criteria
