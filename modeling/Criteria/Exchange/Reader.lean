import Criteria.Exchange.Form
import Criteria.Intake

/-!
# Reading exchange forms

An exchange form becomes a condition: its values are taken as norms of the fields they stand under, and
the views are made anew.  A pattern that cannot print a value ends the whole reading.  How a value is shown
decides nothing else, so the reading is written for any way of showing values, in any monad in which problems
can be noted.
-/

namespace Criteria.Exchange

open Intake

/-- A reading that notes problems and goes on, but ends, with no result and no report, at a pattern that
cannot print a value. -/
abbrev Reading := ExceptT Calendar.Pattern Noted

/-- The view of a value, or the text it was given as where it has none.  There is no going on from a pattern
that cannot print the value. -/
def viewOf (field : Field) (v : Value) (norm : String) : Reading String :=
  match field.toView v with
  | .ok view => pure view
  | .error (.unprintable pattern) => throw pattern
  | .error _ => pure norm

section Reading

variable {m : Type → Type} [Monad m] [MonadLiftT Noted m] (view : Field → Value → String → m String)

/-- A value with its view. -/
def readValue (field : Field) (norm : String) : m (Option Single) := do
  match ← convert field (field.ofNorm norm) none with
  | none => return none
  | some value => return some ⟨value, ← view field value norm⟩

/-- A range; both bounds are looked at, even if one is wrong. -/
def readRange (field : Field) (form : RangeForm) : m (Option Range) := do
  let lower ← readValue view field form.lower
  let upper ← readValue view field form.upper
  match lower, upper with
  | some lower, some upper =>
      return some ⟨lower.value, upper.value, form.includesLower, form.includesUpper, lower.view,
        upper.view⟩
  | _, _ => return none

/-- A match; the name of its kind may not exist. -/
def readMatch (field : Field) (form : MatchForm) : Noted (Option TextMatch) :=
  match MatchKind.ofFullName? form.typeName with
  | some (kind, negated) => pure (some ⟨form.value, kind, negated, form.ignoresCase⟩)
  | none => do
      Noted.note (.about field.name (.unknownMatchType form.typeName) none)
      return none

/-- The entries of a form in the order of their kinds, each as it is read. -/
def entriesOf (field : Field) (form : BagForm) : List (m (Option Entry)) :=
  let single (norm : String) : m (Option Entry) := do
    return (← readValue view field norm).map .single
  let excludedSingle (norm : String) : m (Option Entry) := do
    return (← readValue view field norm).map .excludedSingle
  let range (r : RangeForm) : m (Option Entry) := do
    return (← readRange view field r).map .range
  let excludedRange (r : RangeForm) : m (Option Entry) := do
    return (← readRange view field r).map .excludedRange
  let comparison (c : ComparisonForm) : m (Option Entry) := do
    return (← readValue view field c.value).map fun s => .comparison ⟨s.value, c.operator, s.view⟩
  let textMatch (form : MatchForm) : m (Option Entry) := do
    return (← readMatch field form).map .textMatch
  form.singles.map single ++ form.excludedSingles.map excludedSingle ++ form.ranges.map range ++
    form.excludedRanges.map excludedRange ++ form.comparisons.map comparison ++
    form.textMatches.map textMatch

/-- Adds entries to a bag as they are read. -/
def readEntries (limits : Limits) (field : Field) (bag : Bag) : List (m (Option Entry)) → m Bag
  | [] => pure bag
  | entry :: entries => do
      match ← entry with
      | none => readEntries limits field bag entries
      | some entry => do
          let bag ← addEntry limits field bag entry none
          readEntries limits field bag entries

/-- Adds the bags of named forms; a bag that stays empty is left out. -/
def readFields (schema : Schema) (limits : Limits) (fields : Keyed Bag) :
    List (String × BagForm) → m (Keyed Bag)
  | [] => pure fields
  | (name, form) :: rest => do
      match ← lookUp schema name none with
      | none => readFields schema limits fields rest
      | some field => do
          let bag ← readEntries limits field .empty (entriesOf view field form)
          readFields schema limits (if bag.isEmpty then fields else fields.insert name bag) rest

/-- Builds the groups that may be built, from the given position on. -/
def readGroups (limits : Limits) (level : Nat) : Nat → List (Nat → m Group) → m (List Group)
  | _, [] => pure []
  | position, build :: rest => do
      if ← mayEnter limits position level none then
        let group ← build level
        return group :: (← readGroups limits level (position + 1) rest)
      else readGroups limits level (position + 1) rest

/-- A group at a level. -/
def readGroup (schema : Schema) (limits : Limits) : GroupForm → Nat → m Group :=
  GroupForm.fold fun fields below logical level => do
    let bags ← readFields view schema limits .empty fields.entries
    let groups ← readGroups limits (level + 1) 1 below
    return .mk (logical.getD .all) bags groups

end Reading

/-- Why a form describes no condition. -/
inductive Refusal where
  /-- All that is wrong with it. -/
  | problems (problems : List Problem)
  /-- The reading ended at a pattern that cannot print a value. -/
  | unprintable (pattern : Calendar.Pattern)
  deriving DecidableEq

/-- The condition that a form describes, or why there is none. -/
def read (schema : Schema) (limits : Limits) (form : GroupForm) : Except Refusal Condition :=
  let reading := (readGroup viewOf schema limits form 0).run
  match reading.value with
  | .ok root => (finish schema ⟨root, reading.problems⟩).mapError .problems
  | .error pattern => .error (.unprintable pattern)

end Criteria.Exchange
