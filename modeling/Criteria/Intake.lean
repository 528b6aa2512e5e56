import Criteria.Schema

/-!
# Taking in conditions

What all readers of conditions have in common.  A reader does not stop at the first problem: it notes every
one and goes on, and hands out a condition only if it noted none.  The limits hold while the condition is
built, so nothing far beyond them is ever built.
-/

namespace Criteria

/-- A result and the problems that were noted on the way to it. -/
structure Noted (α : Type) where
  value : α
  problems : List Problem

namespace Noted

variable {α β : Type}

instance : Monad Noted where
  pure a := ⟨a, []⟩
  bind x f :=
    let y := f x.value
    ⟨y.value, x.problems ++ y.problems⟩

/-- Notes a problem. -/
def note (p : Problem) : Noted Unit :=
  ⟨(), [p]⟩

@[simp]
theorem value_pure (a : α) : (pure a : Noted α).value = a := rfl

@[simp]
theorem problems_pure (a : α) : (pure a : Noted α).problems = [] := rfl

@[simp]
theorem value_bind (x : Noted α) (f : α → Noted β) : (x >>= f).value = (f x.value).value := rfl

@[simp]
theorem problems_bind (x : Noted α) (f : α → Noted β) :
    (x >>= f).problems = x.problems ++ (f x.value).problems := rfl

@[simp]
theorem problems_note (p : Problem) : (note p).problems = [p] := rfl

end Noted

namespace Intake

open Noted

/-- The field with a name; an unknown one is a problem. -/
def lookUp (schema : Schema) (name : String) (offset : Option Nat) : Noted (Option Field) :=
  match schema.field? name with
  | some field => pure (some field)
  | none => do
      note (.about name .unknownField offset)
      return none

/-- A converted value; a failed conversion is a problem. -/
def convert (field : Field) (result : Except ConversionFailure Value) (offset : Option Nat) :
    Noted (Option Value) :=
  match result with
  | .ok v => pure (some v)
  | .error failure => do
      note (.about field.name (.conversion failure) offset)
      return none

/-- Adds an entry to a bag if the field accepts it.  The first entry beyond the limit is a problem and is
added all the same; later ones are passed over in silence. -/
def addEntry (limits : Limits) (field : Field) (bag : Bag) (entry : Entry) (offset : Option Nat) :
    Noted Bag :=
  let limit := field.limit limits
  let count := bag.count
  if limit < count then pure bag
  else
    match field.check entry with
    | .error cause => do
        note (.about field.name cause offset)
        return bag
    | .ok () => do
        if count = limit then note (.about field.name (.tooManyEntries field.name limit) offset)
        return bag.add entry

/-- Decides whether the group at a position, counted from one, may be built at a level.  Only the first group
beyond the limit is a problem; every group that is nested too deep is one. -/
def mayEnter (limits : Limits) (position level : Nat) (offset : Option Nat) : Noted Bool :=
  if limits.maxGroups < position then do
    if position = limits.maxGroups + 1 then note (.general (.tooManyGroups limits.maxGroups) offset)
    return false
  else if limits.maxNesting < level then do
    note (.general (.nestedTooDeep limits.maxNesting) offset)
    return false
  else pure true

/-- The condition with a given root, unless a problem was noted. -/
def finish (schema : Schema) (root : Noted Group) : Except (List Problem) Condition :=
  match root.problems with
  | [] => .ok ⟨schema, root.value⟩
  | problems => .error problems

end Intake

end Criteria
