import Criteria.Intake
import Criteria.Query.Grammar

/-!
# Reading queries

A text that follows the grammar becomes a condition: its values are taken as views of the fields they stand
under.  A text that does not is one problem, at the place where the grammar gave up.
-/

namespace Criteria.Query

open Intake Noted

/-- A value with the text it was given as. -/
def readScalar (field : Field) (node : ScalarNode) (offset : Nat) : Noted (Option Single) := do
  let view := String.ofList node.text
  let value ← convert field (field.ofView view) (some offset)
  return value.map fun value => ⟨value, view⟩

/-- A range; both bounds are looked at, even if one is wrong. -/
def readRange (field : Field) (node : RangeNode) (offset : Nat) : Noted (Option Range) := do
  let lower ← readScalar field node.lower offset
  let upper ← readScalar field node.upper offset
  match lower, upper with
  | some lower, some upper =>
      return some ⟨lower.value, upper.value, node.openLower.isNone, node.openUpper.isNone, lower.view,
        upper.view⟩
  | _, _ => return none

/-- A match; a star at its end is without meaning. -/
def readMatch (node : MatchNode) : TextMatch :=
  ⟨String.ofList node.value.text, node.kind, node.negated.isSome, node.ignoresCase.isSome⟩

/-- An entry about a field. -/
def readEntry (field : Field) (node : EntryNode) : Noted (Option Entry) :=
  let offset := node.span.start
  match node with
  | .single _ value => do return (← readScalar field value offset).map .single
  | .excludedSingle _ value => do return (← readScalar field value offset).map .excludedSingle
  | .range r => do return (← readRange field r offset).map .range
  | .excludedRange _ r => do return (← readRange field r offset).map .excludedRange
  | .comparison _ _ operator value => do
      return (← readScalar field value offset).map fun s => .comparison ⟨s.value, operator, s.view⟩
  | .textMatch m => pure (some (.textMatch (readMatch m)))

/-- Adds the entries of a list to a bag. -/
def readEntries (limits : Limits) (field : Field) (bag : Bag) : List EntryNode → Noted Bag
  | [] => pure bag
  | node :: nodes => do
      match ← readEntry field node with
      | none => readEntries limits field bag nodes
      | some entry => do
          let bag ← addEntry limits field bag entry (some node.span.start)
          readEntries limits field bag nodes

/-- Adds the entries of a statement to the bag of its field.  A bag that stays empty is left out. -/
def readStatement (schema : Schema) (limits : Limits) (fields : Keyed Bag) (node : StatementNode) :
    Noted (Keyed Bag) := do
  let name := String.ofList node.name
  match ← lookUp schema name (some node.nameSpan.start), node.entries with
  | none, _ => return fields
  | some _, none => return fields
  | some field, some (_, nodes) => do
      let bag ← readEntries limits field ((fields.get? field.name).getD .empty) nodes
      return if bag.isEmpty then fields.erase field.name else fields.insert field.name bag

/-- The star in front of a group joins its parts by OR. -/
def logicalOf (anyMark : Option Span) : Logical :=
  if anyMark.isSome then .any else .all

/-- What has been read of a group: its bags, the groups below, and how many groups there were. -/
structure GroupParts where
  fields : Keyed Bag
  groups : List Group
  seen : Nat

/-- No parts. -/
def GroupParts.none : GroupParts :=
  ⟨.empty, [], 0⟩

/-- Adds the parts of a group at a level. -/
def readItems (schema : Schema) (limits : Limits) (level : Nat) (parts : GroupParts) :
    List ItemNode → Noted GroupParts
  | [] => pure parts
  | .statement node :: rest => do
      let fields ← readStatement schema limits parts.fields node
      readItems schema limits level { parts with fields } rest
  | .group span anyMark items :: rest => do
      let seen := parts.seen + 1
      if ← mayEnter limits seen (level + 1) (some span.start) then
        let inner ← readItems schema limits (level + 1) .none items
        let group := Group.mk (logicalOf anyMark) inner.fields inner.groups
        readItems schema limits level { parts with groups := parts.groups ++ [group], seen } rest
      else readItems schema limits level { parts with seen } rest

/-- The root group of a query. -/
def readRoot (schema : Schema) (limits : Limits) (tree : QueryNode) : Noted Group := do
  let parts ← readItems schema limits 0 .none tree.items
  return .mk (logicalOf tree.anyMark) parts.fields parts.groups

/-- The condition that a text describes, or all problems with it. -/
def read (schema : Schema) (limits : Limits) (text : String) : Except (List Problem) Condition :=
  match parse text.toList with
  | .error offset => .error [.general .malformed (some offset)]
  | .ok tree => finish schema (readRoot schema limits tree)

end Criteria.Query
