import Criteria.Schema

/-!
# Validation

Lists everything in which a condition breaks the rules of its fields or a set of limits, in the order of the
tree.  The groups below a group that may not have any are not looked at.
-/

namespace Criteria

namespace Validation

/-- The problems with the entries about a field. -/
def fieldProblems (schema : Schema) (limits : Limits) (name : String) (bag : Bag) : List Problem :=
  match schema.field? name with
  | none => [.about name .unknownField none]
  | some field =>
      let entryProblem (entry : Entry) : Option Problem :=
        match field.check entry with
        | .ok () => none
        | .error cause => some (.about name cause none)
      let max := field.limit limits
      bag.toList.filterMap entryProblem ++
        if max < bag.count then [.about name (.tooManyEntries name max) none] else []

/-- The problems with a group at a given level and with the groups below it. -/
def groupProblems (schema : Schema) (limits : Limits) : Group → Nat → List Problem :=
  Group.fold fun _ fields below level =>
    fields.entries.flatMap (fun entry => fieldProblems schema limits entry.1 entry.2) ++
      (if limits.maxGroups < below.length then [.general (.tooManyGroups limits.maxGroups) none]
        else []) ++
      if !below.isEmpty && limits.maxNesting < level + 1 then
        [.general (.nestedTooDeep limits.maxNesting) none]
      else below.flatMap fun problems => problems (level + 1)

end Validation

/-- Everything in which a condition breaks the rules. -/
def Condition.problems (limits : Limits) (c : Condition) : List Problem :=
  Validation.groupProblems c.schema limits c.root 0

end Criteria
