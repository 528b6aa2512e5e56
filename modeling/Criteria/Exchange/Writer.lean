import Criteria.Exchange.Form
import Criteria.ExportError

/-!
# Writing exchange forms

The exchange form of a condition.  Empty bags are left out, and only joining by OR is mentioned.
-/

namespace Criteria.Exchange

/-- The norm of a value. -/
def writeValue (field : Field) (v : Value) : Except ExportError String :=
  field.formOf (field.toNorm v)

/-- The form of a single value. -/
def writeSingle (field : Field) (s : Single) : Except ExportError String :=
  writeValue field s.value

/-- The form of a range. -/
def writeRange (field : Field) (r : Range) : Except ExportError RangeForm := do
  let lower ← writeValue field r.lower
  let upper ← writeValue field r.upper
  return ⟨lower, upper, r.includesLower, r.includesUpper⟩

/-- The form of a comparison. -/
def writeComparison (field : Field) (c : Comparison) : Except ExportError ComparisonForm := do
  return ⟨c.operator, ← writeValue field c.value⟩

/-- The form of a match. -/
def writeMatch (m : TextMatch) : MatchForm :=
  ⟨m.typeName, m.text, m.ignoresCase⟩

/-- The form of a bag. -/
def writeBag (field : Field) (bag : Bag) : Except ExportError BagForm := do
  return {
    singles := ← bag.singles.mapM (writeSingle field)
    excludedSingles := ← bag.excludedSingles.mapM (writeSingle field)
    ranges := ← bag.ranges.mapM (writeRange field)
    excludedRanges := ← bag.excludedRanges.mapM (writeRange field)
    comparisons := ← bag.comparisons.mapM (writeComparison field)
    textMatches := bag.textMatches.map writeMatch }

/-- The forms of named bags, without the empty ones. -/
def writeFields (schema : Schema) : List (String × Bag) → Except ExportError (List (String × BagForm))
  | [] => pure []
  | (name, bag) :: rest =>
      if bag.isEmpty then writeFields schema rest
      else do
        let field ← schema.fieldOf name
        let form ← writeBag field bag
        return (name, form) :: (← writeFields schema rest)

/-- How the parts are joined, if it has to be mentioned. -/
def writeLogical : Logical → Option Logical
  | .all => none
  | .any => some .any

/-- The form of a group. -/
def writeGroup (schema : Schema) : Group → Except ExportError GroupForm :=
  Group.fold fun logical fields below => do
    let bags ← writeFields schema fields.entries
    let groups ← below.mapM id
    return .mk (.ofList bags) groups (writeLogical logical)

/-- The exchange form of a condition. -/
def write (c : Condition) : Except ExportError GroupForm :=
  writeGroup c.schema c.root

end Criteria.Exchange
