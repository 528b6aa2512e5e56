import Criteria.Exchange.Reader
import Criteria.Exchange.Writer
import Criteria.Json.Decode
import Criteria.Json.Printer

/-!
# Exchange forms as JSON

Every form is an object.  A member that has its usual value is left out on writing and put back on reading:
an empty list or collection, a bound that belongs to its range, a match that minds the case.
-/

namespace Criteria.Exchange

open Json

/-! ## Writing -/

/-- A member, unless it is to be left out. -/
def memberIf (present : Bool) (key : String) (value : Json) : List (String × Json) :=
  if present then [(key, value)] else []

/-- A list as a member, unless it is empty. -/
def listMember {α : Type} (key : String) (encode : α → Json) (elements : List α) :
    List (String × Json) :=
  memberIf (!elements.isEmpty) key (.array (elements.map encode))

/-- A range as JSON. -/
def RangeForm.toJson (r : RangeForm) : Json :=
  .record <| [("lower", .text r.lower), ("upper", .text r.upper)] ++
    memberIf (!r.includesLower) "inclusive-lower" (.bool false) ++
    memberIf (!r.includesUpper) "inclusive-upper" (.bool false)

/-- A comparison as JSON. -/
def ComparisonForm.toJson (c : ComparisonForm) : Json :=
  .record [("operator", .text c.operator.sign), ("value", .text c.value)]

/-- A match as JSON. -/
def MatchForm.toJson (m : MatchForm) : Json :=
  .record <| [("type", .text m.typeName), ("value", .text m.value)] ++
    memberIf m.ignoresCase "case-insensitive" (.bool true)

/-- A bag as JSON. -/
def BagForm.toJson (bag : BagForm) : Json :=
  .record <| listMember "simple-values" Json.text bag.singles ++
    listMember "excluded-simple-values" Json.text bag.excludedSingles ++
    listMember "ranges" RangeForm.toJson bag.ranges ++
    listMember "excluded-ranges" RangeForm.toJson bag.excludedRanges ++
    listMember "comparisons" ComparisonForm.toJson bag.comparisons ++
    listMember "pattern-matchers" MatchForm.toJson bag.textMatches

/-- A group as JSON. -/
def GroupForm.toJson : GroupForm → Json :=
  GroupForm.fold fun fields below logical =>
    .record <|
      memberIf (!fields.isEmpty) "fields"
        (.record (fields.entries.map fun entry => (entry.1, entry.2.toJson))) ++
      memberIf (!below.isEmpty) "groups" (.array below) ++
      match logical with
      | none => []
      | some logical => [("logical-case", .text logical.keyword)]

/-! ## Reading -/

/-- The way to join that a word stands for. -/
def decodeLogical (level : Nat) (j : Json) : Option Logical :=
  (toWord? level j).bind Logical.ofKeyword?

/-- The operator that a word stands for. -/
def decodeOperator (level : Nat) (j : Json) : Option Operator :=
  (toWord? level j).bind Operator.ofSign?

/-- A list, empty if it is absent. -/
def listOf {α : Type} (decode : Nat → Json → Option α) (level : Nat) (member : Option Json) :
    Option (List α) :=
  withDefault [] (toList? decode level) member

/-- A text, wherever it stands. -/
def decodeText (_ : Nat) (j : Json) : Option String :=
  toText? j

/-- A range from JSON. -/
def RangeForm.ofJson? (level : Nat) (j : Json) : Option RangeForm := do
  match ← toRecord? ["lower", "upper", "inclusive-lower", "inclusive-upper"] level j with
  | (_, [lower, upper, includesLower, includesUpper]) =>
      return {
        lower := ← required toText? lower
        upper := ← required toText? upper
        includesLower := ← withDefault true toBool? includesLower
        includesUpper := ← withDefault true toBool? includesUpper }
  | _ => none

/-- A comparison from JSON. -/
def ComparisonForm.ofJson? (level : Nat) (j : Json) : Option ComparisonForm := do
  match ← toRecord? ["operator", "value"] level j with
  | (level, [operator, value]) =>
      return {
        operator := ← required (decodeOperator level) operator
        value := ← required toText? value }
  | _ => none

/-- A match from JSON. -/
def MatchForm.ofJson? (level : Nat) (j : Json) : Option MatchForm := do
  match ← toRecord? ["type", "value", "case-insensitive"] level j with
  | (_, [typeName, value, ignoresCase]) =>
      return {
        typeName := ← required toText? typeName
        value := ← required toText? value
        ignoresCase := ← withDefault false toBool? ignoresCase }
  | _ => none

/-- A bag from JSON. -/
def BagForm.ofJson? (level : Nat) (j : Json) : Option BagForm := do
  match ← toRecord? ["simple-values", "excluded-simple-values", "ranges", "excluded-ranges",
      "comparisons", "pattern-matchers"] level j with
  | (level, [singles, excludedSingles, ranges, excludedRanges, comparisons, textMatches]) =>
      return {
        singles := ← listOf decodeText level singles
        excludedSingles := ← listOf decodeText level excludedSingles
        ranges := ← listOf RangeForm.ofJson? level ranges
        excludedRanges := ← listOf RangeForm.ofJson? level excludedRanges
        comparisons := ← listOf ComparisonForm.ofJson? level comparisons
        textMatches := ← listOf MatchForm.ofJson? level textMatches }
  | _ => none

/-- How the parts of a group are joined, if it is mentioned; a null does not mention it. -/
def decodeMention (level : Nat) (j : Json) : Option (Option Logical) :=
  match j with
  | .null => some none
  | j => (decodeLogical level j).map some

/-- A group from JSON, with the given number of levels left.  A group takes two of them, one for its object
and one for the array around the groups below it. -/
def GroupForm.ofJson? : Nat → Json → Option GroupForm
  | 0, _ => none
  | 1, _ => none
  | level + 2, j => do
      match ← toRecord? ["fields", "groups", "logical-case"] (level + 2) j with
      | (_, [fields, groups, logical]) =>
          let fields ← withDefault [] (toEntries? BagForm.ofJson? (level + 1)) fields
          let groups ← withDefault [] (toList? (fun _ => ofJson? level) (level + 1)) groups
          let logical ← withDefault none (decodeMention (level + 1)) logical
          return .mk (.ofList fields) groups logical
      | _ => none

/-- The compact JSON text of a form. -/
def GroupForm.compactText (form : GroupForm) : String :=
  String.ofList form.toJson.compact

/-- The pretty JSON text of a form. -/
def GroupForm.prettyText (form : GroupForm) : String :=
  String.ofList form.toJson.pretty

/-- The form that a JSON text holds. -/
def GroupForm.ofText? (text : String) : Option GroupForm :=
  (Json.parse text.toList).bind (GroupForm.ofJson? startLevel)

/-- The condition that a JSON text describes, or why there is none. -/
def readText (schema : Schema) (limits : Limits) (text : String) : Except Refusal Condition :=
  match GroupForm.ofText? text with
  | none => .error (.problems [.general .malformed none])
  | some form => read schema limits form

end Criteria.Exchange
