import Criteria.Calendar.Reader
import Criteria.Condition.Group
import Criteria.Json.Decode
import Criteria.Json.Printer

/-!
# Archives

The tree of a condition in full as JSON: model values with their kinds, views, and every member of every part,
also the empty ones.  Reading an archive asks nothing of the values but that they exist.
-/

namespace Criteria.Archive

open Json

/-! ## Writing -/

/-- A value under the name of its kind. -/
def ofValue : Value → Json
  | .integer n => .record [("Integer", ofInt n.toInt)]
  | .float x => .record [("Float", ofFloat x)]
  | .string t => .record [("String", .text t)]
  | .boolean b => .record [("Boolean", .bool b)]
  | .date d => .record [("Date", .text (Calendar.isoDateText d))]
  | .moment m => .record [("DateTime", .text (Calendar.isoExactMomentText m))]

/-- A single value with its view. -/
def ofSingle (s : Single) : Json :=
  .record [("value", ofValue s.value), ("view", .text s.view)]

/-- A range. -/
def ofRange (r : Range) : Json :=
  .record [("lower", ofValue r.lower), ("upper", ofValue r.upper),
    ("inclusive_lower", .bool r.includesLower), ("inclusive_upper", .bool r.includesUpper),
    ("view_lower", .text r.lowerView), ("view_upper", .text r.upperView)]

/-- A comparison. -/
def ofComparison (c : Comparison) : Json :=
  .record [("value", ofValue c.value), ("operator", .text c.operator.sign), ("view", .text c.view)]

/-- The word for a kind of match. -/
def kindWord : MatchKind → String
  | .contains => "Contains"
  | .startsWith => "StartsWith"
  | .endsWith => "EndsWith"
  | .regex => "Regex"
  | .equals => "Equals"

/-- The kind of match a word stands for. -/
def kindOfWord? (word : String) : Option MatchKind :=
  [MatchKind.contains, .startsWith, .endsWith, .regex, .equals].find? fun kind => kindWord kind == word

/-- A match. -/
def ofTextMatch (m : TextMatch) : Json :=
  .record [("value", .text m.text), ("kind", .text (kindWord m.kind)), ("negated", .bool m.negated),
    ("case_insensitive", .bool m.ignoresCase)]

/-- A list. -/
def ofList {α : Type} (encode : α → Json) (elements : List α) : Json :=
  .array (elements.map encode)

/-- A bag. -/
def ofBag (bag : Bag) : Json :=
  .record [("simple_values", ofList ofSingle bag.singles),
    ("excluded_simple_values", ofList ofSingle bag.excludedSingles),
    ("ranges", ofList ofRange bag.ranges), ("excluded_ranges", ofList ofRange bag.excludedRanges),
    ("comparisons", ofList ofComparison bag.comparisons),
    ("pattern_matchers", ofList ofTextMatch bag.textMatches)]

/-- A group. -/
def ofGroup : Group → Json :=
  Group.fold fun logical fields below =>
    .record [("logical", .text logical.keyword),
      ("fields", .record (fields.entries.map fun entry => (entry.1, ofBag entry.2))),
      ("groups", .array below)]

/-! ## Reading -/

/-- A date from JSON. -/
def toDate? (j : Json) : Option Date := do
  Calendar.isoDate? (← toText? j).toList

/-- A date-time from JSON. -/
def toMoment? (j : Json) : Option Moment := do
  Calendar.isoMoment? (← toText? j).toList

/-- A machine word from JSON. -/
def toWord64? (j : Json) : Option Int64 := do
  let n ← toInteger? j
  if n < Nat.pow 2 63 then return Int64.ofInt n else none

/-- A value from JSON. -/
def toValue? (level : Nat) (j : Json) : Option Value := do
  let (_, kind, content) ← toChoice? level j
  match kind with
  | "Integer" => return .integer (← toWord64? content)
  | "Float" => return .float (← toFloat? content)
  | "String" => return .string (← toText? content)
  | "Boolean" => return .boolean (← toBool? content)
  | "Date" => return .date (← toDate? content)
  | "DateTime" => return .moment (← toMoment? content)
  | _ => none

/-- A single value from JSON. -/
def toSingle? (level : Nat) (j : Json) : Option Single := do
  match ← toRecord? ["value", "view"] level j with
  | (level, [value, view]) =>
      return { value := ← required (toValue? level) value, view := ← required toText? view }
  | _ => none

/-- A range from JSON. -/
def toRange? (level : Nat) (j : Json) : Option Range := do
  match ← toRecord? ["lower", "upper", "inclusive_lower", "inclusive_upper", "view_lower",
      "view_upper"] level j with
  | (level, [lower, upper, includesLower, includesUpper, lowerView, upperView]) =>
      return {
        lower := ← required (toValue? level) lower
        upper := ← required (toValue? level) upper
        includesLower := ← required toBool? includesLower
        includesUpper := ← required toBool? includesUpper
        lowerView := ← required toText? lowerView
        upperView := ← required toText? upperView }
  | _ => none

/-- A comparison from JSON. -/
def toComparison? (level : Nat) (j : Json) : Option Comparison := do
  match ← toRecord? ["value", "operator", "view"] level j with
  | (level, [value, operator, view]) =>
      return {
        value := ← required (toValue? level) value
        operator := ← required (fun j => (toWord? level j).bind Operator.ofSign?) operator
        view := ← required toText? view }
  | _ => none

/-- A match from JSON. -/
def toTextMatch? (level : Nat) (j : Json) : Option TextMatch := do
  match ← toRecord? ["value", "kind", "negated", "case_insensitive"] level j with
  | (level, [text, kind, negated, ignoresCase]) =>
      return {
        text := ← required toText? text
        kind := ← required (fun j => (toWord? level j).bind kindOfWord?) kind
        negated := ← required toBool? negated
        ignoresCase := ← required toBool? ignoresCase }
  | _ => none

/-- A bag from JSON. -/
def toBag? (level : Nat) (j : Json) : Option Bag := do
  match ← toRecord? ["simple_values", "excluded_simple_values", "ranges", "excluded_ranges",
      "comparisons", "pattern_matchers"] level j with
  | (level, [singles, excludedSingles, ranges, excludedRanges, comparisons, textMatches]) =>
      return {
        singles := ← required (toList? toSingle? level) singles
        excludedSingles := ← required (toList? toSingle? level) excludedSingles
        ranges := ← required (toList? toRange? level) ranges
        excludedRanges := ← required (toList? toRange? level) excludedRanges
        comparisons := ← required (toList? toComparison? level) comparisons
        textMatches := ← required (toList? toTextMatch? level) textMatches }
  | _ => none

/-- A group from JSON, with the given number of levels left; a group takes two of them. -/
def toGroup? : Nat → Json → Option Group
  | 0, _ => none
  | 1, _ => none
  | level + 2, j => do
      match ← toRecord? ["logical", "fields", "groups"] (level + 2) j with
      | (_, [logical, fields, groups]) =>
          let logical ←
            required (fun j => (toWord? (level + 1) j).bind Logical.ofKeyword?) logical
          let fields ← required (toEntries? toBag? (level + 1)) fields
          let groups ← required (toList? (fun _ => toGroup? level) (level + 1)) groups
          return .mk logical (.ofList fields) groups
      | _ => none

/-- The archive of a group. -/
def write (group : Group) : String :=
  String.ofList (ofGroup group).compact

/-- The group that an archive holds. -/
def read? (text : String) : Option Group :=
  (Json.parse text.toList).bind (toGroup? startLevel)

end Criteria.Archive
