import Criteria.Value

/-!
# Entries of a condition

What a condition can say about one field: a single value, a range, a comparison or a pattern to match, and the
exclusion of a value or a range.  Values carry the text they are shown as, their view; equality of entries
does not look at views.
-/

namespace Criteria

/-- How the parts of a group are joined. -/
inductive Logical where
  | all
  | any
  deriving DecidableEq, Inhabited

/-- The keyword of a way to join. -/
def Logical.keyword : Logical → String
  | .all => "AND"
  | .any => "OR"

/-- The way to join a keyword stands for. -/
def Logical.ofKeyword? (word : String) : Option Logical :=
  if word = "AND" then some .all
  else if word = "OR" then some .any
  else none

@[simp]
theorem Logical.ofKeyword?_keyword (l : Logical) : Logical.ofKeyword? l.keyword = some l := by
  cases l <;> rfl

/-- A value with its view. -/
structure Single where
  value : Value
  view : String
  deriving DecidableEq

/-- A value that is viewed as it is displayed. -/
def Single.ofValue (value : Value) : Single :=
  ⟨value, value.display⟩

/-- Equality of the values alone. -/
def Single.same (a b : Single) : Bool :=
  a.value.same b.value

/-- A range between two values, each of which may belong to it or not. -/
structure Range where
  lower : Value
  upper : Value
  includesLower : Bool
  includesUpper : Bool
  lowerView : String
  upperView : String
  deriving DecidableEq

/-- The range from one value to another, both included, with the given views. -/
def Range.inclusive (lower upper : Single) : Range :=
  ⟨lower.value, upper.value, true, true, lower.view, upper.view⟩

/-- Equality of the bounds and of what is included. -/
def Range.same (a b : Range) : Bool :=
  a.lower.same b.lower && a.upper.same b.upper && a.includesLower == b.includesLower &&
    a.includesUpper == b.includesUpper

/-- The operators of comparisons. -/
inductive Operator where
  | greater
  | lower
  | greaterOrEqual
  | lowerOrEqual
  | notEqual
  deriving DecidableEq

namespace Operator

/-- The sign of an operator. -/
def sign : Operator → String
  | greater => ">"
  | lower => "<"
  | greaterOrEqual => ">="
  | lowerOrEqual => "<="
  | notEqual => "<>"

/-- The operator a sign stands for. -/
def ofSign? (sign : String) : Option Operator :=
  if sign = ">" then some greater
  else if sign = "<" then some lower
  else if sign = ">=" then some greaterOrEqual
  else if sign = "<=" then some lowerOrEqual
  else if sign = "<>" then some notEqual
  else none

@[simp]
theorem ofSign?_sign (op : Operator) : ofSign? op.sign = some op := by
  cases op <;> rfl

/-- An inequality takes rows away; the other operators let some in. -/
def narrows : Operator → Bool
  | notEqual => true
  | _ => false

end Operator

/-- A comparison with a value. -/
structure Comparison where
  value : Value
  operator : Operator
  view : String
  deriving DecidableEq

/-- Equality of the operator and the value. -/
def Comparison.same (a b : Comparison) : Bool :=
  a.value.same b.value && a.operator == b.operator

/-- The ways a text can match. -/
inductive MatchKind where
  | contains
  | startsWith
  | endsWith
  | regex
  | equals
  deriving DecidableEq

/-- The name of a way to match. -/
def MatchKind.name : MatchKind → String
  | .contains => "CONTAINS"
  | .startsWith => "STARTS_WITH"
  | .endsWith => "ENDS_WITH"
  | .regex => "REGEX"
  | .equals => "EQUALS"

/-- The full name of a match: its kind, with a mark in front if it is negated. -/
def MatchKind.fullName (kind : MatchKind) (negated : Bool) : String :=
  if negated then "NOT_" ++ kind.name else kind.name

/-- All ways to match, each plain and negated. -/
def MatchKind.variants : List (MatchKind × Bool) :=
  [.contains, .startsWith, .endsWith, .regex, .equals].flatMap fun kind => [(kind, false), (kind, true)]

/-- The kind of match, and whether it is negated, that a full name stands for. -/
def MatchKind.ofFullName? (name : String) : Option (MatchKind × Bool) :=
  MatchKind.variants.find? fun variant => variant.1.fullName variant.2 == name

/-- The full name of a match determines its kind and negation. -/
@[simp]
theorem MatchKind.ofFullName?_fullName (kind : MatchKind) (negated : Bool) :
    MatchKind.ofFullName? (kind.fullName negated) = some (kind, negated) := by
  cases kind <;> cases negated <;> decide

/-- A pattern that the text of a field is to match, or not. -/
structure TextMatch where
  text : String
  kind : MatchKind
  negated : Bool
  ignoresCase : Bool
  deriving DecidableEq

/-- The full name of a match. -/
def TextMatch.typeName (m : TextMatch) : String :=
  m.kind.fullName m.negated

/-- One thing a condition says about a field. -/
inductive Entry where
  | single (value : Single)
  | excludedSingle (value : Single)
  | range (range : Range)
  | excludedRange (range : Range)
  | comparison (comparison : Comparison)
  | textMatch (pattern : TextMatch)
  deriving DecidableEq

namespace Entry

/-- The kinds of entries. -/
inductive Kind where
  | single
  | excludedSingle
  | range
  | excludedRange
  | comparison
  | textMatch
  deriving DecidableEq

/-- The name of a kind of entry in messages. -/
def Kind.name : Kind → String
  | .single => "simple"
  | .excludedSingle => "excluded simple"
  | .range => "range"
  | .excludedRange => "excluded range"
  | .comparison => "comparison"
  | .textMatch => "pattern-match"

/-- All kinds of entries, in the order a bag keeps them. -/
def Kind.list : List Kind :=
  [.single, .excludedSingle, .range, .excludedRange, .comparison, .textMatch]

/-- The kind of an entry. -/
def kind : Entry → Kind
  | single _ => .single
  | excludedSingle _ => .excludedSingle
  | range _ => .range
  | excludedRange _ => .excludedRange
  | comparison _ => .comparison
  | textMatch _ => .textMatch

end Entry

end Criteria
