import Criteria.Calendar.Printer

/-!
# Values

The model values of a search condition.  A value has a kind and a display text; what it means, and how it
compares with another, is up to the field it belongs to.
-/

namespace Criteria

/-- A model value. -/
inductive Value where
  | integer (n : Int64)
  | float (x : Binary64)
  | string (text : String)
  | boolean (b : Bool)
  | date (d : Date)
  | moment (m : Moment)
  deriving DecidableEq

namespace Value

/-- The kinds of values. -/
inductive Kind where
  | integer
  | float
  | string
  | boolean
  | date
  | moment
  deriving DecidableEq

/-- The name of a kind in messages. -/
def Kind.name : Kind → String
  | .integer => "integer"
  | .float => "float"
  | .string => "string"
  | .boolean => "boolean"
  | .date => "date"
  | .moment => "datetime"

/-- The kind of a value. -/
def kind : Value → Kind
  | integer _ => .integer
  | float _ => .float
  | string _ => .string
  | boolean _ => .boolean
  | date _ => .date
  | moment _ => .moment

/-- Equality of values.  Floats are equal as numbers, so a NaN differs from itself and the zeros are equal;
values of different kinds are never equal. -/
def same : Value → Value → Bool
  | integer a, integer b => a == b
  | float a, float b => a.same b
  | string a, string b => a == b
  | boolean a, boolean b => a == b
  | date a, date b => a == b
  | moment a, moment b => a == b
  | _, _ => false

/-- The display text of a value. -/
def display : Value → String
  | integer n => String.ofList (Number.integerText n.toInt)
  | float x => String.ofList x.text
  | string text => text
  | boolean b => if b then "true" else "false"
  | date d => Calendar.isoDateText d
  | moment m => Calendar.isoMomentText m

/-- The integer of an integer value. -/
def integer? : Value → Option Int64
  | integer n => some n
  | _ => none

/-- The text of a string value. -/
def string? : Value → Option String
  | string text => some text
  | _ => none

/-- The date of a date value. -/
def date? : Value → Option Date
  | date d => some d
  | _ => none

end Value

/-- A value of one kind where another was wanted. -/
structure KindMismatch where
  expected : Value.Kind
  got : Value.Kind
  deriving DecidableEq

/-- The wording of a mismatch. -/
def KindMismatch.message (e : KindMismatch) : String :=
  s!"expected {e.expected.name} value, got {e.got.name}"

namespace Value

/-- The integer of an integer value, or the mismatch. -/
def toInteger (v : Value) : Except KindMismatch Int64 :=
  match v.integer? with
  | some n => .ok n
  | none => .error ⟨.integer, v.kind⟩

/-- The text of a string value, or the mismatch. -/
def toText (v : Value) : Except KindMismatch String :=
  match v.string? with
  | some text => .ok text
  | none => .error ⟨.string, v.kind⟩

/-- The date of a date value, or the mismatch. -/
def toDate (v : Value) : Except KindMismatch Date :=
  match v.date? with
  | some d => .ok d
  | none => .error ⟨.date, v.kind⟩

end Value

end Criteria
