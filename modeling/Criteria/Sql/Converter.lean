import Criteria.Field
import Criteria.Sql.Platform

/-!
# Converters

What is done to values and columns on their way into SQL.  A value conversion turns a value into what the
column holds and may wrap its placeholder; a field conversion wraps the column; a strategy picks, value by
value, the variant that the other two apply.
-/

namespace Criteria.Sql

/-- What a converter may look at. -/
structure Hints where
  field : Field
  column : String
  platform : Platform
  strategy : Option Nat

/-- A conversion of values, and of the placeholders that stand for them. -/
structure ValueConversion where
  convert : Value → Hints → Except ConversionFailure Value
  wrap : String → Hints → String

/-- A conversion of columns. -/
structure FieldConversion where
  wrap : String → Hints → String

/-- A choice of a variant by the value. -/
structure Strategy where
  choose : Value → Hints → Option Nat

/-- A converter of one of the three kinds. -/
inductive Converter where
  | value (conversion : ValueConversion)
  | field (conversion : FieldConversion)
  | strategy (strategy : Strategy)

/-- The converters of a field, at most one of each kind. -/
structure Converters where
  value : Option ValueConversion
  field : Option FieldConversion
  strategy : Option Strategy

namespace Converters

/-- No converters. -/
def empty : Converters :=
  ⟨none, none, none⟩

instance : Inhabited Converters := ⟨empty⟩

/-- Puts a converter in the place of the one of its kind. -/
def set (cs : Converters) : Converter → Converters
  | .value c => { cs with value := some c }
  | .field c => { cs with field := some c }
  | .strategy s => { cs with strategy := some s }

/-- Decides whether there are no converters. -/
def isEmpty (cs : Converters) : Bool :=
  cs.value.isNone && cs.field.isNone && cs.strategy.isNone

/-- The variant for a value. -/
def strategyFor (cs : Converters) (v : Value) (hints : Hints) : Option Nat :=
  cs.strategy.bind fun s => s.choose v hints

/-- The column as it stands in the SQL. -/
def columnSql (cs : Converters) (hints : Hints) : String :=
  match cs.field with
  | some c => c.wrap hints.column hints
  | none => hints.column

/-- The value as it is bound. -/
def convert (cs : Converters) (v : Value) (hints : Hints) : Except ConversionFailure Value :=
  match cs.value with
  | some c => c.convert v hints
  | none => .ok v

/-- The placeholder as it stands in the SQL. -/
def placeholderSql (cs : Converters) (placeholder : String) (hints : Hints) : String :=
  match cs.value with
  | some c => c.wrap placeholder hints
  | none => placeholder

end Converters

/-- Puts a column in lower case. -/
def lowerCaseField : FieldConversion :=
  ⟨fun column _ => s!"LOWER({column})"⟩

/-- Binds dates and date-times as texts in machine form. -/
def dateAsText : ValueConversion where
  convert v _ :=
    match v with
    | .date d => .ok (.string (Calendar.isoDateText d))
    | .moment m => .ok (.string (Calendar.isoMomentText m))
    | v => .error (.other s!"expected a date, got {v.kind.name}")
  wrap placeholder _ := placeholder

end Criteria.Sql
