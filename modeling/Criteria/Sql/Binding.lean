import Criteria.Value

/-!
# Values for SQLite

What a parameter is bound as: truth values as numbers, dates and date-times as texts in machine form.
-/

namespace Criteria.Sql

/-- A value of the database. -/
inductive Cell where
  | integer (n : Int64)
  | real (x : Binary64)
  | text (t : String)
  deriving DecidableEq

/-- The value of the database that a model value is bound as. -/
def Cell.ofValue : Value → Cell
  | .integer n => integer n
  | .float x => real x
  | .string t => text t
  | .boolean b => integer (if b then 1 else 0)
  | .date d => text (Value.date d).display
  | .moment m => text (Value.moment m).display

end Criteria.Sql
