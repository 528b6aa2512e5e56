import Criteria.Sql.Clause

/-!
# Sessions

The WHERE clause of one condition is set up step by step: columns and converters first, then the clause.  Once
it has been generated the clause is fixed, and any further set-up is refused.
-/

namespace Criteria.Sql

/-- The set-up of a WHERE clause, and the clause once it has been generated. -/
structure Session where
  condition : Condition
  platform : Platform
  limits : Limits
  columns : Keyed String
  converters : Keyed Converters
  clause : Option WhereClause

namespace Session

/-- The session of a condition without columns or converters. -/
def start (condition : Condition) (platform : Platform) (limits : Limits) : Session :=
  ⟨condition, platform, limits, .empty, .empty, none⟩

/-- Decides whether the clause has been generated. -/
def isGenerated (s : Session) : Bool :=
  s.clause.isSome

/-- Checks that a field may be set up: the clause is not fixed, and the field exists. -/
def check (s : Session) (field : String) : Except SqlError Unit :=
  if s.isGenerated then .error .locked
  else if s.condition.schema.has field then .ok ()
  else .error (.unknownField field)

/-- Maps a field to a column, which is used as it is. -/
def setField (s : Session) (field column : String) : Except SqlError Session := do
  s.check field
  return { s with columns := s.columns.insert field column }

/-- Maps a field to a column, which is quoted. -/
def setQuotedField (s : Session) (field column : String) : Except SqlError Session :=
  s.setField field (s.platform.quoteIdentifier column)

/-- Gives a field a converter. -/
def setConverter (s : Session) (field : String) (converter : Converter) : Except SqlError Session := do
  s.check field
  return { s with converters := s.converters.alter field fun old => (old.getD .empty).set converter }

/-- What the clause is generated from. -/
def mapping (s : Session) : Mapping :=
  ⟨s.condition.schema, s.platform, s.columns, s.converters⟩

/-- The clause, generated now unless it has been before. -/
def whereClause (s : Session) : Except SqlError (WhereClause × Session) :=
  match s.clause with
  | some clause => .ok (clause, s)
  | none => do
      let clause ← generate s.limits s.mapping s.condition
      return (clause, { s with clause := some clause })

end Session

end Criteria.Sql
