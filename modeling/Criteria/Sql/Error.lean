import Criteria.Problem
import Criteria.Sql.Platform

/-!
# Failed SQL

Why a condition has no SQL.
-/

namespace Criteria.Sql

/-- The causes for which a condition has no SQL, or a session refuses a call. -/
inductive SqlError where
  | unknownField (name : String)
  | unmappedField (name : String)
  | locked
  | conversion (field : String) (failure : ConversionFailure)
  | invalid (problems : List Problem)
  | unsupportedMatch (reason : UnsupportedMatch)
  deriving DecidableEq

/-- The name of a kind of match in messages. -/
def matchLabel : MatchKind → String
  | .contains => "Contains"
  | .startsWith => "StartsWith"
  | .endsWith => "EndsWith"
  | .regex => "Regex"
  | .equals => "Equals"

/-- The wording of an error. -/
def UnsupportedMatch.message (e : UnsupportedMatch) : String :=
  s!"{e.platform.name} does not support {matchLabel e.kind} pattern matching"

/-- The wording of an error. -/
def SqlError.message : SqlError → String
  | .unknownField name => s!"unknown field {Text.quoted name}"
  | .unmappedField name =>
      s!"field {Text.quoted name} is used in the condition but has no column mapping"
  | .locked => "WHERE clause was already generated, configuration is locked"
  | .conversion field failure =>
      s!"conversion of a value for field {Text.quoted field} failed: {failure.message}"
  | .invalid problems => s!"condition is invalid: {Problem.validationReport problems}"
  | .unsupportedMatch reason => reason.message

end Criteria.Sql
