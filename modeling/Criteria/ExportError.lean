import Criteria.Validation

/-!
# Failed exports

Why a condition cannot be written down.
-/

namespace Criteria

/-- The causes for which a condition cannot be written down. -/
inductive ExportError where
  | unknownField (name : String)
  | conversion (field : String) (failure : ConversionFailure)
  | invalid (problems : List Problem)
  deriving DecidableEq

/-- The wording of an error. -/
def ExportError.message : ExportError → String
  | .unknownField name => s!"unknown field {Text.quoted name}"
  | .conversion field failure =>
      s!"cannot export value of field {Text.quoted field}: {failure.message}"
  | .invalid problems => s!"cannot export an invalid condition: {Problem.validationReport problems}"

/-- Writes a condition down if it keeps the rules. -/
def Condition.exportBy {α : Type} (write : Condition → Except ExportError α) (limits : Limits)
    (c : Condition) : Except ExportError α :=
  match c.problems limits with
  | [] => write c
  | problems => .error (.invalid problems)

theorem Condition.exportBy_eq_write {α : Type} {write : Condition → Except ExportError α} {limits : Limits}
    {c : Condition} (valid : c.problems limits = []) : c.exportBy write limits = write c := by
  rw [exportBy, valid]

/-- The declaration of a field a condition speaks of. -/
def Schema.fieldOf (schema : Schema) (name : String) : Except ExportError Field :=
  match schema.field? name with
  | some field => .ok field
  | none => .error (.unknownField name)

theorem Schema.fieldOf_eq_ok_iff {schema : Schema} {name : String} {field : Field} :
    schema.fieldOf name = .ok field ↔ schema.field? name = some field := by
  rw [fieldOf]
  cases schema.field? name <;> simp

/-- A form of a value that may not exist. -/
def Field.formOf (field : Field) (form : Except ConversionFailure String) : Except ExportError String :=
  match form with
  | .ok text => .ok text
  | .error failure => .error (.conversion field.name failure)

end Criteria
