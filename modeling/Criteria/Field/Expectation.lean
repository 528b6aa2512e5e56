import Criteria.Field

/-!
# Expectations of fields

Statements about the conversions of a field that hold or fail; tests of a declaration are made of them.
-/

namespace Criteria

/-- What may be expected of the conversions of a field. -/
inductive Expectation where
  | viewDenotes (view : String) (value : Value)
  | normDenotes (norm : String) (value : Value)
  | viewedAs (value : Value) (view : String)
  | normedAs (value : Value) (norm : String)
  | converts (value : Value) (view norm : String)
  | viewFails (view : String)
  | viewFailsWith (view message : String)

namespace Expectation

/-- Decides whether a conversion came to a value. -/
def denotes (result : Except ConversionFailure Value) (value : Value) : Bool :=
  match result with
  | .ok v => v.same value
  | .error _ => false

/-- Decides whether a conversion came to a text. -/
def writes (result : Except ConversionFailure String) (text : String) : Bool :=
  match result with
  | .ok t => t == text
  | .error _ => false

/-- Decides whether a field meets an expectation. -/
def holds (field : Field) : Expectation → Bool
  | viewDenotes view value => denotes (field.ofView view) value
  | normDenotes norm value => denotes (field.ofNorm norm) value
  | viewedAs value view => writes (field.toView value) view
  | normedAs value norm => writes (field.toNorm value) norm
  | converts value view norm =>
      denotes (field.ofView view) value && denotes (field.ofNorm norm) value &&
        writes (field.toView value) view && writes (field.toNorm value) norm
  | viewFails view => match field.ofView view with
      | .ok _ => false
      | .error _ => true
  | viewFailsWith view message => match field.ofView view with
      | .ok _ => false
      | .error failure => failure.message == message

end Expectation

end Criteria
