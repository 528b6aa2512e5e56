import Criteria.Calendar.Reader
import Criteria.Text.Blank
import Criteria.Value

/-!
# Conversion failures

Why a text is no value of a field, or a value has no text.
-/

namespace Criteria

/-- The causes for which a conversion between values and texts fails. -/
inductive ConversionFailure where
  | integerExpected
  | numberExpected
  | dateExpected (withTime : Bool) (got : Value.Kind)
  | notNumber (text : String)
  | strayCharacters (text : String)
  | tooLarge
  | notWhole (text : String)
  | notDate (text : String) (pattern : Calendar.Pattern) (reason : Calendar.ReadFailure)
  | agesDisabled
  | ageOutOfRange (text : String)
  | afterToday (text : String)
  /-- The pattern has an item it cannot print for the value. -/
  | unprintable (pattern : Calendar.Pattern)
  | other (message : String)
  deriving DecidableEq

/-- The wording of a failure. -/
def ConversionFailure.message : ConversionFailure → String
  | .integerExpected => "Expected an integer."
  | .numberExpected => "Expected a numeric."
  | .dateExpected withTime got =>
      let expected := if withTime then "datetime" else "date"
      s!"Expected a {expected}, got {got.name}."
  | .notNumber text => s!"\"{text}\" is not a valid number"
  | .strayCharacters text => s!"The number contains unrecognized characters: \"{text}\""
  | .tooLarge => "The number is too large to be represented"
  | .notWhole text => s!"\"{text}\" is not a whole number"
  | .notDate text pattern reason =>
      s!"Unable to parse \"{text}\" with format \"{pattern.text}\": {reason.message}"
  | .agesDisabled => "Age support is not enabled."
  | .ageOutOfRange text => s!"Age \"{text}\" is out of range"
  | .afterToday text => s!"Date \"{text}\" is later than the current date"
  | .unprintable pattern => s!"Unable to print by format \"{pattern.text}\""
  | .other message => message

end Criteria
