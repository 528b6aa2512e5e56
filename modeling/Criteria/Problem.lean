import Criteria.Condition.Entry
import Criteria.Field.Conversion
import Criteria.Text.Quoted

/-!
# Problems

What can be wrong with a condition or with a text that describes one.  A problem has a cause; where it is
known, it also tells the field and the place in the text.
-/

namespace Criteria

/-- The causes of problems. -/
inductive Problem.Cause where
  /-- The text does not follow the grammar. -/
  | malformed
  | unknownField
  | notAccepted (kind : Entry.Kind)
  | tooManyEntries (field : String) (max : Nat)
  | tooManyGroups (max : Nat)
  | nestedTooDeep (max : Nat)
  | conversion (failure : ConversionFailure)
  | invalidRange (lowerView upperView : String)
  | invalidRegex
  | unknownMatchType (name : String)
  deriving DecidableEq

/-- The wording of a cause.  What exactly is wrong with a malformed text or regular expression is left
open. -/
def Problem.Cause.message : Problem.Cause → String
  | .malformed => "syntax error: <syntax>"
  | .unknownField => "unknown field"
  | .notAccepted kind => s!"{kind.name} values are not accepted by this field"
  | .tooManyEntries field max => s!"field {Text.quoted field} accepts at most {max} values per group"
  | .tooManyGroups max => s!"a group accepts at most {max} subgroups"
  | .nestedTooDeep max => s!"groups may be nested at most {max} levels deep"
  | .conversion failure => failure.message
  | .invalidRange lower upper =>
      s!"lower range-value {Text.quoted lower} must be lower than upper range-value {Text.quoted upper}"
  | .invalidRegex => "invalid pattern: <regex>"
  | .unknownMatchType name => s!"invalid pattern: unknown pattern type {Text.quoted name}"

/-- One thing that is wrong. -/
structure Problem where
  field : Option String
  /-- The number of characters in front of the place. -/
  offset : Option Nat
  cause : Problem.Cause
  deriving DecidableEq

namespace Problem

/-- A problem of a group as a whole. -/
def general (cause : Cause) (offset : Option Nat) : Problem :=
  ⟨none, offset, cause⟩

/-- A problem with a field. -/
def about (field : String) (cause : Cause) (offset : Option Nat) : Problem :=
  ⟨some field, offset, cause⟩

/-- The wording of a problem: the field, the cause and the place. -/
def message (p : Problem) : String :=
  let field := match p.field with
    | some name => s!"{name}: "
    | none => ""
  let place := match p.offset with
    | some n => s!" (at offset {n})"
    | none => ""
  field ++ p.cause.message ++ place

/-- The wordings of several problems in one line. -/
def messages (problems : List Problem) : String :=
  "; ".intercalate (problems.map message)

/-- The report on a text that describes no condition. -/
def inputReport (problems : List Problem) : String :=
  s!"input contains {problems.length} error(s): {messages problems}"

/-- The report on a condition that breaks the rules. -/
def validationReport (problems : List Problem) : String :=
  s!"condition is invalid, {problems.length} violation(s): {messages problems}"

end Problem

end Criteria
