import Criteria.Field.Transformer
import Criteria.Field.ValueOrder
import Criteria.Limits
import Criteria.Problem
import Criteria.Regex.WellFormed

/-!
# Fields

A field of a search declares what conditions may say about it: the kinds of entries it accepts, how its values
compare, and how they are written.
-/

namespace Criteria

/-- The declaration of a field. -/
structure Field where
  name : String
  acceptsSingles : Bool
  acceptsExclusions : Bool
  acceptsRanges : Bool
  acceptsComparisons : Bool
  acceptsMatches : Bool
  maxEntries : Option Nat
  order : Option ValueOrder
  view : Option Transformer
  norm : Option Transformer
  deriving DecidableEq

namespace Field

/-- A field that accepts single and excluded values only. -/
def plain (name : String) : Field where
  name
  acceptsSingles := true
  acceptsExclusions := true
  acceptsRanges := false
  acceptsComparisons := false
  acceptsMatches := false
  maxEntries := none
  order := none
  view := none
  norm := none

/-- A field of whole numbers. -/
def integer (name : String) : Field :=
  { plain name with
    order := some .integer
    view := some (.integer false)
    acceptsRanges := true
    acceptsComparisons := true }

/-- A field of decimal numbers. -/
def number (name : String) (precision : Option UInt32) : Field :=
  { plain name with
    order := some .number
    view := some (.number precision false .halfUp)
    acceptsRanges := true
    acceptsComparisons := true }

/-- A field of texts. -/
def text (name : String) : Field :=
  { plain name with
    order := some .text
    acceptsMatches := true }

/-- A field of dates that are shown by a pattern. -/
def date (name : String) (pattern : Calendar.Pattern) : Field :=
  { plain name with
    order := some .date
    view := some (.date pattern)
    norm := some .isoDate
    acceptsRanges := true
    acceptsComparisons := true }

/-- A field of birthdays, given as dates by a pattern or as ages. -/
def birthday (name : String) (pattern : Calendar.Pattern) (today : Date) : Field :=
  { plain name with
    order := some .birthday
    view := some (.birthday (.date pattern) true false today)
    norm := some (.birthday .isoDate true false today)
    acceptsRanges := true
    acceptsComparisons := true }

/-! ## Forms of values -/

/-- The transformer of norms: that of views if there is none of its own. -/
def normTransformer (field : Field) : Option Transformer :=
  field.norm.or field.view

/-- Without a transformer every text is a value. -/
def readBy (transformer : Option Transformer) (text : String) : Except ConversionFailure Value :=
  match transformer with
  | some t => t.read text
  | none => .ok (.string text)

/-- Without a transformer a value is written as it is displayed. -/
def printBy (transformer : Option Transformer) (v : Value) : Except ConversionFailure String :=
  match transformer with
  | some t => t.print v
  | none => .ok v.display

/-- The value that a view denotes. -/
def ofView (field : Field) (text : String) : Except ConversionFailure Value :=
  readBy field.view text

/-- The value that a norm denotes. -/
def ofNorm (field : Field) (text : String) : Except ConversionFailure Value :=
  readBy field.normTransformer text

/-- The view of a value. -/
def toView (field : Field) (v : Value) : Except ConversionFailure String :=
  printBy field.view v

/-- The norm of a value. -/
def toNorm (field : Field) (v : Value) : Except ConversionFailure String :=
  printBy field.normTransformer v

/-! ## Order of values -/

/-- The order of two values, if the field has an order and they compare. -/
def compare (field : Field) (a b : Value) : Option Ordering :=
  field.order.bind fun order => order.compare a b

/-- Equality of values: by the order of the field, or without one as values. -/
def isEqual (field : Field) (a b : Value) : Bool :=
  match field.order with
  | some order => order.isEqual a b
  | none => a.same b

/-- Decides whether runs of values of the field can be written as ranges. -/
def hasSteps (field : Field) : Bool :=
  field.acceptsRanges && field.order.any ValueOrder.hasSteps

/-! ## Rules for entries -/

/-- Decides whether a field accepts a kind of entry; excluded values and ranges have to be accepted in both
respects. -/
def accepts (field : Field) : Entry.Kind → Bool
  | .single => field.acceptsSingles
  | .excludedSingle => field.acceptsSingles && field.acceptsExclusions
  | .range => field.acceptsRanges
  | .excludedRange => field.acceptsRanges && field.acceptsExclusions
  | .comparison => field.acceptsComparisons
  | .textMatch => field.acceptsMatches

/-- Decides whether the bounds of a range are in order: the lower one below the upper one, or equal and both
included.  Bounds that do not compare are in order. -/
def inOrder (field : Field) (r : Range) : Bool :=
  match field.compare r.lower r.upper with
  | some .lt => true
  | none => true
  | some .eq => r.includesLower && r.includesUpper
  | some .gt => false

/-- Checks the bounds of a range. -/
def checkRange (field : Field) (r : Range) : Except Problem.Cause Unit :=
  if field.inOrder r then .ok () else .error (.invalidRange r.lowerView r.upperView)

/-- Checks the text of a match; a regular expression must be well-formed. -/
def checkMatch (m : TextMatch) : Except Problem.Cause Unit :=
  if m.kind = .regex ∧ Regex.isWellFormed m.text.toList = false then .error .invalidRegex else .ok ()

/-- Checks an entry by the rules of a field. -/
def check (field : Field) (entry : Entry) : Except Problem.Cause Unit :=
  if field.accepts entry.kind then
    match entry with
    | .range r => field.checkRange r
    | .excludedRange r => field.checkRange r
    | .textMatch m => checkMatch m
    | _ => .ok ()
  else .error (.notAccepted entry.kind)

/-- The number of entries about the field that one group may have under given limits. -/
def limit (field : Field) (limits : Limits) : Nat :=
  match field.maxEntries with
  | some max => min max limits.maxEntries
  | none => limits.maxEntries

end Field

end Criteria
