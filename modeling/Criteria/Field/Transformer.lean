import Criteria.Field.Numeral

/-!
# Transformers

A transformer turns the model values of a field into texts and back.  A field may show its values in one
form, the view, and exchange them in another, the norm; each is a transformer.
-/

namespace Criteria

/-- How a number is brought to a fixed number of decimal places. -/
inductive RoundingMode where
  | ceiling
  | floor
  /-- Away from zero. -/
  | up
  /-- Towards zero. -/
  | down
  | halfEven
  | halfUp
  | halfDown
  deriving DecidableEq, Inhabited

/-- The rule by which a mode rounds a magnitude of the given sign. -/
def RoundingMode.rule (mode : RoundingMode) (negative : Bool) (num den : Nat) : Nat :=
  match mode with
  | .ceiling => if negative then num / den else Number.ceilDiv num den
  | .floor => if negative then Number.ceilDiv num den else num / den
  | .up => Number.ceilDiv num den
  | .down => num / den
  | .halfEven => Number.nearestEven num den
  | .halfUp => Number.nearestUp num den
  | .halfDown => Number.nearestDown num den

/-- A two-way conversion between values and texts.  These are the ones that come with the library.  It leaves room for
others, of which it asks nothing but the two directions; what is proved here of transformers is about these. -/
inductive Transformer where
  /-- Whole numbers, with commas between groups of digits if wanted. -/
  | integer (grouping : Bool)
  /-- Decimal numbers, with a fixed number of places if wanted. -/
  | number (precision : Option UInt32) (grouping : Bool) (rounding : RoundingMode)
  /-- Dates by a pattern. -/
  | date (pattern : Calendar.Pattern)
  /-- Date-times by a pattern. -/
  | moment (pattern : Calendar.Pattern)
  /-- Dates of birth, in the form of another transformer, or ages; dates after today only if wanted. -/
  | birthday (inner : Transformer) (allowsAge allowsFuture : Bool) (today : Date)
  deriving DecidableEq

namespace Transformer

/-- The machine form of dates. -/
def isoDate : Transformer :=
  .date .isoDate

/-- Rounds a number to a fixed number of places, if there is one.  The number of places becomes a signed one on the way, so
that 2147483648 and more count as negative. -/
def roundTo (precision : Option UInt32) (rounding : RoundingMode) (x : Binary64) : Binary64 :=
  match precision with
  | none => x
  | some places =>
      let scale := (Binary64.ofNat 10).power places.toInt32.toInt
      (x * scale).roundWith rounding.rule / scale

/-- The text of a number after rounding. -/
def numberText (precision : Option UInt32) (rounding : RoundingMode) (x : Binary64) : List Char :=
  let x := roundTo precision rounding x
  match precision with
  | none => x.text
  | some places => x.fixedText places.toNat

/-- The text of a value. -/
def print (t : Transformer) (v : Value) : Except ConversionFailure String :=
  match t, v with
  | .integer grouping, .integer n =>
      let text := Number.integerText n.toInt
      .ok (String.ofList (if grouping then Numeral.groupSigned text else text))
  | .integer _, _ => .error .integerExpected
  | .number precision grouping rounding, v =>
      match v with
      | .float x => .ok (printNumber precision grouping rounding x)
      | .integer n => .ok (printNumber precision grouping rounding (.ofInt n.toInt))
      | _ => .error .numberExpected
  | .date pattern, .date d =>
      match pattern.printDate? d with
      | some text => .ok text
      | none => .error (.unprintable pattern)
  | .date _, v => .error (.dateExpected false v.kind)
  | .moment pattern, .moment m =>
      match pattern.printMoment? m with
      | some text => .ok text
      | none => .error (.unprintable pattern)
  | .moment _, v => .error (.dateExpected true v.kind)
  | .birthday inner allowsAge _ _, v =>
      match v with
      | .integer n =>
          if allowsAge then .ok (String.ofList (Number.integerText n.toInt)) else .error .agesDisabled
      | v => inner.print v
where
  printNumber (precision : Option UInt32) (grouping : Bool) (rounding : RoundingMode) (x : Binary64) :
      String :=
    let text := numberText precision rounding x
    String.ofList (if grouping then Numeral.groupWhole text else text)

/-- Decides whether a text is a run of decimal digits. -/
def isAge (text : List Char) : Bool :=
  !text.isEmpty && text.all Char.isDigit

/-- The value that a text denotes. -/
def read (t : Transformer) (text : String) : Except ConversionFailure Value :=
  match t with
  | .integer grouping => do
      let x ← Numeral.read grouping text.toList
      match x.toInt? with
      | some n => return .integer (Int64.ofInt n)
      | none => throw (.notWhole (String.ofList (Text.trim text.toList)))
  | .number precision grouping rounding => do
      let x ← Numeral.read grouping text.toList
      return .float (roundTo precision rounding x)
  | .date pattern =>
      let trimmed := Text.trim text.toList
      match pattern.readDate trimmed with
      | .ok d => .ok (.date d)
      | .error reason => .error (.notDate (String.ofList trimmed) pattern reason)
  | .moment pattern =>
      let trimmed := Text.trim text.toList
      match pattern.readMoment trimmed with
      | .ok m => .ok (.moment m)
      | .error reason => .error (.notDate (String.ofList trimmed) pattern reason)
  | .birthday inner allowsAge allowsFuture today =>
      let trimmed := Text.trim text.toList
      let shown := String.ofList trimmed
      if isAge trimmed then
        let age := Number.readDigits trimmed
        if !allowsAge then .error .agesDisabled
        else if Nat.pow 2 63 ≤ age then .error (.ageOutOfRange shown)
        else .ok (.integer (Int64.ofNat age))
      else do
        let v ← inner.read shown
        match v with
        | .date d =>
            if !allowsFuture && d.compare today == .gt then throw (.afterToday shown) else return v
        | v => return v

end Transformer

end Criteria
