import Criteria.Field.Conversion

/-!
# Numerals

The texts of numbers as people write them: with a comma between groups of three digits, or, where the digits
are not grouped, a comma read as the decimal point.
-/

namespace Criteria.Numeral

open Number

/-- Puts a comma in front of every group of three digits but the first. -/
def groupDigits : List Char → List Char
  | [] => []
  | [c] => [c]
  | c :: rest => if rest.length % 3 = 0 then c :: ',' :: groupDigits rest else c :: groupDigits rest

/-- Groups the digits behind the sign. -/
def groupSigned (text : List Char) : List Char :=
  match text with
  | '-' :: rest => '-' :: groupDigits rest
  | _ => groupDigits text

/-- Groups the digits between the sign and the decimal point. -/
def groupWhole (text : List Char) : List Char :=
  groupSigned (text.takeWhile (· ≠ '.')) ++ text.dropWhile (· ≠ '.')

/-- Removes the commas of a grouped number; in a number without groups a comma is the decimal point. -/
def normalize (grouped : Bool) (text : List Char) : List Char :=
  if grouped then text.filter (· ≠ ',') else text.map fun c => if c = ',' then '.' else c

/-- Splits off the longest beginning of the form sign, digits, point, digits, any of which may be missing. -/
def splitNumber (text : List Char) : List Char × List Char :=
  let (sign, rest) := match text with
    | '-' :: rest => (['-'], rest)
    | '+' :: rest => (['+'], rest)
    | _ => ([], text)
  let whole := rest.takeWhile Char.isDigit
  match rest.dropWhile Char.isDigit with
  | '.' :: rest =>
      (sign ++ whole ++ '.' :: rest.takeWhile Char.isDigit, rest.dropWhile Char.isDigit)
  | rest => (sign ++ whole, rest)

/-- The numbers from here on are too large. -/
def bound : Binary64 :=
  .ofNat (Nat.pow 2 63)

/-- The number that a numeral denotes. -/
def read (grouped : Bool) (text : List Char) : Except ConversionFailure Binary64 :=
  let text := Text.trim text
  let (number, rest) := splitNumber (normalize grouped text)
  let stray := Text.trim rest
  if !number.any Char.isDigit then .error (.notNumber (String.ofList text))
  else if !stray.isEmpty then .error (.strayCharacters (String.ofList stray))
  else
    match Binary64.ofText? number with
    | none => .error (.notNumber (String.ofList text))
    | some x =>
        if x.isFinite && x.abs.compare bound == some .lt then .ok x else .error .tooLarge

end Criteria.Numeral
