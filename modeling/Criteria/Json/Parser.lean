import Criteria.Json.Basic

/-!
# Reading JSON

A text is a JSON value if all of it, but for blanks at both ends, is one.  There is no limit here on how deep
values nest.  Loops and recursion carry a bound on their steps; the length of the text is always enough.
-/

namespace Criteria.Json

/-- Passes over the blanks between tokens. -/
def skipBlanks (text : List Char) : List Char :=
  text.dropWhile fun c => c == ' ' || c == '\n' || c == '\t' || c == '\r'

/-- Removes a word from the front of a text. -/
def stripWord? : List Char → List Char → Option (List Char)
  | [], text => some text
  | _ :: _, [] => none
  | c :: word, d :: text => if c = d then stripWord? word text else none

/-! ## Numbers -/

/-- Reads one digit or more. -/
def readDigitRun (text : List Char) : Option (List Char × List Char) :=
  let run := text.takeWhile Char.isDigit
  if run.isEmpty then none else some (run, text.dropWhile Char.isDigit)

/-- Reads the digits before the point; a zero in front of other digits is refused. -/
def readWhole (text : List Char) : Option (List Char × List Char) := do
  let (run, rest) ← readDigitRun text
  if run.length > 1 ∧ run.head? = some '0' then none else return (run, rest)

/-- Reads the point and the digits behind it, if there is a point. -/
def readFraction (text : List Char) : Option (List Char × List Char) :=
  match text with
  | '.' :: rest => (readDigitRun rest).map fun (run, rest) => ('.' :: run, rest)
  | _ => some ([], text)

/-- Reads the exponent, if there is one. -/
def readExponent (text : List Char) : Option (List Char × List Char) :=
  match text with
  | mark :: rest =>
      if mark = 'e' ∨ mark = 'E' then
        match rest with
        | '+' :: rest => (readDigitRun rest).map fun (run, rest) => (mark :: '+' :: run, rest)
        | '-' :: rest => (readDigitRun rest).map fun (run, rest) => (mark :: '-' :: run, rest)
        | _ => (readDigitRun rest).map fun (run, rest) => (mark :: run, rest)
      else some ([], text)
  | [] => some ([], [])

/-- Reads the literal of a number. -/
def readNumber (text : List Char) : Option (List Char × List Char) := do
  let (sign, text) := match text with
    | '-' :: rest => (['-'], rest)
    | _ => ([], text)
  let (whole, text) ← readWhole text
  let (fraction, text) ← readFraction text
  let (exponent, text) ← readExponent text
  return (sign ++ whole ++ fraction ++ exponent, text)

/-! ## Texts -/

/-- The value of a hexadecimal digit. -/
def hexValue? (c : Char) : Option Nat :=
  if c.isDigit then some (c.toNat - '0'.toNat)
  else if 'a' ≤ c ∧ c ≤ 'f' then some (c.toNat - 'a'.toNat + 10)
  else if 'A' ≤ c ∧ c ≤ 'F' then some (c.toNat - 'A'.toNat + 10)
  else none

/-- Reads the four digits of a numeric escape. -/
def readUnit (text : List Char) : Option (Nat × List Char) :=
  match text with
  | a :: b :: c :: d :: rest => do
      let a ← hexValue? a
      let b ← hexValue? b
      let c ← hexValue? c
      let d ← hexValue? d
      return (((a * 16 + b) * 16 + c) * 16 + d, rest)
  | _ => none

/-- One unit of a text: a character, or half of a surrogate pair. -/
inductive TextUnit where
  | char (c : Char)
  | half (unit : Nat)

/-- Reads what follows a backslash. -/
def readEscape (text : List Char) : Option (TextUnit × List Char) :=
  match text with
  | '"' :: rest => some (.char '"', rest)
  | '\\' :: rest => some (.char '\\', rest)
  | '/' :: rest => some (.char '/', rest)
  | 'b' :: rest => some (.char '\x08', rest)
  | 'f' :: rest => some (.char '\x0c', rest)
  | 'n' :: rest => some (.char '\n', rest)
  | 'r' :: rest => some (.char '\r', rest)
  | 't' :: rest => some (.char '\t', rest)
  | 'u' :: rest => do
      let (unit, rest) ← readUnit rest
      return (if 0xD800 ≤ unit ∧ unit ≤ 0xDFFF then .half unit else .char (Char.ofNat unit), rest)
  | _ => none

/-- Reads the units of a text up to its closing quote. -/
def readUnits : Nat → List Char → Option (List TextUnit × List Char)
  | 0, _ => none
  | _ + 1, [] => none
  | fuel + 1, c :: rest =>
      if c = '"' then some ([], rest)
      else if c = '\\' then do
        let (unit, rest) ← readEscape rest
        let (units, rest) ← readUnits fuel rest
        return (unit :: units, rest)
      else if c.toNat < 0x20 then none
      else do
        let (units, rest) ← readUnits fuel rest
        return (.char c :: units, rest)

/-- Joins the halves of surrogate pairs; a half that is left alone spoils the text. -/
def joinUnits : List TextUnit → Option (List Char)
  | [] => some []
  | .char c :: rest => (joinUnits rest).map (c :: ·)
  | .half high :: .half low :: rest =>
      if high < 0xDC00 ∧ 0xDC00 ≤ low then
        let code := 0x10000 + (high - 0xD800) * 0x400 + (low - 0xDC00)
        (joinUnits rest).map (Char.ofNat code :: ·)
      else none
  | .half _ :: _ => none

/-- Reads a text from behind its opening quote. -/
def readText (text : List Char) : Option (Option String × List Char) := do
  let (units, rest) ← readUnits (text.length + 1) text
  return ((joinUnits units).map String.ofList, rest)

/-! ## Values -/

mutual

/-- Reads a value. -/
def readValue : Nat → List Char → Option (Json × List Char)
  | 0, _ => none
  | fuel + 1, text =>
      match skipBlanks text with
      | 'n' :: rest => (stripWord? "ull".toList rest).map fun rest => (null, rest)
      | 't' :: rest => (stripWord? "rue".toList rest).map fun rest => (bool true, rest)
      | 'f' :: rest => (stripWord? "alse".toList rest).map fun rest => (bool false, rest)
      | '"' :: rest => (readText rest).map fun (t, rest) => (string t, rest)
      | '[' :: rest =>
          match skipBlanks rest with
          | ']' :: rest => some (array [], rest)
          | rest => (readElements fuel rest).map fun (elements, rest) => (array elements, rest)
      | '\x7b' :: rest =>
          match skipBlanks rest with
          | '\x7d' :: rest => some (object [], rest)
          | rest => (readMembers fuel rest).map fun (members, rest) => (object members, rest)
      | text => (readNumber text).map fun (literal, rest) => (number literal, rest)

/-- Reads the elements of an array up to its closing bracket. -/
def readElements : Nat → List Char → Option (List Json × List Char)
  | 0, _ => none
  | fuel + 1, text => do
      let (element, rest) ← readValue fuel text
      match skipBlanks rest with
      | ',' :: rest =>
          let (elements, rest) ← readElements fuel rest
          return (element :: elements, rest)
      | ']' :: rest => return ([element], rest)
      | _ => none

/-- Reads the members of an object up to its closing brace. -/
def readMembers : Nat → List Char → Option (List (Option String × Json) × List Char)
  | 0, _ => none
  | fuel + 1, text =>
      match skipBlanks text with
      | '"' :: rest => do
          let (key, rest) ← readText rest
          match skipBlanks rest with
          | ':' :: rest =>
              let (value, rest) ← readValue fuel rest
              match skipBlanks rest with
              | ',' :: rest =>
                  let (members, rest) ← readMembers fuel rest
                  return ((key, value) :: members, rest)
              | '\x7d' :: rest => return ([(key, value)], rest)
              | _ => none
          | _ => none
      | _ => none

end

/-- The value that a whole text is. -/
def parse (text : List Char) : Option Json := do
  let (value, rest) ← readValue (2 * text.length + 2) text
  if (skipBlanks rest).isEmpty then return value else none

end Criteria.Json
