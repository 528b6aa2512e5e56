import Criteria.Number.Decimal
import Criteria.Regex.Form
import Criteria.Text.Blank
import Criteria.Unicode.CaseFold
import Criteria.Unicode.Property

/-!
# Escapes in regular expressions

What may follow a backslash: an escaped punctuation mark, a control, a character by its number, a class, or a
position to assert.  In the verbose mode blanks and comments between the characters do not count.
-/

namespace Criteria.Regex

open Unicode (CodeSet)

/-- The modes that decide how a piece of an expression is read and what it stands for. -/
structure Modes where
  verbose : Bool
  unicode : Bool
  caseless : Bool
  multiline : Bool
  dotAll : Bool
  crlf : Bool
  lazy : Bool
  deriving DecidableEq

/-- The modes in which an expression begins. -/
def Modes.default : Modes :=
  ⟨false, true, false, false, false, false, false⟩

/-- What one escape, or one character outside of an escape, stands for.  A character may be written as a byte. -/
inductive Atom where
  | literal (code : Nat) (byte : Bool)
  | set (members : CodeSet)
  | look (look : Look)

/-- Passes over the blanks and comments of the verbose mode; the first argument tells whether a comment is
open. -/
def skipFrom : Bool → List Char → List Char
  | _, [] => []
  | true, c :: rest => skipFrom (c != '\n') rest
  | false, c :: rest =>
      if Text.isBlank c then skipFrom false rest
      else if c = '#' then skipFrom true rest
      else c :: rest

/-- Passes over what does not count in the given modes. -/
def skip (modes : Modes) (text : List Char) : List Char :=
  if modes.verbose then skipFrom false text else text

/-- Passing over blanks and comments never makes a text longer. -/
theorem length_skipFrom_le (comment : Bool) (text : List Char) :
    (skipFrom comment text).length ≤ text.length := by
  fun_induction skipFrom comment text with
  | case1 => simp
  | case2 c rest ih => simp only [List.length_cons]; omega
  | case3 c rest _ ih => simp only [List.length_cons]; omega
  | case4 rest _ ih => simp only [List.length_cons]; omega
  | case5 => simp

/-- Passing over what does not count never makes a text longer. -/
theorem length_skip_le (modes : Modes) (text : List Char) : (skip modes text).length ≤ text.length := by
  unfold skip
  split
  · exact length_skipFrom_le false text
  · exact Nat.le_refl _

/-- Behind its first character a text is shorter, also after passing over what does not count. -/
theorem length_skip_lt (modes : Modes) (c : Char) (rest : List Char) :
    (skip modes rest).length < (c :: rest).length :=
  Nat.lt_succ_of_le (length_skip_le modes rest)

/-- The set with all letters that differ from its members by case alone, where case does not count. -/
def Modes.fold (modes : Modes) (members : CodeSet) : CodeSet :=
  if !modes.caseless then members
  else if modes.unicode then members.closeCase
  else members.closeAsciiCase

/-- The set, or all other characters if it is negated.  There are no other bytes that are characters. -/
def Modes.negate? (modes : Modes) (negated : Bool) (members : CodeSet) : Option CodeSet :=
  if !negated then some members
  else if modes.unicode then some members.compl
  else none

/-- Decides whether a character is a hexadecimal digit. -/
def isHex (c : Char) : Bool :=
  c.isDigit || ('a' ≤ c && c ≤ 'f') || ('A' ≤ c && c ≤ 'F')

/-- The value of a hexadecimal digit. -/
def hexValue (c : Char) : Nat :=
  if c.isDigit then c.toNat - '0'.toNat
  else if 'a' ≤ c then c.toNat - 'a'.toNat + 10
  else c.toNat - 'A'.toNat + 10

/-- The number of the character that hexadecimal digits spell, if there is one. -/
def codeOfHex? (digits : List Char) : Option Nat :=
  let code := digits.foldl (fun n c => 16 * n + hexValue c) 0
  if digits.isEmpty then none
  else if code < 0xD800 ∨ (0xDFFF < code ∧ code < 0x110000) then some code
  else none

/-- Takes a given number of hexadecimal digits. -/
def takeHex (modes : Modes) : Nat → List Char → Option (List Char × List Char)
  | 0, text => some ([], text)
  | _ + 1, [] => none
  | count + 1, c :: rest =>
      if isHex c then
        (takeHex modes count (skip modes rest)).map fun (digits, rest) => (c :: digits, rest)
      else none

/-- Takes the characters up to a closing brace. -/
def takeBraced (modes : Modes) : List Char → Option (List Char × List Char)
  | [] => none
  | c :: rest =>
      if c = '\x7d' then some ([], rest)
      else (takeBraced modes (skip modes rest)).map fun (inner, rest) => (c :: inner, rest)
termination_by text => text.length
decreasing_by exact length_skip_lt modes c rest

/-- Reads a character by its number: in braces, or as a fixed number of digits.  Two digits spell a byte. -/
def readHex (modes : Modes) (width : Nat) (text : List Char) : Option (Atom × List Char) :=
  match skip modes text with
  | '\x7b' :: rest => do
      let (digits, rest) ← takeBraced modes (skip modes rest)
      if !digits.all isHex then none
      else return (.literal (← codeOfHex? digits) false, skip modes rest)
  | text => do
      let (digits, rest) ← takeHex modes width text
      return (.literal (← codeOfHex? digits) (width == 2), rest)

/-- Splits a text at the first occurrence of a mark. -/
def splitAt? (mark : List Char) : List Char → Option (List Char × List Char)
  | [] => none
  | c :: rest =>
      if (c :: rest).take mark.length = mark then some ([], (c :: rest).drop mark.length)
      else (splitAt? mark rest).map fun (before, after) => (c :: before, after)

/-- The characters that the text in the braces of `\p` asks for; how it compares a property with a value makes no
difference. -/
def propertyIn? (inner : List Char) : Option CodeSet :=
  match splitAt? ['!', '='] inner, splitAt? [':'] inner, splitAt? ['='] inner with
  | some (name, value), _, _ => Unicode.propertyValue? name value
  | none, some (name, value), _ => Unicode.propertyValue? name value
  | none, none, some (name, value) => Unicode.propertyValue? name value
  | none, none, none => Unicode.propertyNamed? inner

/-- Reads what follows `\p`, one letter or a name in braces, and gives the characters that are asked for. -/
def readPropertyName (modes : Modes) (text : List Char) : Option (CodeSet × List Char) :=
  match skip modes text with
  | [] => none
  | '\x7b' :: rest => do
      let (inner, rest) ← takeBraced modes (skip modes rest)
      return (← propertyIn? inner, rest)
  | '\\' :: _ => none
  | c :: rest => (Unicode.propertyNamed? [c]).map fun members => (members, skip modes rest)

/-- Reads a property, which bytes do not have. -/
def readProperty (modes : Modes) (negated : Bool) (text : List Char) : Option (Atom × List Char) := do
  let (members, rest) ← readPropertyName modes text
  if !modes.unicode then none
  else
    let members ← modes.negate? negated (modes.fold members)
    return (.set members, rest)

/-- The edge of a word with the given name. -/
def edgeNamed? (name : List Char) : Option WordEdge :=
  match String.ofList name with
  | "start" => some .start
  | "end" => some .stop
  | "start-half" => some .startHalf
  | "end-half" => some .stopHalf
  | _ => none

/-- Takes letters and hyphens. -/
def takeEdgeName (modes : Modes) : List Char → List Char × List Char
  | [] => ([], [])
  | c :: rest =>
      if c.isAlpha || c = '-' then
        let (name, rest) := takeEdgeName modes (skip modes rest)
        (c :: name, rest)
      else ([], c :: rest)
termination_by text => text.length
decreasing_by exact length_skip_lt modes c rest

/-- Reads the braces behind `\b`, unless they count a repetition. -/
def readBoundary (modes : Modes) (text : List Char) : Option (Atom × List Char) :=
  let plain : Option (Atom × List Char) := some (.look (.word .boundary modes.unicode), text)
  match text with
  | '\x7b' :: rest =>
      match skip modes rest with
      | [] => none
      | c :: inner =>
          if c.isAlpha || c = '-' then
            match takeEdgeName modes (c :: inner) with
            | (name, '\x7d' :: rest) =>
                (edgeNamed? name).map fun edge => (.look (.word edge modes.unicode), rest)
            | _ => none
          else plain
  | _ => plain

/-- The punctuation marks that have a meaning in regular expressions. -/
def isMeta (c : Char) : Bool :=
  ['\\', '.', '+', '*', '?', '(', ')', '|', '[', ']', '\x7b', '\x7d', '^', '$', '#', '&', '-', '~'].contains c

/-- The characters that a backslash makes stand for themselves. -/
def isEscapable (c : Char) : Bool :=
  isMeta c || (c.toNat < 128 && !c.isAlphanum && c ≠ '<' && c ≠ '>')

/-- The digits that a class stands for. -/
def Modes.digits (modes : Modes) : CodeSet :=
  if modes.unicode then Unicode.digits else .ofRanges [(0x30, 0x39)]

/-- The blanks that a class stands for. -/
def Modes.blanks (modes : Modes) : CodeSet :=
  if modes.unicode then Unicode.whiteSpace else .ofRanges [(0x9, 0xD), (0x20, 0x20)]

/-- The characters of words that a class stands for. -/
def Modes.words (modes : Modes) : CodeSet :=
  if modes.unicode then Unicode.wordCharacters
  else .ofRanges [(0x30, 0x39), (0x41, 0x5A), (0x5F, 0x5F), (0x61, 0x7A)]

/-- Reads what follows a backslash. -/
def readEscape (modes : Modes) (text : List Char) : Option (Atom × List Char) :=
  match text with
  | [] => none
  | c :: rest =>
      let set (negated : Bool) (members : CodeSet) : Option (Atom × List Char) :=
        (modes.negate? negated members).map fun members => (.set members, rest)
      let literal (code : Nat) : Option (Atom × List Char) := some (.literal code false, rest)
      let edge (edge : WordEdge) : Option (Atom × List Char) :=
        some (.look (.word edge modes.unicode), rest)
      match c with
      | 'x' => readHex modes 2 rest
      | 'u' => readHex modes 4 rest
      | 'U' => readHex modes 8 rest
      | 'p' => readProperty modes false rest
      | 'P' => readProperty modes true rest
      | 'd' => set false modes.digits
      | 's' => set false modes.blanks
      | 'w' => set false modes.words
      | 'D' => set true modes.digits
      | 'S' => set true modes.blanks
      | 'W' => set true modes.words
      | 'a' => literal 7
      | 'f' => literal 12
      | 't' => literal 9
      | 'n' => literal 10
      | 'r' => literal 13
      | 'v' => literal 11
      | 'A' => some (.look .textStart, rest)
      | 'z' => some (.look .textEnd, rest)
      | 'B' => edge .inside
      | '<' => edge .start
      | '>' => edge .stop
      | 'b' => readBoundary modes rest
      | c => if isEscapable c then literal c.toNat else none

end Criteria.Regex
