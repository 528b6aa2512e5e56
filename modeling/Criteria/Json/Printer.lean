import Criteria.Json.Basic
import Criteria.Number.Decimal

/-!
# Writing JSON

The compact form without any blanks, and the pretty form with one element or member to a line, indented by two
blanks for each level.
-/

namespace Criteria.Json

/-- The number of a control character in an escape. -/
def controlEscape (c : Char) : List Char :=
  ['\\', 'u'] ++ Number.padZeros 4 (Nat.toDigits 16 c.toNat)

/-- One character as it stands between quotes. -/
def escapeChar (c : Char) : List Char :=
  match c with
  | '"' => ['\\', '"']
  | '\\' => ['\\', '\\']
  | '\x08' => ['\\', 'b']
  | '\x0c' => ['\\', 'f']
  | '\n' => ['\\', 'n']
  | '\r' => ['\\', 'r']
  | '\t' => ['\\', 't']
  | c => if c.toNat < 0x20 then controlEscape c else [c]

/-- A text between quotes. -/
def quoteText (t : String) : List Char :=
  '"' :: (t.toList.flatMap escapeChar ++ ['"'])

/-- Texts one after another with a separator between them. -/
def joinWith (separator : List Char) (texts : List (List Char)) : List Char :=
  separator.intercalate texts

mutual

/-- The compact form. -/
def compact : Json → List Char
  | null => "null".toList
  | bool b => if b then "true".toList else "false".toList
  | number literal => literal
  | string t => quoteText (t.getD "")
  | array elements => '[' :: (joinWith [','] (compactAll elements) ++ [']'])
  | object members => '\x7b' :: (joinWith [','] (compactMembers members) ++ ['\x7d'])

/-- The compact forms of several values. -/
def compactAll : List Json → List (List Char)
  | [] => []
  | element :: elements => compact element :: compactAll elements

/-- The compact forms of members. -/
def compactMembers : List (Option String × Json) → List (List Char)
  | [] => []
  | (key, value) :: members =>
      (quoteText (key.getD "") ++ ':' :: compact value) :: compactMembers members

end

/-- A new line, indented for a level. -/
def newLine (level : Nat) : List Char :=
  '\n' :: List.replicate (2 * level) ' '

/-- Lines between brackets, or the bare brackets if there are none. -/
def block (level : Nat) (opening closing : Char) (lines : List (List Char)) : List Char :=
  if lines.isEmpty then [opening, closing]
  else opening :: (newLine (level + 1) ++ joinWith (',' :: newLine (level + 1)) lines ++
    newLine level ++ [closing])

mutual

/-- The pretty form at a level. -/
def prettyAt (level : Nat) : Json → List Char
  | array elements => block level '[' ']' (prettyAll (level + 1) elements)
  | object members => block level '\x7b' '\x7d' (prettyMembers (level + 1) members)
  | null => "null".toList
  | bool b => if b then "true".toList else "false".toList
  | number literal => literal
  | string t => quoteText (t.getD "")

/-- The pretty forms of several values. -/
def prettyAll (level : Nat) : List Json → List (List Char)
  | [] => []
  | element :: elements => prettyAt level element :: prettyAll level elements

/-- The pretty forms of members. -/
def prettyMembers (level : Nat) : List (Option String × Json) → List (List Char)
  | [] => []
  | (key, value) :: members =>
      (quoteText (key.getD "") ++ ':' :: ' ' :: prettyAt level value) :: prettyMembers level members

end

/-- The pretty form. -/
def pretty (j : Json) : List Char :=
  prettyAt 0 j

end Criteria.Json
