import Criteria.Regex.Escape

/-!
# Bracketed classes in regular expressions

A class in brackets lists characters, ranges, named classes and classes in brackets, and may combine two lists
by `&&`, `--` or `~~`.  Reading one gives its members and the number of levels it nests.
-/

namespace Criteria.Regex

open Unicode (CodeSet)

/-- The classes between `[:` and `:]`, as ranges of ASCII characters. -/
def asciiClasses : List (List Char × List (Nat × Nat)) :=
  [("alnum".toList, [(0x30, 0x39), (0x41, 0x5A), (0x61, 0x7A)]),
    ("alpha".toList, [(0x41, 0x5A), (0x61, 0x7A)]), ("ascii".toList, [(0, 0x7F)]),
    ("blank".toList, [(0x9, 0x9), (0x20, 0x20)]), ("cntrl".toList, [(0, 0x1F), (0x7F, 0x7F)]),
    ("digit".toList, [(0x30, 0x39)]), ("graph".toList, [(0x21, 0x7E)]), ("lower".toList, [(0x61, 0x7A)]),
    ("print".toList, [(0x20, 0x7E)]),
    ("punct".toList, [(0x21, 0x2F), (0x3A, 0x40), (0x5B, 0x60), (0x7B, 0x7E)]),
    ("space".toList, [(0x9, 0xD), (0x20, 0x20)]), ("upper".toList, [(0x41, 0x5A)]),
    ("word".toList, [(0x30, 0x39), (0x41, 0x5A), (0x5F, 0x5F), (0x61, 0x7A)]),
    ("xdigit".toList, [(0x30, 0x39), (0x41, 0x46), (0x61, 0x66)])]

/-- Reads a class such as `[:alpha:]` from behind its first bracket: whether it is negated, and its ranges. -/
def readAsciiClass (text : List Char) : Option (Bool × List (Nat × Nat) × List Char) :=
  match text with
  | ':' :: rest => do
      let (negated, rest) := match rest with
        | '^' :: rest => (true, rest)
        | _ => (false, rest)
      let (name, rest) ← splitAt? [':'] rest
      match rest with
      | ']' :: rest => return (negated, ← asciiClasses.lookup name, rest)
      | _ => none
  | _ => none

/-- One more level than the highest of several, unless there are fewer than two. -/
def joinHeight (heights : List Nat) : Nat :=
  match heights with
  | [] => 0
  | [height] => height
  | heights => heights.foldl max 0 + 1

/-- A part of a class: the levels it nests and its members. -/
structure Operand where
  height : Nat
  members : CodeSet

/-- A list of items in a class: the levels that each nests, and the ranges of all. -/
structure Listing where
  heights : List Nat
  ranges : List (Nat × Nat)

/-- Adds an item to a list. -/
def Listing.add (listing : Listing) (height : Nat) (ranges : List (Nat × Nat)) : Listing :=
  ⟨height :: listing.heights, ranges ++ listing.ranges⟩

/-- The list as a part of a class. -/
def Listing.operand (listing : Listing) : Operand :=
  ⟨joinHeight listing.heights, .ofRanges listing.ranges⟩

/-- The ways to combine two sets. -/
inductive SetOperator where
  | inter | diff | symmDiff

/-- Combines two sets. -/
def SetOperator.apply (operator : SetOperator) (s t : CodeSet) : CodeSet :=
  match operator with
  | .inter => s.inter t
  | .diff => s.diff t
  | .symmDiff => s.symmDiff t

/-- What stands to the left of an operator, joined with the list behind it. -/
def joinOperands (modes : Modes) (left : Option (Operand × SetOperator)) (listing : Listing) : Operand :=
  let right := listing.operand
  match left with
  | none => right
  | some (left, operator) =>
      ⟨max left.height right.height + 1, operator.apply (modes.fold left.members) (modes.fold right.members)⟩

/-- Takes the hyphens at the beginning of a class, which stand for themselves. -/
def takeHyphens (modes : Modes) (listing : Listing) : List Char → Listing × List Char
  | [] => (listing, [])
  | c :: rest =>
      if c = '-' then takeHyphens modes (listing.add 0 [(0x2D, 0x2D)]) (skip modes rest)
      else (listing, c :: rest)
termination_by text => text.length
decreasing_by exact length_skip_lt modes c rest

/-- Reads the beginning of a class from behind its bracket: a caret, hyphens, or a closing bracket that stands
for itself. -/
def openBracket (modes : Modes) (text : List Char) : Option (Bool × Listing × List Char) :=
  let text := skip modes text
  let (text, negated) := match text with
    | '^' :: rest => (skip modes rest, true)
    | _ => (text, false)
  let (listing, text) := takeHyphens modes ⟨[], []⟩ text
  match text with
  | [] => none
  | ']' :: rest =>
      if listing.heights.isEmpty then some (negated, listing.add 0 [(0x5D, 0x5D)], skip modes rest)
      else some (negated, listing, text)
  | _ => some (negated, listing, text)

/-- The code of a character in a class; where bytes are read it has to be an ASCII character. -/
def classCode? (modes : Modes) (code : Nat) : Option Nat :=
  if modes.unicode || code < 128 then some code else none

/-- Reads one character or escape within a class. -/
def readClassAtom (modes : Modes) (text : List Char) : Option (Atom × List Char) :=
  match text with
  | [] => none
  | '\\' :: rest => readEscape modes rest
  | c :: rest => some (.literal c.toNat false, rest)

/-- The next character that counts behind a hyphen, as far as it decides whether the hyphen makes a range: the
mark of a comment is passed over like a blank, but the comment is not. -/
def glanceFrom (comment : Bool) : List Char → Option Char
  | [] => none
  | c :: rest =>
      if Text.isBlank c then glanceFrom comment rest
      else if c = '#' && !comment then glanceFrom true rest
      else some c

/-- The next character behind a hyphen, as far as it decides whether the hyphen makes a range. -/
def glance (modes : Modes) (text : List Char) : Option Char :=
  if modes.verbose then glanceFrom false text <|> text.head? else text.head?

/-- Reads one character, escape or range within a class and gives its ranges. -/
def readClassItem (modes : Modes) (text : List Char) : Option (List (Nat × Nat) × List Char) := do
  let (first, rest) ← readClassAtom modes text
  let rest := skip modes rest
  let alone : Option (List (Nat × Nat) × List Char) :=
    match first with
    | .literal code _ => (classCode? modes code).map fun code => ([(code, code)], rest)
    | .set members => some (members.ranges, rest)
    | .look _ => none
  match rest with
  | [] => none
  | '-' :: after =>
      match glance modes after with
      | some ']' => alone
      | some '-' => alone
      | _ =>
          let (last, rest) ← readClassAtom modes (skip modes after)
          match first, last with
          | .literal low _, .literal high _ =>
              if low ≤ high then return ([(← classCode? modes low, ← classCode? modes high)], rest) else none
          | _, _ => none
  | _ => alone

/-- The most levels an expression may nest. -/
def nestLimit : Nat := 250

/-- Reads the rest of a class and gives its height and members.  The arguments are the levels it may nest, a bound
on the steps, whether it is negated, what stands to the left of an operator, and the items so far. -/
def readBracketFrom (modes : Modes) :
    Nat → Nat → Bool → Option (Operand × SetOperator) → Listing → List Char → Option (Operand × List Char)
  | 0, _, _, _, _, _ => none
  | _, 0, _, _, _, _ => none
  | levels + 1, fuel + 1, negated, left, listing, text =>
      match skip modes text with
      | [] => none
      | '[' :: rest =>
          match readAsciiClass rest with
          | some (inverse, ranges, rest) => do
              let members ← modes.negate? inverse (modes.fold (.ofRanges ranges))
              readBracketFrom modes (levels + 1) fuel negated left (listing.add 0 members.ranges) rest
          | none => do
              let (inverse, inner, rest) ← openBracket modes rest
              let (operand, rest) ← readBracketFrom modes levels fuel inverse none inner rest
              readBracketFrom modes (levels + 1) fuel negated left
                (listing.add operand.height operand.members.ranges) rest
      | ']' :: rest => do
          let operand := joinOperands modes left listing
          return (⟨operand.height + 1, ← modes.negate? negated (modes.fold operand.members)⟩, rest)
      | '&' :: '&' :: rest =>
          readBracketFrom modes (levels + 1) fuel negated (some (joinOperands modes left listing, .inter))
            ⟨[], []⟩ rest
      | '-' :: '-' :: rest =>
          readBracketFrom modes (levels + 1) fuel negated (some (joinOperands modes left listing, .diff))
            ⟨[], []⟩ rest
      | '~' :: '~' :: rest =>
          readBracketFrom modes (levels + 1) fuel negated (some (joinOperands modes left listing, .symmDiff))
            ⟨[], []⟩ rest
      | text => do
          let (ranges, rest) ← readClassItem modes text
          readBracketFrom modes (levels + 1) fuel negated left (listing.add 0 ranges) rest

/-- Reads a class from behind its opening bracket and gives its height and members; `fuel`, at least the length
of the text, bounds the steps. -/
def readBracket (fuel : Nat) (modes : Modes) (text : List Char) : Option (Operand × List Char) := do
  let (negated, listing, rest) ← openBracket modes text
  readBracketFrom modes nestLimit fuel negated none listing rest

end Criteria.Regex
