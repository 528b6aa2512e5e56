import Criteria.Regex.Bracket
import Criteria.Regex.Machine
import Criteria.Unicode.Letter

/-!
# Well-formed regular expressions

Decides whether a text is a regular expression: every group and class is closed, every repetition has
something to repeat, every escape, flag and property exists, the nesting does not go beyond its limit, and neither
do the machines that search for the expression.  There are no look-around assertions and no back-references, and
what is matched is always text: bytes that are no characters cannot be asked for.
-/

namespace Criteria.Regex

open Unicode (CodeSet)

/-- A piece of an expression: the levels it nests, what it stands for, and whether it can be repeated. -/
structure Piece where
  height : Nat
  form : Form
  repeatable : Bool

/-- A group that is open: its number if it is remembered what it matches, its finished alternatives and the pieces
of the one that is being read, the latest first, and the modes that return when it closes. -/
structure OpenGroup where
  index : Option Nat
  alternatives : List Piece
  pieces : List Piece
  outer : Modes

/-- The pieces of one alternative, the latest first, as one piece. -/
def concat (pieces : List Piece) : Piece where
  height := joinHeight (pieces.map Piece.height)
  form := .inOrder (pieces.reverse.map Piece.form)
  repeatable := true

/-- The alternatives of a group as one piece. -/
def OpenGroup.content (group : OpenGroup) : Piece :=
  let last := concat group.pieces
  match group.alternatives with
  | [] => last
  | alternatives =>
      let all := (last :: alternatives).reverse
      ⟨(all.map Piece.height).foldl max 0 + 1, .oneOf (all.map Piece.form), true⟩

/-- The group without content, to which the given modes belong. -/
def OpenGroup.start (index : Option Nat) (outer : Modes) : OpenGroup :=
  ⟨index, [], [], outer⟩

/-- Adds a piece to the alternative that is being read. -/
def OpenGroup.push (group : OpenGroup) (piece : Piece) : OpenGroup :=
  { group with pieces := piece :: group.pieces }

/-- Completes the alternative that is being read. -/
def OpenGroup.divide (group : OpenGroup) : OpenGroup :=
  { group with alternatives := concat group.pieces :: group.alternatives, pieces := [] }

/-- What has been read of an expression: the names of groups and the number of the last one, the modes, and the open
groups, the innermost first. -/
structure Progress where
  names : List (List Char)
  groups : Nat
  modes : Modes
  group : OpenGroup
  outer : List OpenGroup

/-- Nothing has been read yet. -/
def Progress.start : Progress :=
  ⟨[], 0, .default, .start none .default, []⟩

/-- Adds a piece to the innermost open group, unless it nests too deep. -/
def Progress.push? (p : Progress) (piece : Piece) : Option Progress :=
  if piece.height ≤ nestLimit then some { p with group := p.group.push piece } else none

/-- Opens a group in the given modes, unless it nests too deep. -/
def Progress.openGroup? (p : Progress) (index : Option Nat) (modes : Modes) : Option Progress :=
  if p.outer.length < nestLimit then
    some { p with modes, group := .start index p.modes, outer := p.group :: p.outer }
  else none

/-- Opens a group whose match is remembered. -/
def Progress.openCapture? (p : Progress) : Option Progress := do
  let opened ← p.openGroup? (some (p.groups + 1)) p.modes
  return { opened with groups := p.groups + 1 }

/-- Closes the innermost group. -/
def Progress.closeGroup? (p : Progress) : Option Progress :=
  match p.outer with
  | [] => none
  | outer :: rest =>
      let content := p.group.content
      let form := match p.group.index with
        | some index => .capture index content.form
        | none => content.form
      { p with modes := p.group.outer, group := outer, outer := rest }.push? ⟨content.height + 1, form, true⟩

/-- Replaces the last piece by its repetition. -/
def Progress.repeat? (p : Progress) (least : Nat) (most : Option Nat) (greedy : Bool) : Option Progress :=
  match p.group.pieces with
  | [] => none
  | piece :: pieces =>
      if piece.repeatable then
        { p with group := { p.group with pieces } }.push?
          ⟨piece.height + 1, .times least most greedy piece.form, true⟩
      else none

/-! ## Groups and flags -/

/-- Decides whether a character may stand in the name of a group. -/
def isNameChar (first : Bool) (c : Char) : Bool :=
  if first then c = '_' || Unicode.isLetter c
  else c = '_' || c = '.' || c = '[' || c = ']' || Unicode.isLetterOrNumber c

/-- Reads the name of a group up to its closing angle. -/
def readGroupName (text : List Char) : Option (List Char × List Char) := do
  let (name, rest) ← splitAt? ['>'] text
  match name with
  | [] => none
  | first :: others =>
      if isNameChar true first && others.all (isNameChar false) then return (name, rest) else none

/-- Reads the flags of a group up to the colon or parenthesis that ends them, and gives the flags that are
turned on and the ones that are turned off. -/
def readFlags (off : Bool) (on offs : List Char) : List Char → Option (List Char × List Char × List Char)
  | [] => none
  | c :: rest =>
      if c = ':' ∨ c = ')' then
        if off && offs.isEmpty then none else some (on, offs, c :: rest)
      else if c = '-' then
        if off then none else readFlags true on offs rest
      else if ['i', 'm', 's', 'U', 'u', 'R', 'x'].contains c && !(on ++ offs).contains c then
        if off then readFlags off on (c :: offs) rest else readFlags off (c :: on) offs rest
      else none

/-- The modes after flags were turned on and off. -/
def Modes.after (modes : Modes) (on offs : List Char) : Modes :=
  let turn (flag : Char) (before : Bool) : Bool :=
    if on.contains flag then true else if offs.contains flag then false else before
  { verbose := turn 'x' modes.verbose, unicode := turn 'u' modes.unicode, caseless := turn 'i' modes.caseless,
    multiline := turn 'm' modes.multiline, dotAll := turn 's' modes.dotAll, crlf := turn 'R' modes.crlf,
    lazy := turn 'U' modes.lazy }

/-- Opens a group whose name stands at the beginning of a text. -/
def readNamedGroup (p : Progress) (text : List Char) : Option (Progress × List Char) := do
  let (name, rest) ← readGroupName text
  if p.names.contains name then none
  else return ({ ← p.openCapture? with names := name :: p.names }, rest)

/-- Reads what follows an opening parenthesis. -/
def readGroup (p : Progress) (text : List Char) : Option (Progress × List Char) :=
  match skip p.modes text with
  | '?' :: '=' :: _ => none
  | '?' :: '!' :: _ => none
  | '?' :: '<' :: '=' :: _ => none
  | '?' :: '<' :: '!' :: _ => none
  | '?' :: 'P' :: '<' :: rest => readNamedGroup p rest
  | '?' :: '<' :: rest => readNamedGroup p rest
  | '?' :: rest => do
      let (on, offs, rest) ← readFlags false [] [] rest
      let modes := p.modes.after on offs
      match rest with
      | ':' :: rest => return (← p.openGroup? none modes, rest)
      | _ :: rest =>
          if on.isEmpty && offs.isEmpty then none
          else return (← { p with modes }.push? ⟨0, .empty, false⟩, rest)
      | [] => none
  | text => do return (← p.openCapture?, text)

/-! ## Repetitions -/

/-- Takes the digits of a count. -/
def takeDigits (modes : Modes) : List Char → List Char × List Char
  | [] => ([], [])
  | c :: rest =>
      if c.isDigit then
        let (digits, rest) := takeDigits modes (skip modes rest)
        (c :: digits, rest)
      else ([], c :: rest)
termination_by text => text.length
decreasing_by exact length_skip_lt modes c rest

/-- Reads a count with blanks around it; an absent one is told from one that is too great. -/
def readCount (modes : Modes) (text : List Char) : Option (Option Nat × List Char) :=
  let (digits, rest) := takeDigits modes (Text.trimStart text)
  let rest := skip modes (Text.trimStart rest)
  let count := Number.readDigits digits
  if digits.isEmpty then some (none, rest)
  else if count < Nat.pow 2 32 then some (some count, rest)
  else none

/-- Reads the counts of a repetition from behind the opening brace: the least and the greatest number of copies. -/
def readCounts (modes : Modes) (text : List Char) : Option (Nat × Option Nat × List Char) := do
  let (low, rest) ← readCount modes (skip modes text)
  match low, rest with
  | some low, '\x7d' :: rest => return (low, some low, rest)
  | some low, ',' :: rest =>
      match skip modes rest with
      | '\x7d' :: rest => return (low, none, rest)
      | rest =>
          let (high, rest) ← readCount modes rest
          match high, rest with
          | some high, '\x7d' :: rest => if low ≤ high then return (low, some high, rest) else none
          | _, _ => none
  | _, _ => none

/-- Reads the mark that makes a repetition prefer fewer copies, and tells whether it is there. -/
def readLazy (text : List Char) : Bool × List Char :=
  match text with
  | '?' :: rest => (true, rest)
  | _ => (false, text)

/-- Repeats the last piece; the text begins behind the repetition. -/
def readRepeat (p : Progress) (least : Nat) (most : Option Nat) (text : List Char) :
    Option (Progress × List Char) := do
  let (reluctant, rest) := readLazy text
  return (← p.repeat? least most (reluctant == p.modes.lazy), rest)

/-! ## Expressions -/

/-- The form of one character outside of a class.  Only ASCII characters can be written as bytes where bytes are
read, and only they have letters that differ by case. -/
def literalForm? (modes : Modes) (code : Nat) (byte : Bool) : Option Form :=
  if modes.unicode then
    if modes.caseless && Unicode.hasCaseVariants code then
      some (.ofSet (CodeSet.single code).closeCase false)
    else some (.literal [code])
  else if byte && 128 ≤ code then none
  else if modes.caseless && (CodeSet.single code).closeAsciiCase != .single code then
    some (.ofSet (CodeSet.single code).closeAsciiCase true)
  else some (.literal [code])

/-- The form of an escape, or of a character, outside of a class. -/
def Atom.form? (modes : Modes) : Atom → Option Form
  | .literal code byte => literalForm? modes code byte
  | .set members => some (.ofSet members (!modes.unicode))
  | .look edge => some (.look edge)

/-- The form of a dot, which may match bytes that are no characters where bytes are read. -/
def dotForm? (modes : Modes) : Option Form :=
  if !modes.unicode then none
  else if modes.dotAll then some (.ofSet .all false)
  else if modes.crlf then some (.ofSet (CodeSet.ofCodes [0xA, 0xD]).compl false)
  else some (.ofSet (CodeSet.single 0xA).compl false)

/-- The form of a caret. -/
def caretForm (modes : Modes) : Form :=
  .look (if modes.multiline then .lineStart modes.crlf else .textStart)

/-- The form of a dollar sign. -/
def dollarForm (modes : Modes) : Form :=
  .look (if modes.multiline then .lineEnd modes.crlf else .textEnd)

/-- Reads one piece of an expression; `fuel`, at least the length of the text, bounds the steps within a class. -/
def step (fuel : Nat) (p : Progress) (text : List Char) : Option (Progress × List Char) :=
  let push (form : Option Form) (rest : List Char) : Option (Progress × List Char) := do
    return (← p.push? ⟨0, ← form, true⟩, rest)
  match text with
  | [] => none
  | '(' :: rest => readGroup p rest
  | ')' :: rest => p.closeGroup?.map fun p => (p, rest)
  | '|' :: rest => some ({ p with group := p.group.divide }, rest)
  | '[' :: rest => do
      let (operand, rest) ← readBracket fuel p.modes rest
      return (← p.push? ⟨operand.height, .ofSet operand.members (!p.modes.unicode), true⟩, rest)
  | '?' :: rest => readRepeat p 0 (some 1) rest
  | '*' :: rest => readRepeat p 0 none rest
  | '+' :: rest => readRepeat p 1 none rest
  | '\x7b' :: rest => do
      let (least, most, rest) ← readCounts p.modes rest
      readRepeat p least most (skip p.modes rest)
  | '\\' :: rest => do
      let (atom, rest) ← readEscape p.modes rest
      push (atom.form? p.modes) rest
  | '.' :: rest => push (dotForm? p.modes) rest
  | '^' :: rest => push (caretForm p.modes) rest
  | '$' :: rest => push (dollarForm p.modes) rest
  | c :: rest => push (literalForm? p.modes c.toNat false) rest

/-- Reads an expression to its end; the first argument bounds the steps. -/
def readFrom : Nat → Progress → List Char → Option Progress
  | 0, _, _ => none
  | fuel + 1, p, text =>
      match skip p.modes text with
      | [] => some p
      | text => do
          let (p, rest) ← step fuel p text
          readFrom fuel p rest

/-- Reads a regular expression, without regard to the size of its machines. -/
def readForm? (text : List Char) : Option Form := do
  let p ← readFrom (text.length + 1) .start text
  let content := p.group.content
  if p.outer.isEmpty && content.height ≤ nestLimit then some content.form else none

/-- Decides whether a text is a well-formed regular expression. -/
def isWellFormed (text : List Char) : Bool :=
  (readForm? text).any Form.fits

end Criteria.Regex
