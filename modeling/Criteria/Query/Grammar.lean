import Criteria.Query.Tree

/-!
# The grammar of queries

A query is a list of statements and groups:

    id: 1, 3-5, !7, >10; name: ~i*foo*; (date: "03-05-2010"); *(id: 20; id: 30)

A star in front of a group, or at the beginning of the query, joins its parts by OR.  Loops carry a bound on
their number of turns; the length of the text is always enough.
-/

namespace Criteria.Query

open Scan

/-- A quoted value. -/
def quotedScalar : Scan ScalarNode := do
  let (span, text) ← node quotedText
  return ⟨span, true, text⟩

/-- A bare value. -/
def bareScalar : Scan ScalarNode := do
  let (span, text) ← node (run fun c => !isSpecial c)
  return ⟨span, false, text⟩

/-- A value. -/
def scalar : Scan ScalarNode :=
  orElse quotedScalar bareScalar

/-- The characters a field name may begin with. -/
def isNameStart (c : Char) : Bool :=
  c.isAlpha || c == '_'

/-- The characters of a field name. -/
def isNamePart (c : Char) : Bool :=
  c.isAlphanum || c == '_'

/-- The name of a field. -/
def fieldName : Scan (Span × List Char) :=
  node do
    ahead (run isNameStart)
    run isNamePart

/-- The operator of a comparison; of two that fit the longer one. -/
def compareOperator : Scan (Span × Operator) :=
  node <| oneOf <| [Operator.greaterOrEqual, .lowerOrEqual, .notEqual, .greater, .lower].map fun op => do
    chars op.sign.toList
    return op

/-- A comparison. -/
def comparison : Scan EntryNode := do
  let (span, (operatorSpan, operator), value) ← node do
    let operator ← compareOperator
    gap
    return (operator, ← scalar)
  return .comparison span operatorSpan operator value

/-- A single value. -/
def singleEntry : Scan EntryNode := do
  let (span, value) ← node scalar
  return .single span value

/-- An excluded value. -/
def excludedEntry : Scan EntryNode := do
  let (span, value) ← node do
    char '!'
    gap
    scalar
  return .excludedSingle span value

/-- A range; the gap in front of an absent bracket at its end still belongs to it. -/
def rangeNode : Scan RangeNode := do
  let (span, openLower, lower, upper, openUpper) ← node do
    let openLower ← optional (mark (char ']'))
    gap
    let lower ← scalar
    gap
    char '-'
    gap
    let upper ← scalar
    gap
    let openUpper ← optional (mark (char '['))
    return (openLower, lower, upper, openUpper)
  return ⟨span, openLower, lower, upper, openUpper⟩

/-- An excluded range. -/
def excludedRange : Scan EntryNode := do
  let (span, range) ← node do
    char '!'
    gap
    rangeNode
  return .excludedRange span range

/-- The sign of a kind of match. -/
def matchSign : MatchKind → Char
  | .contains => '*'
  | .startsWith => '>'
  | .endsWith => '<'
  | .equals => '='
  | .regex => '?'

/-- The kind of a match by its sign. -/
def matchKind : Scan (Span × MatchKind) :=
  node <| oneOf <| [MatchKind.contains, .startsWith, .endsWith, .equals, .regex].map fun kind => do
    char (matchSign kind)
    return kind

/-- A match; no gaps are allowed between its parts. -/
def matchNode : Scan MatchNode := do
  let (span, ignoresCase, negated, (kindSpan, kind), value, wildcard) ← node do
    char '~'
    let ignoresCase ← optional (mark (char 'i'))
    let negated ← optional (mark (char '!'))
    let kind ← matchKind
    let value ← scalar
    let wildcard ← optional (mark (char '*'))
    return (ignoresCase, negated, kind, value, wildcard)
  return ⟨span, ignoresCase, negated, kindSpan, kind, value, wildcard⟩

/-- An entry about a field. -/
def entry : Scan EntryNode :=
  oneOf [.textMatch <$> matchNode, comparison, excludedRange, excludedEntry, .range <$> rangeNode,
    singleEntry]

/-- Entries with commas between them; one more comma may follow. -/
def entryList (fuel : Nat) : Scan (Span × List EntryNode) :=
  node do
    let first ← entry
    gap
    let others ← many fuel do
      char ','
      gap
      entry
    gap
    let _ ← optional (char ',')
    return first :: others

/-- A statement.  A semicolon ends it, or the end of the group or query does. -/
def statement (fuel : Nat) : Scan StatementNode := do
  let (span, (nameSpan, name), entries) ← node do
    let name ← fieldName
    gap
    char ':'
    gap
    let entries ← optional (entryList fuel)
    gap
    oneOf [char ';', ahead (char ')'), ahead (mark ending)]
    return (name, entries)
  return ⟨span, nameSpan, name, entries⟩

/-- A separator that ends no statement. -/
def separator : Scan Unit :=
  orElse (char ';') (char ',')

/-- A group in parentheses around given items. -/
def groupOf (items : Scan (List ItemNode)) : Scan ItemNode := do
  let (span, anyMark, items) ← node do
    let anyMark ← optional (mark (char '*'))
    gap
    char '('
    gap
    let items ← items
    gap
    char ')'
    return (anyMark, items)
  return .group span anyMark items

/-- As many items as there are, without the separators between them. -/
def itemsOf (fuel : Nat) (item : Scan (Option ItemNode)) : Scan (List ItemNode) := do
  return (← many fuel item).filterMap id

/-- A part of a group, or a separator; the argument bounds both depth and loops. -/
def item : Nat → Scan (Option ItemNode)
  | 0 => fail
  | fuel + 1 =>
      oneOf [(some ∘ .statement) <$> statement fuel, some <$> groupOf (itemsOf fuel (item fuel)),
        (fun _ => none) <$> separator]

/-- The parts of a group. -/
def items (fuel : Nat) : Scan (List ItemNode) :=
  itemsOf fuel (item fuel)

/-- The star that joins the parts of the root by OR; where the root begins with a group the star needs a
semicolon. -/
def rootMark : Scan Span :=
  mark do
    char '*'
    gap
    oneOf [char ';', notAhead '(']

/-- A whole query. -/
def query (fuel : Nat) : Scan QueryNode := do
  let (span, anyMark, items, ending) ← node do
    gap
    let anyMark ← optional rootMark
    gap
    let items ← items fuel
    gap
    let ending ← mark ending
    return (anyMark, items, ending)
  return ⟨span, anyMark, items, ending⟩

/-- Takes a text apart as a query, or tells at which place it does not follow the grammar. -/
def parse (text : List Char) : Except Nat QueryNode :=
  match query (text.length + 1) (.start text) with
  | ⟨reach, none⟩ => .error reach
  | ⟨_, some (tree, _)⟩ => .ok tree

end Criteria.Query
