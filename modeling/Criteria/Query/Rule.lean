import Criteria.Query.Grammar

/-!
# The named rules of the grammar

A text can be read from any rule of the grammar.  What is found is listed as marks: the rules of the tree,
each with the stretch it was read from, outer parts before inner ones.
-/

namespace Criteria.Query

/-- The rules that have a name. -/
inductive Rule where
  | condition
  | rootOr
  | body
  | separator
  | group
  | orMarker
  | statement
  | fieldName
  | valueList
  | value
  | singleValue
  | excludedValue
  | range
  | excludedRange
  | lowerExclusive
  | upperExclusive
  | comparison
  | compareOp
  | patternMatch
  | caseInsensitive
  | patternNegation
  | patternOp
  | wildcard
  | scalar
  | quotedValue
  | bareValue
  | special
  | whitespace
  | endOfInput
  deriving DecidableEq

namespace Rule

/-- The name of a rule. -/
def name : Rule → String
  | condition => "Condition"
  | rootOr => "RootOr"
  | body => "Body"
  | separator => "Separator"
  | group => "Group"
  | orMarker => "OrMarker"
  | statement => "Statement"
  | fieldName => "FieldName"
  | valueList => "ValueList"
  | value => "Value"
  | singleValue => "SingleValue"
  | excludedValue => "ExcludedValue"
  | range => "Range"
  | excludedRange => "ExcludedRange"
  | lowerExclusive => "LowerExclusive"
  | upperExclusive => "UpperExclusive"
  | comparison => "Comparison"
  | compareOp => "CompareOp"
  | patternMatch => "PatternMatch"
  | caseInsensitive => "CaseInsensitive"
  | patternNegation => "PatternNegation"
  | patternOp => "PatternOp"
  | wildcard => "Wildcard"
  | scalar => "Scalar"
  | quotedValue => "QuotedValue"
  | bareValue => "BareValue"
  | special => "Special"
  | whitespace => "WHITESPACE"
  | endOfInput => "EOI"

/-- All rules. -/
def list : List Rule :=
  [condition, rootOr, body, separator, group, orMarker, statement, fieldName, valueList, value,
    singleValue, excludedValue, range, excludedRange, lowerExclusive, upperExclusive, comparison,
    compareOp, patternMatch, caseInsensitive, patternNegation, patternOp, wildcard, scalar,
    quotedValue, bareValue, special, whitespace, endOfInput]

/-- The rule with a name. -/
def ofName? (name : String) : Option Rule :=
  list.find? fun rule => rule.name == name

end Rule

/-- A rule and the stretch it was read from. -/
structure Mark where
  rule : Rule
  span : Span
  deriving DecidableEq

/-! ## Marks of trees -/

/-- The mark of a part that may be absent. -/
def marksOf (rule : Rule) (span : Option Span) : List Mark :=
  (span.map (Mark.mk rule)).toList

/-- The marks of a value. -/
def ScalarNode.marks (s : ScalarNode) : List Mark :=
  [⟨if s.isQuoted then .quotedValue else .bareValue, s.span⟩]

/-- The marks of a range. -/
def RangeNode.marks (r : RangeNode) : List Mark :=
  ⟨.range, r.span⟩ :: (marksOf .lowerExclusive r.openLower ++ r.lower.marks ++ r.upper.marks ++
    marksOf .upperExclusive r.openUpper)

/-- The marks of a match. -/
def MatchNode.marks (m : MatchNode) : List Mark :=
  ⟨.patternMatch, m.span⟩ :: (marksOf .caseInsensitive m.ignoresCase ++
    marksOf .patternNegation m.negated ++ [⟨.patternOp, m.kindSpan⟩] ++ m.value.marks ++
    marksOf .wildcard m.wildcard)

/-- The marks of an entry. -/
def EntryNode.marks : EntryNode → List Mark
  | single span value => ⟨.singleValue, span⟩ :: value.marks
  | excludedSingle span value => ⟨.excludedValue, span⟩ :: value.marks
  | range r => r.marks
  | excludedRange span r => ⟨.excludedRange, span⟩ :: r.marks
  | comparison span operatorSpan _ value =>
      ⟨.comparison, span⟩ :: ⟨.compareOp, operatorSpan⟩ :: value.marks
  | textMatch m => m.marks

/-- The marks of a list of entries. -/
def entryListMarks (list : Span × List EntryNode) : List Mark :=
  ⟨.valueList, list.1⟩ :: list.2.flatMap EntryNode.marks

/-- The marks of a statement. -/
def StatementNode.marks (s : StatementNode) : List Mark :=
  ⟨.statement, s.span⟩ :: ⟨.fieldName, s.nameSpan⟩ :: (s.entries.map entryListMarks).getD []

mutual

/-- The marks of a part of a group. -/
def ItemNode.marks : ItemNode → List Mark
  | .statement s => s.marks
  | .group span anyMark items =>
      ⟨.group, span⟩ :: (marksOf .orMarker anyMark ++ itemsMarks items)

/-- The marks of the parts of a group. -/
def itemsMarks : List ItemNode → List Mark
  | [] => []
  | item :: items => item.marks ++ itemsMarks items

end

/-- The marks of a query. -/
def QueryNode.marks (q : QueryNode) : List Mark :=
  ⟨.condition, q.span⟩ :: (marksOf .rootOr q.anyMark ++ itemsMarks q.items ++
    [⟨.endOfInput, q.ending⟩])

/-! ## Reading from a rule -/

open Scan

/-- A part that is only a mark. -/
def markAs (rule : Rule) (scan : Scan Unit) : Scan (List Mark) := do
  return [⟨rule, ← mark scan⟩]

/-- The scan of a rule, as marks; the first argument bounds depth and loops. -/
def Rule.scan (fuel : Nat) : Rule → Scan (List Mark)
  | condition => QueryNode.marks <$> query fuel
  | rootOr => do return [⟨rootOr, ← rootMark⟩]
  | body => itemsMarks <$> items fuel
  | separator => (fun _ => []) <$> Query.separator
  | group => ItemNode.marks <$> groupOf (items fuel)
  | orMarker => markAs orMarker (char '*')
  | statement => StatementNode.marks <$> Query.statement fuel
  | fieldName => do return [⟨fieldName, (← Query.fieldName).1⟩]
  | valueList => entryListMarks <$> entryList fuel
  | value => EntryNode.marks <$> entry
  | singleValue => EntryNode.marks <$> singleEntry
  | excludedValue => EntryNode.marks <$> excludedEntry
  | range => RangeNode.marks <$> rangeNode
  | excludedRange => EntryNode.marks <$> Query.excludedRange
  | lowerExclusive => markAs lowerExclusive (char ']')
  | upperExclusive => markAs upperExclusive (char '[')
  | comparison => EntryNode.marks <$> Query.comparison
  | compareOp => do return [⟨compareOp, (← compareOperator).1⟩]
  | patternMatch => MatchNode.marks <$> matchNode
  | caseInsensitive => markAs caseInsensitive (char 'i')
  | patternNegation => markAs patternNegation (char '!')
  | patternOp => do return [⟨patternOp, (← matchKind).1⟩]
  | wildcard => markAs wildcard (char '*')
  | scalar => ScalarNode.marks <$> Query.scalar
  | quotedValue => ScalarNode.marks <$> quotedScalar
  | bareValue => ScalarNode.marks <$> bareScalar
  | special => (fun _ => []) <$> one isSpecial
  | whitespace => (fun _ => []) <$> one isGap
  | endOfInput => markAs endOfInput ending

/-- The marks of the beginning of a text that a rule reads, or the place at which it does not follow the
rule. -/
def Rule.marks (rule : Rule) (text : List Char) : Except Nat (List Mark) :=
  match rule.scan (text.length + 1) (.start text) with
  | ⟨reach, none⟩ => .error reach
  | ⟨_, some (marks, _)⟩ => .ok marks

end Criteria.Query
