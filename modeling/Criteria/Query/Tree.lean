import Criteria.Condition.Entry
import Criteria.Query.Scan

/-!
# Query trees

The tree of a query as the grammar takes it apart.  Every part that has a name in the grammar keeps the
stretch of text it was read from.
-/

namespace Criteria.Query

/-- A value: bare or quoted, and its text without the quotes. -/
structure ScalarNode where
  span : Span
  isQuoted : Bool
  text : List Char
  deriving DecidableEq

/-- A range, with the brackets that leave out a bound. -/
structure RangeNode where
  span : Span
  openLower : Option Span
  lower : ScalarNode
  upper : ScalarNode
  openUpper : Option Span
  deriving DecidableEq

/-- A match, with its flags. -/
structure MatchNode where
  span : Span
  ignoresCase : Option Span
  negated : Option Span
  kindSpan : Span
  kind : MatchKind
  value : ScalarNode
  wildcard : Option Span
  deriving DecidableEq

/-- One entry about a field. -/
inductive EntryNode where
  | single (span : Span) (value : ScalarNode)
  | excludedSingle (span : Span) (value : ScalarNode)
  | range (range : RangeNode)
  | excludedRange (span : Span) (range : RangeNode)
  | comparison (span : Span) (operatorSpan : Span) (operator : Operator) (value : ScalarNode)
  | textMatch (pattern : MatchNode)
  deriving DecidableEq

/-- The stretch of an entry. -/
def EntryNode.span : EntryNode → Span
  | single span _ => span
  | excludedSingle span _ => span
  | range r => r.span
  | excludedRange span _ => span
  | comparison span _ _ _ => span
  | textMatch m => m.span

/-- A statement: the name of a field and the entries about it, if any are given. -/
structure StatementNode where
  span : Span
  nameSpan : Span
  name : List Char
  entries : Option (Span × List EntryNode)
  deriving DecidableEq

/-- A part of a group: a statement, or a group below. -/
inductive ItemNode where
  | statement (statement : StatementNode)
  | group (span : Span) (anyMark : Option Span) (items : List ItemNode)

mutual

/-- Equality of parts is decided part by part. -/
def ItemNode.decideEq : (a b : ItemNode) → Decidable (a = b)
  | .statement s, .statement t => decidable_of_iff (s = t) (by rw [ItemNode.statement.injEq])
  | .group span anyMark items, .group span' anyMark' items' =>
      have := decideEqAll items items'
      decidable_of_iff (span = span' ∧ anyMark = anyMark' ∧ items = items') (by rw [ItemNode.group.injEq])
  | .statement _, .group .. => isFalse ItemNode.noConfusion
  | .group .., .statement _ => isFalse ItemNode.noConfusion

def ItemNode.decideEqAll : (as bs : List ItemNode) → Decidable (as = bs)
  | [], [] => isTrue rfl
  | a :: as, b :: bs =>
      have := decideEq a b
      have := decideEqAll as bs
      decidable_of_iff (a = b ∧ as = bs) (by rw [List.cons.injEq])
  | [], _ :: _ => isFalse (List.cons_ne_nil _ _).symm
  | _ :: _, [] => isFalse (List.cons_ne_nil _ _)

end

instance : DecidableEq ItemNode :=
  ItemNode.decideEq

/-- A whole query. -/
structure QueryNode where
  span : Span
  anyMark : Option Span
  items : List ItemNode
  ending : Span
  deriving DecidableEq

end Criteria.Query
