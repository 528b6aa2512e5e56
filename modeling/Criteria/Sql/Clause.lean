import Criteria.Sql.Converter
import Criteria.Sql.Draft
import Criteria.Sql.Error
import Criteria.Validation

/-!
# WHERE clauses

A condition becomes a boolean expression and this becomes text.  What a group says about one field splits into
tests that let rows in, which are joined by OR, and tests that take rows away, which are joined to these by
AND.  Fields and groups below are joined as the group says, each in parentheses.
-/

namespace Criteria.Sql

/-! ## Expressions -/

/-- A boolean expression.  Parts that are joined need parentheses of their own where they are joined
otherwise. -/
inductive Expr where
  | test (sql : String)
  | all (parts : List Expr)
  | any (parts : List Expr)
  | paren (inner : Expr)

namespace Expr

mutual

/-- The text of an expression. -/
def sql : Expr → String
  | test sql => sql
  | all parts => " AND ".intercalate (sqlList parts)
  | any parts => " OR ".intercalate (sqlList parts)
  | paren inner => "(" ++ inner.sql ++ ")"

/-- The texts of several expressions. -/
def sqlList : List Expr → List String
  | [] => []
  | part :: parts => part.sql :: sqlList parts

end

/-- An expression that joins no parts has no text. -/
def isEmpty : Expr → Bool
  | all parts => parts.isEmpty
  | any parts => parts.isEmpty
  | _ => false

/-- Joins parts as a group says. -/
def join : Logical → List Expr → Expr
  | .all, parts => all parts
  | .any, parts => any parts

/-- Joins the tests that let rows in to those that take rows away. -/
def admitting (admits narrows : List Expr) : Expr :=
  match admits, narrows with
  | [], narrows => all narrows
  | admits, [] => any admits
  | [only], narrows => all (only :: narrows)
  | admits, narrows => all (paren (any admits) :: narrows)

end Expr

/-! ## Tests -/

/-- The making of SQL: values are bound on the way, and it may fail. -/
abbrev Making (α : Type) : Type :=
  StateT Draft (Except SqlError) α

/-- Binds a value and gives its placeholder. -/
def bindValue (v : Value) : Making String :=
  fun draft => .ok (draft.bind v)

/-- What is needed to write tests of one field. -/
structure Target where
  field : Field
  column : String
  converters : Option Converters
  platform : Platform

namespace Target

/-- The hints for a value, whose variant goes by a given value. -/
def hints (t : Target) (sample : Value) : Hints :=
  let hints : Hints := ⟨t.field, t.column, t.platform, none⟩
  match t.converters with
  | some cs => { hints with strategy := cs.strategyFor sample hints }
  | none => hints

/-- The column as it stands in the SQL. -/
def columnSql (t : Target) (hints : Hints) : String :=
  match t.converters with
  | some cs => cs.columnSql hints
  | none => t.column

/-- Converts and binds a value, and gives its placeholder as it stands in the SQL. -/
def bind (t : Target) (v : Value) (hints : Hints) : Making String :=
  match t.converters with
  | none => bindValue v
  | some cs =>
      match cs.convert v hints with
      | .error failure => throw (.conversion t.field.name failure)
      | .ok converted => do
          let placeholder ← bindValue converted
          return cs.placeholderSql placeholder hints

/-- The test of a column against a value. -/
def compare (t : Target) (sign : String) (v : Value) : Making Expr := do
  let hints := t.hints v
  let column := t.columnSql hints
  let placeholder ← t.bind v hints
  return .test s!"{column} {sign} {placeholder}"

/-- The sign for a lower bound of a range that is, or is not, in the range. -/
def lowerSign (excluded included : Bool) : String :=
  match excluded, included with
  | false, true => ">="
  | false, false => ">"
  | true, true => "<"
  | true, false => "<="

/-- The sign for an upper bound of a range that is, or is not, in the range. -/
def upperSign (excluded included : Bool) : String :=
  match excluded, included with
  | false, true => "<="
  | false, false => "<"
  | true, true => ">"
  | true, false => ">="

/-- The test whether a column lies in a range, or outside of it; the variant for both bounds goes by the lower
one. -/
def range (t : Target) (r : Range) (excluded : Bool) : Making Expr := do
  let hints := t.hints r.lower
  let column := t.columnSql hints
  let lower ← t.bind r.lower hints
  let upper ← t.bind r.upper hints
  let parts : List Expr :=
    [.test s!"{column} {lowerSign excluded r.includesLower} {lower}",
      .test s!"{column} {upperSign excluded r.includesUpper} {upper}"]
  return .paren (if excluded then .any parts else .all parts)

/-- The `LIKE` pattern of a match. -/
def likePattern (p : Platform) (m : TextMatch) : String :=
  let escaped := p.escapeLike m.text
  match m.kind with
  | .startsWith => escaped ++ "%"
  | .endsWith => "%" ++ escaped
  | _ => "%" ++ escaped ++ "%"

/-- The test whether a column matches a pattern.  Patterns are bound as texts, unconverted. -/
def textMatch (t : Target) (m : TextMatch) : Making Expr := do
  let column := t.columnSql (t.hints (.string m.text))
  match m.kind with
  | .equals =>
      let placeholder ← bindValue (.string m.text)
      let sign := if m.negated then "<>" else "="
      if m.ignoresCase then return .test s!"LOWER({column}) {sign} LOWER({placeholder})"
      else return .test s!"{column} {sign} {placeholder}"
  | .regex =>
      let placeholder ← bindValue (.string (t.platform.regexValue m.text m.ignoresCase))
      match t.platform.regexSql column placeholder m.negated m.ignoresCase with
      | .ok sql => return .test sql
      | .error reason => throw (.unsupportedMatch reason)
  | _ =>
      let placeholder ← bindValue (.string (likePattern t.platform m))
      return .test (t.platform.likeSql column placeholder m.negated m.ignoresCase)

/-- The tests of a bag. -/
def bag (t : Target) (bag : Bag) : Making Expr := do
  let singles ← bag.singles.mapM fun s => t.compare "=" s.value
  let ranges ← bag.ranges.mapM fun r => t.range r false
  let comparisons ← (bag.comparisons.filter fun c => !c.operator.narrows).mapM fun c =>
    t.compare c.operator.sign c.value
  let positives ← (bag.textMatches.filter fun m => !m.negated).mapM t.textMatch
  let excludedSingles ← bag.excludedSingles.mapM fun s => t.compare "<>" s.value
  let excludedRanges ← bag.excludedRanges.mapM fun r => t.range r true
  let inequalities ← (bag.comparisons.filter fun c => c.operator.narrows).mapM fun c =>
    t.compare c.operator.sign c.value
  let mismatches ← (bag.textMatches.filter fun m => m.negated).mapM t.textMatch
  return .admitting (singles ++ ranges ++ comparisons ++ positives)
    (excludedSingles ++ excludedRanges ++ inequalities ++ mismatches)

end Target

/-! ## Clauses -/

/-- The columns and converters of the fields of a schema. -/
structure Mapping where
  schema : Schema
  platform : Platform
  columns : Keyed String
  converters : Keyed Converters

/-- What is needed to write tests of the field with a name. -/
def Mapping.target (m : Mapping) (name : String) : Except SqlError Target :=
  match m.schema.field? name with
  | none => .error (.unknownField name)
  | some field =>
      match m.columns.get? name with
      | none => .error (.unmappedField name)
      | some column => .ok ⟨field, column, m.converters.get? name, m.platform⟩

/-- The parts of a group that come from its bags; empty bags are left out. -/
def Mapping.bags (m : Mapping) : List (String × Bag) → Making (List Expr)
  | [] => pure []
  | (name, bag) :: rest =>
      if bag.isEmpty then m.bags rest
      else do
        let target ← m.target name
        let part ← target.bag bag
        return .paren part :: (← m.bags rest)

/-- The parts of a group that come from the groups below; those without text are left out. -/
def belowParts : List (Making Expr) → Making (List Expr)
  | [] => pure []
  | group :: groups => do
      let part ← group
      let parts ← belowParts groups
      return if part.isEmpty then parts else .paren part :: parts

/-- The expression of a group. -/
def Mapping.group (m : Mapping) : Group → Making Expr :=
  Group.fold fun logical fields below => do
    let bags ← m.bags fields.entries
    let groups ← belowParts below
    return .join logical (bags ++ groups)

/-- A WHERE clause: its text, and the values bound to its placeholders. -/
structure WhereClause where
  sql : String
  parameters : List Value
  deriving DecidableEq

/-- Decides whether a clause has no text. -/
def WhereClause.isEmpty (w : WhereClause) : Bool :=
  w.sql.isEmpty

/-- The WHERE clause of a condition that keeps the limits. -/
def generate (limits : Limits) (m : Mapping) (c : Condition) : Except SqlError WhereClause :=
  match c.problems limits with
  | [] =>
      match m.group c.root (.start m.platform) with
      | .ok (expr, draft) =>
          let draft := draft.push expr.sql
          .ok ⟨draft.sql, draft.parameters⟩
      | .error e => .error e
  | problems => .error (.invalid problems)

end Criteria.Sql
