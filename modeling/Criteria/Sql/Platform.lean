import Criteria.Condition.Entry

/-!
# Database platforms

The few places where SQL differs from one database to the next: placeholders, quoted identifiers, wildcards
of `LIKE` and regular expressions.
-/

namespace Criteria.Sql

/-- The databases.  These are the ones that come with the library, which leaves room for others with placeholders,
quotes and wildcards of their own; what is proved here of databases is about these. -/
inductive Platform where
  | sqlite
  | postgres
  | mysql
  | mssql
  deriving DecidableEq

/-- A kind of match that a database does not know. -/
structure UnsupportedMatch where
  platform : Platform
  kind : MatchKind
  deriving DecidableEq

namespace Platform

/-- The name of a database. -/
def name : Platform → String
  | sqlite => "sqlite"
  | postgres => "postgres"
  | mysql => "mysql"
  | mssql => "mssql"

/-- The database with a name. -/
def ofName? (name : String) : Option Platform :=
  [sqlite, postgres, mysql, mssql].find? fun p => p.name == name

/-- The placeholder of the parameter with a number, counted from one. -/
def placeholder (p : Platform) (index : Nat) : String :=
  match p with
  | postgres => s!"${index}"
  | _ => "?"

/-! ## Identifiers -/

/-- The delimiters around a quoted identifier. -/
def delimiters : Platform → Char × Char
  | sqlite => ('"', '"')
  | postgres => ('"', '"')
  | mysql => ('\x60', '\x60')
  | mssql => ('[', ']')

/-- Writes every closing delimiter in an identifier twice. -/
def doubled (closing : Char) (identifier : List Char) : List Char :=
  identifier.flatMap fun c => if c = closing then [c, c] else [c]

/-- An identifier between delimiters. -/
def quoteIdentifier (p : Platform) (identifier : String) : String :=
  let (opening, closing) := p.delimiters
  String.ofList (opening :: (doubled closing identifier.toList ++ [closing]))

/-! ## LIKE -/

/-- The characters with a meaning in a `LIKE` pattern, apart from the escape character. -/
def wildcards : Platform → String
  | mssql => "%_[]"
  | _ => "%_"

/-- The clause that makes the backslash the escape character where it is not already. -/
def escapeClause : Platform → Option String
  | sqlite => some "ESCAPE '\\'"
  | mssql => some "ESCAPE '\\'"
  | _ => none

/-- Puts a backslash in front of a character that has a meaning in a `LIKE` pattern. -/
def escapeLikeChar (p : Platform) (c : Char) : List Char :=
  if c = '\\' ∨ c ∈ p.wildcards.toList then ['\\', c] else [c]

/-- A text as a `LIKE` pattern that matches just this text. -/
def escapeLike (p : Platform) (text : String) : String :=
  String.ofList (text.toList.flatMap p.escapeLikeChar)

/-- The word in front of a negated test. -/
def notWord (negated : Bool) : String :=
  if negated then "NOT " else ""

/-- The test of a column against a `LIKE` pattern. -/
def likeSql (p : Platform) (column placeholder : String) (negated ignoresCase : Bool) : String :=
  match p with
  | postgres =>
      let operator := if ignoresCase then "ILIKE" else "LIKE"
      s!"{column} {notWord negated}{operator} {placeholder}"
  | _ =>
      let escape := match p.escapeClause with
        | some clause => " " ++ clause
        | none => ""
      if ignoresCase then s!"LOWER({column}) {notWord negated}LIKE LOWER({placeholder}){escape}"
      else s!"{column} {notWord negated}LIKE {placeholder}{escape}"

/-! ## Regular expressions -/

/-- The test of a column against a regular expression. -/
def regexSql (p : Platform) (column placeholder : String) (negated ignoresCase : Bool) :
    Except UnsupportedMatch String :=
  match p with
  | sqlite => .ok s!"{column} {notWord negated}REGEXP {placeholder}"
  | postgres =>
      let operator := (if negated then "!" else "") ++ "~" ++ if ignoresCase then "*" else ""
      .ok s!"{column} {operator} {placeholder}"
  | mysql =>
      let mode := if ignoresCase then "i" else "c"
      .ok s!"{notWord negated}REGEXP_LIKE({column}, {placeholder}, '{mode}')"
  | mssql => .error ⟨mssql, .regex⟩

/-- The parameter for a regular expression; where the test has no mode for the case of letters, the expression
carries it. -/
def regexValue (p : Platform) (pattern : String) (ignoresCase : Bool) : String :=
  match p with
  | sqlite => if ignoresCase then "(?i)" ++ pattern else pattern
  | _ => pattern

end Platform

end Criteria.Sql
