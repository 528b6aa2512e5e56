import Criteria.Proofs.Sql.Tests

/-!
# Tests of patterns

Each platform writes matches its own way: by an operator or a call, with the case of letters in the operator, in the
operands, in the pattern or in a mode.  A negated match is written as the opposite of the plain one.
-/

namespace Criteria.Sql

/-- The test whether a column is a text, or is not. -/
def equalsTest (column : String) (m : TextMatch) (negated : Bool) : Test :=
  .compare (if negated then .unequal else .equal) (columnOperand column.toList m.ignoresCase)
    (parameterOperand (.string m.text) m.ignoresCase)

/-- The test whether a column matches a regular expression, or does not. -/
def regexTest (platform : Platform) (column : String) (m : TextMatch) (negated : Bool) : Test :=
  let pattern := Operand.parameter (.string (platform.regexValue m.text m.ignoresCase))
  match platform with
  | .postgres =>
      .fits negated (if m.ignoresCase then .tildeStar else .tilde) (.column column.toList) pattern none
  | .mysql =>
      .fits negated .regexpLike (.column column.toList) pattern (some [if m.ignoresCase then 'i' else 'c'])
  | _ => .fits negated .regexp (.column column.toList) pattern none

/-- The test whether a column matches a pattern with wildcards, or does not. -/
def likeTest (platform : Platform) (column : String) (m : TextMatch) (negated : Bool) : Test :=
  let pattern := Value.string (Target.likePattern platform m)
  match platform with
  | .postgres =>
      .fits negated (if m.ignoresCase then .ilike else .like) (.column column.toList) (.parameter pattern) none
  | .mysql =>
      .fits negated .like (columnOperand column.toList m.ignoresCase) (parameterOperand pattern m.ignoresCase) none
  | _ =>
      .fits negated .like (columnOperand column.toList m.ignoresCase) (parameterOperand pattern m.ignoresCase)
        (some ['\\'])

/-- The test whether a column matches, or does not. -/
def matchTest (platform : Platform) (column : String) (m : TextMatch) (negated : Bool) : Test :=
  match m.kind with
  | .equals => equalsTest column m negated
  | .regex => regexTest platform column m negated
  | _ => likeTest platform column m negated

/-- A negated match comes out the other way. -/
theorem Interpretation.holds_matchTest (I : Interpretation) (platform : Platform) (column : String)
    (m : TextMatch) (negated : Bool) :
    I.holds (matchTest platform column m negated) = (negated != I.holds (matchTest platform column m false)) := by
  cases negated with
  | false => exact (Bool.false_bne _).symm
  | true =>
      rw [Bool.true_bne]
      have like : I.holds (likeTest platform column m true) = !I.holds (likeTest platform column m false) := by
        cases platform <;> exact I.negated _ _ _ _
      have regex : I.holds (regexTest platform column m true) = !I.holds (regexTest platform column m false) := by
        cases platform <;> exact I.negated _ _ _ _
      unfold matchTest
      cases m.kind with
      | equals => exact I.unequal _ _
      | regex => exact regex
      | contains => exact like
      | startsWith => exact like
      | endsWith => exact like

/-! ## Written patterns -/

/-- The sign of a match with a regular expression. -/
def tildeSign (negated ignoresCase : Bool) : String :=
  (if negated then "!" else "") ++ "~" ++ if ignoresCase then "*" else ""

theorem spells_notWord (values : List Value) (word : String) (run : IsRun .word word.toList)
    (unnumbered : word.toList.head? ≠ some '$') (negated : Bool) :
    Spells values values (Platform.notWord negated ++ word).toList (notSymbols negated ++ [.word word.toList]) := by
  have spellsWord := spells_word values run unnumbered
  cases negated with
  | true =>
      have spellsNot : Spells values values "NOT".toList [.word "NOT".toList] :=
        spells_word values (by decide) (by decide)
      have text : (Platform.notWord true ++ word).toList = "NOT".toList ++ ' ' :: word.toList := by
        have not : (Platform.notWord true).toList = "NOT".toList ++ [' '] := by decide
        rw [String.toList_append, not, List.append_assoc, List.singleton_append]
      rw [text]
      exact spellsNot.append spellsWord separates_blank
  | false =>
      have text : (Platform.notWord false ++ word).toList = word.toList := by
        have empty : (Platform.notWord false).toList = [] := by decide
        rw [String.toList_append, empty, List.nil_append]
      rw [text]
      exact spellsWord

section
variable {column : String} {before after : List Value} {v : Value} {sql : String}

/-- A match without an escape character. -/
theorem denotes_unescaped (plain : IsPlain column) {placeholder operatorText : List Char}
    (spells : Spells before after placeholder [.parameter v]) (ignoresCase : Bool)
    {operator : List Symbol} {negated : Bool} {matcher : Matcher}
    (spellsOperator : Spells before before operatorText operator)
    (found : ∀ rest, infix? (operator ++ rest) = some (.fits negated matcher, rest))
    (text : sql.toList = casedText ignoresCase column.toList ++
      ' ' :: (operatorText ++ ' ' :: casedText ignoresCase placeholder)) :
    Denotes before after .single (.test sql) fun I =>
      I.holds (.fits negated matcher (columnOperand column.toList ignoresCase) (parameterOperand v ignoresCase)
        none) := by
  have right := spells.parameterOperand ignoresCase
  rw [← List.append_nil (parameterOperand v ignoresCase).symbols] at right
  apply denotes_fits plain spellsOperator found right _ text
  intro rest follows
  exact escape?_of_follows follows

/-- A match by a word between its operands. -/
theorem denotes_wordMatch (plain : IsPlain column) {placeholder : List Char}
    (spells : Spells before after placeholder [.parameter v]) (ignoresCase negated : Bool) {word : String}
    {matcher : Matcher} (spellsOperator : Spells before before (Platform.notWord negated ++ word).toList
      (notSymbols negated ++ [.word word.toList]))
    (found : wordMatcher? word.toList = some matcher) (noNot : isKeyword "NOT" word.toList = false)
    (text : sql.toList = casedText ignoresCase column.toList ++
      ' ' :: ((Platform.notWord negated ++ word).toList ++ ' ' :: casedText ignoresCase placeholder)) :
    Denotes before after .single (.test sql) fun I =>
      I.holds (.fits negated matcher (columnOperand column.toList ignoresCase) (parameterOperand v ignoresCase)
        none) := by
  apply denotes_unescaped plain spells ignoresCase spellsOperator _ text
  intro rest
  rw [List.append_assoc, List.singleton_append]
  exact infix?_word found noNot negated rest

/-- A match by a word between its operands, with the backslash as escape character. -/
theorem denotes_escapedMatch (plain : IsPlain column) {placeholder : List Char}
    (spells : Spells before after placeholder [.parameter v]) (ignoresCase negated : Bool)
    (text : sql.toList = casedText ignoresCase column.toList ++ ' ' :: ((Platform.notWord negated ++ "LIKE").toList ++
      ' ' :: (casedText ignoresCase placeholder ++ ' ' :: "ESCAPE '\\'".toList))) :
    Denotes before after .single (.test sql) fun I =>
      I.holds (.fits negated .like (columnOperand column.toList ignoresCase) (parameterOperand v ignoresCase)
        (some ['\\'])) := by
  have spellsOperator := spells_notWord before "LIKE" (by decide) (by decide) negated
  have spellsEscape : Spells after after "ESCAPE '\\'".toList [.word "ESCAPE".toList, .literal ['\\']] := by
    have spellsWord : Spells after after "ESCAPE".toList [.word "ESCAPE".toList] :=
      spells_word after (by decide) (by decide)
    have spellsBackslash : Spells after after ('\'' :: (['\\'] ++ ['\''])) [.literal ['\\']] :=
      spells_literal after (by decide)
    exact spellsWord.append spellsBackslash separates_blank
  have right := (spells.parameterOperand ignoresCase).append spellsEscape separates_blank
  apply denotes_fits plain spellsOperator _ right _ text
  · intro rest
    rw [List.append_assoc, List.singleton_append]
    exact infix?_word (by decide) (by decide) negated rest
  · intro rest _
    exact escape?_literal ['\\'] rest

end

theorem toList_likeSql_postgres (column placeholder : String) (negated ignoresCase : Bool) :
    (Platform.postgres.likeSql column placeholder negated ignoresCase).toList =
      column.toList ++ ' ' :: ((Platform.notWord negated ++ if ignoresCase then "ILIKE" else "LIKE").toList ++
        ' ' :: placeholder.toList) := by
  simp [Platform.likeSql, toString]

theorem toList_likeSql_mysql (column placeholder : String) (negated ignoresCase : Bool) :
    (Platform.mysql.likeSql column placeholder negated ignoresCase).toList =
      casedText ignoresCase column.toList ++ ' ' :: ((Platform.notWord negated ++ "LIKE").toList ++
        ' ' :: casedText ignoresCase placeholder.toList) := by
  cases ignoresCase <;> simp [Platform.likeSql, Platform.escapeClause, casedText, toString]

theorem toList_likeSql_of_escape {platform : Platform} (escapes : platform.escapeClause = some "ESCAPE '\\'")
    (column placeholder : String) (negated ignoresCase : Bool) :
    (platform.likeSql column placeholder negated ignoresCase).toList =
      casedText ignoresCase column.toList ++ ' ' :: ((Platform.notWord negated ++ "LIKE").toList ++
        ' ' :: (casedText ignoresCase placeholder.toList ++ ' ' :: "ESCAPE '\\'".toList)) := by
  cases platform with
  | postgres => cases escapes
  | _ => cases ignoresCase <;> simp [Platform.likeSql, escapes, casedText, toString]

section
variable {column : String} {before after : List Value} {placeholder : String}

theorem denotes_likeSql (plain : IsPlain column) (platform : Platform) (m : TextMatch) (negated : Bool)
    (spells : Spells before after placeholder.toList [.parameter (.string (Target.likePattern platform m))]) :
    Denotes before after .single (.test (platform.likeSql column placeholder negated m.ignoresCase)) fun I =>
      I.holds (likeTest platform column m negated) := by
  have spellsLike := spells_notWord before "LIKE" (by decide) (by decide) negated
  cases platform with
  | postgres =>
      unfold likeTest
      cases m.ignoresCase with
      | true =>
          have text := toList_likeSql_postgres column placeholder negated true
          have spellsILike := spells_notWord before "ILIKE" (by decide) (by decide) negated
          exact denotes_wordMatch plain spells false negated spellsILike (by decide) (by decide) text
      | false =>
          have text := toList_likeSql_postgres column placeholder negated false
          exact denotes_wordMatch plain spells false negated spellsLike (by decide) (by decide) text
  | mysql =>
      have text := toList_likeSql_mysql column placeholder negated m.ignoresCase
      exact denotes_wordMatch plain spells m.ignoresCase negated spellsLike (by decide) (by decide) text
  | sqlite =>
      have text := @toList_likeSql_of_escape .sqlite rfl column placeholder negated m.ignoresCase
      exact denotes_escapedMatch plain spells m.ignoresCase negated text
  | mssql =>
      have text := @toList_likeSql_of_escape .mssql rfl column placeholder negated m.ignoresCase
      exact denotes_escapedMatch plain spells m.ignoresCase negated text

theorem denotes_regexpLike (plain : IsPlain column) {v : Value} (negated : Bool) {mode : String}
    (noQuote : '\'' ∉ mode.toList) (spells : Spells before after placeholder.toList [.parameter v]) :
    Denotes before after .single
      (.test s!"{Platform.notWord negated}REGEXP_LIKE({column}, {placeholder}, '{mode}')") fun I =>
        I.holds (.fits negated .regexpLike (.column column.toList) (.parameter v) (some mode.toList)) := by
  have text : s!"{Platform.notWord negated}REGEXP_LIKE({column}, {placeholder}, '{mode}')".toList =
      (Platform.notWord negated ++ "REGEXP_LIKE").toList ++ '(' :: (column.toList ++ ',' :: ([] ++
        ' ' :: (placeholder.toList ++ ',' :: ([] ++ ' ' :: (('\'' :: (mode.toList ++ ['\''])) ++ ')' :: []))))) := by
    simp [toString]
  have spellsCall := spells_notWord before "REGEXP_LIKE" (by decide) (by decide) negated
  have spellsMode := (spells_literal after noQuote).append (spells_nil after) separates_closing
  have spellsBehind := spells.append ((spells_nil after).append spellsMode separates_blank) separates_comma
  have spellsColumn := (plain.spells before false).append
    ((spells_nil before).append spellsBehind separates_blank) separates_comma
  have spelled := spellsCall.append spellsColumn separates_opening
  rw [casedText, if_neg Bool.false_ne_true, ← text] at spelled
  apply denotes_test spelled
  intro rest _
  have read := test?_regexpLike plain.unreserved v mode.toList negated rest
  simpa [columnOperand, Operand.symbols] using read

theorem denotes_tilde (plain : IsPlain column) {v : Value} (ignoresCase negated : Bool)
    (spells : Spells before after placeholder.toList [.parameter v]) :
    Denotes before after .single (.test s!"{column} {tildeSign negated ignoresCase} {placeholder}") fun I =>
      I.holds (.fits negated (if ignoresCase then .tildeStar else .tilde) (.column column.toList) (.parameter v)
        none) := by
  have spellsSign : Spells before before (tildeSign negated ignoresCase).toList
      [.sign (tildeSign negated ignoresCase).toList] := by
    cases negated <;> cases ignoresCase <;> exact spells_sign before (by decide)
  have found : signInfix? (tildeSign negated ignoresCase).toList =
      some (.fits negated (if ignoresCase then .tildeStar else .tilde)) := by
    cases negated <;> cases ignoresCase <;> decide
  exact denotes_unescaped plain spells false spellsSign (infix?_sign found) (toList_valueSql _ _ _)

theorem denotes_regexSql (plain : IsPlain column) {platform : Platform} {m : TextMatch} {negated : Bool}
    {sql : String} (written : platform.regexSql column placeholder negated m.ignoresCase = .ok sql)
    (spells : Spells before after placeholder.toList
      [.parameter (.string (platform.regexValue m.text m.ignoresCase))]) :
    Denotes before after .single (.test sql) fun I => I.holds (regexTest platform column m negated) := by
  cases platform with
  | sqlite =>
      cases written
      have text : s!"{column} {Platform.notWord negated}REGEXP {placeholder}".toList =
          column.toList ++ ' ' :: ((Platform.notWord negated ++ "REGEXP").toList ++ ' ' :: placeholder.toList) := by
        simp [toString]
      have spellsOperator := spells_notWord before "REGEXP" (by decide) (by decide) negated
      exact denotes_wordMatch plain spells false negated spellsOperator (by decide) (by decide) text
  | postgres =>
      cases written
      exact denotes_tilde plain m.ignoresCase negated spells
  | mysql =>
      cases written
      have mode : (if m.ignoresCase then "i" else "c").toList = [if m.ignoresCase then 'i' else 'c'] := by
        cases m.ignoresCase <;> decide
      have noQuote : '\'' ∉ (if m.ignoresCase then "i" else "c").toList := by
        cases m.ignoresCase <;> decide
      have denotes := denotes_regexpLike plain negated noQuote spells
      rw [mode] at denotes
      exact denotes
  | mssql => cases written

end

namespace Target

variable {t : Target}

/-- A match is written as the test of this match. -/
theorem ensures_textMatch (plain : IsPlain t.column) (unconverted : t.converters = none) (m : TextMatch) :
    Ensures t.platform (t.textMatch m) fun before after e =>
      Denotes before after .single e fun I => I.holds (matchTest t.platform t.column m m.negated) := by
  unfold textMatch matchTest
  simp only [columnSql_of_unconverted unconverted]
  have like : Ensures t.platform (do
      let placeholder ← bindValue (.string (likePattern t.platform m))
      return .test (t.platform.likeSql t.column placeholder m.negated m.ignoresCase)) fun before after e =>
        Denotes before after .single e fun I => I.holds (likeTest t.platform t.column m m.negated) := by
    apply (ensures_bindValue t.platform _).bind
    intro placeholder before
    apply ensures_pure
    intro after spells
    exact denotes_likeSql plain t.platform m m.negated spells
  cases m.kind with
  | contains => exact like
  | startsWith => exact like
  | endsWith => exact like
  | equals =>
      apply (ensures_bindValue t.platform _).bind
      intro placeholder before
      have same : (if m.negated then Comparator.unequal else .equal).sign = if m.negated then "<>" else "=" := by
        cases m.negated <;> rfl
      unfold equalsTest
      cases m.ignoresCase with
      | true =>
          apply ensures_pure
          intro after spells
          apply denotes_compare plain spells true
          simp [same, casedText, toString]
      | false =>
          apply ensures_pure
          intro after spells
          exact denotes_valueTest plain spells same
  | regex =>
      apply (ensures_bindValue t.platform _).bind
      intro placeholder before
      cases written : t.platform.regexSql t.column placeholder m.negated m.ignoresCase with
      | error reason => exact ensures_throw _ _ _
      | ok sql =>
          apply ensures_pure
          intro after spells
          exact denotes_regexSql plain written spells

end Target

end Criteria.Sql
