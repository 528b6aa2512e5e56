import Criteria.Proofs.Sql.Making

/-!
# Tests of one field

The tests that are written for the entries about a field, and the values they denote: those of the entries, however
the platform writes them, and their opposites where an entry takes rows away.
-/

namespace Criteria.Sql

/-- A column that needs no quotes: a word that is neither a keyword nor a placeholder. -/
structure IsPlain (column : String) : Prop where
  word : IsRun .word column.toList
  unnumbered : column.toList.head? ≠ some '$'
  unreserved : isReserved column.toList = false

/-! ## Signs -/

/-- The sign of a comparison. -/
def Comparator.sign : Comparator → String
  | equal => "="
  | unequal => "<>"
  | less => "<"
  | lessOrEqual => "<="
  | greater => ">"
  | greaterOrEqual => ">="

/-- The comparison an operator stands for. -/
def Comparator.ofOperator : Operator → Comparator
  | .greater => greater
  | .lower => less
  | .greaterOrEqual => greaterOrEqual
  | .lowerOrEqual => lessOrEqual
  | .notEqual => unequal

/-- The comparison with a lower bound. -/
def Comparator.ofLower (included : Bool) : Comparator :=
  if included then greaterOrEqual else greater

/-- The comparison with an upper bound. -/
def Comparator.ofUpper (included : Bool) : Comparator :=
  if included then lessOrEqual else less

/-- The comparison that comes out the other way. -/
def Comparator.opposite : Comparator → Comparator
  | equal => unequal
  | unequal => equal
  | less => greaterOrEqual
  | lessOrEqual => greater
  | greater => lessOrEqual
  | greaterOrEqual => less

theorem signInfix?_sign (comparator : Comparator) :
    signInfix? comparator.sign.toList = some (.compare comparator) := by
  cases comparator <;> decide

theorem spells_comparator (values : List Value) (comparator : Comparator) :
    Spells values values comparator.sign.toList [.sign comparator.sign.toList] := by
  cases comparator <;> exact spells_sign values (by decide)

theorem Comparator.sign_ofOperator (operator : Operator) : (ofOperator operator).sign = operator.sign := by
  cases operator <;> rfl

theorem Comparator.sign_ofLower (excluded included : Bool) :
    (if excluded then (ofLower included).opposite else ofLower included).sign =
      Target.lowerSign excluded included := by
  cases excluded <;> cases included <;> rfl

theorem Comparator.sign_ofUpper (excluded included : Bool) :
    (if excluded then (ofUpper included).opposite else ofUpper included).sign =
      Target.upperSign excluded included := by
  cases excluded <;> cases included <;> rfl

/-- A comparison that comes out the other way does so in every interpretation. -/
theorem Interpretation.holds_opposite (I : Interpretation) (comparator : Comparator) (left right : Operand) :
    I.holds (.compare comparator.opposite left right) = !I.holds (.compare comparator left right) := by
  cases comparator with
  | equal => exact I.unequal left right
  | unequal => rw [Comparator.opposite, I.unequal, Bool.not_not]
  | less => rw [Comparator.opposite, I.less, Bool.not_not]
  | lessOrEqual => exact I.greater left right
  | greater => rw [Comparator.opposite, I.greater, Bool.not_not]
  | greaterOrEqual => exact I.less left right

/-! ## Written tests -/

/-- A text, put in lower case if case is ignored. -/
def casedText (ignoresCase : Bool) (text : List Char) : List Char :=
  if ignoresCase then "LOWER".toList ++ '(' :: (text ++ [')']) else text

theorem IsPlain.spells {column : String} (plain : IsPlain column) (values : List Value) (ignoresCase : Bool) :
    Spells values values (casedText ignoresCase column.toList)
      (columnOperand column.toList ignoresCase).symbols := by
  have word := spells_word values plain.word plain.unnumbered
  cases ignoresCase with
  | true => exact word.lower
  | false => exact word

theorem Spells.parameterOperand {before after : List Value} {placeholder : List Char} {v : Value}
    (h : Spells before after placeholder [.parameter v]) (ignoresCase : Bool) :
    Spells before after (casedText ignoresCase placeholder) (parameterOperand v ignoresCase).symbols := by
  cases ignoresCase with
  | true => exact h.lower
  | false => exact h

section
variable {column : String} {before after : List Value} {v : Value} {sql : String}

/-- A comparison of a column with a value denotes what it compares. -/
theorem denotes_compare (plain : IsPlain column) {placeholder : List Char}
    (spells : Spells before after placeholder [.parameter v]) (ignoresCase : Bool) (comparator : Comparator)
    (text : sql.toList = casedText ignoresCase column.toList ++
      ' ' :: (comparator.sign.toList ++ ' ' :: casedText ignoresCase placeholder)) :
    Denotes before after .single (.test sql) fun I =>
      I.holds (.compare comparator (columnOperand column.toList ignoresCase) (parameterOperand v ignoresCase)) := by
  have right := spells.parameterOperand ignoresCase
  have spelled := (plain.spells before ignoresCase).append
    ((spells_comparator before comparator).append right separates_blank) separates_blank
  rw [← text] at spelled
  apply denotes_test spelled
  intro rest follows
  have read := test?_compare (signInfix?_sign comparator) plain.unreserved v ignoresCase follows
  simpa only [List.nil_append, List.append_assoc, List.singleton_append, List.cons_append] using read

/-- A match of a column against a value denotes what it matches. -/
theorem denotes_fits (plain : IsPlain column) {operatorText rightText : List Char}
    {operator escape : List Symbol} {option : Option (List Char)} {negated ignoresCase : Bool} {matcher : Matcher}
    (spellsOperator : Spells before before operatorText operator)
    (found : ∀ rest, infix? (operator ++ rest) = some (.fits negated matcher, rest))
    (spellsRight : Spells before after rightText ((parameterOperand v ignoresCase).symbols ++ escape))
    (escapeFound : ∀ rest, Follows .single rest → escape? (escape ++ rest) = (option, rest))
    (text : sql.toList = casedText ignoresCase column.toList ++ ' ' :: (operatorText ++ ' ' :: rightText)) :
    Denotes before after .single (.test sql) fun I =>
      I.holds (.fits negated matcher (columnOperand column.toList ignoresCase) (parameterOperand v ignoresCase)
        option) := by
  have spelled := (plain.spells before ignoresCase).append
    (spellsOperator.append spellsRight separates_blank) separates_blank
  rw [← text] at spelled
  apply denotes_test spelled
  intro rest follows
  have read := test?_fits found plain.unreserved v ignoresCase (escapeFound rest follows) follows
  simpa only [List.nil_append, List.append_assoc] using read

end

/-! ## Comparisons and ranges -/

/-- The test whether a column compares to a value. -/
def valueTest (column : String) (comparator : Comparator) (v : Value) : Test :=
  .compare comparator (.column column.toList) (.parameter v)

/-- Whether a column lies in a range. -/
def rangeHolds (I : Interpretation) (column : String) (r : Range) : Bool :=
  I.holds (valueTest column (.ofLower r.includesLower) r.lower) &&
    I.holds (valueTest column (.ofUpper r.includesUpper) r.upper)

theorem toList_valueSql (column sign placeholder : String) :
    s!"{column} {sign} {placeholder}".toList =
      column.toList ++ ' ' :: (sign.toList ++ ' ' :: placeholder.toList) := by
  have blank : " ".toList = [' '] := by decide
  simp only [toString, String.toList_append, blank, List.append_assoc, List.cons_append, List.nil_append]

theorem denotes_valueTest {column : String} (plain : IsPlain column) {before after : List Value}
    {placeholder : String} {v : Value} (spells : Spells before after placeholder.toList [.parameter v])
    {sign : String} {comparator : Comparator} (same : comparator.sign = sign) :
    Denotes before after .single (.test s!"{column} {sign} {placeholder}") fun I =>
      I.holds (valueTest column comparator v) := by
  apply denotes_compare plain spells false comparator
  rw [toList_valueSql, same]
  rfl

namespace Target

variable {t : Target}

theorem columnSql_of_unconverted (unconverted : t.converters = none) (hints : Hints) :
    t.columnSql hints = t.column := by
  rw [columnSql, unconverted]

theorem bind_of_unconverted (unconverted : t.converters = none) (v : Value) (hints : Hints) :
    t.bind v hints = bindValue v := by
  rw [bind, unconverted]

theorem ensures_compare (plain : IsPlain t.column) (unconverted : t.converters = none) {sign : String}
    {comparator : Comparator} (same : comparator.sign = sign) (v : Value) :
    Ensures t.platform (t.compare sign v) fun before after e =>
      Denotes before after .single e fun I => I.holds (valueTest t.column comparator v) := by
  simp only [compare, columnSql_of_unconverted unconverted, bind_of_unconverted unconverted]
  apply (ensures_bindValue t.platform v).bind
  intro placeholder before
  apply ensures_pure
  intro after spells
  exact denotes_valueTest plain spells same

theorem ensures_range (plain : IsPlain t.column) (unconverted : t.converters = none) (r : Range)
    (excluded : Bool) :
    Ensures t.platform (t.range r excluded) fun before after e =>
      Denotes before after .single e fun I => excluded != rangeHolds I t.column r := by
  simp only [range, columnSql_of_unconverted unconverted, bind_of_unconverted unconverted]
  apply (ensures_bindValue t.platform r.lower).bind
  intro lower before
  apply (ensures_bindValue t.platform r.upper).bind
  intro upper middle
  apply ensures_pure
  intro after spellsUpper spellsLower
  have first := denotes_valueTest plain spellsLower (Comparator.sign_ofLower excluded r.includesLower)
  have second := denotes_valueTest plain spellsUpper (Comparator.sign_ofUpper excluded r.includesUpper)
  have both := Denoted.cons first (.cons second (.nil after))
  cases excluded with
  | true =>
      have joined := (both.join (List.cons_ne_nil _ _) .any).paren
      apply joined.congr
      intro I
      simp [Logical.join, rangeHolds, valueTest, I.holds_opposite]
  | false =>
      have joined := (both.join (List.cons_ne_nil _ _) .all).paren
      apply joined.congr
      intro I
      simp [Logical.join, rangeHolds]

end Target

end Criteria.Sql
