import Criteria.Proofs.Sql.Reading
import Criteria.Proofs.Meaning

/-!
# Symbols and their formulas

Which symbols read as which test, and how the value of a formula comes from those of its parts, whether they are
joined or stand in parentheses.
-/

namespace Criteria.Sql

/-- What stands behind a formula of a level: nothing, a closing parenthesis, or a keyword that joins it to others
from outside. -/
inductive Follows : Level → List Symbol → Prop where
  | nothing (level : Level) : Follows level []
  | closing (level : Level) (rest : List Symbol) : Follows level (.closing :: rest)
  | keyword (logical : Logical) (rest : List Symbol) : Follows .single (.word logical.keyword.toList :: rest)
  | or (rest : List Symbol) : Follows (.joined .all) (.word Logical.any.keyword.toList :: rest)

theorem Follows.below {logical : Logical} {rest : List Symbol} (h : Follows (.joined logical) rest) :
    Follows (.below logical) rest := by
  cases h with
  | nothing => exact .nothing _
  | closing => exact .closing _ _
  | or rest => exact .keyword .any rest

theorem follows_keyword (logical : Logical) (rest : List Symbol) :
    Follows (.below logical) (.word logical.keyword.toList :: rest) := by
  cases logical with
  | all => exact .keyword .all rest
  | any => exact .or rest

/-- A level of parts that are joined by a keyword does not end in front of this keyword. -/
theorem Follows.not_keyword {logical : Logical} {text : List Char} {rest : List Symbol}
    (h : Follows (.joined logical) (.word text :: rest)) : isKeyword logical.keyword text = false := by
  cases h with
  | or => decide

theorem isKeyword_keyword (logical : Logical) : isKeyword logical.keyword logical.keyword.toList = true := by
  cases logical <;> decide

theorem Follows.head_ne_opening {level : Level} {rest : List Symbol} (h : Follows level rest) :
    rest.head? ≠ some .opening := by
  cases h <;> simp

/-! ## Joined parts -/

/-- A number of steps that suffices for reading symbols at a level. -/
def Level.steps (level : Level) (symbols : List Symbol) : Nat :=
  match level with
  | .single => 3 * symbols.length
  | .joined .all => 3 * symbols.length + 1
  | .joined .any => 3 * symbols.length + 2

/-- Symbols read as a formula with a given value, up to what stands behind it. -/
def Reads (level : Level) (symbols : List Symbol) (value : Interpretation → Bool) : Prop :=
  ∀ fuel rest, level.steps symbols ≤ fuel → Follows level rest →
    ∃ f, formulaFrom? fuel level (symbols ++ rest) = some (f, rest) ∧ ∀ I, f.holds I = value I

theorem Level.steps_below (logical : Logical) (symbols : List Symbol) :
    (Level.below logical).steps symbols + 1 = (Level.joined logical).steps symbols := by
  cases logical <;> rfl

theorem Level.steps_mono (level : Level) {symbols others : List Symbol} (h : symbols.length ≤ others.length) :
    level.steps symbols ≤ level.steps others := by
  rcases level with ⟨_ | _⟩ | _ <;> simp only [steps] <;> omega

theorem Level.exists_succ {logical : Logical} {symbols : List Symbol} {fuel : Nat}
    (enough : (Level.joined logical).steps symbols ≤ fuel) :
    ∃ fewer, fuel = fewer + 1 ∧ (Level.below logical).steps symbols ≤ fewer := by
  rw [← steps_below] at enough
  refine ⟨fuel - 1, ?_, ?_⟩ <;> omega

/-- One part is a list of parts. -/
theorem Reads.lift {logical : Logical} {symbols : List Symbol} {value : Interpretation → Bool}
    (h : Reads (.below logical) symbols value) : Reads (.joined logical) symbols value := by
  intro fuel rest enough follows
  obtain ⟨fewer, rfl, enoughBelow⟩ := Level.exists_succ enough
  obtain ⟨f, read, holds⟩ := h fewer rest enoughBelow follows.below
  refine ⟨f, ?_, holds⟩
  simp only [formulaFrom?, read, Option.bind_eq_bind, Option.bind_some]
  cases rest with
  | nil => rfl
  | cons symbol rest =>
      cases symbol with
      | word text =>
          have ends := follows.not_keyword
          simp only [ends, Bool.false_eq_true, if_false]
      | _ => rfl

theorem Reads.toAny {symbols : List Symbol} {value : Interpretation → Bool}
    (h : Reads (.joined .all) symbols value) : Reads (.joined .any) symbols value :=
  @Reads.lift .any symbols value h

theorem Reads.below {symbols : List Symbol} {value : Interpretation → Bool} (h : Reads .single symbols value)
    (logical : Logical) : Reads (.below logical) symbols value := by
  cases logical with
  | all => exact h
  | any => exact @Reads.lift .all symbols value h

theorem Reads.joined {symbols : List Symbol} {value : Interpretation → Bool} (h : Reads .single symbols value)
    (logical : Logical) : Reads (.joined logical) symbols value :=
  (h.below logical).lift

/-- A part in front of others, with the keyword between them. -/
theorem Reads.join {logical : Logical} {part others : List Symbol} {value valueOfOthers : Interpretation → Bool}
    (first : Reads (.below logical) part value) (second : Reads (.joined logical) others valueOfOthers) :
    Reads (.joined logical) (part ++ .word logical.keyword.toList :: others)
      fun I => logical.join [value I, valueOfOthers I] := by
  intro fuel rest enough follows
  have partShorter : part.length ≤ (part ++ .word logical.keyword.toList :: others).length := by
    rw [List.length_append]
    omega
  have othersShorter : others.length + 1 ≤ (part ++ .word logical.keyword.toList :: others).length := by
    rw [List.length_append, List.length_cons]
    omega
  obtain ⟨fewer, rfl, enoughBelow⟩ := Level.exists_succ enough
  have enoughFirst := Nat.le_trans (Level.steps_mono _ partShorter) enoughBelow
  have enoughSecond : (Level.joined logical).steps others ≤ fewer := by
    cases logical <;> simp only [Level.steps] at enough ⊢ <;> omega
  obtain ⟨f, read, holds⟩ := first fewer (.word logical.keyword.toList :: (others ++ rest)) enoughFirst
    (follows_keyword logical _)
  obtain ⟨g, readOthers, holdsOthers⟩ := second fewer rest enoughSecond follows
  refine ⟨.join logical f g, ?_, ?_⟩
  · rw [List.append_assoc, List.cons_append]
    simp only [formulaFrom?, read, Option.bind_eq_bind, Option.bind_some, isKeyword_keyword, if_true, readOthers]
  · intro I
    cases logical with
    | all => simp only [Formula.holds, holds, holdsOthers, Logical.join, List.all_cons, List.all_nil, id_eq,
        Bool.and_true]
    | any => simp only [Formula.holds, holds, holdsOthers, Logical.join, List.any_cons, List.any_nil, id_eq,
        Bool.or_false]

/-- A formula in parentheses is one part, however its own parts are joined. -/
theorem Reads.parenthesized {symbols : List Symbol} {value : Interpretation → Bool}
    (h : Reads (.joined .any) symbols value) : Reads .single (.opening :: (symbols ++ [.closing])) value := by
  intro fuel rest enough follows
  simp only [Level.steps, List.length_cons, List.length_append, List.length_nil] at enough
  obtain ⟨fewer, rfl⟩ : ∃ fewer, fuel = fewer + 1 := ⟨fuel - 1, by omega⟩
  have enoughInside : (Level.joined .any).steps symbols ≤ fewer := by
    simp only [Level.steps]
    omega
  obtain ⟨f, read, holds⟩ := h fewer (.closing :: rest) enoughInside (.closing _ _)
  refine ⟨f, ?_, holds⟩
  rw [List.cons_append, List.append_assoc, List.singleton_append]
  simp only [formulaFrom?, read, Option.bind_eq_bind, Option.bind_some]

/-- A test is one part. -/
theorem reads_test {symbols : List Symbol} {t : Test}
    (h : ∀ rest, Follows .single rest → test? (symbols ++ rest) = some (t, rest)) :
    Reads .single symbols fun I => I.holds t := by
  intro fuel rest enough follows
  have read := h rest follows
  refine ⟨.test t, ?_, fun I => rfl⟩
  cases symbols with
  | nil => cases h [] (.nothing _)
  | cons symbol symbols =>
      obtain ⟨fewer, rfl⟩ : ∃ fewer, fuel = fewer + 1 := by
        simp only [Level.steps, List.length_cons] at enough
        exact ⟨fuel - 1, by omega⟩
      rw [List.cons_append] at read ⊢
      cases symbol with
      | opening => cases read
      | _ => simp only [formulaFrom?, read, Option.map_some]

/-- The formula of symbols that are read to their end. -/
theorem formula?_eq_some {sql : String} {parameters : List Value} {symbols : List Symbol}
    {value : Interpretation → Bool} (spelled : resolve parameters 0 (lex sql.toList) = symbols)
    (h : Reads (.joined .any) symbols value) :
    ∃ f, formula? sql parameters = some f ∧ ∀ I, f.holds I = value I := by
  obtain ⟨f, read, holds⟩ := h (3 * symbols.length + 2) [] (Nat.le_refl _) (.nothing _)
  rw [List.append_nil] at read
  refine ⟨f, ?_, holds⟩
  simp only [formula?, spelled, read]

/-! ## Tests -/

/-- The symbols of an operand. -/
def Operand.symbols : Operand → List Symbol
  | column name => [.word name]
  | parameter v => [.parameter v]
  | lower inner => .word "LOWER".toList :: .opening :: (inner.symbols ++ [.closing])

/-- The columns in an operand are no keywords. -/
def Operand.Unreserved : Operand → Prop
  | column name => isReserved name = false
  | parameter _ => True
  | lower inner => inner.Unreserved

theorem operand?_symbols {operand : Operand} (unreserved : operand.Unreserved) {rest : List Symbol}
    (noCall : rest.head? ≠ some .opening) : operand? (operand.symbols ++ rest) = some (operand, rest) := by
  induction operand generalizing rest with
  | column name =>
      rw [Operand.Unreserved] at unreserved
      rw [Operand.symbols, List.singleton_append]
      cases rest with
      | nil => simp only [operand?, unreserved, Bool.false_eq_true, if_false]
      | cons symbol rest =>
          cases symbol with
          | opening => exact absurd rfl noCall
          | _ => simp only [operand?, unreserved, Bool.false_eq_true, if_false]
  | parameter v => rfl
  | lower inner ih =>
      have read := @ih unreserved (.closing :: rest) (by simp)
      have keyword : isKeyword "LOWER" "LOWER".toList = true := by decide
      rw [Operand.symbols, List.cons_append, List.cons_append, List.append_assoc, List.singleton_append]
      simp only [operand?, keyword, if_true, read]

/-- A column, in lower case if case is ignored. -/
def columnOperand (column : List Char) (ignoresCase : Bool) : Operand :=
  if ignoresCase then .lower (.column column) else .column column

/-- A parameter, in lower case if case is ignored. -/
def parameterOperand (v : Value) (ignoresCase : Bool) : Operand :=
  if ignoresCase then .lower (.parameter v) else .parameter v

theorem columnOperand_unreserved {column : List Char} (unreserved : isReserved column = false)
    (ignoresCase : Bool) : (columnOperand column ignoresCase).Unreserved := by
  cases ignoresCase <;> exact unreserved

theorem parameterOperand_unreserved (v : Value) (ignoresCase : Bool) :
    (parameterOperand v ignoresCase).Unreserved := by
  cases ignoresCase <;> trivial

theorem not_keyword_of_unreserved {column : List Char} (unreserved : isReserved column = false) :
    isKeyword "NOT" column = false := by
  simp only [isReserved, List.any_cons, Bool.or_eq_false_iff] at unreserved
  exact unreserved.2.2.1

theorem test?_columnOperand {column : List Char} (unreserved : isReserved column = false) (ignoresCase : Bool)
    {rest : List Symbol} (noCall : rest.head? ≠ some .opening) :
    test? ((columnOperand column ignoresCase).symbols ++ rest) =
      infixTest? ((columnOperand column ignoresCase).symbols ++ rest) := by
  cases ignoresCase with
  | true => rfl
  | false =>
      have noNot := not_keyword_of_unreserved unreserved
      have noCallTest : callTest? false (.word column :: rest) = none := by
        cases rest with
        | nil => rfl
        | cons symbol rest =>
            cases symbol with
            | opening => exact absurd rfl noCall
            | _ => rfl
      simp only [columnOperand, Bool.false_eq_true, if_false, Operand.symbols, List.singleton_append, test?, noNot,
        noCallTest, Option.none_or]

/-- A column compared with a parameter. -/
theorem test?_compare {sign : List Char} {comparator : Comparator}
    (found : signInfix? sign = some (.compare comparator)) {column : List Char}
    (unreserved : isReserved column = false) (v : Value) (ignoresCase : Bool) {rest : List Symbol}
    (follows : Follows .single rest) :
    test? ((columnOperand column ignoresCase).symbols ++
        .sign sign :: ((parameterOperand v ignoresCase).symbols ++ rest)) =
      some (.compare comparator (columnOperand column ignoresCase) (parameterOperand v ignoresCase), rest) := by
  have left := columnOperand_unreserved unreserved ignoresCase
  have right := parameterOperand_unreserved v ignoresCase
  have noCall : (Symbol.sign sign :: ((parameterOperand v ignoresCase).symbols ++ rest)).head? ≠ some .opening := by
    simp
  rw [test?_columnOperand unreserved ignoresCase noCall]
  simp only [infixTest?, operand?_symbols left noCall, infix?, found,
    operand?_symbols right follows.head_ne_opening, Option.map_some, Option.bind_eq_bind, Option.bind_some]

theorem head_ne_opening_of_escape {escape rest : List Symbol} {option : Option (List Char)}
    (found : escape? (escape ++ rest) = (option, rest)) (noCall : rest.head? ≠ some .opening) :
    (escape ++ rest).head? ≠ some .opening := by
  intro opening
  rcases h : escape ++ rest with _ | ⟨symbol, symbols⟩
  · rw [h] at opening
    cases opening
  · rw [h, List.head?_cons, Option.some.injEq] at opening
    rw [h, opening] at found
    apply noCall
    rw [← (Prod.mk.inj found).2, List.head?_cons]

/-- A column matched against a parameter. -/
theorem test?_fits {operator : List Symbol} {negated : Bool} {matcher : Matcher}
    (found : ∀ rest, infix? (operator ++ rest) = some (.fits negated matcher, rest))
    {column : List Char} (unreserved : isReserved column = false) (v : Value) (ignoresCase : Bool)
    {escape : List Symbol} {option : Option (List Char)} {rest : List Symbol}
    (escapeFound : escape? (escape ++ rest) = (option, rest)) (follows : Follows .single rest) :
    test? ((columnOperand column ignoresCase).symbols ++
        (operator ++ ((parameterOperand v ignoresCase).symbols ++ (escape ++ rest)))) =
      some (.fits negated matcher (columnOperand column ignoresCase) (parameterOperand v ignoresCase) option,
        rest) := by
  have left := columnOperand_unreserved unreserved ignoresCase
  have right := parameterOperand_unreserved v ignoresCase
  have noCall := head_ne_opening_of_escape escapeFound follows.head_ne_opening
  have noCallBefore (others : List Symbol) : (operator ++ others).head? ≠ some .opening := by
    intro opening
    have read := found others
    rcases h : operator ++ others with _ | ⟨symbol, symbols⟩
    · rw [h] at opening
      cases opening
    · rw [h, List.head?_cons, Option.some.injEq] at opening
      rw [h, opening] at read
      cases read
  rw [test?_columnOperand unreserved ignoresCase (noCallBefore _)]
  simp only [infixTest?, operand?_symbols left (noCallBefore _), found, operand?_symbols right noCall, escapeFound,
    Option.bind_eq_bind, Option.bind_some]

/-- The word in front of a negated test. -/
def notSymbols (negated : Bool) : List Symbol :=
  if negated then [.word "NOT".toList] else []

theorem infix?_word {text : List Char} {matcher : Matcher} (found : wordMatcher? text = some matcher)
    (noNot : isKeyword "NOT" text = false) (negated : Bool) (rest : List Symbol) :
    infix? (notSymbols negated ++ .word text :: rest) = some (.fits negated matcher, rest) := by
  cases negated with
  | true =>
      have keyword : isKeyword "NOT" "NOT".toList = true := by decide
      simp only [notSymbols, if_true, List.singleton_append, infix?, keyword, found, Option.map_some]
  | false =>
      rw [notSymbols, if_neg Bool.false_ne_true, List.nil_append]
      cases rest with
      | nil => simp only [infix?, found, Option.map_some]
      | cons symbol rest =>
          cases symbol <;>
            simp only [infix?, noNot, found, Option.map_some, Bool.false_eq_true, if_false]

theorem infix?_sign {text : List Char} {operator : Infix} (found : signInfix? text = some operator)
    (rest : List Symbol) : infix? (.sign text :: rest) = some (operator, rest) := by
  rw [infix?, found, Option.map_some]

theorem escape?_literal (escape : List Char) (rest : List Symbol) :
    escape? (.word "ESCAPE".toList :: .literal escape :: rest) = (some escape, rest) := by
  have keyword : isKeyword "ESCAPE" "ESCAPE".toList = true := by decide
  rw [escape?, keyword, if_pos rfl]

theorem escape?_of_follows {rest : List Symbol} (h : Follows .single rest) : escape? rest = (none, rest) := by
  cases h with
  | nothing => rfl
  | closing => rfl
  | keyword logical rest =>
      have noEscape : isKeyword "ESCAPE" logical.keyword.toList = false := by
        cases logical <;> decide
      cases rest with
      | nil => rfl
      | cons symbol rest =>
          cases symbol <;> simp only [escape?, noEscape, Bool.false_eq_true, if_false]

/-- A call that matches a column against a parameter. -/
theorem test?_regexpLike {column : List Char} (unreserved : isReserved column = false) (v : Value)
    (mode : List Char) (negated : Bool) (rest : List Symbol) :
    test? (notSymbols negated ++ .word "REGEXP_LIKE".toList :: .opening :: .word column :: .comma ::
        .parameter v :: .comma :: .literal mode :: .closing :: rest) =
      some (.fits negated .regexpLike (.column column) (.parameter v) (some mode), rest) := by
  have keyword : isKeyword "REGEXP_LIKE" "REGEXP_LIKE".toList = true := by decide
  have call : callTest? negated (.word "REGEXP_LIKE".toList :: .opening :: .word column :: .comma ::
      .parameter v :: .comma :: .literal mode :: .closing :: rest) =
        some (.fits negated .regexpLike (.column column) (.parameter v) (some mode), rest) := by
    simp only [callTest?, keyword, operand?, unreserved, Bool.false_eq_true, if_true, if_false,
      Option.bind_eq_bind, Option.bind_some]
  cases negated with
  | true =>
      have keywordNot : isKeyword "NOT" "NOT".toList = true := by decide
      simp only [notSymbols, if_true, List.singleton_append, test?, keywordNot, call]
  | false =>
      have noNot : isKeyword "NOT" "REGEXP_LIKE".toList = false := by decide
      simp only [notSymbols, Bool.false_eq_true, if_false, List.nil_append, test?, noNot, call, Option.some_or]

end Criteria.Sql
