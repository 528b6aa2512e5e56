import Criteria.Sql.Platform
import Criteria.Proofs.Sql.Lexing
import Criteria.Proofs.Sql.Parsing

/-!
# Texts and their symbols

The symbols of a text depend on the values that are bound before it and in it: each placeholder stands for the value
that is bound when it is written.  Values that are bound later change nothing.
-/

namespace Criteria.Sql

/-- A text, in front of which some values are bound and behind which all of these and maybe more, has given
symbols. -/
structure Spells (before after : List Value) (text : List Char) (symbols : List Symbol) : Prop where
  grows : before <+: after
  reads : ∃ tokens, Lexes text tokens ∧ ∀ parameters, after <+: parameters → ∀ more,
    resolve parameters before.length (tokens ++ more) = symbols ++ resolve parameters after.length more

/-- A separator that stands for itself, or for nothing. -/
structure Separates (c : Char) (symbols : List Symbol) : Prop where
  separator : IsSeparator c
  reads : ∀ parameters seen more,
    resolve parameters seen (separatorTokens c ++ more) = symbols ++ resolve parameters seen more

theorem separates_blank : Separates ' ' [] :=
  ⟨by unfold IsSeparator; decide, fun _ _ _ => rfl⟩

theorem separates_opening : Separates '(' [.opening] :=
  ⟨by unfold IsSeparator; decide, fun _ _ _ => rfl⟩

theorem separates_closing : Separates ')' [.closing] :=
  ⟨by unfold IsSeparator; decide, fun _ _ _ => rfl⟩

theorem separates_comma : Separates ',' [.comma] :=
  ⟨by unfold IsSeparator; decide, fun _ _ _ => rfl⟩

theorem spells_nil (values : List Value) : Spells values values [] [] := by
  refine ⟨List.prefix_rfl, [], lexes_nil, ?_⟩
  intro parameters _ more
  rfl

/-- Two texts with a separator between them. -/
theorem Spells.append {p q r : List Value} {text other : List Char} {symbols others : List Symbol}
    (first : Spells p q text symbols) (second : Spells q r other others) {c : Char} {between : List Symbol}
    (separates : Separates c between) :
    Spells p r (text ++ c :: other) (symbols ++ (between ++ others)) := by
  obtain ⟨tokens, lexes, reads⟩ := first.reads
  obtain ⟨otherTokens, lexesOther, readsOther⟩ := second.reads
  refine ⟨first.grows.trans second.grows, _, lexes.append lexesOther separates.separator, ?_⟩
  intro parameters all more
  rw [List.append_assoc, List.append_assoc, reads parameters (second.grows.trans all), separates.reads,
    readsOther parameters all, List.append_assoc, List.append_assoc]

/-! ## Words, signs and literals -/

/-- A text that is one token, and no placeholder. -/
theorem spells_token (values : List Value) {text : List Char} {token : Token} {symbol : Symbol}
    (lexes : Lexes text [token])
    (reads : ∀ parameters seen more,
      resolve parameters seen (token :: more) = symbol :: resolve parameters seen more) :
    Spells values values text [symbol] := by
  refine ⟨List.prefix_rfl, [token], lexes, ?_⟩
  intro parameters _ more
  exact reads parameters values.length more

theorem spells_word (values : List Value) {text : List Char} (run : IsRun .word text)
    (unnumbered : text.head? ≠ some '$') : Spells values values text [.word text] := by
  have plain : placeholderNumber? text = none := by
    unfold placeholderNumber?
    split
    · exact absurd rfl unnumbered
    · rfl
  apply spells_token values (lexes_run run)
  intro parameters seen more
  rw [resolve, plain]

theorem spells_sign (values : List Value) {text : List Char} (run : IsRun .sign text) :
    Spells values values text [.sign text] := by
  apply spells_token values (lexes_run run)
  intro parameters seen more
  rfl

theorem spells_literal (values : List Value) {text : List Char} (noQuote : '\'' ∉ text) :
    Spells values values ('\'' :: (text ++ ['\''])) [.literal text] := by
  apply spells_token values (lexes_literal noQuote)
  intro parameters seen more
  rfl

/-- A text in lower case. -/
theorem Spells.lower {p q : List Value} {text : List Char} {symbols : List Symbol}
    (h : Spells p q text symbols) :
    Spells p q ("LOWER".toList ++ '(' :: (text ++ [')']))
      (.word "LOWER".toList :: .opening :: (symbols ++ [.closing])) := by
  have call : Spells p p "LOWER".toList [.word "LOWER".toList] :=
    spells_word p (by decide) (by decide)
  exact call.append (h.append (spells_nil q) separates_closing) separates_opening

/-! ## Placeholders -/

theorem parameterAt_of_prefix {before parameters : List Value} {v : Value} (h : before ++ [v] <+: parameters) :
    parameterAt parameters before.length = .parameter v := by
  rcases h with ⟨later, rfl⟩
  simp [parameterAt]

theorem kindOf?_of_isDigit {c : Char} (digit : c.isDigit = true) : kindOf? c = some .word := by
  have alphanumeric : c.isAlphanum = true := by
    rw [Char.isAlphanum, digit, Bool.or_true]
  rw [kindOf?, alphanumeric, Bool.true_or, Bool.true_or, if_pos rfl]

theorem spells_numbered (before : List Value) (v : Value) :
    Spells before (before ++ [v]) ('$' :: (toString (before.length + 1)).toList) [.parameter v] := by
  have digits : (toString (before.length + 1)).toList = Nat.toDigits 10 (before.length + 1) := by
    simp
  have run : IsRun .word ('$' :: (toString (before.length + 1)).toList) := by
    refine ⟨List.cons_ne_nil _ _, ?_⟩
    intro c mem
    rcases List.mem_cons.mp mem with rfl | mem
    · decide
    · rw [digits] at mem
      have positive : 0 < 10 := by decide
      exact kindOf?_of_isDigit (Nat.isDigit_of_mem_toDigits positive (by decide) mem)
  have number : placeholderNumber? ('$' :: (toString (before.length + 1)).toList) = some (before.length + 1) := by
    rw [placeholderNumber?, digits, Nat.ofDigitChars_ten_toDigits]
  refine ⟨List.prefix_append _ _, _, lexes_run run, ?_⟩
  intro parameters all more
  rw [List.singleton_append, resolve, number]
  simp only [Nat.add_sub_cancel, parameterAt_of_prefix all, List.length_append, List.length_singleton,
    List.singleton_append]

theorem spells_mark (before : List Value) (v : Value) : Spells before (before ++ [v]) ['?'] [.parameter v] := by
  have separator : IsSeparator '?' := by
    unfold IsSeparator
    decide
  refine ⟨List.prefix_append _ _, _, lexes_nil.append lexes_nil separator, ?_⟩
  intro parameters all more
  have mark : resolve parameters before.length (.placeholder :: more) =
      parameterAt parameters before.length :: resolve parameters (before.length + 1) more := rfl
  simp only [List.nil_append, separatorTokens, List.append_nil, List.singleton_append, mark,
    parameterAt_of_prefix all, List.length_append, List.length_singleton]

/-- The placeholder of the value that is bound next stands for this value. -/
theorem spells_placeholder (platform : Platform) (before : List Value) (v : Value) :
    Spells before (before ++ [v]) (platform.placeholder (before.length + 1)).toList [.parameter v] := by
  cases platform with
  | postgres =>
      have text : (Platform.postgres.placeholder (before.length + 1)).toList =
          '$' :: (toString (before.length + 1)).toList := by
        have dollar : (toString "$").toList = ['$'] := by decide
        rw [Platform.placeholder, String.toList_append, dollar, List.singleton_append]
      rw [text]
      exact spells_numbered before v
  | _ =>
      have text : "?".toList = ['?'] := by decide
      simp only [Platform.placeholder, text]
      exact spells_mark before v

end Criteria.Sql
