import Criteria.Sql.Clause
import Criteria.Proofs.Outcome
import Criteria.Proofs.Sql.Spelling

/-!
# The making of expressions

An expression denotes a value if the symbols of its text read as a formula with this value.  Values are bound in the
order in which they stand in the text, so expressions that are made one after another denote together what each of
them denotes.
-/

namespace Criteria.Sql

variable {α β : Type}

/-! ## Makings that succeed -/

theorem making_bind_eq_ok_iff {making : Making α} {next : α → Making β} {d d' : Draft} {b : β} :
    (making >>= next) d = .ok (b, d') ↔ ∃ a middle, making d = .ok (a, middle) ∧ next a middle = .ok (b, d') := by
  have opened : (making >>= next) d = making d >>= fun pair => next pair.1 pair.2 := rfl
  rw [opened, bind_eq_ok_iff]
  constructor
  · rintro ⟨⟨a, middle⟩, made, later⟩
    exact ⟨a, middle, made, later⟩
  · rintro ⟨a, middle, made, later⟩
    exact ⟨(a, middle), made, later⟩

theorem Mapping.target_eq_ok {m : Mapping} {name : String} {t : Target} (h : m.target name = .ok t) :
    m.columns.get? name = some t.column ∧ t.converters = m.converters.get? name ∧ t.platform = m.platform := by
  unfold target at h
  cases field : m.schema.field? name with
  | none =>
      rw [field] at h
      cases h
  | some f =>
      cases column : m.columns.get? name with
      | none =>
          rw [field, column] at h
          cases h
      | some c =>
          rw [field, column] at h
          cases h
          exact ⟨rfl, rfl, rfl⟩

/-- What a making gives has a property that looks at the values bound before and after; besides, it only binds
values. -/
def Ensures (platform : Platform) (making : Making α) (P : List Value → List Value → α → Prop) : Prop :=
  ∀ d d' a, d.platform = platform → making d = .ok (a, d') →
    d' = { d with parameters := d'.parameters } ∧ P d.parameters d'.parameters a

theorem ensures_pure {platform : Platform} {a : α} {P : List Value → List Value → α → Prop}
    (h : ∀ values, P values values a) : Ensures platform (pure a) P := by
  rintro d d' a' - made
  cases made
  exact ⟨rfl, h _⟩

theorem ensures_throw (platform : Platform) (e : SqlError) (P : List Value → List Value → α → Prop) :
    Ensures platform (throw e) P := by
  rintro d d' a - made
  cases made

theorem Ensures.bind {platform : Platform} {making : Making α} {next : α → Making β}
    {P : List Value → List Value → α → Prop} {Q : List Value → List Value → β → Prop}
    (first : Ensures platform making P)
    (second : ∀ a before, Ensures platform (next a) fun middle after b => P before middle a → Q before after b) :
    Ensures platform (making >>= next) Q := by
  intro d d' b samePlatform made
  obtain ⟨a, middle, made, later⟩ := making_bind_eq_ok_iff.mp made
  obtain ⟨bound, hP⟩ := first d middle a samePlatform made
  have stillSame : middle.platform = platform := by
    rw [bound]
    exact samePlatform
  obtain ⟨boundLater, hQ⟩ := second a d.parameters middle d' b stillSame later
  refine ⟨?_, hQ hP⟩
  rw [boundLater, bound]

/-- What does not make anything may still fail. -/
theorem ensures_lift_bind {platform : Platform} {outcome : Except SqlError α} {next : α → Making β}
    {P : List Value → List Value → β → Prop} (h : ∀ a, outcome = .ok a → Ensures platform (next a) P) :
    Ensures platform (liftM outcome >>= next) P := by
  intro d d' b samePlatform made
  cases outcome with
  | error e => cases made
  | ok a => exact h a rfl d d' b samePlatform made

/-- Binding a value gives its placeholder. -/
theorem ensures_bindValue (platform : Platform) (v : Value) :
    Ensures platform (bindValue v) fun before after placeholder =>
      Spells before after placeholder.toList [.parameter v] := by
  rintro d d' placeholder rfl made
  cases made
  exact ⟨rfl, spells_placeholder d.platform d.parameters v⟩

/-! ## Expressions -/

/-- An expression, in front of which some values are bound and behind which all of these and maybe more, denotes a
value. -/
def Denotes (before after : List Value) (level : Level) (e : Expr) (value : Interpretation → Bool) : Prop :=
  ∃ symbols, Spells before after e.sql.toList symbols ∧ Reads level symbols value

theorem Denotes.congr {before after : List Value} {level : Level} {e : Expr} {value other : Interpretation → Bool}
    (h : Denotes before after level e value) (same : ∀ I, value I = other I) : Denotes before after level e other := by
  rw [← funext same]
  exact h

/-- The text of a test denotes how the test comes out. -/
theorem denotes_test {before after : List Value} {sql : String} {symbols : List Symbol} {t : Test}
    (spells : Spells before after sql.toList symbols)
    (found : ∀ rest, Follows .single rest → test? (symbols ++ rest) = some (t, rest)) :
    Denotes before after .single (.test sql) fun I => I.holds t := by
  refine ⟨symbols, ?_, reads_test found⟩
  rw [Expr.sql]
  exact spells

/-- Single expressions that are made one after another, and the values they denote. -/
inductive Denoted : List Value → List Value → List Expr → List (Interpretation → Bool) → Prop where
  | nil (values : List Value) : Denoted values values [] []
  | cons {before middle after : List Value} {e : Expr} {value : Interpretation → Bool} {es : List Expr}
      {values : List (Interpretation → Bool)} (first : Denotes before middle .single e value)
      (others : Denoted middle after es values) : Denoted before after (e :: es) (value :: values)

theorem Denoted.append {before middle after : List Value} {es others : List Expr}
    {values valuesOfOthers : List (Interpretation → Bool)} (first : Denoted before middle es values)
    (second : Denoted middle after others valuesOfOthers) :
    Denoted before after (es ++ others) (values ++ valuesOfOthers) := by
  induction first with
  | nil => exact second
  | cons head _ ih => exact .cons head (ih second)

theorem Denoted.isEmpty_eq {before after : List Value} {es : List Expr} {values : List (Interpretation → Bool)}
    (h : Denoted before after es values) : es.isEmpty = values.isEmpty := by
  cases h <;> rfl

theorem ensures_mapM {platform : Platform} {make : α → Making Expr} {value : α → Interpretation → Bool}
    (h : ∀ x, Ensures platform (make x) fun before after e => Denotes before after .single e (value x))
    (xs : List α) : Ensures platform (xs.mapM make) fun before after es => Denoted before after es (xs.map value) := by
  induction xs with
  | nil =>
      rw [List.mapM_nil]
      exact ensures_pure .nil
  | cons x xs ih =>
      rw [List.mapM_cons]
      apply (h x).bind
      intro e before
      apply ih.bind
      intro es middle
      apply ensures_pure
      intro after others first
      exact .cons first others

/-! ## Joins and parentheses -/

theorem Denotes.anyLevel {before after : List Value} {logical : Logical} {e : Expr}
    {value : Interpretation → Bool} (h : Denotes before after (.joined logical) e value) :
    Denotes before after (.joined .any) e value := by
  rcases h with ⟨symbols, spells, reads⟩
  refine ⟨symbols, spells, ?_⟩
  cases logical with
  | all => exact reads.toAny
  | any => exact reads

/-- An expression in parentheses can be joined with others. -/
theorem Denotes.paren {before after : List Value} {logical : Logical} {e : Expr} {value : Interpretation → Bool}
    (h : Denotes before after (.joined logical) e value) : Denotes before after .single (.paren e) value := by
  obtain ⟨symbols, spells, reads⟩ := h.anyLevel
  refine ⟨.opening :: (symbols ++ [.closing]), ?_, reads.parenthesized⟩
  have text : (Expr.paren e).sql.toList = [] ++ '(' :: (e.sql.toList ++ [')']) := by
    have opening : "(".toList = ['('] := by decide
    have closing : ")".toList = [')'] := by decide
    rw [Expr.sql, String.toList_append, String.toList_append, opening, closing, List.append_assoc]
    rfl
  rw [text]
  exact (spells_nil before).append (spells.append (spells_nil after) separates_closing) separates_opening

theorem Expr.sql_join (logical : Logical) (es : List Expr) :
    (join logical es).sql = (" " ++ logical.keyword ++ " ").intercalate (sqlList es) := by
  cases logical with
  | all =>
      have keyword : " " ++ Logical.all.keyword ++ " " = " AND " := by decide
      rw [keyword, join, sql]
  | any =>
      have keyword : " " ++ Logical.any.keyword ++ " " = " OR " := by decide
      rw [keyword, join, sql]

theorem Expr.toList_sql_join_cons (logical : Logical) (e other : Expr) (es : List Expr) :
    (join logical (e :: other :: es)).sql.toList =
      e.sql.toList ++ ' ' :: (logical.keyword.toList ++ ' ' :: (join logical (other :: es)).sql.toList) := by
  have blank : " ".toList = [' '] := by decide
  rw [sql_join, sql_join, sqlList, sqlList, String.intercalate_cons_cons]
  simp only [String.toList_append, blank, List.append_assoc, List.cons_append, List.nil_append]

theorem spells_keyword (values : List Value) (logical : Logical) :
    Spells values values logical.keyword.toList [.word logical.keyword.toList] := by
  cases logical <;> exact spells_word values (by decide) (by decide)

/-- Joined expressions denote what joins their values. -/
theorem Denoted.join {before after : List Value} {es : List Expr} {values : List (Interpretation → Bool)}
    (h : Denoted before after es values) (nonempty : es ≠ []) (logical : Logical) :
    Denotes before after (.joined logical) (.join logical es) fun I =>
      logical.join (values.map fun value => value I) := by
  -- Each part reads one level below the join, whatever the parts behind it are, so the list is taken part by part.
  induction h with
  | nil => exact absurd rfl nonempty
  | @cons before middle after e value es values first others ih =>
      rcases first with ⟨symbols, spells, reads⟩
      cases others with
      | nil =>
          have alone (I : Interpretation) : value I = logical.join ([value].map fun value => value I) := by
            cases logical with
            | all => exact (Bool.and_true _).symm
            | any => exact (Bool.or_false _).symm
          apply Denotes.congr _ alone
          refine ⟨symbols, ?_, reads.joined logical⟩
          rw [Expr.sql_join, Expr.sqlList, Expr.sqlList, String.intercalate_singleton]
          exact spells
      | @cons _ _ _ other _ es values second others =>
          obtain ⟨symbolsOfOthers, spellsOthers, readsOthers⟩ := ih (List.cons_ne_nil _ _)
          refine ⟨symbols ++ .word logical.keyword.toList :: symbolsOfOthers, ?_, ?_⟩
          · rw [Expr.toList_sql_join_cons]
            exact spells.append ((spells_keyword _ logical).append spellsOthers separates_blank) separates_blank
          · have joined := (reads.below logical).join readsOthers
            cases logical with
            | all => simpa only [Logical.join, List.map_cons, List.all_cons, List.all_nil, id_eq, Bool.and_true]
                using joined
            | any => simpa only [Logical.join, List.map_cons, List.any_cons, List.any_nil, id_eq, Bool.or_false]
                using joined

/-- The tests that let rows in, joined with those that take rows away. -/
theorem Denoted.admitting {before middle after : List Value} {admits narrows : List Expr}
    {values others : List (Interpretation → Bool)} (first : Denoted before middle admits values)
    (second : Denoted middle after narrows others) (nonempty : admits ++ narrows ≠ []) :
    Denotes before after (.joined .any) (.admitting admits narrows) fun I =>
      (values.isEmpty || values.any fun value => value I) && others.all fun value => value I := by
  cases first with
  | nil =>
      have joined := (second.join nonempty .all).anyLevel
      apply joined.congr
      intro I
      simp only [Logical.join, List.all_map, Function.id_comp, List.isEmpty_nil, Bool.true_or, Bool.true_and]
  | @cons _ next _ e value es values head tail =>
      have some := Denoted.cons head tail
      cases second with
      | nil =>
          have joined := some.join (List.cons_ne_nil _ _) .any
          apply joined.congr
          intro I
          simp only [Logical.join, List.any_map, Function.id_comp, List.isEmpty_cons, Bool.false_or, List.all_nil,
            Bool.and_true]
      | @cons _ _ _ narrow other narrows others headOther tailOther =>
          have taken := Denoted.cons headOther tailOther
          cases tail with
          | nil =>
              have joined := ((Denoted.cons head taken).join (List.cons_ne_nil _ _) .all).anyLevel
              apply joined.congr
              intro I
              simp [Logical.join, List.all_map]
          | cons second tail =>
              have widened := (some.join (List.cons_ne_nil _ _) .any).paren
              have joined := ((Denoted.cons widened taken).join (List.cons_ne_nil _ _) .all).anyLevel
              apply joined.congr
              intro I
              simp [Logical.join, List.all_map, List.any_map]

end Criteria.Sql
