import Criteria.Proofs.Sql.Denotation
import Criteria.Proofs.Sql.Marks

/-!
# The layout of clauses

What a clause without converters looks like can be said without making it: each test is a text around a value, and
tests, bags and groups are joined as the condition says.  The clause is this layout filled with placeholders, and its
parameters are the values in the layout, so every value is bound to the placeholder that stands in its place.
-/

namespace Criteria.Sql

/-! ## Layouts of conditions -/

namespace Layout

/-- A test of a column against a value, with letters in lower case on both sides if their case is ignored. -/
def test (column operator : String) (v : Value) (lower : Bool) (behind : String) : Layout :=
  if lower then [.text s!"LOWER({column}) {operator} LOWER(", .value v, .text (")" ++ behind)]
  else [.text s!"{column} {operator} ", .value v, .text behind]

/-- The layout of a comparison with a value. -/
def compare (column sign : String) (v : Value) : Layout :=
  test column sign v false ""

/-- The layout of the test whether a column lies in a range, or outside of it. -/
def range (column : String) (r : Range) (excluded : Bool) : Layout :=
  paren (joined (if excluded then "OR" else "AND")
    [compare column (Target.lowerSign excluded r.includesLower) r.lower,
      compare column (Target.upperSign excluded r.includesUpper) r.upper])

/-- The layout of the test of a column against a `LIKE` pattern. -/
def like (p : Platform) (column : String) (m : TextMatch) : Layout :=
  let pattern := Value.string (Target.likePattern p m)
  match p with
  | .postgres =>
      test column (Platform.notWord m.negated ++ if m.ignoresCase then "ILIKE" else "LIKE") pattern false ""
  | .mysql => test column (Platform.notWord m.negated ++ "LIKE") pattern m.ignoresCase ""
  | _ => test column (Platform.notWord m.negated ++ "LIKE") pattern m.ignoresCase " ESCAPE '\\'"

/-- The layout of the test of a column against a regular expression; there is none where these are not known. -/
def regex (p : Platform) (column : String) (m : TextMatch) : Layout :=
  let pattern := Value.string (p.regexValue m.text m.ignoresCase)
  match p with
  | .sqlite => test column (Platform.notWord m.negated ++ "REGEXP") pattern false ""
  | .postgres => test column (tildeSign m.negated m.ignoresCase) pattern false ""
  | .mysql =>
      let mode := if m.ignoresCase then "i" else "c"
      [.text s!"{Platform.notWord m.negated}REGEXP_LIKE({column}, ", .value pattern, .text s!", '{mode}')"]
  | .mssql => []

/-- The layout of the test whether a column matches a pattern. -/
def textMatch (p : Platform) (column : String) (m : TextMatch) : Layout :=
  match m.kind with
  | .equals => test column (if m.negated then "<>" else "=") (.string m.text) m.ignoresCase ""
  | .regex => regex p column m
  | _ => like p column m

/-- The layouts of the tests of a bag that let rows in. -/
def admitting (p : Platform) (column : String) (bag : Bag) : List Layout :=
  bag.singles.map (fun s => compare column "=" s.value) ++ bag.ranges.map (fun r => range column r false) ++
    (bag.comparisons.filter fun c => !c.operator.narrows).map (fun c => compare column c.operator.sign c.value) ++
    (bag.textMatches.filter fun m => !m.negated).map (textMatch p column)

/-- The layouts of the tests of a bag that take rows away. -/
def narrowing (p : Platform) (column : String) (bag : Bag) : List Layout :=
  bag.excludedSingles.map (fun s => compare column "<>" s.value) ++
    bag.excludedRanges.map (fun r => range column r true) ++
    (bag.comparisons.filter fun c => c.operator.narrows).map (fun c => compare column c.operator.sign c.value) ++
    (bag.textMatches.filter fun m => m.negated).map (textMatch p column)

/-- The layout of the tests that let rows in, joined with those that take rows away. -/
def combined (admits narrows : List Layout) : Layout :=
  match admits, narrows with
  | [], narrows => joined "AND" narrows
  | admits, [] => joined "OR" admits
  | [only], narrows => joined "AND" (only :: narrows)
  | admits, narrows => joined "AND" (paren (joined "OR" admits) :: narrows)

/-- The layout of a bag. -/
def bag (p : Platform) (column : String) (bag : Bag) : Layout :=
  combined (admitting p column bag) (narrowing p column bag)

end Layout

namespace Mapping

/-- The layouts of the bags with entries. -/
def bagLayouts (m : Mapping) (entries : List (String × Bag)) : List Layout :=
  (entries.filter fun entry => !entry.2.isEmpty).map fun entry =>
    .bag m.platform ((m.columns.get? entry.1).getD "") entry.2

/-- The layout of a group: those of its bags and of the groups below, as far as there is anything in them. -/
def layout (m : Mapping) : Group → Layout :=
  Group.fold fun logical fields below =>
    .joined logical.keyword ((m.bagLayouts fields.entries ++ below.filter fun l => !l.isEmpty).map .paren)

end Mapping

/-! ## Placeholders of layouts -/

namespace Layout

open Platform

variable {p : Platform} {column : String}

/-- A text without placeholders that cannot go on with the one in front of it. -/
structure IsTail (text : String) : Prop where
  free : IsMarkFree text.toList
  apart : IsApart text.toList

theorem isTail_empty : IsTail "" :=
  ⟨by decide, by decide⟩

theorem isTail_escape : IsTail " ESCAPE '\\'" :=
  ⟨by decide, by decide⟩

theorem IsTail.closing {text : String} (tail : IsTail text) : IsTail (")" ++ text) := by
  have same : (")" ++ text).toList = ')' :: text.toList := by
    simp
  constructor
  · rw [same]
    exact List.forall_mem_cons.mpr ⟨isDivider_closing.unmarked, tail.free⟩
  · rw [same]
    exact isDivider_closing.isApart _

/-- A value between two texts without placeholders. -/
theorem isFramed_value {before behind : String} (first : p.marks before.toList = []) (v : Value)
    (tail : IsTail behind) : IsFramed p [.text before, .value v, .text behind] := by
  intro n
  have text : (fill p n [.text before, .value v, .text behind]).toList =
      before.toList ++ (p.placeholder n).toList ++ behind.toList := by
    simp [fill]
  rw [text, marks_append tail.apart, marks_append (isApart_placeholder p n), first,
    marks_of_isMarkFree tail.free, marks_placeholder]
  rfl

theorem isFramed_test (unmarked : p.marks column.toList = []) {operator : String}
    (free : IsMarkFree operator.toList) (v : Value) (lower : Bool) {behind : String} (tail : IsTail behind) :
    IsFramed p (test column operator v lower behind) := by
  cases lower with
  | true =>
      have text : s!"LOWER({column}) {operator} LOWER(".toList =
          "LOWER".toList ++ '(' ::
            (column.toList ++ ')' :: ([] ++ ' ' :: (operator.toList ++ ' ' :: "LOWER(".toList))) := by
        simp [toString]
      have call : p.marks "LOWER".toList = [] := marks_of_isMarkFree (by decide)
      have callOpen : p.marks "LOWER(".toList = [] := marks_of_isMarkFree (by decide)
      refine isFramed_value ?_ v tail.closing
      rw [text, marks_append_cons isDivider_opening,
        marks_append_cons isDivider_closing, marks_append_cons isDivider_blank,
        marks_append_cons isDivider_blank, call, callOpen, unmarked, marks_of_isMarkFree free]
      rfl
  | false =>
      have text : s!"{column} {operator} ".toList = column.toList ++ ' ' :: (operator.toList ++ ' ' :: []) := by
        simp [toString]
      refine isFramed_value ?_ v tail
      rw [text, marks_append_cons isDivider_blank, marks_append_cons isDivider_blank,
        unmarked, marks_of_isMarkFree free]
      rfl

theorem isFramed_compare (unmarked : p.marks column.toList = []) {sign : String}
    (free : IsMarkFree sign.toList) (v : Value) : IsFramed p (compare column sign v) :=
  isFramed_test unmarked free v false isTail_empty

theorem isFramed_range (unmarked : p.marks column.toList = []) (r : Range) (excluded : Bool) :
    IsFramed p (range column r excluded) := by
  have lower : IsMarkFree (Target.lowerSign excluded r.includesLower).toList := by
    cases excluded <;> cases r.includesLower <;> decide
  have upper : IsMarkFree (Target.upperSign excluded r.includesUpper).toList := by
    cases excluded <;> cases r.includesUpper <;> decide
  have keyword : IsMarkFree (if excluded then "OR" else "AND").toList := by
    cases excluded <;> decide
  refine (IsFramed.joined keyword ?_).paren
  rw [List.forall_mem_cons, List.forall_mem_singleton]
  exact ⟨isFramed_compare unmarked lower r.lower, isFramed_compare unmarked upper r.upper⟩

theorem isFramed_like (unmarked : p.marks column.toList = []) (m : TextMatch) : IsFramed p (like p column m) := by
  have operator : IsMarkFree (Platform.notWord m.negated ++ "LIKE").toList := by
    cases m.negated <;> decide
  cases p with
  | postgres =>
      refine isFramed_test unmarked ?_ _ false isTail_empty
      cases m.negated <;> cases m.ignoresCase <;> decide
  | mysql => exact isFramed_test unmarked operator _ m.ignoresCase isTail_empty
  | _ => exact isFramed_test unmarked operator _ m.ignoresCase isTail_escape

theorem isFramed_regex (unmarked : p.marks column.toList = []) (m : TextMatch) : IsFramed p (regex p column m) := by
  cases p with
  | sqlite =>
      refine isFramed_test unmarked ?_ _ false isTail_empty
      cases m.negated <;> decide
  | postgres =>
      refine isFramed_test unmarked ?_ _ false isTail_empty
      cases m.negated <;> cases m.ignoresCase <;> decide
  | mysql =>
      have text : s!"{Platform.notWord m.negated}REGEXP_LIKE({column}, ".toList =
          (Platform.notWord m.negated ++ "REGEXP_LIKE").toList ++ '(' :: (column.toList ++ ',' :: [' ']) := by
        simp [toString]
      have call : IsMarkFree (Platform.notWord m.negated ++ "REGEXP_LIKE").toList := by
        cases m.negated <;> decide
      refine isFramed_value ?_ _ ?_
      · rw [text, marks_append_cons isDivider_opening,
          marks_append_cons isDivider_comma, unmarked, marks_of_isMarkFree call]
        rfl
      · cases m.ignoresCase <;> exact ⟨by decide, by decide⟩
  | mssql => exact isFramed_nil

theorem isFramed_textMatch (unmarked : p.marks column.toList = []) (m : TextMatch) :
    IsFramed p (textMatch p column m) := by
  unfold textMatch
  cases m.kind with
  | equals =>
      refine isFramed_test unmarked ?_ _ _ isTail_empty
      cases m.negated <;> decide
  | regex => exact isFramed_regex unmarked m
  | _ => exact isFramed_like unmarked m

theorem isMarkFree_sign (operator : Operator) : IsMarkFree operator.sign.toList := by
  cases operator <;> decide

theorem isFramed_admitting (unmarked : p.marks column.toList = []) (bag : Bag) :
    ∀ l ∈ admitting p column bag, IsFramed p l := by
  simp only [admitting, List.forall_mem_append, List.forall_mem_map]
  exact ⟨⟨⟨fun s _ => isFramed_compare unmarked (by decide) s.value, fun r _ => isFramed_range unmarked r false⟩,
    fun c _ => isFramed_compare unmarked (isMarkFree_sign c.operator) c.value⟩,
    fun m _ => isFramed_textMatch unmarked m⟩

theorem isFramed_narrowing (unmarked : p.marks column.toList = []) (bag : Bag) :
    ∀ l ∈ narrowing p column bag, IsFramed p l := by
  simp only [narrowing, List.forall_mem_append, List.forall_mem_map]
  exact ⟨⟨⟨fun s _ => isFramed_compare unmarked (by decide) s.value, fun r _ => isFramed_range unmarked r true⟩,
    fun c _ => isFramed_compare unmarked (isMarkFree_sign c.operator) c.value⟩,
    fun m _ => isFramed_textMatch unmarked m⟩

theorem isFramed_combined {admits narrows : List Layout} (first : ∀ l ∈ admits, IsFramed p l)
    (second : ∀ l ∈ narrows, IsFramed p l) : IsFramed p (combined admits narrows) := by
  have widened := IsFramed.joined (by decide : IsMarkFree "OR".toList) first
  unfold combined
  split
  · exact IsFramed.joined (by decide) second
  · exact widened
  · exact IsFramed.joined (by decide) (List.forall_mem_cons.mpr ⟨List.forall_mem_singleton.mp first, second⟩)
  · exact IsFramed.joined (by decide) (List.forall_mem_cons.mpr ⟨widened.paren, second⟩)

end Layout

theorem Mapping.isFramed_layout {m : Mapping}
    (unmarked : ∀ name column, m.columns.get? name = some column → m.platform.marks column.toList = [])
    (group : Group) : Layout.IsFramed m.platform (m.layout group) := by
  have column (name : String) : m.platform.marks ((m.columns.get? name).getD "").toList = [] := by
    cases found : m.columns.get? name with
    | none => rfl
    | some column => exact unmarked name column found
  induction group with
  | step logical fields groups ih =>
      have keyword : Platform.IsMarkFree logical.keyword.toList := by
        cases logical <;> decide
      rw [layout, Group.fold_mk]
      refine Layout.IsFramed.joined keyword ?_
      rw [List.forall_mem_map, List.forall_mem_append, bagLayouts, List.forall_mem_map]
      refine ⟨fun entry _ => ?_, fun l mem => ?_⟩
      · exact (Layout.isFramed_combined (Layout.isFramed_admitting (column _) _)
          (Layout.isFramed_narrowing (column _) _)).paren
      · obtain ⟨g, here, rfl⟩ := List.mem_map.mp (List.mem_of_mem_filter mem)
        exact (ih g here).paren

/-! ## Making of layouts -/

/-- A text, in front of which some values are bound and behind which all of these and maybe more, is a layout filled. -/
structure Lays (p : Platform) (before after : List Value) (text : String) (l : Layout) : Prop where
  values : after = before ++ l.values
  text : text = l.fill p (before.length + 1)

section
variable {p : Platform} {before middle after : List Value} {text other placeholder : String} {a b : Layout} {v : Value}

theorem lays_text (values : List Value) (sql : String) : Lays p values values sql [.text sql] :=
  ⟨(List.append_nil _).symm, String.append_empty.symm⟩

theorem Lays.append (first : Lays p before middle text a) (second : Lays p middle after other b) :
    Lays p before after (text ++ other) (a ++ b) where
  values := by rw [second.values, first.values, Layout.values_append, List.append_assoc]
  text := by
    rw [Layout.fill_append, ← first.text, second.text, first.values, List.length_append, Nat.add_right_comm]

theorem ensures_bindValue_lays (p : Platform) (v : Value) :
    Ensures p (bindValue v) fun before after placeholder => Lays p before after placeholder [.value v] := by
  rintro d d' placeholder rfl made
  cases made
  exact ⟨rfl, rfl, String.append_empty.symm⟩

theorem Lays.around (h : Lays p before after placeholder [.value v]) (first last : String) :
    Lays p before after (first ++ (placeholder ++ last)) [.text first, .value v, .text last] :=
  (lays_text before first).append (h.append (lays_text after last))

theorem Lays.test (h : Lays p before after placeholder [.value v]) {column operator behind sql : String} {lower : Bool}
    (written : sql = if lower then s!"LOWER({column}) {operator} LOWER({placeholder}){behind}"
      else s!"{column} {operator} {placeholder}{behind}") :
    Lays p before after sql (.test column operator v lower behind) := by
  subst written
  cases lower with
  | true =>
      have same : s!"LOWER({column}) {operator} LOWER({placeholder}){behind}" =
          s!"LOWER({column}) {operator} LOWER(" ++ (placeholder ++ (")" ++ behind)) := by
        simp [toString, String.append_assoc]
      exact same ▸ h.around _ _
  | false =>
      have same : s!"{column} {operator} {placeholder}{behind}" =
          s!"{column} {operator} " ++ (placeholder ++ behind) := by
        simp [toString, String.append_assoc]
      exact same ▸ h.around _ _

theorem Lays.compare (h : Lays p before after placeholder [.value v]) (column sign : String) :
    Lays p before after s!"{column} {sign} {placeholder}" (.compare column sign v) :=
  h.test String.append_empty.symm

theorem Lays.paren (h : Lays p before after text a) : Lays p before after ("(" ++ text ++ ")") (.paren a) := by
  rw [String.append_assoc]
  exact (lays_text before "(").append (h.append (lays_text after ")"))

theorem Lays.like {m : TextMatch} (h : Lays p before after placeholder [.value (.string (Target.likePattern p m))])
    (column : String) :
    Lays p before after (p.likeSql column placeholder m.negated m.ignoresCase) (.like p column m) := by
  cases p with
  | postgres => exact h.test (by simp [Platform.likeSql, toString, String.append_assoc])
  | _ =>
      refine h.test ?_
      cases m.ignoresCase <;> simp [Platform.likeSql, Platform.escapeClause, toString, String.append_assoc]

theorem Lays.regex {m : TextMatch} {sql : String} {column : String}
    (h : Lays p before after placeholder [.value (.string (p.regexValue m.text m.ignoresCase))])
    (written : p.regexSql column placeholder m.negated m.ignoresCase = .ok sql) :
    Lays p before after sql (.regex p column m) := by
  cases p with
  | sqlite =>
      cases written
      exact h.test (by simp [toString, String.append_assoc])
  | postgres =>
      cases written
      exact h.compare column (tildeSign m.negated m.ignoresCase)
  | mysql =>
      cases written
      have same (mode : String) : s!"{Platform.notWord m.negated}REGEXP_LIKE({column}, {placeholder}, '{mode}')" =
          s!"{Platform.notWord m.negated}REGEXP_LIKE({column}, " ++ (placeholder ++ s!", '{mode}')") := by
        simp [toString, String.append_assoc]
      exact same _ ▸ h.around _ _
  | mssql => cases written

end

/-- Expressions that are made one after another are layouts filled. -/
inductive LaysAll (p : Platform) : List Value → List Value → List Expr → List Layout → Prop where
  | nil (values : List Value) : LaysAll p values values [] []
  | cons {before middle after : List Value} {e : Expr} {l : Layout} {es : List Expr} {ls : List Layout}
      (first : Lays p before middle e.sql l) (others : LaysAll p middle after es ls) :
      LaysAll p before after (e :: es) (l :: ls)

namespace LaysAll

variable {p : Platform} {before middle after : List Value} {es others : List Expr} {ls layouts : List Layout}

theorem append (first : LaysAll p before middle es ls) (second : LaysAll p middle after others layouts) :
    LaysAll p before after (es ++ others) (ls ++ layouts) := by
  induction first with
  | nil => exact second
  | cons head _ ih => exact .cons head (ih second)

theorem isEmpty_eq (h : LaysAll p before after es ls) : es.isEmpty = ls.isEmpty := by
  cases h <;> rfl

theorem join (h : LaysAll p before after es ls) (logical : Logical) :
    Lays p before after (Expr.join logical es).sql (.joined logical.keyword ls) := by
  induction h with
  | nil values =>
      rw [Expr.sql_join, Expr.sqlList, String.intercalate_nil]
      exact ⟨(List.append_nil _).symm, rfl⟩
  | cons first others ih =>
      rw [Expr.sql_join, Expr.sqlList]
      cases others with
      | nil =>
          rw [Expr.sqlList, String.intercalate_singleton, Layout.joined, List.intercalate_singleton]
          exact first
      | cons second others =>
          rw [Expr.sql_join, Expr.sqlList] at ih
          rw [Expr.sqlList, String.intercalate_cons_cons, String.append_assoc, Layout.joined_cons_cons]
          exact first.append ((lays_text _ _).append ih)

theorem admitting (first : LaysAll p before middle es ls) (second : LaysAll p middle after others layouts) :
    Lays p before after (Expr.admitting es others).sql (.combined ls layouts) := by
  cases first with
  | nil => exact second.join .all
  | cons head tail =>
      have widened := (LaysAll.cons head tail).join .any
      cases second with
      | nil => cases tail <;> exact widened
      | cons narrow narrows =>
          cases tail with
          | nil => exact (LaysAll.cons head (.cons narrow narrows)).join .all
          | cons next rest =>
              have parts : LaysAll p before after (.paren _ :: _ :: _) _ := .cons widened.paren (.cons narrow narrows)
              exact parts.join .all

end LaysAll

theorem ensures_mapM_lays {α : Type} {p : Platform} {make : α → Making Expr} {layout : α → Layout}
    (h : ∀ x, Ensures p (make x) fun before after e => Lays p before after e.sql (layout x)) (xs : List α) :
    Ensures p (xs.mapM make) fun before after es => LaysAll p before after es (xs.map layout) := by
  induction xs with
  | nil =>
      rw [List.mapM_nil]
      exact ensures_pure .nil
  | cons x xs ih =>
      rw [List.mapM_cons]
      apply (h x).bind
      intro e before
      apply ih.bind
      intro es middle
      apply ensures_pure
      intro after others first
      exact .cons first others

namespace Target

variable {t : Target}

theorem lays_compare (unconverted : t.converters = none) (sign : String) (v : Value) :
    Ensures t.platform (t.compare sign v) fun before after e =>
      Lays t.platform before after e.sql (.compare t.column sign v) := by
  simp only [compare, columnSql_of_unconverted unconverted, bind_of_unconverted unconverted]
  apply (ensures_bindValue_lays t.platform v).bind
  intro placeholder before
  apply ensures_pure
  intro after bound
  exact bound.compare t.column sign

theorem lays_range (unconverted : t.converters = none) (r : Range) (excluded : Bool) :
    Ensures t.platform (t.range r excluded) fun before after e =>
      Lays t.platform before after e.sql (.range t.column r excluded) := by
  simp only [range, columnSql_of_unconverted unconverted, bind_of_unconverted unconverted]
  apply (ensures_bindValue_lays t.platform r.lower).bind
  intro lower before
  apply (ensures_bindValue_lays t.platform r.upper).bind
  intro upper middle
  apply ensures_pure
  intro after boundUpper boundLower
  have first := boundLower.compare t.column (lowerSign excluded r.includesLower)
  have second := boundUpper.compare t.column (upperSign excluded r.includesUpper)
  have both : LaysAll t.platform before after [.test _, .test _] _ := .cons first (.cons second (.nil after))
  cases excluded with
  | true => exact (both.join .any).paren
  | false => exact (both.join .all).paren

theorem lays_textMatch (unconverted : t.converters = none) (m : TextMatch) :
    Ensures t.platform (t.textMatch m) fun before after e =>
      Lays t.platform before after e.sql (.textMatch t.platform t.column m) := by
  unfold textMatch Layout.textMatch
  simp only [columnSql_of_unconverted unconverted]
  have like : Ensures t.platform (do
      let placeholder ← bindValue (.string (likePattern t.platform m))
      return Expr.test (t.platform.likeSql t.column placeholder m.negated m.ignoresCase)) fun before after e =>
        Lays t.platform before after e.sql (.like t.platform t.column m) := by
    apply (ensures_bindValue_lays t.platform _).bind
    intro placeholder before
    apply ensures_pure
    intro after bound
    exact bound.like t.column
  cases m.kind with
  | contains => exact like
  | startsWith => exact like
  | endsWith => exact like
  | equals =>
      apply (ensures_bindValue_lays t.platform _).bind
      intro placeholder before
      cases m.ignoresCase with
      | true =>
          apply ensures_pure
          intro after bound
          exact bound.test (by simp [Expr.sql, toString, String.append_assoc])
      | false =>
          apply ensures_pure
          intro after bound
          exact bound.compare t.column _
  | regex =>
      apply (ensures_bindValue_lays t.platform _).bind
      intro placeholder before
      cases written : t.platform.regexSql t.column placeholder m.negated m.ignoresCase with
      | error reason => exact ensures_throw _ _ _
      | ok sql =>
          apply ensures_pure
          intro after bound
          exact bound.regex written

theorem lays_bag (unconverted : t.converters = none) (bag : Bag) :
    Ensures t.platform (t.bag bag) fun before after e =>
      Lays t.platform before after e.sql (.bag t.platform t.column bag) := by
  have value (sign : String) (s : Single) := lays_compare unconverted sign s.value
  have comparison (c : Comparison) := lays_compare unconverted c.operator.sign c.value
  have range (excluded : Bool) (r : Range) := lays_range unconverted r excluded
  have pattern (m : TextMatch) := lays_textMatch unconverted m
  apply (ensures_mapM_lays (value "=") bag.singles).bind
  intro singles _
  apply (ensures_mapM_lays (range false) bag.ranges).bind
  intro ranges _
  apply (ensures_mapM_lays comparison _).bind
  intro comparisons _
  apply (ensures_mapM_lays pattern _).bind
  intro positives _
  apply (ensures_mapM_lays (value "<>") bag.excludedSingles).bind
  intro excludedSingles _
  apply (ensures_mapM_lays (range true) bag.excludedRanges).bind
  intro excludedRanges _
  apply (ensures_mapM_lays comparison _).bind
  intro inequalities _
  apply (ensures_mapM_lays pattern _).bind
  intro mismatches _
  apply ensures_pure
  intro after h8 h7 h6 h5 h4 h3 h2 h1
  exact (((h1.append h2).append h3).append h4).admitting (((h5.append h6).append h7).append h8)

end Target

namespace Mapping

variable {m : Mapping}

theorem lays_bags (unconverted : ∀ name, m.converters.get? name = none) (entries : List (String × Bag)) :
    Ensures m.platform (m.bags entries) fun before after es =>
      LaysAll m.platform before after es ((m.bagLayouts entries).map .paren) := by
  induction entries with
  | nil => exact ensures_pure .nil
  | cons entry entries ih =>
      rcases entry with ⟨name, bag⟩
      unfold bags
      cases empty : bag.isEmpty with
      | true => simpa [bagLayouts, empty] using ih
      | false =>
          simp only [Bool.false_eq_true, if_false]
          apply ensures_lift_bind
          intro t found
          obtain ⟨column, converters, platform⟩ := target_eq_ok found
          have made := t.lays_bag (converters.trans (unconverted name)) bag
          rw [platform] at made
          apply made.bind
          intro part _
          apply ih.bind
          intro parts _
          apply ensures_pure
          intro after others first
          have same : m.bagLayouts ((name, bag) :: entries) = .bag m.platform t.column bag :: m.bagLayouts entries := by
            simp [bagLayouts, empty, column]
          rw [same]
          exact .cons first.paren others

theorem lays_belowParts {groups : List Group}
    (h : ∀ group ∈ groups, Ensures m.platform (m.group group) fun before after e =>
      Lays m.platform before after e.sql (m.layout group) ∧ e.isEmpty = (m.layout group).isEmpty) :
    Ensures m.platform (belowParts (groups.map m.group)) fun before after es =>
      LaysAll m.platform before after es (((groups.map m.layout).filter fun l => !l.isEmpty).map .paren) := by
  induction groups with
  | nil => exact ensures_pure .nil
  | cons group groups ih =>
      obtain ⟨here, later⟩ := List.forall_mem_cons.mp h
      rw [List.map_cons, belowParts]
      apply here.bind
      intro part before
      apply (ih later).bind
      intro parts middle
      apply ensures_pure
      intro after others first
      rw [List.map_cons, List.filter_cons, ← first.2]
      cases empty : part.isEmpty with
      | true =>
          -- A group without text has bound nothing, so the groups behind it begin where it does.
          have nothing : m.layout group = [] := by
            rw [← List.isEmpty_iff, ← first.2, empty]
          have bound := first.1.values
          rw [nothing, Layout.values, List.append_nil] at bound
          exact bound ▸ others
      | false => exact .cons first.1.paren others

theorem isEmpty_joined (keyword : String) (parts : List Layout) :
    (Layout.joined keyword (parts.map .paren)).isEmpty = parts.isEmpty := by
  match parts with
  | [] => rfl
  | [l] => rfl
  | l :: k :: rest =>
      rw [List.map_cons, List.map_cons, Layout.joined_cons_cons]
      rfl

/-- The text of what is made of a group is its layout filled. -/
theorem lays_group (unconverted : ∀ name, m.converters.get? name = none) (group : Group) :
    Ensures m.platform (m.group group) fun before after e =>
      Lays m.platform before after e.sql (m.layout group) ∧ e.isEmpty = (m.layout group).isEmpty := by
  induction group with
  | step logical fields groups ih =>
      rw [Mapping.group, Group.fold_mk]
      apply (lays_bags unconverted fields.entries).bind
      intro bags _
      apply (lays_belowParts ih).bind
      intro below _
      apply ensures_pure
      intro after belowLaid bagsLaid
      have parts := bagsLaid.append belowLaid
      rw [← List.map_append] at parts
      have same : m.layout (.mk logical fields groups) = .joined logical.keyword
          ((m.bagLayouts fields.entries ++ (groups.map m.layout).filter fun l => !l.isEmpty).map .paren) := by
        rw [layout, Group.fold_mk]
      rw [same]
      refine ⟨parts.join logical, ?_⟩
      rw [isEmpty_join, parts.isEmpty_eq, isEmpty_joined, List.isEmpty_map]

end Mapping

/-! ## Clauses -/

/-- The clause of a condition is its layout filled with placeholders, and its parameters are the values in the layout;
if no column contains a placeholder, those in the clause are exactly the ones of the parameters, in their order. -/
theorem generate_lines_up {limits : Limits} {m : Mapping} {c : Condition} {clause : WhereClause}
    (unconverted : ∀ name, m.converters.get? name = none)
    (unmarked : ∀ name column, m.columns.get? name = some column → m.platform.marks column.toList = [])
    (generated : generate limits m c = .ok clause) :
    clause.sql = (m.layout c.root).fill m.platform 1 ∧ clause.parameters = (m.layout c.root).values ∧
      m.platform.marks clause.sql.toList =
        (List.range clause.parameters.length).map fun k => (m.platform.placeholder (k + 1)).toList := by
  obtain ⟨e, d, made, sql, parameters⟩ := generate_eq_ok generated
  obtain ⟨bound, laid, -⟩ := m.lays_group unconverted c.root (.start m.platform) d e rfl made
  have text : clause.sql = (m.layout c.root).fill m.platform 1 := by
    rw [sql, bound, laid.text]
    exact String.empty_append
  have values : clause.parameters = (m.layout c.root).values := parameters.trans laid.values
  refine ⟨text, values, ?_⟩
  rw [text, values, m.isFramed_layout unmarked c.root 1, List.range'_eq_map_range, List.map_map]
  simp only [Function.comp_def, Nat.add_comm 1]

theorem generate_lines_up_books :
    generate .standard booksMapping ⟨books, booksRoot⟩ = .ok booksClause ∧
      booksClause.sql = (booksMapping.layout booksRoot).fill .postgres 1 ∧
        booksClause.parameters = (booksMapping.layout booksRoot).values ∧
          Platform.postgres.marks booksClause.sql.toList =
            (List.range 5).map fun k => (Platform.postgres.placeholder (k + 1)).toList := by
  have generated : generate .standard booksMapping ⟨books, booksRoot⟩ = .ok booksClause := rfl
  refine ⟨generated, generate_lines_up (fun _ => rfl) ?_ generated⟩
  intro name column found
  have mem := (Keyed.get?_eq_some_iff _ _ _).mp found
  simp only [booksMapping, List.mem_cons, Prod.mk.injEq, List.not_mem_nil, or_false] at mem
  rcases mem with ⟨-, rfl⟩ | ⟨-, rfl⟩ <;> decide

end Criteria.Sql
