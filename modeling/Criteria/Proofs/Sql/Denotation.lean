import Criteria.Proofs.Sql.Patterns

/-!
# What clauses denote

The clause of a condition reads as a formula that comes out, in every interpretation of its tests, as the condition
says.  The clause is empty if the condition has no entries, and only then.
-/

namespace Criteria.Sql

/-- How the entries about a field come out in an interpretation of the tests of its column. -/
def Interpretation.tests (I : Interpretation) (platform : Platform) (column : String) : Tests where
  equals v := I.holds (valueTest column .equal v)
  within r := rangeHolds I column r
  passes c := I.holds (valueTest column (.ofOperator c.operator) c.value)
  fits m := I.holds (matchTest platform column m false)

/-! ## Bags -/

/-- The values that the tests of a bag denote if they let rows in. -/
def admittingValues (platform : Platform) (column : String) (bag : Bag) : List (Interpretation → Bool) :=
  (bag.singles.map fun s I => I.holds (valueTest column .equal s.value)) ++
    (bag.ranges.map fun r I => false != rangeHolds I column r) ++
    ((bag.comparisons.filter fun c => !c.operator.narrows).map fun c I =>
      I.holds (valueTest column (.ofOperator c.operator) c.value)) ++
    (bag.textMatches.filter fun m => !m.negated).map fun m I => I.holds (matchTest platform column m m.negated)

/-- The values that the tests of a bag denote if they take rows away. -/
def narrowingValues (platform : Platform) (column : String) (bag : Bag) : List (Interpretation → Bool) :=
  (bag.excludedSingles.map fun s I => I.holds (valueTest column .unequal s.value)) ++
    (bag.excludedRanges.map fun r I => true != rangeHolds I column r) ++
    ((bag.comparisons.filter fun c => c.operator.narrows).map fun c I =>
      I.holds (valueTest column (.ofOperator c.operator) c.value)) ++
    (bag.textMatches.filter fun m => m.negated).map fun m I => I.holds (matchTest platform column m m.negated)

section
variable (platform : Platform) (column : String)

theorem isEmpty_admittingValues (bag : Bag) : (admittingValues platform column bag).isEmpty = !bag.widens := by
  rw [Bool.eq_iff_iff]
  simp [admittingValues, Bag.widens, List.filter_eq_nil_iff, and_assoc]

theorem admits_match (I : Interpretation) (m : TextMatch) :
    (!m.negated && I.holds (matchTest platform column m m.negated)) =
      (!m.negated && I.holds (matchTest platform column m false)) := by
  rw [I.holds_matchTest platform column m m.negated]
  cases m.negated with
  | true => rfl
  | false => exact congrArg (true && ·) (Bool.false_bne _)

theorem any_admittingValues (bag : Bag) (I : Interpretation) :
    ((admittingValues platform column bag).any fun value => value I) =
      (I.tests platform column).admits bag := by
  simp only [admittingValues, Tests.admits, Interpretation.tests, List.any_append, List.any_map, List.any_filter,
    Function.comp_def, Bool.false_bne, admits_match]

theorem narrows_comparison (I : Interpretation) (c : Comparison) :
    (!c.operator.narrows || I.holds (valueTest column (.ofOperator c.operator) c.value)) =
      !(c.operator.narrows && I.holds (valueTest column .equal c.value)) := by
  cases c.operator with
  | notEqual => exact I.unequal _ _
  | _ => rfl

theorem narrows_match (I : Interpretation) (m : TextMatch) :
    (!m.negated || I.holds (matchTest platform column m m.negated)) =
      !(m.negated && I.holds (matchTest platform column m false)) := by
  rw [I.holds_matchTest platform column m m.negated]
  cases m.negated with
  | true => exact Bool.true_bne _
  | false => rfl

theorem all_narrowingValues (bag : Bag) (I : Interpretation) :
    ((narrowingValues platform column bag).all fun value => value I) =
      !(I.tests platform column).refuses bag := by
  have unequal (v : Value) : I.holds (valueTest column .unequal v) = !I.holds (valueTest column .equal v) :=
    I.unequal _ _
  simp only [narrowingValues, Tests.refuses, Interpretation.tests, List.all_append, List.all_map, List.all_filter,
    Function.comp_def, Bool.true_bne, unequal, narrows_comparison, narrows_match, Bool.not_or,
    List.not_any_eq_all_not]

/-- The values of the tests of a bag, put together, are what the bag says. -/
theorem accepts_eq (bag : Bag) (I : Interpretation) :
    (((admittingValues platform column bag).isEmpty ||
        (admittingValues platform column bag).any fun value => value I) &&
      (narrowingValues platform column bag).all fun value => value I) =
      (I.tests platform column).accepts bag := by
  rw [isEmpty_admittingValues, any_admittingValues, all_narrowingValues, Tests.accepts]

theorem eq_nil_of_filters {α : Type} {p : α → Bool} {xs : List α} (holding : xs.filter p = [])
    (failing : xs.filter (fun x => !p x) = []) : xs = [] := by
  rw [List.filter_eq_nil_iff] at holding failing
  rw [List.eq_nil_iff_forall_not_mem]
  intro x mem
  have fails := holding x mem
  have holds := failing x mem
  rw [Bool.not_eq_true', Bool.not_eq_false] at holds
  exact fails holds

theorem isEmpty_of_values {bag : Bag}
    (h : admittingValues platform column bag ++ narrowingValues platform column bag = []) :
    bag.isEmpty = true := by
  simp only [admittingValues, narrowingValues, List.append_eq_nil_iff, List.map_eq_nil_iff] at h
  rcases h with ⟨⟨⟨⟨singles, ranges⟩, wide⟩, positive⟩, ⟨⟨excludedSingles, excludedRanges⟩, narrow⟩, negative⟩
  rw [Bag.isEmpty_iff]
  exact ⟨singles, excludedSingles, ranges, excludedRanges, eq_nil_of_filters narrow wide,
    eq_nil_of_filters negative positive⟩

end

/-- The tests of a bag with entries denote what the bag says. -/
theorem Target.ensures_bag {t : Target} (plain : IsPlain t.column) (unconverted : t.converters = none) {bag : Bag}
    (nonempty : bag.isEmpty = false) :
    Ensures t.platform (t.bag bag) fun before after e =>
      Denotes before after (.joined .any) e fun I => (I.tests t.platform t.column).accepts bag := by
  have value (sign : String) (comparator : Comparator) (same : comparator.sign = sign) (s : Single) :=
    ensures_compare plain unconverted same s.value
  have comparison (c : Comparison) :=
    ensures_compare plain unconverted (Comparator.sign_ofOperator c.operator) c.value
  have range (excluded : Bool) (r : Range) := ensures_range plain unconverted r excluded
  have pattern (m : TextMatch) := ensures_textMatch plain unconverted m
  apply (ensures_mapM (value "=" .equal rfl) bag.singles).bind
  intro singles _
  apply (ensures_mapM (range false) bag.ranges).bind
  intro ranges _
  apply (ensures_mapM comparison _).bind
  intro comparisons _
  apply (ensures_mapM pattern _).bind
  intro positives _
  apply (ensures_mapM (value "<>" .unequal rfl) bag.excludedSingles).bind
  intro excludedSingles _
  apply (ensures_mapM (range true) bag.excludedRanges).bind
  intro excludedRanges _
  apply (ensures_mapM comparison _).bind
  intro inequalities _
  apply (ensures_mapM pattern _).bind
  intro mismatches _
  apply ensures_pure
  intro after h8 h7 h6 h5 h4 h3 h2 h1
  have admits := ((h1.append h2).append h3).append h4
  have narrows := ((h5.append h6).append h7).append h8
  have some : (singles ++ ranges ++ comparisons ++ positives) ++
      (excludedSingles ++ excludedRanges ++ inequalities ++ mismatches) ≠ [] := by
    intro none
    have noValues := (admits.append narrows).isEmpty_eq
    rw [none, List.isEmpty_nil, eq_comm, List.isEmpty_iff] at noValues
    have noEntries := isEmpty_of_values t.platform t.column noValues
    rw [nonempty] at noEntries
    cases noEntries
  apply (admits.admitting narrows some).congr
  intro I
  exact accepts_eq t.platform t.column bag I

/-! ## Groups -/

namespace Mapping

variable {m : Mapping}

/-- How the entries about each field come out in an interpretation of the tests of its column. -/
def tests (m : Mapping) (I : Interpretation) (name : String) : Tests :=
  I.tests m.platform ((m.columns.get? name).getD "")

/-- No field has a converter, and every column is plain. -/
structure IsPlain (m : Mapping) : Prop where
  unconverted : ∀ name, m.converters.get? name = none
  columns : ∀ name column, m.columns.get? name = some column → Sql.IsPlain column

/-- Parts that come from a number of entries denote given answers, and there are none if there are no entries. -/
def Answered (count : Nat) (answers : Interpretation → List Bool) (before after : List Value) (es : List Expr) :
    Prop :=
  ∃ values, Denoted before after es values ∧ (es = [] ↔ count = 0) ∧
    ∀ I, (values.map fun value => value I) = answers I

theorem answered_nil (values : List Value) : Answered 0 (fun _ => []) values values [] :=
  ⟨[], .nil values, ⟨fun _ => rfl, fun _ => rfl⟩, fun _ => rfl⟩

theorem Answered.cons {count others : Nat} {answers : Interpretation → List Bool}
    {before middle after : List Value} {e : Expr} {es : List Expr} {value : Interpretation → Bool}
    (some : count ≠ 0) (first : Denotes before middle .single e value)
    (second : Answered others answers middle after es) :
    Answered (count + others) (fun I => value I :: answers I) before after (e :: es) := by
  rcases second with ⟨values, denoted, -, same⟩
  refine ⟨value :: values, .cons first denoted, ?_, ?_⟩
  · rw [Nat.add_eq_zero_iff]
    exact ⟨fun absent => absurd absent (List.cons_ne_nil _ _), fun absent => absurd absent.1 some⟩
  · intro I
    rw [List.map_cons, same I]

theorem Answered.append {count others : Nat} {answers otherAnswers : Interpretation → List Bool}
    {before middle after : List Value} {es otherParts : List Expr} (first : Answered count answers before middle es)
    (second : Answered others otherAnswers middle after otherParts) :
    Answered (count + others) (fun I => answers I ++ otherAnswers I) before after (es ++ otherParts) := by
  rcases first with ⟨values, denoted, none, same⟩
  rcases second with ⟨otherValues, otherDenoted, otherNone, otherSame⟩
  refine ⟨values ++ otherValues, denoted.append otherDenoted, ?_, ?_⟩
  · rw [List.append_eq_nil_iff, none, otherNone, Nat.add_eq_zero_iff]
  · intro I
    rw [List.map_append, same I, otherSame I]

/-- The parts that come from bags denote what the bags say. -/
theorem ensures_bags (plain : m.IsPlain) (entries : List (String × Bag)) :
    Ensures m.platform (m.bags entries) (Answered ((entries.map fun entry => entry.2.count).foldr (· + ·) 0) fun I =>
      (entries.filter fun entry => !entry.2.isEmpty).map fun entry => (m.tests I entry.1).accepts entry.2) := by
  induction entries with
  | nil =>
      apply ensures_pure
      exact answered_nil
  | cons entry entries ih =>
      rcases entry with ⟨name, bag⟩
      unfold bags
      cases empty : bag.isEmpty with
      | true =>
          have count : bag.count = 0 := by rwa [Bag.isEmpty, beq_iff_eq] at empty
          simpa [empty, count] using ih
      | false =>
          have count : bag.count ≠ 0 := by rwa [Bag.isEmpty, beq_eq_false_iff_ne] at empty
          simp only [Bool.false_eq_true, if_false]
          apply ensures_lift_bind
          intro t found
          obtain ⟨column, converters, platform⟩ := target_eq_ok found
          rw [plain.unconverted] at converters
          have made := Target.ensures_bag (plain.columns name t.column column) converters empty
          rw [platform] at made
          apply made.bind
          intro part _
          apply ih.bind
          intro parts _
          apply ensures_pure
          intro after answered denotes
          have both := answered.cons count denotes.paren
          simpa only [List.map_cons, List.foldr_cons, List.filter_cons, empty, Bool.not_false, if_true, tests, column,
            Option.getD_some] using both

/-- What is made of a group: nothing if there are no entries in it, and otherwise an expression that denotes what it
says. -/
inductive Renders (m : Mapping) (group : Group) : List Value → List Value → Expr → Prop where
  | nothing (values : List Value) {e : Expr} (count : group.count = 0)
      (silent : ∀ I, group.meaning (m.tests I) = none) (empty : e.isEmpty = true) :
      Renders m group values values e
  | something {before after : List Value} {e : Expr} {value : Interpretation → Bool} (count : group.count ≠ 0)
      (meaning : ∀ I, group.meaning (m.tests I) = some (value I)) (shown : e.isEmpty = false)
      (denotes : Denotes before after (.joined .any) e value) : Renders m group before after e

/-- The parts that come from groups below denote what these say. -/
theorem ensures_belowParts {groups : List Group}
    (h : ∀ group ∈ groups, Ensures m.platform (m.group group) (m.Renders group)) :
    Ensures m.platform (belowParts (groups.map m.group)) (Answered ((groups.map Group.count).foldr (· + ·) 0) fun I =>
      groups.filterMap (Group.meaning (m.tests I))) := by
  induction groups with
  | nil =>
      apply ensures_pure
      exact answered_nil
  | cons group groups ih =>
      obtain ⟨here, later⟩ := List.forall_mem_cons.mp h
      rw [List.map_cons, belowParts]
      apply here.bind
      intro part _
      apply (ih later).bind
      intro parts _
      apply ensures_pure
      intro after answered renders
      cases renders with
      | nothing count silent empty =>
          simpa only [empty, if_true, List.map_cons, List.foldr_cons, count, Nat.zero_add, List.filterMap_cons,
            silent] using answered
      | something count meaning shown denotes =>
          have both := answered.cons count denotes.paren
          simpa only [shown, Bool.false_eq_true, if_false, List.map_cons, List.foldr_cons, List.filterMap_cons,
            meaning] using both

theorem isEmpty_join (logical : Logical) (parts : List Expr) : (Expr.join logical parts).isEmpty = parts.isEmpty := by
  cases logical <;> rfl

/-- What is made of a group denotes what the group says. -/
theorem ensures_group (plain : m.IsPlain) (group : Group) :
    Ensures m.platform (m.group group) (m.Renders group) := by
  induction group with
  | step logical fields groups ih =>
      have opened : m.group (.mk logical fields groups) = do
          let bags ← m.bags fields.entries
          let below ← belowParts (groups.map m.group)
          return .join logical (bags ++ below) := by
        rw [Mapping.group, Group.fold_mk]
      have count : (Group.mk logical fields groups).count =
          (fields.entries.map fun entry => entry.2.count).foldr (· + ·) 0 +
            (groups.map Group.count).foldr (· + ·) 0 := by
        rw [Group.count, Group.fold_mk, Keyed.values, List.map_map]
        rfl
      rw [opened]
      apply (ensures_bags plain fields.entries).bind
      intro bags _
      apply (ensures_belowParts ih).bind
      intro below _
      apply ensures_pure
      intro after answeredBelow answeredBags
      obtain ⟨values, denoted, none, answers⟩ := answeredBags.append answeredBelow
      have meaning (I : Interpretation) : (Group.mk logical fields groups).meaning (m.tests I) =
          logical.combine (values.map fun value => value I) := by
        rw [Group.meaning_mk, answers I, bagAnswers]
      rw [← count] at none
      generalize bags ++ below = parts at denoted none ⊢
      cases denoted with
      | nil =>
          apply Renders.nothing
          · exact none.mp rfl
          · intro I
            rw [meaning I]
            rfl
          · exact isEmpty_join logical []
      | cons first others =>
          have denotes := (Denoted.cons first others).join (List.cons_ne_nil _ _) logical
          apply Renders.something _ _ _ denotes.anyLevel
          · intro zero
            exact absurd (none.mpr zero) (List.cons_ne_nil _ _)
          · intro I
            rw [meaning I]
            rfl
          · exact isEmpty_join logical _

end Mapping

/-! ## Clauses -/

theorem Expr.sql_of_isEmpty {e : Expr} (h : e.isEmpty = true) : e.sql = "" := by
  cases e with
  | test sql => cases h
  | paren inner => cases h
  | all parts =>
      cases parts with
      | nil => rw [sql, sqlList, String.intercalate_nil]
      | cons part parts => cases h
  | any parts =>
      cases parts with
      | nil => rw [sql, sqlList, String.intercalate_nil]
      | cons part parts => cases h

/-- The expression of a condition becomes its clause. -/
theorem generate_eq_ok {limits : Limits} {m : Mapping} {c : Condition} {clause : WhereClause}
    (generated : generate limits m c = .ok clause) :
    ∃ e d, m.group c.root (.start m.platform) = .ok (e, d) ∧ clause.sql = d.sql ++ e.sql ∧
      clause.parameters = d.parameters := by
  unfold generate at generated
  split at generated
  · cases made : m.group c.root (.start m.platform) with
    | error e =>
        rw [made] at generated
        cases generated
    | ok pair =>
        rw [made] at generated
        cases generated
        exact ⟨pair.1, pair.2, rfl, rfl, rfl⟩
  · cases generated

/-- The clause of a condition is empty if the condition has no entries, and only then; any other clause reads with
its parameters as a formula that holds where the condition lets rows in. -/
theorem generate_denotes {limits : Limits} {m : Mapping} {c : Condition} {clause : WhereClause} (plain : m.IsPlain)
    (generated : generate limits m c = .ok clause) :
    (clause.sql = "" ↔ c.root.count = 0) ∧
      (clause.sql ≠ "" → ∃ f, formula? clause.sql clause.parameters = some f ∧
        ∀ I, c.root.meaning (m.tests I) = some (f.holds I)) := by
  obtain ⟨e, d, made, sql, parameters⟩ := generate_eq_ok generated
  obtain ⟨bound, renders⟩ := m.ensures_group plain c.root (.start m.platform) d e rfl made
  have text : clause.sql = e.sql := by
    rw [sql, bound]
    exact String.empty_append
  rw [← parameters] at renders
  -- Nothing is bound before the root, so the placeholders of the whole text count from its beginning.
  generalize start : (Draft.start m.platform).parameters = before at renders
  generalize clause.parameters = after at renders ⊢
  cases renders with
  | nothing count silent empty =>
      have noText : clause.sql = "" := text.trans (Expr.sql_of_isEmpty empty)
      exact ⟨⟨fun _ => count, fun _ => noText⟩, fun some => absurd noText some⟩
  | something count meaning shown denotes =>
      rcases denotes with ⟨symbols, spells, reads⟩
      obtain ⟨tokens, lexes, resolves⟩ := spells.reads
      have spelled : resolve after 0 (lex clause.sql.toList) = symbols := by
        have whole := resolves after List.prefix_rfl []
        rw [← start, resolve, List.append_nil, List.append_nil] at whole
        rw [text, lex_eq lexes]
        exact whole
      obtain ⟨f, read, holds⟩ := formula?_eq_some spelled reads
      have someText : clause.sql ≠ "" := by
        intro noText
        rw [noText] at read
        cases read
      refine ⟨⟨fun noText => absurd noText someText, fun zero => absurd zero count⟩, fun _ => ⟨f, read, ?_⟩⟩
      intro I
      rw [meaning I, holds I]

/-- Books with a title and a year. -/
def books : Schema :=
  ⟨"books", [.text "title", .integer "year"], by decide⟩

/-- Two titles and a pattern that is not wanted, an empty group, and a group that excludes a half-open range. -/
def booksRoot : Group :=
  .mk .any ⟨[("title", .ofList [.single ⟨.string "a", "a"⟩, .single ⟨.string "b", "b"⟩,
    .textMatch ⟨"c", .contains, true, false⟩])], by decide⟩
    [.empty .all, .mk .all ⟨[("year", .ofList [.excludedRange
      ⟨.integer 1990, .integer 2000, true, false, "1990", "2000"⟩])], by decide⟩ []]

/-- The columns of books, without converters. -/
def booksMapping : Mapping :=
  ⟨books, .postgres, ⟨[("title", "title"), ("year", "year_published")], by decide⟩, .empty⟩

/-- The clause of these entries. -/
def booksClause : WhereClause where
  sql := "((title = $1 OR title = $2) AND title NOT LIKE $3) OR (((year_published < $4 OR year_published >= $5)))"
  parameters := [.string "a", .string "b", .string "%c%", .integer 1990, .integer 2000]

theorem booksMapping_isPlain : booksMapping.IsPlain := by
  constructor
  · intro name
    rfl
  · intro name column found
    have mem := (Keyed.get?_eq_some_iff _ _ _).mp found
    simp only [booksMapping, List.mem_cons, Prod.mk.injEq, List.not_mem_nil, or_false] at mem
    rcases mem with ⟨-, rfl⟩ | ⟨-, rfl⟩
    · constructor <;> decide
    · constructor <;> decide

theorem generate_denotes_books :
    generate .standard booksMapping ⟨books, booksRoot⟩ = .ok booksClause ∧
      (booksClause.sql = "" ↔ booksRoot.count = 0) ∧
        (booksClause.sql ≠ "" → ∃ f, formula? booksClause.sql booksClause.parameters = some f ∧
          ∀ I, booksRoot.meaning (booksMapping.tests I) = some (f.holds I)) := by
  have generated : generate .standard booksMapping ⟨books, booksRoot⟩ = .ok booksClause := rfl
  exact ⟨generated, generate_denotes booksMapping_isPlain generated⟩

example : formula? "(a = ? OR b < ?) AND c NOT LIKE ?" [.integer 1, .integer 2, .string "%d"] =
    some (.join .all
      (.join .any (.test (.compare .equal (.column ['a']) (.parameter (.integer 1))))
        (.test (.compare .less (.column ['b']) (.parameter (.integer 2)))))
      (.test (.fits true .like (.column ['c']) (.parameter (.string "%d")) none))) := by
  decide +kernel

end Criteria.Sql
