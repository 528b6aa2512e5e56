import Criteria.Proofs.Sql.Denotation

/-!
# Clauses do not show values

The text of a clause without converters depends on the tree of a condition, on the fields in it and on how many entries
of which form are about each of them.  Values, views and the texts of patterns do not show: they are bound, and two
conditions that agree but for them have clauses with the same text and as many parameters, or fail alike.
-/

namespace Criteria

/-! ## Conditions without what is in their entries -/

/-- A single value without the value. -/
def Single.redacted (_ : Single) : Single :=
  ⟨.boolean false, ""⟩

/-- A range without its bounds. -/
def Range.redacted (r : Range) : Range :=
  ⟨.boolean false, .boolean false, r.includesLower, r.includesUpper, "", ""⟩

/-- A comparison without the value. -/
def Comparison.redacted (c : Comparison) : Comparison :=
  ⟨.boolean false, c.operator, ""⟩

/-- A pattern without its text. -/
def TextMatch.redacted (m : TextMatch) : TextMatch :=
  ⟨"", m.kind, m.negated, m.ignoresCase⟩

/-- A bag without what is in its entries. -/
def Bag.redacted (bag : Bag) : Bag where
  singles := bag.singles.map Single.redacted
  excludedSingles := bag.excludedSingles.map Single.redacted
  ranges := bag.ranges.map Range.redacted
  excludedRanges := bag.excludedRanges.map Range.redacted
  comparisons := bag.comparisons.map Comparison.redacted
  textMatches := bag.textMatches.map TextMatch.redacted

@[simp] theorem Bag.isEmpty_redacted (bag : Bag) : bag.redacted.isEmpty = bag.isEmpty := by
  simp [redacted, isEmpty, count]

/-- A tree without what is in its entries. -/
def Group.redacted : Group → Group :=
  mapBags fun _ => Bag.redacted

theorem Group.redacted_mk (logical : Logical) (fields : Keyed Bag) (groups : List Group) :
    (mk logical fields groups).redacted = mk logical (fields.map fun _ => Bag.redacted) (groups.map redacted) :=
  mapBags_mk _ logical fields groups

namespace Sql

variable {α β γ : Type}

/-! ## Makings that write the same -/

/-- A draft without the values that are bound. -/
def Draft.outline (d : Draft) : Platform × String × Nat :=
  (d.platform, d.sql, d.parameters.length)

theorem Draft.outline_eq_iff {d d' : Draft} :
    d.outline = d'.outline ↔
      d.platform = d'.platform ∧ d.sql = d'.sql ∧ d.parameters.length = d'.parameters.length := by
  rw [outline, outline, Prod.mk.injEq, Prod.mk.injEq]

/-- Two makings give the same and bind as many values, or fail alike, wherever as many values are bound before. -/
def Parallel (x y : Making α) : Prop :=
  ∀ d d' : Draft, d.outline = d'.outline →
    SameOutcome (fun p q => p.1 = q.1 ∧ p.2.outline = q.2.outline) (x d) (y d')

theorem parallel_pure (a : α) : Parallel (pure a) (pure a) :=
  fun _ _ same => .ok ⟨rfl, same⟩

theorem parallel_throw (e : SqlError) : Parallel (throw e : Making α) (throw e) :=
  fun _ _ _ => .error e

theorem Parallel.bind {x y : Making α} {f g : α → Making β} (first : Parallel x y)
    (second : ∀ a, Parallel (f a) (g a)) : Parallel (x >>= f) (y >>= g) := by
  intro d d' same
  refine (first d d' same).bind ?_
  rintro ⟨a, e⟩ ⟨_, e'⟩ ⟨rfl, still⟩
  exact second a e e' still

theorem parallel_lift_bind {outcome : Except SqlError α} {f g : α → Making β}
    (h : ∀ a, outcome = .ok a → Parallel (f a) (g a)) : Parallel (liftM outcome >>= f) (liftM outcome >>= g) := by
  cases outcome with
  | error e => exact parallel_throw e
  | ok a => exact h a rfl

/-- Whatever is bound, the placeholder is the same. -/
theorem parallel_bindValue (v w : Value) : Parallel (bindValue v) (bindValue w) := by
  intro d d' same
  obtain ⟨platform, sql, length⟩ := Draft.outline_eq_iff.mp same
  refine .ok ⟨?_, ?_⟩
  · simp only [Draft.bind, platform, length]
  · simp only [Draft.bind, Draft.outline, platform, sql, List.length_append, length, List.length_singleton]

theorem parallel_mapM {shape : α → γ} {f g : α → Making β} (h : ∀ a b, shape a = shape b → Parallel (f a) (g b))
    {as bs : List α} (same : as.map shape = bs.map shape) : Parallel (as.mapM f) (bs.mapM g) := by
  induction as generalizing bs with
  | nil =>
      cases bs with
      | nil => exact parallel_pure []
      | cons b bs => cases same
  | cons a as ih =>
      cases bs with
      | nil => cases same
      | cons b bs =>
          rw [List.map_cons, List.map_cons, List.cons.injEq] at same
          rw [List.mapM_cons, List.mapM_cons]
          apply (h a b same.1).bind
          intro e
          apply (ih same.2).bind
          intro es
          exact parallel_pure (e :: es)

theorem map_filter_eq (shape : α → α) (p : α → Bool) (keeps : ∀ a, p (shape a) = p a) {as bs : List α}
    (same : as.map shape = bs.map shape) : (as.filter p).map shape = (bs.filter p).map shape := by
  have filtered (xs : List α) : (xs.map shape).filter p = (xs.filter p).map shape := by
    rw [List.filter_map]
    exact congrArg (List.map shape) (List.filter_congr fun a _ => keeps a)
  rw [← filtered, same, filtered]

/-! ## Tests -/

namespace Target

variable {t : Target}

theorem parallel_compare (unconverted : t.converters = none) (sign : String) (v w : Value) :
    Parallel (t.compare sign v) (t.compare sign w) := by
  simp only [compare, columnSql_of_unconverted unconverted, bind_of_unconverted unconverted]
  exact (parallel_bindValue v w).bind fun _ => parallel_pure _

theorem parallel_comparison (unconverted : t.converters = none) {c d : Comparison} (same : c.redacted = d.redacted) :
    Parallel (t.compare c.operator.sign c.value) (t.compare d.operator.sign d.value) := by
  obtain ⟨-, operator, -⟩ := Comparison.mk.inj same
  rw [operator]
  exact parallel_compare unconverted _ _ _

theorem parallel_range (unconverted : t.converters = none) (excluded : Bool) {r q : Range}
    (same : r.redacted = q.redacted) : Parallel (t.range r excluded) (t.range q excluded) := by
  obtain ⟨-, -, includesLower, includesUpper, -⟩ := Range.mk.inj same
  simp only [range, columnSql_of_unconverted unconverted, bind_of_unconverted unconverted, includesLower, includesUpper]
  exact (parallel_bindValue _ _).bind fun _ => (parallel_bindValue _ _).bind fun _ => parallel_pure _

theorem parallel_textMatch (unconverted : t.converters = none) {m n : TextMatch} (same : m.redacted = n.redacted) :
    Parallel (t.textMatch m) (t.textMatch n) := by
  obtain ⟨-, kind, negated, ignoresCase⟩ := TextMatch.mk.inj same
  unfold textMatch
  simp only [columnSql_of_unconverted unconverted, kind, negated, ignoresCase]
  cases n.kind with
  | equals =>
      apply (parallel_bindValue _ _).bind
      intro placeholder
      split <;> exact parallel_pure _
  | regex =>
      apply (parallel_bindValue _ _).bind
      intro placeholder
      cases t.platform.regexSql t.column placeholder n.negated n.ignoresCase with
      | ok sql => exact parallel_pure _
      | error reason => exact parallel_throw _
  | _ => exact (parallel_bindValue _ _).bind fun _ => parallel_pure _

theorem parallel_bag (unconverted : t.converters = none) {a b : Bag} (same : a.redacted = b.redacted) :
    Parallel (t.bag a) (t.bag b) := by
  obtain ⟨singles, excludedSingles, ranges, excludedRanges, comparisons, textMatches⟩ := Bag.mk.inj same
  have value (sign : String) (s u : Single) (_ : s.redacted = u.redacted) :=
    parallel_compare unconverted sign s.value u.value
  have comparison (c d : Comparison) := @parallel_comparison t unconverted c d
  have range (excluded : Bool) (r q : Range) := @parallel_range t unconverted excluded r q
  have pattern (m n : TextMatch) := @parallel_textMatch t unconverted m n
  have comparisonsThat (p : Operator → Bool) :=
    map_filter_eq Comparison.redacted (fun c => p c.operator) (fun _ => rfl) comparisons
  have matchesThat (p : Bool → Bool) :=
    map_filter_eq TextMatch.redacted (fun m => p m.negated) (fun _ => rfl) textMatches
  apply (parallel_mapM (value "=") singles).bind
  intro _
  apply (parallel_mapM (range false) ranges).bind
  intro _
  apply (parallel_mapM comparison (comparisonsThat fun o => !o.narrows)).bind
  intro _
  apply (parallel_mapM pattern (matchesThat (!·))).bind
  intro _
  apply (parallel_mapM (value "<>") excludedSingles).bind
  intro _
  apply (parallel_mapM (range true) excludedRanges).bind
  intro _
  apply (parallel_mapM comparison (comparisonsThat Operator.narrows)).bind
  intro _
  apply (parallel_mapM pattern (matchesThat id)).bind
  intro _
  exact parallel_pure _

end Target

/-! ## Groups -/

namespace Mapping

variable {m : Mapping}

theorem parallel_bags (unconverted : ∀ name, m.converters.get? name = none) {entries others : List (String × Bag)}
    (same : entries.map (fun entry => (entry.1, entry.2.redacted)) =
      others.map fun entry => (entry.1, entry.2.redacted)) : Parallel (m.bags entries) (m.bags others) := by
  induction entries generalizing others with
  | nil =>
      cases others with
      | nil => exact parallel_pure []
      | cons entry others => cases same
  | cons entry entries ih =>
      cases others with
      | nil => cases same
      | cons other others =>
          rcases entry with ⟨name, bag⟩
          rcases other with ⟨_, otherBag⟩
          rw [List.map_cons, List.map_cons, List.cons.injEq, Prod.mk.injEq] at same
          obtain ⟨⟨rfl, bags⟩, later⟩ := same
          have empty : bag.isEmpty = otherBag.isEmpty := by
            rw [← bag.isEmpty_redacted, bags, Bag.isEmpty_redacted]
          unfold Mapping.bags
          rw [empty]
          split
          · exact ih later
          · apply parallel_lift_bind
            intro t found
            obtain ⟨-, converters, -⟩ := target_eq_ok found
            apply (t.parallel_bag (converters.trans (unconverted name)) bags).bind
            intro part
            apply (ih later).bind
            intro parts
            exact parallel_pure _

theorem parallel_belowParts {groups others : List Group} (same : groups.map Group.redacted = others.map Group.redacted)
    (h : ∀ g ∈ groups, ∀ other, g.redacted = other.redacted → Parallel (m.group g) (m.group other)) :
    Parallel (belowParts (groups.map m.group)) (belowParts (others.map m.group)) := by
  induction groups generalizing others with
  | nil =>
      cases others with
      | nil => exact parallel_pure []
      | cons other others => cases same
  | cons group groups ih =>
      cases others with
      | nil => cases same
      | cons other others =>
          rw [List.map_cons, List.map_cons, List.cons.injEq] at same
          obtain ⟨here, later⟩ := List.forall_mem_cons.mp h
          rw [List.map_cons, List.map_cons, belowParts, belowParts]
          apply (here other same.1).bind
          intro part
          apply (ih same.2 later).bind
          intro parts
          exact parallel_pure _

/-- What is made of groups that agree but for what is in their entries is the same. -/
theorem parallel_group (unconverted : ∀ name, m.converters.get? name = none) {a b : Group}
    (same : a.redacted = b.redacted) : Parallel (m.group a) (m.group b) := by
  -- The induction is on the first tree; the second one is taken apart along with it.
  induction a generalizing b with
  | step logical fields groups ih =>
      rcases b with ⟨_, otherFields, others⟩
      rw [Group.redacted_mk, Group.redacted_mk, Group.mk.injEq] at same
      obtain ⟨rfl, bags, below⟩ := same
      have entries := congrArg Keyed.entries bags
      rw [Keyed.entries_map, Keyed.entries_map] at entries
      rw [Mapping.group, Group.fold_mk, Group.fold_mk]
      apply (parallel_bags unconverted entries).bind
      intro parts
      apply (parallel_belowParts below fun g mem other => ih g mem).bind
      intro partsBelow
      exact parallel_pure _

end Mapping

/-! ## Clauses -/

/-- Valid conditions that agree but for what is in their entries have clauses with the same text and as many parameters,
or fail with the same error. -/
theorem generate_blind {limits : Limits} {m : Mapping} {a b : Condition}
    (unconverted : ∀ name, m.converters.get? name = none) (same : a.root.redacted = b.root.redacted)
    (firstValid : a.problems limits = []) (secondValid : b.problems limits = []) :
    SameOutcome (fun v w => v.sql = w.sql ∧ v.parameters.length = w.parameters.length) (generate limits m a)
      (generate limits m b) := by
  have made := m.parallel_group unconverted same (.start m.platform) (.start m.platform) rfl
  rw [generate, firstValid, generate, secondValid]
  generalize m.group a.root (.start m.platform) = first at made ⊢
  generalize m.group b.root (.start m.platform) = second at made ⊢
  cases made with
  | error e => exact .error e
  | @ok p q related =>
      obtain ⟨sameExpr, sameOutline⟩ := related
      obtain ⟨-, sameSql, sameLength⟩ := Draft.outline_eq_iff.mp sameOutline
      refine .ok ⟨?_, sameLength⟩
      simp only [Draft.push, sameSql, sameExpr]

/-- Two other titles, another pattern and another range. -/
def otherBooksRoot : Group :=
  .mk .any ⟨[("title", .ofList [.single ⟨.string "' OR 1 = 1 --", "?"⟩, .single ⟨.string "$1", "$1"⟩,
    .textMatch ⟨"%", .contains, true, false⟩])], by decide⟩
    [.empty .all, .mk .all ⟨[("year", .ofList [.excludedRange
      ⟨.integer 1, .integer 2, true, false, "one", "two"⟩])], by decide⟩ []]

theorem generate_blind_books :
    SameOutcome (fun v w => v.sql = w.sql ∧ v.parameters.length = w.parameters.length)
      (generate .standard booksMapping ⟨books, booksRoot⟩) (generate .standard booksMapping ⟨books, otherBooksRoot⟩) :=
  generate_blind (fun _ => rfl) rfl (by decide) (by decide)

end Sql

end Criteria
