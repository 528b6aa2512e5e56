import Criteria.Proofs.Refine.Likeness
import Criteria.Proofs.Refine.NormalForm

/-!
# The order of values does not matter

Which of equal values is kept, where a sort puts values that do not compare, and which of two equal ranges stays all
depend on places.  But what is found in the end does not.  Lined up, two lists that hold the same values differ in the
places of values that do not compare, no step leads from these or to these, and so the runs of both lists match one by
one and make the same values superfluous.
-/

namespace Criteria

namespace Refine

/-! ## Runs of values -/

theorem forall₂_splitRuns {α : Type} {R : α → α → Prop} {follows : α → α → Bool}
    (congr : ∀ a b c d, R a b → R c d → follows a c = follows b d) {xs ys : List α} (h : List.Forall₂ R xs ys) :
    List.Forall₂ (List.Forall₂ R) (splitRuns follows xs) (splitRuns follows ys) := by
  induction h with
  | nil => exact .nil
  | @cons x y xs ys here later ih =>
      cases later with
      | nil => exact .cons (.cons here .nil) .nil
      | @cons x' y' xs ys next later =>
          obtain ⟨run, runs, found, split⟩ := splitRuns_cons_cons follows x x' xs
          obtain ⟨run', runs', found', split'⟩ := splitRuns_cons_cons follows y y' ys
          rw [found, found'] at ih
          rw [split, split', congr x y x' y' here next]
          cases ih with
          | cons first others =>
              split
              · exact .cons (.cons here first) others
              · exact .cons (.cons here .nil) (.cons first others)

theorem forall₂_getLastD {α : Type} {R : α → α → Prop} {x y : α} {xs ys : List α}
    (h : List.Forall₂ R (x :: xs) (y :: ys)) : R (xs.getLastD x) (ys.getLastD y) := by
  induction xs generalizing x y ys with
  | nil =>
      cases h with
      | cons here later =>
          cases later
          exact here
  | cons x' xs ih =>
      cases h with
      | cons here later =>
          cases later with
          | cons next later =>
              rw [List.getLastD_cons, List.getLastD_cons]
              exact ih (.cons next later)

/-! ## Folding -/

/-- Clusters of one value each, either of which may stand in front of the other. -/
structure Matches (field : Field) (c d : Cluster) : Prop where
  tied : ties (standsBefore field) c.first d.first = true
  alone : c.others = []
  aloneToo : d.others = []

theorem Matches.members_left {field : Field} {c d : Cluster} (h : Matches field c d) : c.members = [c.first] := by
  rw [Cluster.members, h.alone]

theorem Matches.members_right {field : Field} {c d : Cluster} (h : Matches field c d) : d.members = [d.first] := by
  rw [Cluster.members, h.aloneToo]

/-- Runs whose clusters match place by place, the first of them going up by steps. -/
def RunsMatch (field : Field) (run other : List Cluster) : Prop :=
  run.IsChain (fun c d => isStep field c.value d.value = true) ∧ List.Forall₂ (Matches field) run other

section Steps

variable {field : Field} {order : ValueOrder} (ordered : field.order = some order) (steps : order.hasSteps = true)
include ordered steps

theorem eq_of_isAlike {v w : Value} (like : field.isAlike v w = true) : v = w := by
  rw [Field.isAlike, Bool.or_eq_true, beq_iff_eq] at like
  exact like.elim id (eq_of_isEqual ordered steps)

/-- Where values compare, nothing but the same value may stand on both sides of one. -/
theorem value_eq_of_ties {p q : Placed} (tied : ties (standsBefore field) p q = true)
    (compares : order.comparesKind p.single.value.kind = true) : p.single.value = q.single.value := by
  rw [ties_iff, standsBefore, standsBefore, bne_iff_ne, bne_iff_ne] at tied
  obtain ⟨notAbove, notBelow⟩ := tied
  have kind := kind_eq_of_between ordered notAbove notBelow rfl
  rcases (lineUp_ne_gt_iff ordered _ _).mp notAbove with below | ⟨-, notGreater⟩
  · rw [kind, Std.ReflOrd.compare_self] at below
    cases below
  · rcases ValueOrder.lt_or_eq_of_ne_gt steps kind compares notGreater with less | equal
    · exact absurd (lineUp_eq_gt_of_lt ordered steps less) notBelow
    · exact ValueOrder.eq_of_compare_eq steps equal

/-- A step leads from a value that compares to one that compares too. -/
theorem comparesKind_of_isStep {v w : Value} (step : isStep field v w = true) :
    order.comparesKind v.kind = true ∧ order.comparesKind w.kind = true := by
  have above := (isNext_of_isStep ordered step).above
  obtain ⟨kind, compares⟩ := (ValueOrder.isSome_compare steps v w).mp (by rw [above]; rfl)
  exact ⟨compares, kind ▸ compares⟩

theorem equivalence_ties_standsBefore : Equivalence fun p q => ties (standsBefore field) p q = true :=
  equivalence_ties (standsBefore_trans ordered steps) (standsBefore_total ordered)

theorem isStep_congr_of_ties {p q r s : Placed} (tied : ties (standsBefore field) p q = true)
    (tiedToo : ties (standsBefore field) r s = true) :
    isStep field p.single.value r.single.value = isStep field q.single.value s.single.value := by
  have equivalence := equivalence_ties_standsBefore ordered steps
  have transfer {p q r s : Placed} (tied : ties (standsBefore field) p q = true)
      (tiedToo : ties (standsBefore field) r s = true) (step : isStep field p.single.value r.single.value = true) :
      isStep field q.single.value s.single.value = true := by
    obtain ⟨compares, comparesToo⟩ := comparesKind_of_isStep ordered steps step
    rwa [← value_eq_of_ties ordered steps tied compares, ← value_eq_of_ties ordered steps tiedToo comparesToo]
  rw [Bool.eq_iff_iff]
  exact ⟨transfer tied tiedToo, transfer (equivalence.symm tied) (equivalence.symm tiedToo)⟩

/-- Every value of a run of several compares. -/
theorem comparesKind_of_mem_run {c d : Cluster} {rest : List Cluster}
    (chain : (c :: d :: rest).IsChain fun a b => isStep field a.value b.value = true) :
    ∀ a ∈ c :: d :: rest, order.comparesKind a.value.kind = true := by
  induction rest generalizing c d with
  | nil =>
      obtain ⟨first, second⟩ := comparesKind_of_isStep ordered steps (List.isChain_cons_cons.mp chain).1
      exact List.forall_mem_cons.mpr ⟨first, List.forall_mem_singleton.mpr second⟩
  | cons e rest ih =>
      obtain ⟨step, later⟩ := List.isChain_cons_cons.mp chain
      exact List.forall_mem_cons.mpr ⟨(comparesKind_of_isStep ordered steps step).1, ih later⟩

/-- Matching runs of several clusters are runs of the same values. -/
theorem RunsMatch.forall₂_value {c d : Cluster} {rest other : List Cluster}
    (h : RunsMatch field (c :: d :: rest) other) :
    List.Forall₂ (fun a b => a.value = b.value ∧ Matches field a b) (c :: d :: rest) other :=
  ((List.forall₂_and_left _ _).mpr ⟨comparesKind_of_mem_run ordered steps h.1, h.2⟩).imp fun _ _ both =>
    ⟨value_eq_of_ties ordered steps both.2.tied both.1, both.2⟩

/-- Matching runs become like ranges. -/
theorem RunsMatch.rangeOfRun? {run other : List Cluster} (h : RunsMatch field run other) :
    Option.Rel (fun r q => alikeRange field r q = true) (rangeOfRun? run) (rangeOfRun? other) := by
  rcases run with _ | ⟨c, _ | ⟨d, rest⟩⟩
  · cases h.2
    exact .none
  · obtain ⟨c', others, -, none, rfl⟩ := List.forall₂_cons_left_iff.mp h.2
    cases none
    exact .none
  · have values := h.forall₂_value ordered steps
    cases values with
    | @cons _ c' _ _ first later =>
        have last := later
        cases later with
        | @cons _ d' _ rest' second later =>
            have upper := forall₂_getLastD last
            rw [rangeOfRun?_cons_cons, rangeOfRun?_cons_cons]
            exact .some ((alikeRange_iff field _ _).mpr
              ⟨⟨⟨rfl, rfl⟩, field.isAlike_of_eq first.1⟩, field.isAlike_of_eq upper.1⟩)

/-- Matching runs make like values superfluous. -/
theorem RunsMatch.restOfRun {run other : List Cluster} (h : RunsMatch field run other) :
    List.Forall₂ (fun p q => alikeSingle field p.single q.single = true) (restOfRun run) (restOfRun other) := by
  rcases run with _ | ⟨c, _ | ⟨d, rest⟩⟩
  · cases h.2
    exact .nil
  · obtain ⟨c', others, pair, none, rfl⟩ := List.forall₂_cons_left_iff.mp h.2
    cases none
    rw [Refine.restOfRun, Refine.restOfRun, pair.alone, pair.aloneToo]
    exact .nil
  · have values := h.forall₂_value ordered steps
    have members : List.Forall₂ (fun p q => alikeSingle field p.single q.single = true)
        ((c :: d :: rest).flatMap Cluster.members) (other.flatMap Cluster.members) := by
      refine List.rel_flatMap values fun a b pair => ?_
      rw [pair.2.members_left, pair.2.members_right]
      exact .cons (field.isAlike_of_eq pair.1) .nil
    cases values with
    | cons first later =>
        cases later with
        | cons second later => exact members

variable {xs ys : List Single}

/-- Lists that hold the same values line up alike, save for the places of values that do not compare. -/
theorem forall₂_linedUp (h : Rearranged (alikeSingle field) xs ys) :
    List.Forall₂ (fun p q => ties (standsBefore field) p q = true) (linedUp field xs) (linedUp field ys) := by
  refine Rearranged.forall₂_of_sorted (standsBefore_trans ordered steps) (standsBefore_total ordered)
    (pairwise_standsBefore_linedUp ordered steps xs) (pairwise_standsBefore_linedUp ordered steps ys) ?_
  rw [Rearranged.iff_countP (equivalence_ties_standsBefore ordered steps)]
  intro p
  -- The place of a value does not matter to a tie.
  let tied (s : Single) : Bool := ties (standsBefore field) p ⟨s, 0⟩
  have count (values : List Single) :
      (linedUp field values).countP (ties (standsBefore field) p) = values.countP tied := by
    rw [← (map_single_linedUp_perm field values).countP_eq, List.countP_map]
    rfl
  rw [count, count]
  refine h.countP_eq fun s t like => ?_
  have same : s.value = t.value := eq_of_isAlike ordered steps like
  simp only [tied, ties, standsBefore, same]

theorem forall₂_runsOf (apart : xs.Pairwise fun a b => field.isEqual a.value b.value = false)
    (apartToo : ys.Pairwise fun a b => field.isEqual a.value b.value = false)
    (h : Rearranged (alikeSingle field) xs ys) :
    List.Forall₂ (RunsMatch field) (runsOf field xs) (runsOf field ys) := by
  have laws := partialEquality_sameSingle field
  refine (List.forall₂_and_left _ _).mpr ⟨fun run mem => isChain_of_mem_splitRuns mem, ?_⟩
  rw [runsOf, runsOf, runs, runs, clusters_linedUp (laws.pairwise_both apart),
    clusters_linedUp (laws.pairwise_both apartToo)]
  refine forall₂_splitRuns (fun _ _ _ _ first second => isStep_congr_of_ties ordered steps first.tied second.tied) ?_
  rw [List.forall₂_map_left_iff, List.forall₂_map_right_iff]
  exact (forall₂_linedUp ordered steps h).imp fun _ _ tied => ⟨tied, rfl, rfl⟩

/-- Folding distinct values leaves like values single and makes like ranges, whatever order the values are in. -/
theorem rearranged_fold (apart : xs.Pairwise fun a b => field.isEqual a.value b.value = false)
    (apartToo : ys.Pairwise fun a b => field.isEqual a.value b.value = false)
    (h : Rearranged (alikeSingle field) xs ys) :
    Rearranged (alikeSingle field) (fold field xs).1 (fold field ys).1 ∧
      Rearranged (alikeRange field) (fold field xs).2 (fold field ys).2 := by
  have matching := forall₂_runsOf ordered steps apart apartToo h
  have equivalence := (likeness_alikeSingle field).equivalence
  rw [fold_eq_of_hasSteps ordered steps, fold_eq_of_hasSteps ordered steps]
  constructor
  · have rest : Rearranged (alikeSingle field) (((runsOf field xs).flatMap restOfRun).map Placed.single)
        (((runsOf field ys).flatMap restOfRun).map Placed.single) :=
      .map (.of_forall₂ (List.rel_flatMap matching fun _ _ pair => pair.restOfRun ordered steps))
    have whole := (Rearranged.of_perm equivalence (perm_singlesOf_append field xs).symm).trans equivalence
      (h.trans equivalence (.of_perm equivalence (perm_singlesOf_append field ys)))
    exact whole.cancel_right equivalence rest
  · exact .of_forall₂ (List.rel_filterMap (fun _ _ pair => pair.rangeOfRun? ordered steps) matching)

end Steps

end Refine

/-! ## Bags -/

/-- Two bags hold, kind by kind, the same entries in whatever order and with like values for a field. -/
structure Bag.Reordered (field : Field) (a b : Bag) : Prop where
  singles : Rearranged (Refine.alikeSingle field) a.singles b.singles
  excludedSingles : Rearranged (Refine.alikeSingle field) a.excludedSingles b.excludedSingles
  ranges : Rearranged (Refine.alikeRange field) a.ranges b.ranges
  excludedRanges : Rearranged (Refine.alikeRange field) a.excludedRanges b.excludedRanges
  comparisons : Rearranged (Refine.alikeComparison field) a.comparisons b.comparisons
  textMatches : a.textMatches.Perm b.textMatches

namespace Refine

variable {field : Field} {a b : Bag}

theorem reordered_distinctBag (h : a.Reordered field b) :
    (distinctBag field a).Reordered field (distinctBag field b) where
  singles := rearranged_distinct (partialEquality_sameSingle field) (likeness_alikeSingle field) h.singles
  excludedSingles :=
    rearranged_distinct (partialEquality_sameSingle field) (likeness_alikeSingle field) h.excludedSingles
  ranges := rearranged_distinct (partialEquality_sameRange field) (likeness_alikeRange field) h.ranges
  excludedRanges := rearranged_distinct (partialEquality_sameRange field) (likeness_alikeRange field) h.excludedRanges
  comparisons :=
    rearranged_distinct (partialEquality_sameComparison field) (likeness_alikeComparison field) h.comparisons
  textMatches := Rearranged.iff_perm.mp
    (rearranged_distinct .ofDecidableEq .ofDecidableEq (Rearranged.iff_perm.mpr h.textMatches))

theorem reordered_tightenBag (h : a.Reordered field b) :
    (tightenBag field a).Reordered field (tightenBag field b) := by
  cases ordered : field.order with
  | none =>
      rw [tightenBag_eq_self ordered, tightenBag_eq_self ordered]
      exact h
  | some order =>
      have ranges := rearranged_dropContained ordered h.ranges
      have excludedRanges := rearranged_dropContained ordered h.excludedRanges
      rw [tightenBag_eq ordered, tightenBag_eq ordered]
      exact { h with
        ranges
        excludedRanges
        singles := rearranged_dropCovered ordered ranges h.singles
        excludedSingles := rearranged_dropCovered ordered excludedRanges h.excludedSingles }

theorem reordered_foldBag (h : (distinctBag field a).Reordered field (distinctBag field b)) :
    (foldBag field (distinctBag field a)).Reordered field (foldBag field (distinctBag field b)) := by
  by_cases stepped : field.hasSteps = true
  · have steps := stepped
    rw [Field.hasSteps, Bool.and_eq_true, Option.any_eq_true] at steps
    obtain ⟨-, order, ordered, steps⟩ := steps
    obtain ⟨singles, ranges⟩ :=
      rearranged_fold ordered steps (pairwise_distinct a.singles) (pairwise_distinct b.singles) h.singles
    obtain ⟨excludedSingles, excludedRanges⟩ := rearranged_fold ordered steps (pairwise_distinct a.excludedSingles)
      (pairwise_distinct b.excludedSingles) h.excludedSingles
    rw [foldBag, foldBag, if_pos stepped, if_pos stepped]
    exact { h with
      singles
      excludedSingles
      ranges := h.ranges.append ranges
      excludedRanges := h.excludedRanges.append excludedRanges }
  · rw [foldBag_eq_self stepped, foldBag_eq_self stepped]
    exact h

/-- What the passes make of a bag does not depend on the order of its entries. -/
theorem reordered_refinedBag (h : a.Reordered field b) : (refinedBag field a).Reordered field (refinedBag field b) :=
  reordered_tightenBag (reordered_foldBag (reordered_distinctBag h))

end Refine

/-! ## Conditions -/

namespace Group

theorem field?_mapBags (f : String → Bag → Bag) (group : Group) (name : String) :
    (group.mapBags f).field? name = (group.field? name).map (f name) := by
  cases group with
  | mk logical fields groups =>
      rw [mapBags_mk]
      exact fields.get?_map f name

theorem field?_distinctGroups (group : Group) (name : String) :
    (Refine.distinctGroups group).field? name = group.field? name := by
  cases group with
  | mk logical fields groups =>
      rw [Refine.distinctGroups_mk]
      rfl

end Group

theorem Refine.field?_refined {c : Condition} {name : String} {field : Field}
    (declared : c.schema.field? name = some field) {bag : Bag} (found : c.root.field? name = some bag) :
    (refined c).root.field? name = some (refinedBag field bag) := by
  rw [root_refined, Group.field?_mapBags, Group.field?_mapBags, Group.field?_distinctGroups, Group.field?_mapBags,
    found, declared]
  rfl

namespace Pass

/-- The usual chain makes the same of bags that hold the same entries in different orders, up to the order of what it
makes and up to values that are equal for the field. -/
theorem runAll_standard_reordered {c d : Condition} (valid : c.problems .standard = [])
    (validToo : d.problems .standard = []) {name : String} {field : Field}
    (declared : c.schema.field? name = some field) (declaredToo : d.schema.field? name = some field) {a b : Bag}
    (found : c.root.field? name = some a) (foundToo : d.root.field? name = some b) (same : a.Reordered field b) :
    ∃ c' d' a' b', runAll standard c = .ok c' ∧ runAll standard d = .ok d' ∧ c'.root.field? name = some a' ∧
      d'.root.field? name = some b' ∧ a'.Reordered field b' :=
  ⟨_, _, _, _, (runAll_standard_eq_ok_iff c _).mpr ⟨valid, rfl⟩, (runAll_standard_eq_ok_iff d _).mpr ⟨validToo, rfl⟩,
    Refine.field?_refined declared found, Refine.field?_refined declaredToo foundToo,
    Refine.reordered_refinedBag same⟩

/-- The same years in another order. -/
def shuffledYears : Condition where
  schema := givenYears.schema
  root := .mk .all ⟨[("year", .ofList [.single ⟨.integer 2002, "2002"⟩, .single ⟨.integer 2005, "2005"⟩,
    .single ⟨.integer 2003, "2003"⟩, .range ⟨.integer 2002, .integer 2009, true, false, "2002", "2009"⟩,
    .single ⟨.integer 2001, "2001"⟩, .single ⟨.integer 2003, "2003"⟩, .single ⟨.integer 2012, "2012"⟩])],
    List.nodup_singleton _⟩ []

theorem runAll_standard_reordered_years :
    ∃ c' d' a' b', runAll standard givenYears = .ok c' ∧ runAll standard shuffledYears = .ok d' ∧
      c'.root.field? "year" = some a' ∧ d'.root.field? "year" = some b' ∧ a'.Reordered (.integer "year") b' := by
  have single := (Refine.likeness_alikeSingle (.integer "year")).equivalence
  have range := (Refine.likeness_alikeRange (.integer "year")).equivalence
  exact runAll_standard_reordered (by decide) (by decide) rfl rfl rfl rfl {
    singles := .of_perm single (by decide)
    excludedSingles := .of_forall₂ .nil
    ranges := .of_perm range (.refl _)
    excludedRanges := .of_forall₂ .nil
    comparisons := .of_forall₂ .nil
    textMatches := .nil }

end Pass

end Criteria
