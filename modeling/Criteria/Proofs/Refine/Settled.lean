import Criteria.Proofs.Faults
import Criteria.Proofs.Refine.Runs
import Criteria.Proofs.Refine.Validity

/-!
# What a second run of the usual chain does

After one run of the usual chain no pass finds anything more to do in a bag.  But values that are folded and ranges that
are dropped can make groups equal that were not when duplicates were removed, so a second run removes these and does
nothing else, and a third one does nothing at all.
-/

namespace Criteria

namespace Refine

/-! ## Lists without duplicates -/

section Lists

variable {α : Type} {same : α → α → Bool}

theorem pairwise_distinctFrom (kept xs : List α) :
    (∀ k ∈ kept, ∀ x ∈ distinctFrom same kept xs, same k x = false) ∧
      (distinctFrom same kept xs).Pairwise fun a b => same a b = false := by
  induction xs generalizing kept with
  | nil => exact ⟨fun _ _ _ mem => absurd mem List.not_mem_nil, List.Pairwise.nil⟩
  | cons x xs ih =>
      rw [distinctFrom]
      split
      · exact ih kept
      · rename_i new
        obtain ⟨apart, pairwise⟩ := ih (x :: kept)
        obtain ⟨first, apart⟩ := List.forall_mem_cons.mp apart
        refine ⟨fun k hk => List.forall_mem_cons.mpr ⟨?_, apart k hk⟩, List.pairwise_cons.mpr ⟨first, pairwise⟩⟩
        exact Bool.eq_false_iff.mpr fun equal => new (List.any_eq_true.mpr ⟨k, hk, equal⟩)

theorem pairwise_distinct (xs : List α) : (distinct same xs).Pairwise fun a b => same a b = false :=
  (pairwise_distinctFrom [] xs).2

theorem distinctFrom_eq_self {kept xs : List α} (new : ∀ k ∈ kept, ∀ x ∈ xs, same k x = false)
    (apart : xs.Pairwise fun a b => same a b = false) : distinctFrom same kept xs = xs := by
  induction xs generalizing kept with
  | nil => rfl
  | cons x xs ih =>
      obtain ⟨first, apart⟩ := List.pairwise_cons.mp apart
      have absent : ¬(kept.any fun k => same k x) = true := by
        rw [List.any_eq_true]
        rintro ⟨k, hk, equal⟩
        rw [new k hk x List.mem_cons_self] at equal
        cases equal
      rw [distinctFrom, if_neg absent, ih _ apart]
      exact List.forall_mem_cons.mpr ⟨first, fun k hk y hy => new k hk y (List.mem_cons_of_mem x hy)⟩

/-- Nothing is removed exactly if nothing is equal to anything before it. -/
theorem distinct_eq_self_iff (xs : List α) : distinct same xs = xs ↔ xs.Pairwise fun a b => same a b = false :=
  ⟨fun unchanged => unchanged ▸ pairwise_distinct xs, distinctFrom_eq_self fun _ mem => absurd mem List.not_mem_nil⟩

end Lists

/-! ## Ranges apart -/

section Ranges

variable {field : Field}

theorem contains_of_sameRange {order : ValueOrder} (ordered : field.order = some order) {a b : Range}
    (h : sameRange field a b = true) : contains field a b = true := by
  simp only [sameRange, Field.isEqual, ordered, Bool.and_eq_true, beq_iff_eq, order.isEqual_iff] at h
  obtain ⟨⟨⟨includesLower, includesUpper⟩, lower⟩, upper⟩ := h
  refine (contains_iff ordered a b).mpr ⟨.inr ⟨lower, fun here => includesLower.trans here⟩, .inr ⟨?_, ?_⟩⟩
  · exact order.partialComparison.eq_symm upper
  · exact fun here => includesUpper.trans here

end Ranges

/-! ## Bags -/

section Bags

variable {field : Field}

theorem foldBag_eq_self (steps : ¬field.hasSteps = true) (bag : Bag) : foldBag field bag = bag := by
  rw [foldBag, if_neg steps]

theorem tightenBag_eq_self (unordered : field.order = none) (bag : Bag) : tightenBag field bag = bag := by
  rw [tightenBag, unordered, Option.isNone_none, if_pos rfl]

theorem tightenBag_eq {order : ValueOrder} (ordered : field.order = some order) (bag : Bag) :
    tightenBag field bag =
      { bag with
        singles := dropCovered field (dropContained field bag.ranges) bag.singles
        excludedSingles := dropCovered field (dropContained field bag.excludedRanges) bag.excludedSingles
        ranges := dropContained field bag.ranges
        excludedRanges := dropContained field bag.excludedRanges } := by
  rw [tightenBag, ordered, Option.isNone_some, if_neg Bool.false_ne_true]

theorem distinctBag_distinctBag (bag : Bag) : distinctBag field (distinctBag field bag) = distinctBag field bag := by
  simp only [distinctBag, (distinct_eq_self_iff _).mpr (pairwise_distinct _)]

/-- A bag after the passes of the usual chain that change bags. -/
def refinedBag (field : Field) (bag : Bag) : Bag :=
  tightenBag field (foldBag field (distinctBag field bag))

end Bags

/-! ## Trees -/

theorem map_eq_self_iff {α : Type} (f : α → α) (xs : List α) : xs.map f = xs ↔ ∀ x ∈ xs, f x = x := by
  nth_rewrite 2 [← List.map_id xs]
  exact List.map_inj_left

theorem mapBags_eq_self {f : String → Bag → Bag} {group : Group}
    (settled : group.AllBags fun name bag => f name bag = bag) : group.mapBags f = group := by
  induction group with
  | step logical fields groups ih =>
      rw [Group.allBags_mk] at settled
      obtain ⟨bags, below⟩ := settled
      have same : fields.map f = fields := by
        refine Keyed.ext_entries ?_
        rw [Keyed.entries_map, map_eq_self_iff]
        exact fun entry mem => by rw [bags entry mem]
      rw [Group.mapBags_mk, same, (map_eq_self_iff _ _).mpr fun g mem => ih g mem (below g mem)]

/-- No two groups next to each other below a group are equal. -/
def Apart (group : Group) : Prop :=
  ∀ path g, group.at? path = some g → g.groups.Pairwise fun a b => a.same b = false

theorem distinctGroups_eq_self_iff (group : Group) : distinctGroups group = group ↔ Apart group := by
  induction group with
  | step logical fields groups ih =>
      rw [distinctGroups_mk, Apart, Group.forall_at?_mk, Group.mk.injEq]
      constructor
      · rintro ⟨-, -, same⟩
        have all : distinct Group.same (groups.map distinctGroups) = groups.map distinctGroups :=
          (distinct_sublist _).eq_of_length (by rw [same, List.length_map])
        have mapped : groups.map distinctGroups = groups := all.symm.trans same
        refine ⟨(distinct_eq_self_iff groups).mp (mapped ▸ all), fun g mem => (ih g mem).mp ?_⟩
        exact (map_eq_self_iff _ _).mp mapped g mem
      · rintro ⟨apart, below⟩
        have mapped : groups.map distinctGroups = groups :=
          (map_eq_self_iff _ _).mpr fun g mem => (ih g mem).mpr (below g mem)
        rw [mapped]
        exact ⟨rfl, rfl, (distinct_eq_self_iff groups).mpr apart⟩

theorem apart_distinctGroups (group : Group) : Apart (distinctGroups group) := by
  induction group with
  | step logical fields groups ih =>
      rw [distinctGroups_mk, Apart, Group.forall_at?_mk]
      refine ⟨pairwise_distinct _, fun g mem => ?_⟩
      obtain ⟨child, hchild, rfl⟩ := List.mem_map.mp (distinct_subset _ mem)
      exact ih child hchild

/-! ## Conditions -/

/-- A condition after the passes of the usual chain that change conditions. -/
def refined (c : Condition) : Condition :=
  tightenRanges (foldValues (removeDuplicates c))

theorem root_refined (c : Condition) :
    (refined c).root =
      ((distinctGroups (c.root.mapBags fun name bag => (c.schema.field? name).elim bag fun field =>
        distinctBag field bag)).mapBags fun name bag => (c.schema.field? name).elim bag fun field =>
          foldBag field bag).mapBags fun name bag => (c.schema.field? name).elim bag fun field =>
            tightenBag field bag := by
  rw [refined, tightenRanges, mapBags_eq_elim fun _ bag => thins_tightenBag bag, foldValues,
    mapBags_eq_elim fun _ bag => thins_foldBag bag, removeDuplicates,
    mapBags_eq_elim fun _ bag => thins_distinctBag bag]

end Refine

namespace Pass

theorem runAll_standard_eq_ok_iff (c d : Condition) :
    runAll standard c = .ok d ↔ c.problems .standard = [] ∧ d = Refine.refined c := by
  change (run (validate .standard) c >>= runAll refining) = .ok d ↔ _
  rw [run]
  split
  · rename_i valid
    rw [and_iff_right valid]
    change Except.ok (Refine.refined c) = Except.ok d ↔ _
    rw [Except.ok.injEq, eq_comm]
  · rename_i wrong
    refine iff_of_false (fun failed => ?_) fun h => wrong h.1
    cases failed

/-- Two groups that differ in a value, which the range covers that they have both. -/
def coveredYear : Condition where
  schema := ⟨"books", [.integer "year"], List.nodup_singleton _⟩
  root := .mk .all .empty
    [.mk .any ⟨[("year", .ofList [.range ⟨.integer 2001, .integer 2003, true, true, "2001", "2003"⟩,
        .single ⟨.integer 2002, "2002"⟩])], List.nodup_singleton _⟩ [],
      .mk .any ⟨[("year", .ofList [.range ⟨.integer 2001, .integer 2003, true, true, "2001", "2003"⟩])],
        List.nodup_singleton _⟩ []]

/-- The two groups without the value. -/
def uncoveredYear : Condition where
  schema := coveredYear.schema
  root := .mk .all .empty
    [.mk .any ⟨[("year", .ofList [.range ⟨.integer 2001, .integer 2003, true, true, "2001", "2003"⟩])],
        List.nodup_singleton _⟩ [],
      .mk .any ⟨[("year", .ofList [.range ⟨.integer 2001, .integer 2003, true, true, "2001", "2003"⟩])],
        List.nodup_singleton _⟩ []]

/-- The usual chain can find something to do in what it made itself: here the groups are equal only after the first run,
and the second one removes one of them. -/
theorem standard_not_idempotent :
    ¬∀ c d : Condition, runAll standard c = .ok d → ∃ e, runAll standard d = .ok e ∧ e.same d = true := by
  intro idempotent
  obtain ⟨e, run, same⟩ := idempotent coveredYear uncoveredYear rfl
  have again : runAll standard uncoveredYear = .ok { uncoveredYear with
      root := Refine.distinctGroups uncoveredYear.root } := rfl
  cases again.symm.trans run
  have fewer : Condition.same { uncoveredYear with root := Refine.distinctGroups uncoveredYear.root } uncoveredYear =
      false := rfl
  rw [fewer] at same
  cases same

end Pass

end Criteria
