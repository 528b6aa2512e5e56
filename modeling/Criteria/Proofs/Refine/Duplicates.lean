import Criteria.Proofs.Refine.NormalForm

/-!
# Removing duplicates exactly

What stays of a list is what is at some of its places, and every place that is left out holds an equal of an element that
is kept before it.  So it is for the entries of every bag, kind by kind, and, once the groups below a group have lost
their own duplicates, for these groups.  Nothing that is kept equals anything else that is, and so a second run finds
nothing to remove.
-/

namespace Criteria

/-! ## Equality of bags and groups -/

theorem PartialEquality.sameList {α : Type} {same : α → α → Bool} (laws : PartialEquality same) :
    PartialEquality (Bag.sameList same) where
  symm as bs h := by
    induction as generalizing bs with
    | nil =>
        cases bs with
        | nil => rfl
        | cons b bs => cases h
    | cons a as ih =>
        cases bs with
        | nil => cases h
        | cons b bs =>
            rw [Bag.sameList, Bool.and_eq_true] at h ⊢
            exact ⟨laws.symm a b h.1, ih bs h.2⟩
  trans as bs cs hab hbc := by
    induction as generalizing bs cs with
    | nil =>
        cases bs with
        | nil => exact hbc
        | cons b bs => cases hab
    | cons a as ih =>
        cases bs with
        | nil => cases hab
        | cons b bs =>
            cases cs with
            | nil => cases hbc
            | cons c cs =>
                rw [Bag.sameList, Bool.and_eq_true] at hab hbc ⊢
                exact ⟨laws.trans a b c hab.1 hbc.1, ih bs cs hab.2 hbc.2⟩

theorem Bag.partialEquality_same : PartialEquality Bag.same := by
  have value := Value.partialEquality_same
  have single : PartialEquality Single.same := value.onPart Single.value
  have range : PartialEquality Range.same :=
    (((value.onPart Range.lower).and (value.onPart Range.upper)).and
      (PartialEquality.ofDecidableEq.onPart Range.includesLower)).and
        (PartialEquality.ofDecidableEq.onPart Range.includesUpper)
  have comparison : PartialEquality Comparison.same :=
    (value.onPart Comparison.value).and (PartialEquality.ofDecidableEq.onPart Comparison.operator)
  have textMatches : PartialEquality fun a b : Bag => a.textMatches == b.textMatches := {
    symm a b h := beq_iff_eq.mpr (beq_iff_eq.mp h).symm
    trans a b c hab hbc := beq_iff_eq.mpr ((beq_iff_eq.mp hab).trans (beq_iff_eq.mp hbc)) }
  exact (((((single.sameList.onPart singles).and (single.sameList.onPart excludedSingles)).and
    (range.sameList.onPart ranges)).and (range.sameList.onPart excludedRanges)).and
      (comparison.sameList.onPart comparisons)).and textMatches

theorem Keyed.sameBy_iff {α : Type} {same : α → α → Bool} {k l : Keyed α} :
    k.sameBy same l = true ↔
      k.size = l.size ∧ ∀ entry ∈ k.entries, ∃ other, (entry.1, other) ∈ l.entries ∧ same entry.2 other = true := by
  simp only [sameBy, Bool.and_eq_true, beq_iff_eq, List.all_eq_true, Option.any_eq_true, get?_eq_some_iff]

theorem PartialEquality.sameBy {α : Type} {same : α → α → Bool} (laws : PartialEquality same) :
    PartialEquality fun k l : Keyed α => k.sameBy same l where
  symm k l h := by
    refine Keyed.sameBy_iff.mpr ⟨(Keyed.sameBy_iff.mp h).1.symm, fun entry mem => ?_⟩
    obtain ⟨value, here, equal⟩ := Keyed.exists_left_of_sameBy h mem
    exact ⟨value, here, laws.symm value entry.2 equal⟩
  trans k l m hkl hlm := by
    obtain ⟨size, first⟩ := Keyed.sameBy_iff.mp hkl
    obtain ⟨sizeToo, second⟩ := Keyed.sameBy_iff.mp hlm
    refine Keyed.sameBy_iff.mpr ⟨size.trans sizeToo, fun entry mem => ?_⟩
    obtain ⟨middle, there, equal⟩ := first entry mem
    obtain ⟨other, last, equalToo⟩ := second _ there
    exact ⟨other, last, laws.trans entry.2 middle other equal equalToo⟩

namespace Group

theorem same_mk_iff {logical : Logical} {fields : Keyed Bag} {groups : List Group} {other : Group} :
    (mk logical fields groups).same other = true ↔
      logical = other.logical ∧ fields.sameBy Bag.same other.fields = true ∧
        List.Forall₂ (fun g h => g.same h = true) groups other.groups := by
  rw [same_mk, List.forall₂_iff_zip]
  simp only [Bool.and_eq_true, beq_iff_eq, List.all_eq_true, Prod.forall, and_assoc]

theorem partialEquality_same : PartialEquality Group.same where
  symm a := by
    induction a with
    | step logical fields groups ih =>
        rintro ⟨_, others, below⟩ h
        obtain ⟨rfl, bags, pairs⟩ := same_mk_iff.mp h
        refine same_mk_iff.mpr ⟨rfl, Bag.partialEquality_same.sameBy.symm _ _ bags, ?_⟩
        rw [List.forall₂_iff_get] at pairs ⊢
        exact ⟨pairs.1.symm, fun i hi hj => ih _ (List.get_mem groups ⟨i, hj⟩) _ (pairs.2 i hj hi)⟩
  trans a := by
    induction a with
    | step logical fields groups ih =>
        rintro ⟨_, others, below⟩ ⟨_, lasts, deepest⟩ first second
        obtain ⟨rfl, bags, pairs⟩ := same_mk_iff.mp first
        obtain ⟨rfl, bagsToo, pairsToo⟩ := same_mk_iff.mp second
        refine same_mk_iff.mpr ⟨rfl, Bag.partialEquality_same.sameBy.trans _ _ _ bags bagsToo, ?_⟩
        rw [List.forall₂_iff_get] at pairs pairsToo ⊢
        refine ⟨pairs.1.trans pairsToo.1, fun i hi hk => ?_⟩
        have hj := pairs.1 ▸ hi
        exact ih _ (List.get_mem _ ⟨i, hi⟩) _ _ (pairs.2 i hi hj) (pairsToo.2 i hj hk)

end Group

/-! ## Lists -/

namespace Refine

section Lists

variable {α : Type} {same : α → α → Bool}

/-- What is left of a list without its duplicates: the elements at some of its places, in order, where every place that
is left out holds an equal of an element that is kept before it. -/
def Leaves (same : α → α → Bool) (old new : List α) : Prop :=
  ∃ kept : List (α × Nat), kept.Sublist old.zipIdx ∧ kept.map Prod.fst = new ∧
    ∀ x ∈ old.zipIdx, x ∉ kept → ∃ k ∈ kept, k.2 < x.2 ∧ same k.1 x.1 = true

variable (same) in
/-- The places that are kept behind elements kept before. -/
theorem exists_kept_places (before : List α) (start : Nat) (xs : List α) :
    ∃ kept : List (α × Nat), kept.Sublist (xs.zipIdx start) ∧ kept.map Prod.fst = distinctFrom same before xs ∧
      ∀ x ∈ xs.zipIdx start, x ∉ kept →
        (∃ k ∈ before, same k x.1 = true) ∨ ∃ k ∈ kept, k.2 < x.2 ∧ same k.1 x.1 = true := by
  induction xs generalizing before start with
  | nil => exact ⟨[], List.Sublist.refl _, rfl, fun _ mem => absurd mem List.not_mem_nil⟩
  | cons y ys ih =>
      rw [distinctFrom, List.zipIdx_cons]
      split
      · rename_i found
        obtain ⟨k, hk, equal⟩ := List.any_eq_true.mp found
        obtain ⟨kept, sublist, values, removed⟩ := ih before (start + 1)
        refine ⟨kept, sublist.cons _, values, List.forall_mem_cons.mpr ⟨fun _ => .inl ⟨k, hk, equal⟩, removed⟩⟩
      · obtain ⟨kept, sublist, values, removed⟩ := ih (y :: before) (start + 1)
        refine ⟨(y, start) :: kept, sublist.cons_cons _, congrArg (y :: ·) values, ?_⟩
        refine List.forall_mem_cons.mpr ⟨fun absent => absurd List.mem_cons_self absent, fun x mem absent => ?_⟩
        have later : start < x.2 := List.le_snd_of_mem_zipIdx mem
        rcases removed x mem fun here => absent (List.mem_cons_of_mem _ here) with ⟨k, hk, equal⟩ | ⟨k, hk, earlier, equal⟩
        · rcases List.mem_cons.mp hk with rfl | hk
          · exact .inr ⟨_, List.mem_cons_self, later, equal⟩
          · exact .inl ⟨k, hk, equal⟩
        · exact .inr ⟨k, List.mem_cons_of_mem _ hk, earlier, equal⟩

theorem leaves_distinct (xs : List α) : Leaves same xs (distinct same xs) := by
  obtain ⟨kept, sublist, values, removed⟩ := exists_kept_places same [] 0 xs
  refine ⟨kept, sublist, values, fun x mem absent => ?_⟩
  rcases removed x mem absent with ⟨k, hk, -⟩ | found
  · cases hk
  · exact found

end Lists

/-! ## Bags -/

/-- What is left of a bag without its duplicates, kind by kind. -/
structure BagLeaves (field : Field) (old new : Bag) : Prop where
  singles : Leaves (sameSingle field) old.singles new.singles
  excludedSingles : Leaves (sameSingle field) old.excludedSingles new.excludedSingles
  ranges : Leaves (sameRange field) old.ranges new.ranges
  excludedRanges : Leaves (sameRange field) old.excludedRanges new.excludedRanges
  comparisons : Leaves (sameComparison field) old.comparisons new.comparisons
  textMatches : Leaves (· == ·) old.textMatches new.textMatches

/-- A bag without two equal entries of one kind. -/
structure FreeOfDuplicates (field : Field) (bag : Bag) : Prop where
  singles : bag.singles.Pairwise fun a b => sameSingle field a b = false ∧ sameSingle field b a = false
  excludedSingles : bag.excludedSingles.Pairwise fun a b => sameSingle field a b = false ∧ sameSingle field b a = false
  ranges : bag.ranges.Pairwise fun a b => sameRange field a b = false ∧ sameRange field b a = false
  excludedRanges : bag.excludedRanges.Pairwise fun a b => sameRange field a b = false ∧ sameRange field b a = false
  comparisons : bag.comparisons.Pairwise fun a b => sameComparison field a b = false ∧ sameComparison field b a = false
  textMatches : bag.textMatches.Pairwise fun a b => a ≠ b

variable {field : Field}

theorem bagLeaves_distinctBag (bag : Bag) : BagLeaves field bag (distinctBag field bag) where
  singles := leaves_distinct _
  excludedSingles := leaves_distinct _
  ranges := leaves_distinct _
  excludedRanges := leaves_distinct _
  comparisons := leaves_distinct _
  textMatches := leaves_distinct _

theorem freeOfDuplicates_distinctBag (bag : Bag) : FreeOfDuplicates field (distinctBag field bag) where
  singles := pairwise_distinct_both (partialEquality_sameSingle field) _
  excludedSingles := pairwise_distinct_both (partialEquality_sameSingle field) _
  ranges := pairwise_distinct_both (partialEquality_sameRange field) _
  excludedRanges := pairwise_distinct_both (partialEquality_sameRange field) _
  comparisons := pairwise_distinct_both (partialEquality_sameComparison field) _
  textMatches := (pairwise_distinct _).imp fun differs same => Bool.eq_false_iff.mp differs (beq_iff_eq.mpr same)

/-! ## Trees -/

/-- What is left of a bag by the declaration of its field; of an unknown field all of it. -/
def LeavesUnder (schema : Schema) (name : String) (old new : Bag) : Prop :=
  match schema.field? name with
  | some field => BagLeaves field old new
  | none => new = old

/-- What is left of a tree without duplicates: the parts of each group are joined as before, its bags stand under the
same names in the same order, and of the groups below, once these have lost their own duplicates, the first of equal
ones. -/
def TreeLeaves (schema : Schema) : Group → Group → Prop :=
  Group.fold fun logical fields below new =>
    new.logical = logical ∧
      List.Forall₂ (fun entry old => entry.1 = old.1 ∧ LeavesUnder schema old.1 old.2 entry.2) new.fields.entries
        fields.entries ∧
      ∃ cleaned, List.Forall₂ (fun leaves g => leaves g) below cleaned ∧ Leaves Group.same cleaned new.groups

theorem treeLeaves_mk (schema : Schema) (logical : Logical) (fields : Keyed Bag) (groups : List Group) (new : Group) :
    TreeLeaves schema (.mk logical fields groups) new ↔
      new.logical = logical ∧
        List.Forall₂ (fun entry old => entry.1 = old.1 ∧ LeavesUnder schema old.1 old.2 entry.2) new.fields.entries
          fields.entries ∧
        ∃ cleaned, List.Forall₂ (TreeLeaves schema) groups cleaned ∧ Leaves Group.same cleaned new.groups := by
  rw [TreeLeaves, Group.fold_mk]
  simp only [List.forall₂_map_left_iff]

/-- The tree of a condition without duplicates, bags first and then groups. -/
theorem root_removeDuplicates (c : Condition) :
    (removeDuplicates c).root =
      distinctGroups (c.root.mapBags fun name bag => (c.schema.field? name).elim bag fun field =>
        distinctBag field bag) := by
  rw [removeDuplicates, mapBags_eq_elim fun _ bag => thins_distinctBag bag]

theorem treeLeaves_distinctGroups (schema : Schema) (group : Group) :
    TreeLeaves schema group
      (distinctGroups (group.mapBags fun name bag => (schema.field? name).elim bag fun field =>
        distinctBag field bag)) := by
  induction group with
  | step logical fields groups ih =>
      rw [Group.mapBags_mk, distinctGroups_mk, treeLeaves_mk, Group.fields, Keyed.entries_map]
      refine ⟨rfl, List.forall₂_map_left_iff.mpr (List.forall₂_same.mpr fun entry _ => ⟨rfl, ?_⟩), _, ?_,
        leaves_distinct _⟩
      · rw [LeavesUnder]
        cases schema.field? entry.1 with
        | none => rfl
        | some field => exact bagLeaves_distinctBag entry.2
      · rw [List.map_map]
        exact List.forall₂_map_right_iff.mpr (List.forall₂_same.mpr ih)

theorem allBags_removeDuplicates {P : String → Bag → Prop} {c : Condition}
    (all : c.root.AllBags fun name bag => P name ((c.schema.field? name).elim bag fun field => distinctBag field bag)) :
    (removeDuplicates c).root.AllBags P := by
  rw [root_removeDuplicates]
  exact allBags_distinctGroups (Group.allBags_mapBags all)

theorem removeDuplicates_removeDuplicates (c : Condition) :
    removeDuplicates (removeDuplicates c) = removeDuplicates c := by
  have bags : (removeDuplicates c).root.AllBags fun name bag =>
      (c.schema.field? name).elim bag (fun field => distinctBag field bag) = bag := by
    refine allBags_removeDuplicates ((Group.allBags_iff_forall_holds _).mpr fun name bag _ => ?_)
    cases c.schema.field? name with
    | none => rfl
    | some field => exact distinctBag_distinctBag bag
  have groups : Apart (removeDuplicates c).root := by
    rw [root_removeDuplicates]
    exact apart_distinctGroups _
  have root : (removeDuplicates (removeDuplicates c)).root = (removeDuplicates c).root := by
    rw [root_removeDuplicates]
    change distinctGroups ((removeDuplicates c).root.mapBags fun name bag =>
      (c.schema.field? name).elim bag fun field => distinctBag field bag) = _
    rw [mapBags_eq_self bags]
    exact (distinctGroups_eq_self_iff _).mpr groups
  exact congrArg (Condition.mk c.schema) root

end Refine

namespace Pass

/-- Removing duplicates succeeds and keeps the schema.  Then no two groups below one group are equal, however deep they
lie, and no bag of a known field has two equal entries of one kind; of every list the first of equal elements is left, in
order; and a second run changes nothing. -/
theorem run_removeDuplicates_exactly (c : Condition) :
    ∃ d, run removeDuplicates c = .ok d ∧ d.schema = c.schema ∧
      (∀ path g, d.root.at? path = some g →
        g.groups.Pairwise fun a b => a.same b = false ∧ b.same a = false) ∧
      (d.root.AllBags fun name bag =>
        ∀ field, d.schema.field? name = some field → Refine.FreeOfDuplicates field bag) ∧
      Refine.TreeLeaves c.schema c.root d.root ∧
      run removeDuplicates d = .ok d := by
  refine ⟨Refine.removeDuplicates c, rfl, rfl, fun path g found => ?_, ?_, ?_, ?_⟩
  · rw [Refine.root_removeDuplicates] at found
    exact Group.partialEquality_same.pairwise_both (Refine.apart_distinctGroups _ path g found)
  · refine Refine.allBags_removeDuplicates ((Group.allBags_iff_forall_holds _).mpr fun name bag _ field found => ?_)
    change c.schema.field? name = some field at found
    rw [found]
    exact Refine.freeOfDuplicates_distinctBag bag
  · rw [Refine.root_removeDuplicates]
    exact Refine.treeLeaves_distinctGroups c.schema c.root
  · exact congrArg Except.ok (Refine.removeDuplicates_removeDuplicates c)

end Pass

end Criteria
