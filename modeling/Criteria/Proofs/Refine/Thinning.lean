import Criteria.Proofs.Refine.Containment
import Criteria.Proofs.Refine.Distinct
import Criteria.Proofs.Refine.Folding
import Criteria.Proofs.Shrinking
import Criteria.Refine.Chain

/-!
# Passes thin bags out

Every pass leaves entries of a bag out or puts a range in the place of several values that go up by steps.  So it leaves
no more entries than there were, none at all only if there were none, and none that the field does not allow if it
allowed those before.
-/

namespace Criteria.Refine

variable {field : Field}

/-- A range is one of the given ranges, or goes from one of the given values up to another one. -/
def RangeFrom (field : Field) (values : List Single) (ranges : List Range) (r : Range) : Prop :=
  r ∈ ranges ∨ field.acceptsRanges = true ∧
    ∃ low ∈ values, ∃ high ∈ values, field.compare low.value high.value = some .lt ∧ r = .inclusive low high

/-- One bag is another one thinned out. -/
structure Thins (field : Field) (old new : Bag) : Prop where
  count_le : new.count ≤ old.count
  filled : new.isEmpty = true → old.isEmpty = true
  singles : new.singles ⊆ old.singles
  excludedSingles : new.excludedSingles ⊆ old.excludedSingles
  ranges : ∀ r ∈ new.ranges, RangeFrom field old.singles old.ranges r
  excludedRanges : ∀ r ∈ new.excludedRanges, RangeFrom field old.excludedSingles old.excludedRanges r
  comparisons : new.comparisons ⊆ old.comparisons
  textMatches : new.textMatches ⊆ old.textMatches

theorem RangeFrom.trans {values others : List Single} {ranges : List Range} (subset : others ⊆ values)
    {newRanges : List Range} (stem : ∀ r ∈ newRanges, RangeFrom field values ranges r) {r : Range}
    (h : RangeFrom field others newRanges r) : RangeFrom field values ranges r := by
  rcases h with mem | ⟨accepts, low, hlow, high, hhigh, upwards, same⟩
  · exact stem r mem
  · exact .inr ⟨accepts, low, subset hlow, high, subset hhigh, upwards, same⟩

theorem Thins.refl (bag : Bag) : Thins field bag bag where
  count_le := Nat.le_refl _
  filled := id
  singles := List.Subset.refl _
  excludedSingles := List.Subset.refl _
  ranges _ mem := .inl mem
  excludedRanges _ mem := .inl mem
  comparisons := List.Subset.refl _
  textMatches := List.Subset.refl _

theorem Thins.trans {old middle new : Bag} (first : Thins field old middle) (second : Thins field middle new) :
    Thins field old new where
  count_le := second.count_le.trans first.count_le
  filled none := first.filled (second.filled none)
  singles := List.Subset.trans second.singles first.singles
  excludedSingles := List.Subset.trans second.excludedSingles first.excludedSingles
  ranges r mem := (second.ranges r mem).trans first.singles first.ranges
  excludedRanges r mem := (second.excludedRanges r mem).trans first.excludedSingles first.excludedRanges
  comparisons := List.Subset.trans second.comparisons first.comparisons
  textMatches := List.Subset.trans second.textMatches first.textMatches

theorem Thins.isEmpty_eq {old new : Bag} (h : Thins field old new) : new.isEmpty = old.isEmpty := by
  rw [Bool.eq_iff_iff]
  refine ⟨h.filled, fun none => ?_⟩
  have few := h.count_le
  rw [Bag.isEmpty, beq_iff_eq] at none ⊢
  omega

/-- Thinned out, an empty bag stays what it is. -/
theorem Thins.eq_of_isEmpty {old new : Bag} (h : Thins field old new) (empty : old.isEmpty = true) : new = old :=
  (Bag.eq_empty_of_isEmpty (h.isEmpty_eq.trans empty)).trans (Bag.eq_empty_of_isEmpty empty).symm

/-- What holds of all entries of a bag holds of all entries of the bag thinned out, if it passes from values to the
ranges between them. -/
theorem Thins.forall_mem {old new : Bag} (h : Thins field old new) {P : Entry → Prop}
    (range : field.acceptsRanges = true → ∀ low high, field.compare low.value high.value = some .lt →
      P (.single low) → P (.single high) → P (.range (.inclusive low high)))
    (excludedRange : field.acceptsRanges = true → ∀ low high, field.compare low.value high.value = some .lt →
      P (.excludedSingle low) → P (.excludedSingle high) → P (.excludedRange (.inclusive low high)))
    (all : ∀ e ∈ old.toList, P e) : ∀ e ∈ new.toList, P e := by
  obtain ⟨singles, excludedSingles, ranges, excludedRanges, comparisons, textMatches⟩ :=
    Bag.forall_mem_toList_iff.mp all
  refine Bag.forall_mem_toList_iff.mpr ⟨fun s mem => singles s (h.singles mem),
    fun s mem => excludedSingles s (h.excludedSingles mem), fun r mem => ?_, fun r mem => ?_,
    fun c mem => comparisons c (h.comparisons mem), fun m mem => textMatches m (h.textMatches mem)⟩
  · rcases h.ranges r mem with old | ⟨accepts, low, hlow, high, hhigh, upwards, rfl⟩
    · exact ranges r old
    · exact range accepts low high upwards (singles low hlow) (singles high hhigh)
  · rcases h.excludedRanges r mem with old | ⟨accepts, low, hlow, high, hhigh, upwards, rfl⟩
    · exact excludedRanges r old
    · exact excludedRange accepts low high upwards (excludedSingles low hlow) (excludedSingles high hhigh)

theorem accepts_of_check {entry : Entry} (checked : field.check entry = .ok ()) : field.accepts entry.kind = true := by
  unfold Field.check at checked
  split at checked
  · assumption
  · cases checked

theorem checkRange_of_upwards {low high : Single} (upwards : field.compare low.value high.value = some .lt) :
    field.checkRange (.inclusive low high) = .ok () := by
  have inOrder : field.inOrder (.inclusive low high) = true := by
    rw [Field.inOrder, Range.inclusive, upwards]
  rw [Field.checkRange, inOrder, if_pos rfl]

/-- A bag that is thinned out is allowed if it was before. -/
theorem Thins.allows {limits : Limits} {old new : Bag} (h : Thins field old new) (allowed : field.Allows limits old) :
    field.Allows limits new := by
  refine ⟨h.forall_mem ?_ ?_ allowed.checked, h.count_le.trans allowed.few⟩
  · intro accepts low high upwards _ _
    have kind : field.accepts .range = true := accepts
    rw [Field.check, Entry.kind, if_pos kind]
    exact checkRange_of_upwards upwards
  · intro accepts low high upwards checked _
    have excludes := accepts_of_check checked
    rw [Entry.kind, Field.accepts, Bool.and_eq_true] at excludes
    have kind : field.accepts .excludedRange = true := by rw [Field.accepts, accepts, excludes.2, Bool.and_self]
    rw [Field.check, Entry.kind, if_pos kind]
    exact checkRange_of_upwards upwards

/-! ## Removing duplicates -/

theorem thins_distinctBag (bag : Bag) : Thins field bag (distinctBag field bag) where
  count_le :=
    Nat.add_le_add (Nat.add_le_add (Nat.add_le_add (Nat.add_le_add (Nat.add_le_add (distinct_sublist _).length_le
      (distinct_sublist _).length_le) (distinct_sublist _).length_le) (distinct_sublist _).length_le)
      (distinct_sublist _).length_le) (distinct_sublist _).length_le
  filled := by
    rw [Bag.isEmpty_iff, Bag.isEmpty_iff]
    simp only [distinctBag, distinct_eq_nil_iff]
    exact id
  singles := distinct_subset _
  excludedSingles := distinct_subset _
  ranges _ mem := .inl (distinct_subset _ mem)
  excludedRanges _ mem := .inl (distinct_subset _ mem)
  comparisons := distinct_subset _
  textMatches := distinct_subset _

/-! ## Folding values -/

theorem length_singlesOf_le (field : Field) (values : List Single) :
    (singlesOf field values).length ≤ ((runsOf field values).flatMap keptOfRun).length := by
  let dropped := (runsOf field values).flatMap droppedOfRun
  calc (singlesOf field values).length
      = (List.range' 0 values.length).countP fun place => !dropped.contains place := by
        rw [singlesOf, List.length_map, ← List.countP_eq_length_filter, ← List.zipIdx_map_snd 0 values, List.countP_map]
        rfl
    _ = ((runsOf field values).flatMap keptOfRun).countP fun place => !dropped.contains place := by
        rw [← (placesOf_perm field values).countP_eq, List.countP_append, Nat.add_eq_left, List.countP_eq_zero]
        intro place mem
        rw [Bool.not_eq_true', Bool.not_eq_false, List.contains_iff_mem]
        exact mem
    _ ≤ ((runsOf field values).flatMap keptOfRun).length := List.countP_le_length

/-- A run that becomes a range drops values. -/
theorem length_rangesOf_le (field : Field) (values : List Single) :
    (rangesOf field values).length ≤ ((runsOf field values).flatMap droppedOfRun).length := by
  rw [rangesOf]
  induction runsOf field values with
  | nil => exact Nat.le_refl _
  | cons run runs ih =>
      rw [List.flatMap_cons, List.length_append]
      rcases run with _ | ⟨c, _ | ⟨d, rest⟩⟩
      · simpa [List.filterMap_cons, rangeOfRun?, droppedOfRun] using ih
      · rw [List.filterMap_cons]
        exact ih.trans (Nat.le_add_left _ _)
      · have some : 1 ≤ (droppedOfRun (c :: d :: rest)).length := by simp [droppedOfRun]
        rw [List.filterMap_cons_some (rangeOfRun?_cons_cons c d rest), List.length_cons]
        omega

theorem length_fold_le (field : Field) (values : List Single) :
    (fold field values).1.length + (fold field values).2.length ≤ values.length := by
  rcases fold_cases field values with same | folded
  · rw [same]
    exact Nat.le_refl _
  · rw [folded]
    have places := (placesOf_perm field values).length_eq
    rw [List.length_append, List.length_range'] at places
    exact (Nat.add_le_add (length_singlesOf_le field values) (length_rangesOf_le field values)).trans (by omega)

theorem fold_filled {values : List Single} (singles : (fold field values).1 = [])
    (ranges : (fold field values).2 = []) : values = [] := by
  rcases fold_cases field values with same | folded
  · rwa [same] at singles
  · rw [folded] at singles ranges
    exact nil_of_singlesOf_nil singles ranges

theorem rangeFrom_fold {order : ValueOrder} (ordered : field.order = some order) (accepts : field.acceptsRanges = true)
    (values : List Single) {r : Range} (mem : r ∈ (fold field values).2) (ranges : List Range) :
    RangeFrom field values ranges r := by
  rcases fold_cases field values with same | folded
  · rw [same] at mem
    cases mem
  · rw [folded] at mem
    obtain ⟨run, hrun, becomes⟩ := List.mem_filterMap.mp mem
    match run, hrun, becomes with
    | c :: d :: rest, hrun, becomes =>
        rw [rangeOfRun?_cons_cons] at becomes
        have chain := (isChain_of_mem_splitRuns hrun).imp fun a b => isNext_of_isStep ordered
        have upwards : field.compare c.value (rest.getLastD d).value = some .lt := by
          rw [Field.compare, ordered, Option.bind_some]
          exact lt_last chain
        have last : rest.getLastD d ∈ c :: d :: rest := List.mem_cons_of_mem c List.getLastD_mem_cons
        exact .inr ⟨accepts, c.first.single, first_mem_of_mem_run hrun List.mem_cons_self,
          (rest.getLastD d).first.single, first_mem_of_mem_run hrun last, upwards, (Option.some.inj becomes).symm⟩

theorem thins_foldBag (bag : Bag) : Thins field bag (foldBag field bag) := by
  rw [foldBag]
  split
  · rename_i stepped
    rw [Field.hasSteps, Bool.and_eq_true, Option.any_eq_true] at stepped
    rcases stepped with ⟨accepts, order, ordered, -⟩
    have singles := length_fold_le field bag.singles
    have excludedSingles := length_fold_le field bag.excludedSingles
    exact {
      count_le := by
        simp only [Bag.count, List.length_append]
        omega
      filled := by
        simp only [Bag.isEmpty_iff, List.append_eq_nil_iff]
        rintro ⟨first, second, ⟨ranges, third⟩, ⟨excludedRanges, fourth⟩, others⟩
        exact ⟨fold_filled first third, fold_filled second fourth, ranges, excludedRanges, others⟩
      singles := fold_subset field _
      excludedSingles := fold_subset field _
      ranges := fun r mem =>
        (List.mem_append.mp mem).elim .inl fun new => rangeFrom_fold ordered accepts _ new _
      excludedRanges := fun r mem =>
        (List.mem_append.mp mem).elim .inl fun new => rangeFrom_fold ordered accepts _ new _
      comparisons := List.Subset.refl _
      textMatches := List.Subset.refl _ }
  · exact .refl bag

/-! ## Dropping what ranges contain -/

theorem dropCovered_sublist (ranges : List Range) (values : List Single) :
    (dropCovered field ranges values).Sublist values :=
  List.filter_sublist

theorem thins_tightenBag (bag : Bag) : Thins field bag (tightenBag field bag) := by
  cases ordered : field.order with
  | none =>
      rw [tightenBag, ordered, Option.isNone_none, if_pos rfl]
      exact .refl bag
  | some order =>
      rw [tightenBag, ordered, Option.isNone_some, if_neg Bool.false_ne_true]
      exact {
        count_le := Nat.add_le_add_right (Nat.add_le_add_right (Nat.add_le_add (Nat.add_le_add (Nat.add_le_add
          (dropCovered_sublist _ _).length_le (dropCovered_sublist _ _).length_le) (dropContained_sublist _).length_le)
          (dropContained_sublist _).length_le) _) _
        filled := by
          simp only [Bag.isEmpty_iff, dropContained_eq_nil_iff ordered]
          rintro ⟨singles, excludedSingles, ranges, excludedRanges, others⟩
          -- without ranges nothing is covered
          rw [ranges] at singles
          rw [excludedRanges] at excludedSingles
          exact ⟨(dropCovered_nil _).symm.trans singles, (dropCovered_nil _).symm.trans excludedSingles, ranges,
            excludedRanges, others⟩
        singles := (dropCovered_sublist _ _).subset
        excludedSingles := (dropCovered_sublist _ _).subset
        ranges := fun r mem => .inl ((dropContained_sublist _).subset mem)
        excludedRanges := fun r mem => .inl ((dropContained_sublist _).subset mem)
        comparisons := List.Subset.refl _
        textMatches := List.Subset.refl _ }

/-! ## Trees -/

/-- A bag stays as it is, or is that of a field of the schema and is thinned out. -/
def ThinsUnder (schema : Schema) (name : String) (old new : Bag) : Prop :=
  new = old ∨ ∃ field, schema.field? name = some field ∧ Thins field old new

variable {schema : Schema} {name : String} {old new : Bag}

theorem ThinsUnder.trans {middle : Bag} (first : ThinsUnder schema name old middle)
    (second : ThinsUnder schema name middle new) : ThinsUnder schema name old new := by
  rcases first with rfl | ⟨field, found, thins⟩
  · exact second
  · rcases second with rfl | ⟨same, foundAgain, thinsMore⟩
    · exact .inr ⟨field, found, thins⟩
    · cases found.symm.trans foundAgain
      exact .inr ⟨field, found, thins.trans thinsMore⟩

theorem ThinsUnder.count_le (h : ThinsUnder schema name old new) : new.count ≤ old.count := by
  rcases h with rfl | ⟨_, -, thins⟩
  · exact Nat.le_refl _
  · exact thins.count_le

theorem ThinsUnder.isEmpty_eq (h : ThinsUnder schema name old new) : new.isEmpty = old.isEmpty := by
  rcases h with rfl | ⟨_, -, thins⟩
  · rfl
  · exact thins.isEmpty_eq

/-- Where bags are thinned out empty ones are no exception. -/
theorem mapBags_eq_elim {refine : Field → Bag → Bag} (thins : ∀ field bag, Thins field bag (refine field bag))
    (c : Condition) :
    c.mapBags refine =
      { c with root := c.root.mapBags fun name bag => (c.schema.field? name).elim bag fun field => refine field bag } := by
  rw [Condition.mapBags]
  congr 2
  funext name bag
  cases c.schema.field? name with
  | none => rfl
  | some field =>
      dsimp only [Option.elim]
      split
      · rename_i empty
        exact ((thins field bag).eq_of_isEmpty empty).symm
      · rfl

end Criteria.Refine
