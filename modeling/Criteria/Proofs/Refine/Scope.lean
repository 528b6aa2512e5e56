import Criteria.Proofs.Refine.Thinning

/-!
# What folding and tightening leave alone

Folding values into ranges and dropping what ranges contain change the bags of a condition in their places and nothing
else of it.  In a bag they change single values and ranges, the included ones and the excluded ones each by themselves:
folding puts new ranges behind the old ones, and tightening leaves ranges out.
-/

namespace Criteria

/-! ## Trees changed bag by bag -/

namespace Group

/-- A tree is changed in place: the parts of each group are joined as before, its bags stand under the same names in the
same order and are related to those before, and the groups below it are as many, each changed in its place. -/
def InPlace (R : String → Bag → Bag → Prop) : Group → Group → Prop :=
  fold fun logical fields below new =>
    new.logical = logical ∧
      List.Forall₂ (fun old entry => entry.1 = old.1 ∧ R old.1 old.2 entry.2) fields.entries new.fields.entries ∧
        List.Forall₂ (fun changed g => changed g) below new.groups

variable {R : String → Bag → Bag → Prop}

theorem inPlace_mk (logical : Logical) (fields : Keyed Bag) (groups : List Group) (new : Group) :
    (mk logical fields groups).InPlace R new ↔
      new.logical = logical ∧
        List.Forall₂ (fun old entry => entry.1 = old.1 ∧ R old.1 old.2 entry.2) fields.entries new.fields.entries ∧
          List.Forall₂ (fun old g => old.InPlace R g) groups new.groups := by
  rw [InPlace, fold_mk, List.forall₂_map_left_iff]

theorem inPlace_mapBags {f : String → Bag → Bag} (related : ∀ name bag, R name bag (f name bag)) (group : Group) :
    group.InPlace R (group.mapBags f) := by
  induction group with
  | step logical fields groups ih =>
      rw [mapBags_mk, inPlace_mk]
      refine ⟨rfl, ?_, List.forall₂_map_right_iff.mpr (List.forall₂_same.mpr ih)⟩
      exact List.forall₂_map_right_iff.mpr (List.forall₂_same.mpr fun entry _ => ⟨rfl, related _ _⟩)

theorem mapBags_mapBags (f g : String → Bag → Bag) (group : Group) :
    (group.mapBags f).mapBags g = group.mapBags fun name bag => g name (f name bag) := by
  induction group with
  | step logical fields groups ih =>
      have bags : (fields.map f).map g = fields.map fun name bag => g name (f name bag) :=
        Keyed.ext_entries (by simp only [Keyed.entries_map, List.map_map]; rfl)
      rw [mapBags_mk, mapBags_mk, mapBags_mk, bags, List.map_map]
      exact congrArg (mk logical _) (List.map_congr_left ih)

end Group

/-! ## Sides -/

/-- What a bag says by single values and ranges that it includes. -/
def Bag.included (bag : Bag) : Bag :=
  { Bag.empty with singles := bag.singles, ranges := bag.ranges }

/-- What a bag says by single values and ranges that it excludes. -/
def Bag.excluded (bag : Bag) : Bag :=
  { Bag.empty with excludedSingles := bag.excludedSingles, excludedRanges := bag.excludedRanges }

/-- A condition of which every bag is left with one side. -/
def Condition.onSide (side : Bag → Bag) (c : Condition) : Condition :=
  { c with root := c.root.mapBags fun _ => side }

/-- How far a pass that may apply to a field changes a bag: what becomes of the ranges is related to what they were. -/
structure Refine.Confined (applies : Bool) (become : List Range → List Range → Prop) (old new : Bag) : Prop where
  comparisons : new.comparisons = old.comparisons
  textMatches : new.textMatches = old.textMatches
  ranges : become old.ranges new.ranges
  excludedRanges : become old.excludedRanges new.excludedRanges
  untouched : applies = false → new = old

/-- A pass that applies to some of the fields of a schema succeeds, changes bags in their places and nothing else, and
does to each side of them what it does where there is no other side. -/
def Pass.StaysWithin (pass : Pass) (applies : Field → Bool) (become : List Range → List Range → Prop) : Prop :=
  ∀ c : Condition, ∃ d, pass.run c = .ok d ∧ d.schema = c.schema ∧
    c.root.InPlace (fun name => Refine.Confined ((c.schema.field? name).any applies) become) d.root ∧
    pass.run (c.onSide .included) = .ok (d.onSide .included) ∧
    pass.run (c.onSide .excluded) = .ok (d.onSide .excluded)

namespace Refine

section

variable {refine : Field → Bag → Bag} (thins : ∀ field bag, Thins field bag (refine field bag))

include thins

theorem inPlace_mapBags {applies : Field → Bool} {become : List Range → List Range → Prop}
    (reflexive : ∀ ranges, become ranges ranges)
    (confined : ∀ field bag, Confined (applies field) become bag (refine field bag)) (c : Condition) :
    c.root.InPlace (fun name => Confined ((c.schema.field? name).any applies) become) (c.mapBags refine).root := by
  rw [mapBags_eq_elim thins]
  refine Group.inPlace_mapBags (fun name bag => ?_) c.root
  cases c.schema.field? name with
  | none => exact ⟨rfl, rfl, reflexive _, reflexive _, fun _ => rfl⟩
  | some field => exact confined field bag

/-- A change that does not mix the two sides of a bag does to one side of a condition what it does where there is no
other side. -/
theorem onSide_mapBags {side : Bag → Bag} (apart : ∀ field bag, side (refine field bag) = refine field (side bag))
    (c : Condition) : (c.onSide side).mapBags refine = (c.mapBags refine).onSide side := by
  rw [mapBags_eq_elim thins, mapBags_eq_elim thins, Condition.onSide, Condition.onSide]
  simp only [Group.mapBags_mapBags]
  congr 2
  funext name bag
  cases c.schema.field? name with
  | none => rfl
  | some field => exact (apart field bag).symm

end

variable (field : Field) (bag : Bag)

/-! ## Folding -/

theorem fold_nil : fold field [] = ([], []) := by
  rw [fold, if_neg (by simp)]

theorem confined_foldBag : Confined field.hasSteps (· <+: ·) bag (foldBag field bag) := by
  cases applies : field.hasSteps with
  | false =>
      rw [foldBag, applies, if_neg Bool.false_ne_true]
      exact ⟨rfl, rfl, List.prefix_rfl, List.prefix_rfl, fun _ => rfl⟩
  | true =>
      rw [foldBag, applies, if_pos rfl]
      exact ⟨rfl, rfl, List.prefix_append _ _, List.prefix_append _ _, fun no => absurd no.symm Bool.false_ne_true⟩

theorem included_foldBag : (foldBag field bag).included = foldBag field bag.included := by
  rw [foldBag, foldBag]
  split
  · simp only [Bag.included, Bag.empty, fold_nil, List.append_nil]
  · rfl

theorem excluded_foldBag : (foldBag field bag).excluded = foldBag field bag.excluded := by
  rw [foldBag, foldBag]
  split
  · simp only [Bag.excluded, Bag.empty, fold_nil, List.append_nil]
  · rfl

/-! ## Tightening -/

theorem confined_tightenBag :
    Confined field.order.isSome (fun old new => new.Sublist old) bag (tightenBag field bag) := by
  cases ordered : field.order with
  | none =>
      rw [tightenBag, ordered, Option.isNone_none, if_pos rfl]
      exact ⟨rfl, rfl, List.Sublist.refl _, List.Sublist.refl _, fun _ => rfl⟩
  | some order =>
      rw [tightenBag, ordered, Option.isNone_some, if_neg Bool.false_ne_true]
      exact ⟨rfl, rfl, dropContained_sublist _, dropContained_sublist _, fun no => absurd no.symm Bool.false_ne_true⟩

theorem included_tightenBag : (tightenBag field bag).included = tightenBag field bag.included := by
  rw [tightenBag, tightenBag]
  split <;> rfl

theorem excluded_tightenBag : (tightenBag field bag).excluded = tightenBag field bag.excluded := by
  rw [tightenBag, tightenBag]
  split <;> rfl

end Refine

/-- Folding changes bags of fields whose values are made of steps, and puts new ranges behind the old ones; tightening
changes bags of fields with an order, and leaves ranges out. -/
theorem Pass.run_staysWithin :
    foldValues.StaysWithin Field.hasSteps (· <+: ·) ∧
      tightenRanges.StaysWithin (·.order.isSome) fun old new => new.Sublist old := by
  constructor
  · intro c
    refine ⟨Refine.foldValues c, rfl, rfl, ?_, ?_, ?_⟩
    · exact Refine.inPlace_mapBags (fun _ => Refine.thins_foldBag) (fun _ => List.prefix_rfl) Refine.confined_foldBag c
    · exact congrArg Except.ok (Refine.onSide_mapBags (fun _ => Refine.thins_foldBag) Refine.included_foldBag c)
    · exact congrArg Except.ok (Refine.onSide_mapBags (fun _ => Refine.thins_foldBag) Refine.excluded_foldBag c)
  · intro c
    refine ⟨Refine.tightenRanges c, rfl, rfl, ?_, ?_, ?_⟩
    · refine Refine.inPlace_mapBags (fun _ => Refine.thins_tightenBag) ?_ Refine.confined_tightenBag c
      exact fun ranges => List.Sublist.refl ranges
    · exact congrArg Except.ok (Refine.onSide_mapBags (fun _ => Refine.thins_tightenBag) Refine.included_tightenBag c)
    · exact congrArg Except.ok (Refine.onSide_mapBags (fun _ => Refine.thins_tightenBag) Refine.excluded_tightenBag c)

end Criteria
