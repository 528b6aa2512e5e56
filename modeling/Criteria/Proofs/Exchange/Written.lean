import Criteria.Exchange.Writer
import Criteria.Proofs.Exchange.Unrestricted
import Criteria.Proofs.Views

/-!
# Written exchange forms

What a form that was written consists of.  Writing does not look at views.
-/

namespace Criteria

/-- Named bags without the empty ones. -/
def Keyed.filled (fields : Keyed Bag) : Keyed Bag :=
  ⟨Exchange.filled fields.entries, fields.distinct.sublist (List.filter_sublist.map _)⟩

namespace Exchange

/-! ## Entries -/

variable {field : Field}

theorem writeValue_eq_ok {v : Value} {norm : String} (h : writeValue field v = .ok norm) : field.toNorm v = .ok norm := by
  rw [writeValue] at h
  cases form : field.toNorm v with
  | ok text =>
      rw [form] at h
      exact congrArg Except.ok (Except.ok.inj h)
  | error failure =>
      rw [form] at h
      cases h

/-- The value of a written norm is the one that was written. -/
theorem ofNorm_of_writeValue {v : Value} {norm : String} (written : writeValue field v = .ok norm)
    (exchanges : field.Exchanges v) : field.ofNorm norm = .ok v := by
  obtain ⟨text, toNorm, ofNorm⟩ := exchanges
  cases toNorm.symm.trans (writeValue_eq_ok written)
  exact ofNorm

theorem writeRange_eq_ok {r : Range} {form : RangeForm} (h : writeRange field r = .ok form) :
    ∃ lower upper, writeValue field r.lower = .ok lower ∧ writeValue field r.upper = .ok upper ∧
      form = ⟨lower, upper, r.includesLower, r.includesUpper⟩ := by
  obtain ⟨lower, first, h⟩ := bind_eq_ok_iff.mp h
  obtain ⟨upper, second, h⟩ := bind_eq_ok_iff.mp h
  exact ⟨lower, upper, first, second, (pure_eq_ok_iff.mp h).symm⟩

theorem writeComparison_eq_ok {c : Comparison} {form : ComparisonForm} (h : writeComparison field c = .ok form) :
    ∃ norm, writeValue field c.value = .ok norm ∧ form = ⟨c.operator, norm⟩ := by
  obtain ⟨norm, value, h⟩ := bind_eq_ok_iff.mp h
  exact ⟨norm, value, (pure_eq_ok_iff.mp h).symm⟩

/-- The parts of a bag are written one kind after another. -/
theorem writeBag_eq_ok {bag : Bag} {form : BagForm} (h : writeBag field bag = .ok form) :
    ∃ singles excludedSingles ranges excludedRanges comparisons,
      bag.singles.mapM (writeSingle field) = .ok singles ∧
        bag.excludedSingles.mapM (writeSingle field) = .ok excludedSingles ∧
          bag.ranges.mapM (writeRange field) = .ok ranges ∧
            bag.excludedRanges.mapM (writeRange field) = .ok excludedRanges ∧
              bag.comparisons.mapM (writeComparison field) = .ok comparisons ∧
                form = ⟨singles, excludedSingles, ranges, excludedRanges, comparisons, bag.textMatches.map writeMatch⟩ := by
  obtain ⟨singles, first, h⟩ := bind_eq_ok_iff.mp h
  obtain ⟨excludedSingles, second, h⟩ := bind_eq_ok_iff.mp h
  obtain ⟨ranges, third, h⟩ := bind_eq_ok_iff.mp h
  obtain ⟨excludedRanges, fourth, h⟩ := bind_eq_ok_iff.mp h
  obtain ⟨comparisons, fifth, h⟩ := bind_eq_ok_iff.mp h
  exact ⟨singles, excludedSingles, ranges, excludedRanges, comparisons, first, second, third, fourth, fifth,
    (pure_eq_ok_iff.mp h).symm⟩

theorem writeBag_withoutViews (field : Field) (bag : Bag) : writeBag field bag.withoutViews = writeBag field bag := by
  simp only [writeBag, Bag.withoutViews, List.mapM_map]
  rfl

/-! ## Named bags -/

variable {schema : Schema}

/-- A named bag without its views. -/
def withoutViews (entry : String × Bag) : String × Bag :=
  (entry.1, entry.2.withoutViews)

/-- The form of a named bag. -/
def writeNamedBag (schema : Schema) (entry : String × Bag) : Except ExportError (String × BagForm) := do
  let field ← schema.fieldOf entry.1
  return (entry.1, ← writeBag field entry.2)

theorem writeFields_eq_mapM (bags : List (String × Bag)) :
    writeFields schema bags = (filled bags).mapM (writeNamedBag schema) := by
  induction bags with
  | nil => rfl
  | cons entry bags ih =>
      rw [writeFields, filled, List.filter_cons]
      cases entry.2.isEmpty with
      | true => exact ih
      | false =>
          change _ = (entry :: filled bags).mapM (writeNamedBag schema)
          rw [List.mapM_cons, writeNamedBag, ← ih, bind_assoc]
          simp only [bind_assoc, pure_bind]
          rfl

theorem writeNamedBag_eq_ok {entry : String × Bag} {form : String × BagForm}
    (h : writeNamedBag schema entry = .ok form) :
    form.1 = entry.1 ∧ ∃ field, schema.field? entry.1 = some field ∧ writeBag field entry.2 = .ok form.2 := by
  obtain ⟨field, found, h⟩ := bind_eq_ok_iff.mp h
  obtain ⟨bag, written, h⟩ := bind_eq_ok_iff.mp h
  cases pure_eq_ok_iff.mp h
  exact ⟨rfl, field, Schema.fieldOf_eq_ok_iff.mp found, written⟩

theorem names_of_writeNamedBag {entries : List (String × Bag)} {forms : List (String × BagForm)}
    (written : List.Forall₂ (fun entry form => writeNamedBag schema entry = .ok form) entries forms) :
    forms.map Prod.fst = entries.map Prod.fst := by
  induction written with
  | nil => rfl
  | cons first _ ih => rw [List.map_cons, List.map_cons, (writeNamedBag_eq_ok first).1, ih]

theorem writeNamedBag_withoutViews (entry : String × Bag) :
    writeNamedBag schema (withoutViews entry) = writeNamedBag schema entry := by
  simp only [writeNamedBag, withoutViews, writeBag_withoutViews]

theorem filled_withoutViews (bags : List (String × Bag)) :
    filled (bags.map withoutViews) = (filled bags).map withoutViews := by
  rw [filled, filled, List.filter_map]
  simp only [Function.comp_def, withoutViews, Bag.isEmpty_withoutViews]

/-! ## Trees -/

theorem writeGroup_mk (logical : Logical) (fields : Keyed Bag) (groups : List Group) :
    writeGroup schema (.mk logical fields groups) = do
      let bags ← (filled fields.entries).mapM (writeNamedBag schema)
      let forms ← groups.mapM (writeGroup schema)
      return .mk (.ofList bags) forms (writeLogical logical) := by
  rw [writeGroup, Group.fold_mk, List.mapM_map, writeFields_eq_mapM]
  rfl

/-- The forms have the names of the bags, so none of them replaces another one. -/
theorem writeGroup_mk_eq_ok {logical : Logical} {fields : Keyed Bag} {groups : List Group} {form : GroupForm}
    (h : writeGroup schema (.mk logical fields groups) = .ok form) :
    ∃ bags forms, (filled fields.entries).mapM (writeNamedBag schema) = .ok bags.entries ∧
      groups.mapM (writeGroup schema) = .ok forms ∧ form = .mk bags forms (writeLogical logical) := by
  rw [writeGroup_mk] at h
  obtain ⟨bags, here, h⟩ := bind_eq_ok_iff.mp h
  obtain ⟨forms, below, h⟩ := bind_eq_ok_iff.mp h
  have names : bags.map Prod.fst = (filled fields.entries).map Prod.fst :=
    names_of_writeNamedBag (mapM_eq_ok_iff.mp here)
  refine ⟨.ofList bags, forms, ?_, below, (pure_eq_ok_iff.mp h).symm⟩
  rw [Keyed.entries_ofList (names ▸ fields.filled.distinct)]
  exact here

theorem writeGroup_withoutViews (group : Group) : writeGroup schema group.withoutViews = writeGroup schema group := by
  induction group with
  | step logical fields groups ih =>
      have bags : (filled (fields.map fun _ => Bag.withoutViews).entries).mapM (writeNamedBag schema) =
          (filled fields.entries).mapM (writeNamedBag schema) := by
        rw [Keyed.entries_map]
        change (filled (fields.entries.map withoutViews)).mapM _ = _
        rw [filled_withoutViews, List.mapM_map]
        simp only [Function.comp_def, writeNamedBag_withoutViews]
      rw [Group.withoutViews_mk, writeGroup_mk, writeGroup_mk, bags, List.mapM_map]
      simp only [Function.comp_def, mapM_congr ih]

end Exchange

end Criteria
