import Criteria.Proofs.Exchange.Written
import Criteria.Proofs.Query.Written

/-!
# When an export succeeds

A tree is written, as an exchange form or in the query language, exactly if every bag with entries is about a field of
the schema and every value in it has a norm, or a view.  If all bags are about fields of the schema, only a value is ever
the cause that it is not.
-/

namespace Criteria

/-- Every bag with entries is about a field of the schema, and its values have a property that depends on the field. -/
def Group.Expressible (schema : Schema) (P : Field → Value → Prop) (group : Group) : Prop :=
  group.AllBags fun name bag =>
    bag.isEmpty = false → ∃ field, schema.field? name = some field ∧ bag.AllValues (P field)

theorem succeeds_formOf_iff {field : Field} {form : Except ConversionFailure String} :
    Succeeds (field.formOf form) ↔ Succeeds form := by
  cases form with
  | ok text => exact iff_of_true (succeeds_ok text) (succeeds_ok text)
  | error failure => exact iff_of_false (not_succeeds_error _) (not_succeeds_error _)

/-- What is written of a bag is looked up by its field first. -/
theorem succeeds_fieldOf_bind_iff {α : Type} {schema : Schema} {name : String} {next : Field → Except ExportError α}
    {P : Field → Prop} (h : ∀ field, Succeeds (next field) ↔ P field) :
    Succeeds (schema.fieldOf name >>= next) ↔ ∃ field, schema.field? name = some field ∧ P field := by
  simp only [Succeeds, bind_eq_ok_iff, Schema.fieldOf_eq_ok_iff]
  constructor
  · rintro ⟨a, field, found, written⟩
    exact ⟨field, found, (h field).mp ⟨a, written⟩⟩
  · rintro ⟨field, found, holds⟩
    obtain ⟨a, written⟩ := (h field).mpr holds
    exact ⟨a, field, found, written⟩

/-- A value has no form. -/
inductive ExportError.OfValue : ExportError → Prop where
  | conversion (name : String) (failure : ConversionFailure) : OfValue (.conversion name failure)

theorem formOf_failsOnly (field : Field) (form : Except ConversionFailure String) :
    FailsOnly ExportError.OfValue (field.formOf form) := by
  cases form with
  | ok text => exact failsOnly_ok text
  | error failure => exact failsOnly_error (.conversion field.name failure)

/-- Every bag of a tree is about a field of the schema. -/
def Group.Known (schema : Schema) (group : Group) : Prop :=
  group.AllBags fun name _ => ∃ field, schema.field? name = some field

theorem fieldOf_bind_failsOnly {α : Type} {schema : Schema} {name : String} {next : Field → Except ExportError α}
    {P : ExportError → Prop} (known : ∃ field, schema.field? name = some field) (h : ∀ field, FailsOnly P (next field)) :
    FailsOnly P (schema.fieldOf name >>= next) := by
  obtain ⟨field, found⟩ := known
  rw [Schema.fieldOf_eq_ok_iff.mpr found]
  exact h field

namespace Exchange

variable {schema : Schema} {field : Field}

theorem succeeds_writeRange_iff (r : Range) :
    Succeeds (writeRange field r) ↔ Succeeds (field.toNorm r.lower) ∧ Succeeds (field.toNorm r.upper) :=
  succeeds_bind_iff succeeds_formOf_iff fun _ _ => succeeds_bind_pure_iff.trans succeeds_formOf_iff

theorem succeeds_writeComparison_iff (c : Comparison) :
    Succeeds (writeComparison field c) ↔ Succeeds (field.toNorm c.value) :=
  succeeds_bind_pure_iff.trans succeeds_formOf_iff

theorem succeeds_writeBag_iff (bag : Bag) :
    Succeeds (writeBag field bag) ↔ bag.AllValues fun v => Succeeds (field.toNorm v) := by
  rw [Bag.allValues_iff]
  refine succeeds_bind_iff (succeeds_mapM_iff fun s _ => succeeds_formOf_iff) fun _ _ => ?_
  refine succeeds_bind_iff (succeeds_mapM_iff fun s _ => succeeds_formOf_iff) fun _ _ => ?_
  refine succeeds_bind_iff (succeeds_mapM_iff fun r _ => succeeds_writeRange_iff r) fun _ _ => ?_
  refine succeeds_bind_iff (succeeds_mapM_iff fun r _ => succeeds_writeRange_iff r) fun _ _ => ?_
  exact succeeds_bind_pure_iff.trans (succeeds_mapM_iff fun c _ => succeeds_writeComparison_iff c)

theorem succeeds_writeNamedBag_iff (entry : String × Bag) :
    Succeeds (writeNamedBag schema entry) ↔
      ∃ field, schema.field? entry.1 = some field ∧ entry.2.AllValues fun v => Succeeds (field.toNorm v) :=
  succeeds_fieldOf_bind_iff fun _ => succeeds_bind_pure_iff.trans (succeeds_writeBag_iff entry.2)

theorem succeeds_writeGroup_iff (group : Group) :
    Succeeds (writeGroup schema group) ↔ group.Expressible schema fun field v => Succeeds (field.toNorm v) := by
  induction group with
  | step logical fields groups ih =>
      rw [writeGroup_mk, Group.Expressible, Group.allBags_mk]
      refine succeeds_bind_iff ?_ fun _ _ => succeeds_bind_pure_iff.trans (succeeds_mapM_iff ih)
      rw [succeeds_mapM_iff fun entry _ => succeeds_writeNamedBag_iff entry, filled, List.forall_mem_filter]
      simp only [Bool.not_eq_true']

theorem writeRange_failsOnly (r : Range) : FailsOnly ExportError.OfValue (writeRange field r) :=
  (formOf_failsOnly field _).bind fun _ _ => (formOf_failsOnly field _).bind_pure

theorem writeBag_failsOnly (bag : Bag) : FailsOnly ExportError.OfValue (writeBag field bag) := by
  refine (failsOnly_mapM fun s _ => formOf_failsOnly field _).bind fun _ _ => ?_
  refine (failsOnly_mapM fun s _ => formOf_failsOnly field _).bind fun _ _ => ?_
  refine (failsOnly_mapM fun r _ => writeRange_failsOnly r).bind fun _ _ => ?_
  refine (failsOnly_mapM fun r _ => writeRange_failsOnly r).bind fun _ _ => ?_
  exact (failsOnly_mapM fun c _ => (formOf_failsOnly field _).bind_pure).bind_pure

theorem writeGroup_failsOnly {group : Group} (known : group.Known schema) :
    FailsOnly ExportError.OfValue (writeGroup schema group) := by
  induction group with
  | step logical fields groups ih =>
      obtain ⟨here, below⟩ := (Group.allBags_mk _ _ _ _).mp known
      rw [writeGroup_mk]
      refine (failsOnly_mapM fun entry mem => ?_).bind fun _ _ =>
        (failsOnly_mapM fun group mem => ih group mem (below group mem)).bind_pure
      exact fieldOf_bind_failsOnly (here entry (List.mem_of_mem_filter mem)) fun field =>
        (writeBag_failsOnly entry.2).bind_pure

end Exchange

namespace Query

variable {schema : Schema} {field : Field}

theorem succeeds_writeValue_iff (v : Value) : Succeeds (writeValue field v) ↔ Succeeds (field.toView v) :=
  succeeds_bind_pure_iff.trans succeeds_formOf_iff

theorem succeeds_writeRange_iff (r : Range) :
    Succeeds (writeRange field r) ↔ Succeeds (field.toView r.lower) ∧ Succeeds (field.toView r.upper) :=
  succeeds_bind_iff (succeeds_writeValue_iff _) fun _ _ => succeeds_bind_pure_iff.trans (succeeds_writeValue_iff _)

theorem succeeds_writeEntry_iff (e : Entry) :
    Succeeds (writeEntry field e) ↔ ∀ v ∈ e.values, Succeeds (field.toView v) := by
  have one (v : Value) : (∀ w ∈ [v], Succeeds (field.toView w)) ↔ Succeeds (field.toView v) := by simp
  have two (v w : Value) :
      (∀ x ∈ [v, w], Succeeds (field.toView x)) ↔ Succeeds (field.toView v) ∧ Succeeds (field.toView w) := by simp
  cases e with
  | single s => exact (succeeds_writeValue_iff _).trans (one _).symm
  | excludedSingle s => exact (succeeds_bind_pure_iff.trans (succeeds_writeValue_iff _)).trans (one _).symm
  | range r => exact (succeeds_writeRange_iff r).trans (two _ _).symm
  | excludedRange r => exact (succeeds_bind_pure_iff.trans (succeeds_writeRange_iff r)).trans (two _ _).symm
  | comparison c => exact (succeeds_bind_pure_iff.trans (succeeds_writeValue_iff _)).trans (one _).symm
  | textMatch m => exact iff_of_true (succeeds_ok _) (List.forall_mem_nil _)

theorem succeeds_writeStatement_iff (name : String) (bag : Bag) :
    Succeeds (writeStatement schema name bag) ↔
      ∃ field, schema.field? name = some field ∧ bag.AllValues fun v => Succeeds (field.toView v) :=
  succeeds_fieldOf_bind_iff fun _ =>
    succeeds_bind_pure_iff.trans (succeeds_mapM_iff fun e _ => succeeds_writeEntry_iff e)

theorem succeeds_writeParts_iff (group : Group) :
    Succeeds (writeParts schema group) ↔ group.Expressible schema fun field v => Succeeds (field.toView v) := by
  induction group with
  | step logical fields groups ih =>
      rw [writeParts_mk, Group.Expressible, Group.allBags_mk]
      refine succeeds_bind_iff ?_ fun _ _ => succeeds_bind_pure_iff.trans ?_
      · rw [succeeds_mapM_iff fun entry _ => succeeds_writeStatement_iff entry.1 entry.2, List.forall_mem_filter]
        simp only [Bool.not_eq_true']
      · rw [List.mapM_map]
        exact succeeds_mapM_iff fun g mem => succeeds_bind_pure_iff.trans (ih g mem)

theorem writeValue_failsOnly (v : Value) : FailsOnly ExportError.OfValue (writeValue field v) :=
  (formOf_failsOnly field _).bind_pure

theorem writeRange_failsOnly (r : Range) : FailsOnly ExportError.OfValue (writeRange field r) :=
  (writeValue_failsOnly _).bind fun _ _ => (writeValue_failsOnly _).bind_pure

theorem writeEntry_failsOnly (e : Entry) : FailsOnly ExportError.OfValue (writeEntry field e) := by
  cases e with
  | single s => exact writeValue_failsOnly _
  | excludedSingle s => exact (writeValue_failsOnly _).bind_pure
  | range r => exact writeRange_failsOnly r
  | excludedRange r => exact (writeRange_failsOnly r).bind_pure
  | comparison c => exact (writeValue_failsOnly _).bind_pure
  | textMatch m => exact failsOnly_ok _

theorem writeParts_failsOnly {group : Group} (known : group.Known schema) :
    FailsOnly ExportError.OfValue (writeParts schema group) := by
  induction group with
  | step logical fields groups ih =>
      obtain ⟨here, below⟩ := (Group.allBags_mk _ _ _ _).mp known
      rw [writeParts_mk, List.mapM_map]
      refine (failsOnly_mapM fun entry mem => ?_).bind fun _ _ =>
        (failsOnly_mapM fun group mem => (ih group mem (below group mem)).bind_pure).bind_pure
      exact fieldOf_bind_failsOnly (here entry (List.mem_of_mem_filter mem)) fun field =>
        (failsOnly_mapM fun e _ => writeEntry_failsOnly e).bind_pure

end Query

/-- A writer that fails on trees of known fields for their values alone never comes upon an unknown field in an export:
a condition that speaks of one is refused before. -/
theorem Condition.exportBy_ne_unknownField {α : Type} {write : Condition → Except ExportError α} {c : Condition}
    (h : c.root.Known c.schema → FailsOnly ExportError.OfValue (write c)) (limits : Limits) (name : String) :
    c.exportBy write limits ≠ .error (.unknownField name) := by
  rw [exportBy]
  cases problems : c.problems limits with
  | nil =>
      intro failed
      cases h (known_of_problems problems) _ failed
  | cons problem more =>
      intro failed
      cases failed

end Criteria
