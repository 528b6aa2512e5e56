import Criteria.Validation
import Mathlib.Data.List.Nodup

/-!
# When nothing is wrong with a condition

A bag is in order if its field allows every entry and so many of them, and a tree is in order if all its bags
are, no group has too many below it, and none is nested too deep.
-/

namespace Criteria

theorem Schema.name_of_field? {schema : Schema} {name : String} {field : Field}
    (found : schema.field? name = some field) : field.name = name :=
  beq_iff_eq.mp (@List.find?_some _ (fun field : Field => field.name == name) _ _ found)

theorem Schema.mem_of_field? {schema : Schema} {name : String} {field : Field}
    (found : schema.field? name = some field) : field ∈ schema.fields :=
  List.mem_of_find?_eq_some found

theorem Schema.eq_of_name_eq (schema : Schema) {field other : Field} (mem : field ∈ schema.fields)
    (memOther : other ∈ schema.fields) (same : field.name = other.name) : field = other :=
  List.inj_on_of_nodup_map schema.distinct mem memOther same

/-- A field is found under its name. -/
theorem Schema.field?_of_mem {schema : Schema} {field : Field} (mem : field ∈ schema.fields) :
    schema.field? field.name = some field := by
  cases found : schema.field? field.name with
  | none => exact absurd (beq_iff_eq.mpr rfl) (List.find?_eq_none.mp found field mem)
  | some other =>
      rw [schema.eq_of_name_eq mem (Schema.mem_of_field? found) (Schema.name_of_field? found).symm]

namespace Bag

theorem mem_toList_add (bag : Bag) (entry x : Entry) :
    x ∈ (bag.add entry).toList ↔ x ∈ bag.toList ∨ x = entry := by
  cases entry <;> simp only [add, toList, List.map_append, List.mem_append, List.map_cons,
    List.map_nil, List.mem_singleton] <;> tauto

theorem addAll_cons (bag : Bag) (entry : Entry) (entries : List Entry) :
    bag.addAll (entry :: entries) = (bag.add entry).addAll entries := rfl

theorem addAll_append (bag : Bag) (entries others : List Entry) :
    bag.addAll (entries ++ others) = (bag.addAll entries).addAll others :=
  List.foldl_append

theorem mem_toList_addAll (bag : Bag) (entries : List Entry) (x : Entry) :
    x ∈ (bag.addAll entries).toList ↔ x ∈ bag.toList ∨ x ∈ entries := by
  induction entries generalizing bag with
  | nil => simp [addAll]
  | cons entry entries ih =>
      rw [addAll_cons, ih, mem_toList_add, List.mem_cons, or_assoc]

theorem count_addAll (bag : Bag) (entries : List Entry) :
    (bag.addAll entries).count = bag.count + entries.length := by
  induction entries generalizing bag with
  | nil => rfl
  | cons entry entries ih =>
      rw [addAll_cons, ih, count_add, List.length_cons]
      omega

theorem forall_mem_toList_iff {bag : Bag} {P : Entry → Prop} :
    (∀ e ∈ bag.toList, P e) ↔ (∀ s ∈ bag.singles, P (.single s)) ∧ (∀ s ∈ bag.excludedSingles, P (.excludedSingle s)) ∧
      (∀ r ∈ bag.ranges, P (.range r)) ∧ (∀ r ∈ bag.excludedRanges, P (.excludedRange r)) ∧
        (∀ c ∈ bag.comparisons, P (.comparison c)) ∧ ∀ m ∈ bag.textMatches, P (.textMatch m) := by
  simp only [Bag.toList, List.forall_mem_append, List.forall_mem_map, and_assoc]

theorem addAll_map {α : Type} (kind : α → Entry) (put : Bag → List α → Bag) (nil : ∀ bag, put bag [] = bag)
    (cons : ∀ bag x xs, put (bag.add (kind x)) xs = put bag (x :: xs)) (bag : Bag) (xs : List α) :
    bag.addAll (xs.map kind) = put bag xs := by
  induction xs generalizing bag with
  | nil => exact (nil bag).symm
  | cons x xs ih => rw [List.map_cons, addAll_cons, ih, cons]

/-- A bag is made of its entries. -/
theorem addAll_toList (bag : Bag) : empty.addAll bag.toList = bag := by
  rw [toList, addAll_append, addAll_append, addAll_append, addAll_append, addAll_append,
    addAll_map .single fun b xs => { b with singles := b.singles ++ xs },
    addAll_map .excludedSingle fun b xs => { b with excludedSingles := b.excludedSingles ++ xs },
    addAll_map .range fun b xs => { b with ranges := b.ranges ++ xs },
    addAll_map .excludedRange fun b xs => { b with excludedRanges := b.excludedRanges ++ xs },
    addAll_map .comparison fun b xs => { b with comparisons := b.comparisons ++ xs },
    addAll_map .textMatch fun b xs => { b with textMatches := b.textMatches ++ xs }]
  all_goals simp [add, empty]

end Bag

/-- A field allows a bag if it accepts every entry and no more of them than it may have. -/
structure Field.Allows (field : Field) (limits : Limits) (bag : Bag) : Prop where
  checked : ∀ entry ∈ bag.toList, field.check entry = .ok ()
  few : bag.count ≤ field.limit limits

theorem Field.allows_empty (field : Field) (limits : Limits) : field.Allows limits .empty :=
  ⟨fun _ mem => absurd mem List.not_mem_nil, Nat.zero_le _⟩

theorem Field.allows_addAll_iff (field : Field) (limits : Limits) (bag : Bag) (entries : List Entry) :
    field.Allows limits (bag.addAll entries) ↔
      (∀ entry ∈ bag.toList, field.check entry = .ok ()) ∧
        (∀ entry ∈ entries, field.check entry = .ok ()) ∧
          bag.count + entries.length ≤ field.limit limits := by
  constructor
  · rintro ⟨checked, few⟩
    rw [Bag.count_addAll] at few
    simp only [Bag.mem_toList_addAll] at checked
    exact ⟨fun e mem => checked e (.inl mem), fun e mem => checked e (.inr mem), few⟩
  · rintro ⟨old, new, few⟩
    refine ⟨fun e mem => ?_, by rwa [Bag.count_addAll]⟩
    rcases (Bag.mem_toList_addAll bag entries e).mp mem with mem | mem
    · exact old e mem
    · exact new e mem

namespace Validation

variable (schema : Schema) (limits : Limits)

/-- A schema allows a bag under a name if it has the field and the field allows the bag. -/
def AllowsField (name : String) (bag : Bag) : Prop :=
  ∃ field, schema.field? name = some field ∧ field.Allows limits bag

theorem fieldProblems_eq_nil_iff (name : String) (bag : Bag) :
    fieldProblems schema limits name bag = [] ↔ AllowsField schema limits name bag := by
  rw [fieldProblems, AllowsField]
  cases schema.field? name with
  | none => simp
  | some field =>
      simp only [Option.some.injEq, exists_eq_left', List.append_eq_nil_iff,
        List.filterMap_eq_nil_iff]
      constructor
      · rintro ⟨checked, few⟩
        refine ⟨fun entry mem => ?_, ?_⟩
        · have passed := checked entry mem
          cases found : field.check entry with
          | ok _ => rfl
          | error cause => simp [found] at passed
        · by_contra many
          simp [Nat.lt_of_not_le many] at few
      · rintro ⟨checked, few⟩
        refine ⟨fun entry mem => ?_, ?_⟩
        · rw [checked entry mem]
        · rw [if_neg (Nat.not_lt.mpr few)]

/-- A group is in order exactly if its own bags are, the groups below are not too many and not too deep, and
each of them is in order. -/
theorem groupProblems_mk_eq_nil_iff (logical : Logical) (fields : Keyed Bag) (groups : List Group)
    (level : Nat) :
    groupProblems schema limits (.mk logical fields groups) level = [] ↔
      (∀ entry ∈ fields.entries, AllowsField schema limits entry.1 entry.2) ∧
      groups.length ≤ limits.maxGroups ∧
      (groups ≠ [] → level + 1 ≤ limits.maxNesting) ∧
      ∀ group ∈ groups, groupProblems schema limits group (level + 1) = [] := by
  rw [groupProblems, Group.fold_mk]
  simp only [List.append_eq_nil_iff, List.flatMap_eq_nil_iff, fieldProblems_eq_nil_iff,
    List.length_map, List.isEmpty_map, and_assoc]
  refine and_congr_right fun _ => and_congr ?_ ?_
  · split <;> simp <;> omega
  · cases groups with
    | nil => simp
    | cons group groups =>
        simp only [List.isEmpty_cons, Bool.not_false, Bool.true_and, decide_eq_true_eq, ne_eq,
          reduceCtorEq, not_false_eq_true, forall_const]
        split
        · rename_i deep
          simp [Nat.not_le.mpr deep]
        · rename_i shallow
          simp only [Nat.not_lt.mp shallow, true_and, List.flatMap_eq_nil_iff, List.forall_mem_map]

end Validation

end Criteria
