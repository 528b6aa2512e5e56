import Criteria.Exchange.Reader
import Criteria.Proofs.Intake
import Criteria.Proofs.Keyed

/-!
# What an exchange form stands for without limits

The tree that a form stands for if every norm is only converted: no entry is checked and nothing is counted.
There is none if the name of a field or of a kind of match is unknown or if a norm cannot be converted.  Where
views are made so that the reading never ends early, it gives this tree exactly if there is one and nothing is
wrong with it.
-/

namespace Criteria.Exchange

open Intake Noted

/-! ## Conversion alone -/

/-- The view of a value, or the text it was given as where it has none, whatever the reason. -/
def viewOrNorm (field : Field) (v : Value) (norm : String) : String :=
  (field.toView v).toOption.getD norm

/-- Shows values without ever ending the reading. -/
def plainView (field : Field) (v : Value) (norm : String) : Noted String :=
  pure (viewOrNorm field v norm)

/-- The value of a norm, with its view; what cannot be shown is shown as its norm. -/
def value? (field : Field) (norm : String) : Option Single :=
  (field.ofNorm norm).toOption.map fun value => ⟨value, viewOrNorm field value norm⟩

/-- The range between the values of two norms. -/
def range? (field : Field) (form : RangeForm) : Option Range := do
  let lower ← value? field form.lower
  let upper ← value? field form.upper
  return ⟨lower.value, upper.value, form.includesLower, form.includesUpper, lower.view, upper.view⟩

/-- The comparison with the value of a norm. -/
def comparison? (field : Field) (form : ComparisonForm) : Option Comparison :=
  (value? field form.value).map fun s => ⟨s.value, form.operator, s.view⟩

/-- The match whose kind has a given name. -/
def match? (form : MatchForm) : Option TextMatch :=
  (MatchKind.ofFullName? form.typeName).map fun variant =>
    ⟨form.value, variant.1, variant.2, form.ignoresCase⟩

/-- The bag that the entries of a form stand for. -/
def bag? (field : Field) (form : BagForm) : Option Bag := do
  let singles ← form.singles.mapM (value? field)
  let excludedSingles ← form.excludedSingles.mapM (value? field)
  let ranges ← form.ranges.mapM (range? field)
  let excludedRanges ← form.excludedRanges.mapM (range? field)
  let comparisons ← form.comparisons.mapM (comparison? field)
  let textMatches ← form.textMatches.mapM match?
  return ⟨singles, excludedSingles, ranges, excludedRanges, comparisons, textMatches⟩

/-- The bag that a named form stands for. -/
def namedBag? (schema : Schema) (form : String × BagForm) : Option (String × Bag) := do
  let field ← schema.field? form.1
  let bag ← bag? field form.2
  return (form.1, bag)

/-- The bags with entries. -/
def filled (bags : List (String × Bag)) : List (String × Bag) :=
  bags.filter fun entry => !entry.2.isEmpty

/-- The tree that a form stands for without limits. -/
def unrestricted? (schema : Schema) : GroupForm → Option Group :=
  GroupForm.fold fun fields below logical => do
    let bags ← fields.entries.mapM (namedBag? schema)
    let groups ← below.mapM id
    return .mk (logical.getD .all) (.ofList (filled bags)) groups

theorem unrestricted?_mk (schema : Schema) (fields : Keyed BagForm) (below : List GroupForm)
    (logical : Option Logical) :
    unrestricted? schema (.mk fields below logical) = do
      let bags ← fields.entries.mapM (namedBag? schema)
      let groups ← below.mapM (unrestricted? schema)
      return .mk (logical.getD .all) (.ofList (filled bags)) groups := by
  rw [unrestricted?, GroupForm.fold_mk, List.mapM_map]
  rfl

/-! ## Reading entries -/

theorem reads_value (field : Field) (norm : String) : (readValue plainView field norm).Reads (value? field norm) := by
  intro r
  simp only [readValue, monadLift_self, bind_eq_pure_iff, value?]
  constructor
  · rintro ⟨a, plain, h⟩
    obtain ⟨v, converted, rfl⟩ := (reads_convert field _ _ a).mp plain
    rw [converted]
    exact ⟨_, rfl, (pure_inj.mp h).symm⟩
  · rintro ⟨s, found, rfl⟩
    obtain ⟨v, converted, rfl⟩ := Option.map_eq_some_iff.mp found
    exact ⟨some v, (reads_convert field _ _ _).mpr ⟨v, converted, rfl⟩, rfl⟩

theorem reads_range (field : Field) (form : RangeForm) :
    (readRange plainView field form).Reads (range? field form) := by
  intro r
  simp only [readRange, range?, bind_eq_pure_iff, Option.bind_eq_bind, Option.pure_def]
  constructor
  · rintro ⟨a, plain, b, plainUpper, h⟩
    obtain ⟨lower, found, rfl⟩ := (reads_value field form.lower a).mp plain
    obtain ⟨upper, foundUpper, rfl⟩ := (reads_value field form.upper b).mp plainUpper
    rw [found, foundUpper]
    exact ⟨_, rfl, (pure_inj.mp h).symm⟩
  · rintro ⟨range, found, rfl⟩
    obtain ⟨lower, foundLower, found⟩ := Option.bind_eq_some_iff.mp found
    obtain ⟨upper, foundUpper, found⟩ := Option.bind_eq_some_iff.mp found
    refine ⟨some lower, (reads_value field _ _).mpr ⟨lower, foundLower, rfl⟩, some upper,
      (reads_value field _ _).mpr ⟨upper, foundUpper, rfl⟩, ?_⟩
    exact congrArg pure found

theorem reads_match (field : Field) (form : MatchForm) : (readMatch field form).Reads (match? form) := by
  rw [readMatch, match?]
  cases MatchKind.ofFullName? form.typeName with
  | none => exact reads_none _
  | some variant => exact reads_some _

/-- What the entries of a form stand for, in the order of their kinds. -/
def results (field : Field) (form : BagForm) : List (Option Entry) :=
  form.singles.map (fun norm => (value? field norm).map .single) ++
    form.excludedSingles.map (fun norm => (value? field norm).map .excludedSingle) ++
    form.ranges.map (fun r => (range? field r).map .range) ++
    form.excludedRanges.map (fun r => (range? field r).map .excludedRange) ++
    form.comparisons.map (fun c => (comparison? field c).map .comparison) ++
    form.textMatches.map fun m => (match? m).map .textMatch

theorem forall₂_map_map {α β γ : Type} {relation : β → γ → Prop} {f : α → β} {g : α → γ}
    (related : ∀ a, relation (f a) (g a)) (xs : List α) : (xs.map f).Forall₂ relation (xs.map g) := by
  rw [List.forall₂_map_left_iff, List.forall₂_map_right_iff]
  exact List.forall₂_same.mpr fun a _ => related a

theorem reads_entriesOf (field : Field) (form : BagForm) :
    (entriesOf plainView field form).Forall₂ Reads (results field form) := by
  have comparison (c : ComparisonForm) : (do
      return (← readValue plainView field c.value).map fun s => Entry.comparison ⟨s.value, c.operator, s.view⟩ :
        Noted (Option Entry)).Reads ((comparison? field c).map .comparison) := by
    rw [comparison?, Option.map_map]
    exact (reads_value field c.value).map _
  rw [entriesOf, results]
  refine List.rel_append (List.rel_append (List.rel_append (List.rel_append (List.rel_append ?_ ?_) ?_) ?_)
    ?_) ?_
  · exact forall₂_map_map (fun norm => (reads_value field norm).map _) _
  · exact forall₂_map_map (fun norm => (reads_value field norm).map _) _
  · exact forall₂_map_map (fun r => (reads_range field r).map _) _
  · exact forall₂_map_map (fun r => (reads_range field r).map _) _
  · exact forall₂_map_map comparison _
  · exact forall₂_map_map (fun m => (reads_match field m).map _) _

theorem map_kind_eq_iff {α β : Type} {f : α → Option β} {kind : β → Entry} {xs : List α}
    {entries : List Entry} :
    xs.map (fun x => (f x).map kind) = entries.map some ↔
      ∃ ys, xs.mapM f = some ys ∧ entries = ys.map kind := by
  rw [← mapM_eq_some_iff]
  induction xs generalizing entries with
  | nil => simp [eq_comm]
  | cons x xs ih =>
      simp only [List.mapM_cons, Option.bind_eq_bind, Option.pure_def, Option.bind_eq_some_iff,
        Option.map_eq_some_iff, Option.some.injEq, ih]
      constructor
      · rintro ⟨-, ⟨y, hy, rfl⟩, -, ⟨ys, hys, rfl⟩, rfl⟩
        exact ⟨y :: ys, ⟨y, hy, ys, hys, rfl⟩, rfl⟩
      · rintro ⟨-, ⟨y, hy, ys, hys, rfl⟩, rfl⟩
        exact ⟨kind y, ⟨y, hy, rfl⟩, ys.map kind, ⟨ys, hys, rfl⟩, rfl⟩

/-- The entries of a form stand for those of a bag. -/
theorem results_eq_iff (field : Field) (form : BagForm) (entries : List Entry) :
    results field form = entries.map some ↔ ∃ bag, bag? field form = some bag ∧ entries = bag.toList := by
  simp only [bag?, Option.bind_eq_bind, Option.pure_def, Option.bind_eq_some_iff, Option.some.injEq]
  constructor
  · intro h
    obtain ⟨_, _, rfl, h, hm⟩ := List.append_eq_map_iff.mp h
    obtain ⟨_, _, rfl, h, hc⟩ := List.append_eq_map_iff.mp h.symm
    obtain ⟨_, _, rfl, h, hxr⟩ := List.append_eq_map_iff.mp h.symm
    obtain ⟨_, _, rfl, h, hr⟩ := List.append_eq_map_iff.mp h.symm
    obtain ⟨_, _, rfl, hs, hxs⟩ := List.append_eq_map_iff.mp h.symm
    obtain ⟨singles, first, rfl⟩ := map_kind_eq_iff.mp hs.symm
    obtain ⟨excludedSingles, second, rfl⟩ := map_kind_eq_iff.mp hxs.symm
    obtain ⟨ranges, third, rfl⟩ := map_kind_eq_iff.mp hr.symm
    obtain ⟨excludedRanges, fourth, rfl⟩ := map_kind_eq_iff.mp hxr.symm
    obtain ⟨comparisons, fifth, rfl⟩ := map_kind_eq_iff.mp hc.symm
    obtain ⟨textMatches, sixth, rfl⟩ := map_kind_eq_iff.mp hm.symm
    exact ⟨⟨singles, excludedSingles, ranges, excludedRanges, comparisons, textMatches⟩,
      ⟨singles, first, excludedSingles, second, ranges, third, excludedRanges, fourth, comparisons, fifth,
        textMatches, sixth, rfl⟩, rfl⟩
  · rintro ⟨-, ⟨singles, hs, excludedSingles, hxs, ranges, hr, excludedRanges, hxr, comparisons, hc,
      textMatches, hm, rfl⟩, rfl⟩
    rw [results, Bag.toList, List.map_append, List.map_append, List.map_append, List.map_append,
      List.map_append, map_kind_eq_iff.mpr ⟨singles, hs, rfl⟩,
      map_kind_eq_iff.mpr ⟨excludedSingles, hxs, rfl⟩, map_kind_eq_iff.mpr ⟨ranges, hr, rfl⟩,
      map_kind_eq_iff.mpr ⟨excludedRanges, hxr, rfl⟩, map_kind_eq_iff.mpr ⟨comparisons, hc, rfl⟩,
      map_kind_eq_iff.mpr ⟨textMatches, hm, rfl⟩]

theorem readEntries_eq_addReadings (limits : Limits) (field : Field) (bag : Bag)
    (readings : List (Noted (Option Entry))) :
    readEntries limits field bag readings =
      addReadings limits field bag (readings.map fun reading => (reading, none)) := by
  induction readings generalizing bag with
  | nil => rfl
  | cons reading readings ih =>
      rw [readEntries, List.map_cons, addReadings]
      apply congrArg (reading >>= ·)
      funext entry
      cases entry with
      | none => exact ih bag
      | some entry => exact congrArg (addEntry limits field bag entry none >>= ·) (funext ih)

/-- The entries of a form are taken in without a problem exactly if the form stands for a bag that its field
allows. -/
theorem readEntries_eq_pure_iff (limits : Limits) (field : Field) (form : BagForm) (bag : Bag) :
    readEntries limits field .empty (entriesOf plainView field form) = pure bag ↔
      bag? field form = some bag ∧ field.Allows limits bag := by
  have reads : ((entriesOf plainView field form).map fun reading => (reading, (none : Option Nat))).Forall₂
      (fun x result => x.1.Reads result) (results field form) := by
    rw [List.forall₂_map_left_iff]
    exact reads_entriesOf field form
  rw [readEntries_eq_addReadings, addReadings_eq_pure_iff (field.allows_empty limits) reads]
  constructor
  · rintro ⟨entries, h, allows, rfl⟩
    obtain ⟨bag, found, rfl⟩ := (results_eq_iff field form entries).mp h
    rw [Bag.addAll_toList] at allows ⊢
    exact ⟨found, allows⟩
  · rintro ⟨found, allows⟩
    refine ⟨bag.toList, (results_eq_iff field form _).mpr ⟨bag, found, rfl⟩, ?_, ?_⟩
    · rwa [Bag.addAll_toList]
    · rw [Bag.addAll_toList]

/-! ## Reading groups -/

section Groups

variable {schema : Schema} {limits : Limits}

theorem foldl_filled_cons (fields : Keyed Bag) (name : String) (bag : Bag) (bags : List (String × Bag)) :
    (filled ((name, bag) :: bags)).foldl (fun k entry => k.insert entry.1 entry.2) fields =
      (filled bags).foldl (fun k entry => k.insert entry.1 entry.2)
        (if bag.isEmpty then fields else fields.insert name bag) := by
  rw [filled, filled, List.filter_cons]
  cases bag.isEmpty <;> rfl

/-- Named forms are read without a problem exactly if they stand for bags that their fields allow. -/
theorem readFields_eq_pure_iff (fields : Keyed Bag) (forms : List (String × BagForm)) (result : Keyed Bag) :
    readFields plainView schema limits fields forms = pure result ↔
      ∃ bags, forms.mapM (namedBag? schema) = some bags ∧
        (∀ entry ∈ bags, Validation.AllowsField schema limits entry.1 entry.2) ∧
        result = (filled bags).foldl (fun k entry => k.insert entry.1 entry.2) fields := by
  induction forms generalizing fields with
  | nil =>
      rw [readFields, pure_inj]
      constructor
      · rintro rfl
        exact ⟨[], rfl, List.forall_mem_nil _, rfl⟩
      · rintro ⟨bags, h, -, rfl⟩
        cases h
        rfl
  | cons form forms ih =>
      rcases form with ⟨name, form⟩
      simp only [readFields, monadLift_self, bind_eq_pure_iff, lookUp_eq_pure_iff, List.mapM_cons, namedBag?,
        Option.bind_eq_bind, Option.bind_eq_some_iff, Option.pure_def, Option.some.injEq]
      constructor
      · rintro ⟨-, ⟨field, found, rfl⟩, h⟩
        obtain ⟨bag, read, h⟩ := (bind_eq_pure_iff _ _ _).mp h
        obtain ⟨converted, allows⟩ := (readEntries_eq_pure_iff limits field form bag).mp read
        obtain ⟨bags, others, allowed, rfl⟩ := (ih _).mp h
        refine ⟨(name, bag) :: bags, ⟨_, ⟨field, found, bag, converted, rfl⟩, bags, others, rfl⟩,
          List.forall_mem_cons.mpr ⟨⟨field, found, allows⟩, allowed⟩, ?_⟩
        exact (foldl_filled_cons fields name bag bags).symm
      · rintro ⟨-, ⟨-, ⟨field, found, bag, converted, rfl⟩, bags, others, rfl⟩, allowed, rfl⟩
        obtain ⟨⟨other, hother, allows⟩, allowed⟩ := List.forall_mem_cons.mp allowed
        rw [found] at hother
        cases hother
        refine ⟨some field, ⟨field, found, rfl⟩, ?_⟩
        refine (bind_eq_pure_iff _ _ _).mpr
          ⟨bag, (readEntries_eq_pure_iff limits field form bag).mpr ⟨converted, allows⟩, ?_⟩
        exact (ih _).mpr ⟨bags, others, allowed, foldl_filled_cons fields name bag bags⟩

/-- Groups are built without a problem exactly if each of them is, and there may be so many at their level. -/
theorem readGroups_eq_pure_iff (level : Nat) {seen : Nat} (few : seen ≤ limits.maxGroups)
    (builds : List (Nat → Noted Group)) (groups : List Group) :
    readGroups limits level (seen + 1) builds = pure groups ↔
      builds.Forall₂ (fun build group => build level = pure group) groups ∧
        seen + groups.length ≤ limits.maxGroups ∧ (groups ≠ [] → level ≤ limits.maxNesting) := by
  induction builds generalizing seen groups with
  | nil =>
      rw [readGroups, pure_inj]
      constructor
      · rintro rfl
        exact ⟨.nil, few, fun h => absurd rfl h⟩
      · rintro ⟨h, -⟩
        cases h
        rfl
  | cons build builds ih =>
      have near : seen + 1 ≤ limits.maxGroups + 1 := by omega
      rw [readGroups, bind_eq_pure_iff]
      constructor
      · rintro ⟨may, entered, h⟩
        obtain ⟨room, shallow, rfl⟩ := (mayEnter_eq_pure_iff limits near _ _ _).mp entered
        obtain ⟨group, built, h⟩ := (bind_eq_pure_iff _ _ _).mp h
        obtain ⟨others, read, h⟩ := (bind_eq_pure_iff _ _ _).mp h
        cases pure_inj.mp h
        obtain ⟨all, total, -⟩ := (ih room others).mp read
        refine ⟨.cons built all, ?_, fun _ => shallow⟩
        rw [List.length_cons]
        omega
      · rintro ⟨all, total, shallow⟩
        cases all with
        | @cons _ group _ others built all =>
            rw [List.length_cons] at total
            have room : seen + 1 ≤ limits.maxGroups := by omega
            have level := shallow (List.cons_ne_nil _ _)
            refine ⟨true, (mayEnter_eq_pure_iff limits near _ _ _).mpr ⟨room, level, rfl⟩, ?_⟩
            refine (bind_eq_pure_iff _ _ _).mpr ⟨group, built, ?_⟩
            refine (bind_eq_pure_iff _ _ _).mpr ⟨others, ?_, rfl⟩
            exact (ih room others).mpr ⟨all, by omega, fun _ => level⟩

theorem names_of_mapM {forms : List (String × BagForm)} {bags : List (String × Bag)}
    (h : forms.mapM (namedBag? schema) = some bags) : bags.map Prod.fst = forms.map Prod.fst := by
  induction forms generalizing bags with
  | nil =>
      cases h
      rfl
  | cons form forms ih =>
      simp only [List.mapM_cons, namedBag?, Option.bind_eq_bind, Option.bind_eq_some_iff, Option.pure_def,
        Option.some.injEq] at h
      rcases h with ⟨-, ⟨field, -, bag, -, rfl⟩, others, h, rfl⟩
      rw [List.map_cons, List.map_cons, ih h]

theorem known_of_mapM {forms : List (String × BagForm)} {bags : List (String × Bag)}
    (h : forms.mapM (namedBag? schema) = some bags) {entry : String × Bag} (mem : entry ∈ bags) :
    ∃ field, schema.field? entry.1 = some field := by
  rw [mapM_eq_some_iff] at h
  obtain ⟨form, -, hform⟩ := List.mem_map.mp (h ▸ List.mem_map_of_mem mem)
  obtain ⟨field, found, hform⟩ := Option.bind_eq_some_iff.mp hform
  obtain ⟨bag, -, hform⟩ := Option.bind_eq_some_iff.mp hform
  cases hform
  exact ⟨field, found⟩

/-- The bags of distinct forms are collected as they are, without the empty ones, which are always allowed. -/
theorem allowed_ofList_iff {forms : Keyed BagForm} {bags : List (String × Bag)}
    (h : forms.entries.mapM (namedBag? schema) = some bags) :
    (∀ entry ∈ (Keyed.ofList (filled bags)).entries, Validation.AllowsField schema limits entry.1 entry.2) ↔
      ∀ entry ∈ bags, Validation.AllowsField schema limits entry.1 entry.2 := by
  have distinct : ((filled bags).map Prod.fst).Nodup := by
    have names : (bags.map Prod.fst).Nodup := names_of_mapM h ▸ forms.distinct
    exact names.sublist (List.filter_sublist.map _)
  rw [Keyed.entries_ofList distinct]
  constructor
  · intro allowed entry mem
    cases empty : entry.2.isEmpty with
    | false => exact allowed entry (List.mem_filter.mpr ⟨mem, by rw [empty]; rfl⟩)
    | true =>
        obtain ⟨field, found⟩ := known_of_mapM h mem
        have none : entry.2.count = 0 := beq_iff_eq.mp empty
        refine ⟨field, found, ?_, none ▸ Nat.zero_le _⟩
        rw [(Bag.isEmpty_iff_toList _).mp empty]
        exact List.forall_mem_nil _
  · exact fun allowed entry mem => allowed entry (List.mem_of_mem_filter mem)

theorem readGroup_mk (fields : Keyed BagForm) (below : List GroupForm) (logical : Option Logical)
    (level : Nat) :
    readGroup plainView schema limits (.mk fields below logical) level = do
      let bags ← readFields plainView schema limits .empty fields.entries
      let groups ← readGroups limits (level + 1) 1 (below.map (readGroup plainView schema limits))
      return .mk (logical.getD .all) bags groups := by
  rw [readGroup, GroupForm.fold_mk]

/-- The tree of a form is read without a problem exactly if the form stands for it and nothing is wrong with
it. -/
theorem readGroup_eq_pure_iff (form : GroupForm) (level : Nat) (group : Group) :
    readGroup plainView schema limits form level = pure group ↔
      unrestricted? schema form = some group ∧
        Validation.groupProblems schema limits group level = [] := by
  induction form generalizing level group with
  | step fields below logical ih =>
      have groups (gs : List Group) :
          (below.map (readGroup plainView schema limits)).Forall₂ (fun build g => build (level + 1) = pure g) gs ↔
            below.mapM (unrestricted? schema) = some gs ∧
              ∀ g ∈ gs, Validation.groupProblems schema limits g (level + 1) = [] := by
        clear group
        induction below generalizing gs with
        | nil => cases gs <;> simp
        | cons form below ihBelow =>
            obtain ⟨first, others⟩ := List.forall_mem_cons.mp ih
            have rest := ihBelow others
            rw [mapM_eq_some_iff]
            simp only [mapM_eq_some_iff] at rest
            cases gs with
            | nil => simp
            | cons g gs =>
                rw [List.map_cons, List.forall₂_cons, first, rest, List.map_cons, List.map_cons,
                  List.cons.injEq, List.forall_mem_cons]
                tauto
      rw [readGroup_mk, unrestricted?_mk, bind_eq_pure_iff]
      constructor
      · rintro ⟨bags, read, h⟩
        obtain ⟨gs, built, h⟩ := (bind_eq_pure_iff _ _ _).mp h
        cases pure_inj.mp h
        obtain ⟨named, converted, allowed, rfl⟩ := (readFields_eq_pure_iff _ _ _).mp read
        obtain ⟨all, few, shallow⟩ := (readGroups_eq_pure_iff (level + 1) (Nat.zero_le _) _ _).mp built
        obtain ⟨convertedBelow, inOrder⟩ := (groups gs).mp all
        rw [converted, convertedBelow]
        refine ⟨rfl, (Validation.groupProblems_mk_eq_nil_iff _ _ _ _ _ _).mpr ⟨?_, ?_, shallow, inOrder⟩⟩
        · exact (allowed_ofList_iff converted).mpr allowed
        · rwa [Nat.zero_add] at few
      · rintro ⟨h, inOrder⟩
        obtain ⟨named, converted, h⟩ := Option.bind_eq_some_iff.mp h
        obtain ⟨gs, convertedBelow, h⟩ := Option.bind_eq_some_iff.mp h
        cases h
        obtain ⟨allowed, few, shallow, below⟩ :=
          (Validation.groupProblems_mk_eq_nil_iff _ _ _ _ _ _).mp inOrder
        refine ⟨_, (readFields_eq_pure_iff _ _ _).mpr
          ⟨named, converted, (allowed_ofList_iff converted).mp allowed, rfl⟩, ?_⟩
        refine (bind_eq_pure_iff _ _ _).mpr ⟨gs, ?_, rfl⟩
        refine (readGroups_eq_pure_iff (level + 1) (Nat.zero_le _) _ _).mpr ⟨?_, ?_, shallow⟩
        · exact (groups gs).mpr ⟨convertedBelow, below⟩
        · rwa [Nat.zero_add]

end Groups

end Criteria.Exchange
