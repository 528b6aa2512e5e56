import Criteria.Proofs.Acceptance
import Criteria.Proofs.Offer

/-!
# What a form offers beyond the limits

In a form every field has all its entries in one place, so each bag starts empty.  The groups below are counted as
they come; one that may not be built is passed over with all that is in it.
-/

namespace Criteria

namespace Noted

variable {α β : Type}

/-- A reading comes to a result, and nothing it notes is about limits. -/
def Gives (x : Noted (Option α)) (result : Option α) : Prop :=
  x.value = result ∧ x.problems.filter Problem.isOverflow = []

theorem Gives.map {x : Noted (Option α)} {result : Option α} (gives : x.Gives result) (f : α → β) :
    (x >>= fun a => pure (a.map f)).Gives (result.map f) := by
  obtain ⟨value, plain⟩ := gives
  refine ⟨congrArg (Option.map f) value, ?_⟩
  rw [problems_bind, problems_pure, List.append_nil]
  exact plain

theorem Gives.all {xs : List (Noted (Option α))} {results : List (Option α)} (gives : xs.Forall₂ Gives results) :
    xs.map Noted.value = results ∧ ∀ x ∈ xs, x.problems.filter Problem.isOverflow = [] := by
  induction gives with
  | nil => exact ⟨rfl, List.forall_mem_nil _⟩
  | cons first _ ih => exact ⟨congrArg₂ List.cons first.1 ih.1, List.forall_mem_cons.mpr ⟨first.2, ih.2⟩⟩

end Noted

namespace Exchange

open Intake Noted

/-! ## Conversion -/

theorem gives_value (field : Field) (norm : String) : (readValue plainView field norm).Gives (value? field norm) := by
  rw [readValue, value?]
  cases field.ofNorm norm with
  | error failure => exact ⟨rfl, rfl⟩
  | ok v => exact ⟨rfl, rfl⟩

/-- Both bounds of a range are tried. -/
theorem gives_range (field : Field) (form : RangeForm) : (readRange plainView field form).Gives (range? field form) := by
  obtain ⟨lower, plain⟩ := gives_value field form.lower
  obtain ⟨upper, plainUpper⟩ := gives_value field form.upper
  refine ⟨?_, ?_⟩
  · rw [readRange, range?, value_bind, value_bind, lower, upper]
    cases value? field form.lower with
    | none => rfl
    | some lower => cases value? field form.upper <;> rfl
  · rw [readRange, problems_bind, problems_bind, List.filter_append, List.filter_append, plain, plainUpper]
    cases (readValue plainView field form.lower).value with
    | none => rfl
    | some lower => cases (readValue plainView field form.upper).value <;> rfl

theorem gives_match (field : Field) (form : MatchForm) : (readMatch field form).Gives (match? form) := by
  rw [readMatch, match?]
  cases MatchKind.ofFullName? form.typeName with
  | none => exact ⟨rfl, rfl⟩
  | some variant => exact ⟨rfl, rfl⟩

theorem gives_entriesOf (field : Field) (form : BagForm) :
    (entriesOf plainView field form).Forall₂ Gives (results field form) := by
  have comparison (c : ComparisonForm) : (do
      return (← readValue plainView field c.value).map fun s => Entry.comparison ⟨s.value, c.operator, s.view⟩ :
        Noted (Option Entry)).Gives ((comparison? field c).map .comparison) := by
    rw [comparison?, Option.map_map]
    exact (gives_value field c.value).map _
  rw [entriesOf, results]
  refine List.rel_append (List.rel_append (List.rel_append (List.rel_append (List.rel_append ?_ ?_) ?_) ?_)
    ?_) ?_
  · exact forall₂_map_map (fun norm => (gives_value field norm).map _) _
  · exact forall₂_map_map (fun norm => (gives_value field norm).map _) _
  · exact forall₂_map_map (fun r => (gives_range field r).map _) _
  · exact forall₂_map_map (fun r => (gives_range field r).map _) _
  · exact forall₂_map_map comparison _
  · exact forall₂_map_map (fun m => (gives_match field m).map _) _

/-! ## What is offered -/

/-- The entries of a named form that its field takes; an unknown field takes none. -/
def takenBy (schema : Schema) (form : String × BagForm) : List (String × Option Nat) :=
  match schema.field? form.1 with
  | none => []
  | some field => field.taken ((results field form.2).map fun result => (result, none))

theorem takenBy_of_none {schema : Schema} {form : String × BagForm} (unknown : schema.field? form.1 = none) :
    takenBy schema form = [] := by
  rw [takenBy, unknown]

theorem takenBy_of_some {schema : Schema} {form : String × BagForm} {field : Field}
    (known : schema.field? form.1 = some field) :
    takenBy schema form = field.taken ((results field form.2).map fun result => (result, none)) := by
  rw [takenBy, known]

/-- What a form offers. -/
def offer (schema : Schema) : GroupForm → Offer :=
  GroupForm.fold fun fields below _ => .mk none (fields.entries.flatMap (takenBy schema)) below

theorem offer_mk (schema : Schema) (fields : Keyed BagForm) (below : List GroupForm) (logical : Option Logical) :
    offer schema (.mk fields below logical) =
      .mk none (fields.entries.flatMap (takenBy schema)) (below.map (offer schema)) := by
  rw [offer, GroupForm.fold_mk]

/-! ## Reading with a tally -/

section Tally

variable {schema : Schema} {limits : Limits}

theorem readEntries_tallies (limits : Limits) (field : Field) (form : BagForm) :
    let taken := field.taken ((results field form).map fun result => (result, none))
    (readEntries limits field .empty (entriesOf plainView field form)).problems.filter Problem.isOverflow =
        (late (field.limit limits) 0 (taken.map Prod.snd)).toList.map (field.crowded limits) ∧
      (readEntries limits field .empty (entriesOf plainView field form)).value.count =
        min (0 + taken.length) (field.limit limits + 1) := by
  intro taken
  obtain ⟨values, plain⟩ := Gives.all (gives_entriesOf field form)
  have results : resultsOf ((entriesOf plainView field form).map fun reading => (reading, none)) =
      (results field form).map fun result => (result, none) := by
    rw [← values, resultsOf, List.map_map, List.map_map]
    rfl
  have readings : ∀ reading ∈ (entriesOf plainView field form).map fun reading => (reading, (none : Option Nat)),
      reading.1.problems.filter Problem.isOverflow = [] :=
    List.forall_mem_map.mpr plain
  have start : Bag.empty.count = min 0 (field.limit limits + 1) := (Nat.zero_min _).symm
  have added := addReadings_overflows readings start
  rw [results] at added
  rw [readEntries_eq_addReadings]
  exact added

/-- Nothing has been said about a field so far. -/
structure Fresh (seen : List (String × Option Nat)) (fields : Keyed Bag) (name : String) : Prop where
  unseen : placesOf name seen = []
  absent : fields.get? name = none

theorem Fresh.after {seen : List (String × Option Nat)} {fields : Keyed Bag} {name : String}
    (fresh : Fresh seen fields name) {field : Field} (other : name ≠ field.name)
    (results : List (Option Entry × Option Nat)) (bag : Bag) :
    Fresh (seen ++ field.taken results) (withBag fields field.name bag) name where
  unseen := by rw [placesOf_append, fresh.unseen, placesOf_taken_of_ne other, List.append_nil]
  absent := by rw [get?_withBag_of_ne fields other, fresh.absent]

/-- The first entry too many of a form is reported when it comes, and the tallies are kept. -/
theorem readForm_tallies {seen : List (String × Option Nat)} {fields : Keyed Bag}
    (tallies : Tallies schema limits seen fields) {field : Field} (mem : field ∈ schema.fields)
    (fresh : Fresh seen fields field.name) (form : BagForm) :
    let taken := field.taken ((results field form).map fun result => (result, none))
    let reading := readEntries limits field .empty (entriesOf plainView field form)
    reading.problems.filter Problem.isOverflow = Offer.reportTaken schema limits seen taken ∧
      Tallies schema limits (seen ++ taken) (withBag fields field.name reading.value) := by
  intro taken reading
  obtain ⟨reported, count⟩ := readEntries_tallies limits field form
  refine ⟨?_, tallies.replace mem ?_⟩
  · rw [Offer.reportTaken_taken mem, fresh.unseen]
    exact reported
  · rw [fresh.unseen]
    exact count

/-- The tallies are kept from form to form; as no two forms are about one field, each begins anew. -/
theorem readFields_tallies {seen : List (String × Option Nat)} {fields : Keyed Bag}
    (tallies : Tallies schema limits seen fields) {forms : List (String × BagForm)}
    (distinct : (forms.map Prod.fst).Nodup) (fresh : ∀ form ∈ forms, Fresh seen fields form.1) :
    ((readFields plainView schema limits fields forms).problems.filter Problem.isOverflow).Perm
        (Offer.reportTaken schema limits seen (forms.flatMap (takenBy schema))) ∧
      Tallies schema limits (seen ++ forms.flatMap (takenBy schema)) (readFields plainView schema limits fields forms).value := by
  induction forms generalizing seen fields with
  | nil =>
      rw [readFields, List.flatMap_nil, Offer.reportTaken_nil, List.append_nil]
      exact ⟨.nil, tallies⟩
  | cons form forms ih =>
      obtain ⟨name, form⟩ := form
      obtain ⟨here, later⟩ := List.forall_mem_cons.mp fresh
      obtain ⟨apart, distinctLater⟩ := List.nodup_cons.mp distinct
      cases found : schema.field? name with
      | none =>
          have unread : readFields plainView schema limits fields ((name, form) :: forms) =
              ⟨(readFields plainView schema limits fields forms).value,
                .about name .unknownField none :: (readFields plainView schema limits fields forms).problems⟩ := by
            rw [readFields, lookUp, found]
            rfl
          rw [unread, List.flatMap_cons, takenBy_of_none found, List.nil_append]
          exact ih tallies distinctLater later
      | some field =>
          obtain rfl := Schema.name_of_field? found
          -- The bag of a field that is new is not there, so leaving it out if it is empty takes nothing away.
          have read : readFields plainView schema limits fields ((field.name, form) :: forms) =
              let after := withBag fields field.name (readEntries limits field .empty (entriesOf plainView field form)).value
              ⟨(readFields plainView schema limits after forms).value,
                (readEntries limits field .empty (entriesOf plainView field form)).problems ++
                  (readFields plainView schema limits after forms).problems⟩ := by
            rw [withBag, fields.erase_eq_self here.absent, readFields, lookUp, found]
            rfl
          obtain ⟨reported, tallied⟩ := readForm_tallies tallies (Schema.mem_of_field? found) here form
          have other : ∀ form' ∈ forms, form'.1 ≠ field.name := fun form' mem same =>
            apart (List.mem_map.mpr ⟨form', mem, same⟩)
          obtain ⟨others, kept⟩ := ih tallied distinctLater fun form' mem =>
            (later form' mem).after (other form' mem) _ _
          rw [read, List.flatMap_cons, takenBy_of_some found]
          rw [List.append_assoc] at kept
          refine ⟨?_, kept⟩
          rw [List.filter_append, reported]
          exact (others.append_left _).trans (Offer.reportTaken_append seen _ _).symm

/-- At a level that is not too deep a group is built with a report of exactly what goes beyond the limits, and it
keeps them. -/
structure Builds (schema : Schema) (limits : Limits) (level : Nat) (reading : Noted Group) (group : Offer) : Prop where
  unplaced : group.place = none
  reported : level ≤ limits.maxNesting →
    (reading.problems.filter Problem.isOverflow).Perm (group.report schema limits level)
  bounded : level ≤ limits.maxNesting → limits.Bounds schema level reading.value

theorem readGroups_overflows {level : Nat} {builds : List (Nat → Noted Group)} {offers : List Offer}
    (built : builds.Forall₂ (fun build => Builds schema limits level (build level)) offers) (count : Nat) :
    ((readGroups limits level (count + 1) builds).problems.filter Problem.isOverflow).Perm
        (Offer.reportBelow schema limits level count offers) ∧
      (readGroups limits level (count + 1) builds).value.length ≤ limits.maxGroups - count ∧
      ∀ child ∈ (readGroups limits level (count + 1) builds).value, limits.Bounds schema level child := by
  induction built generalizing count with
  | nil =>
      rw [readGroups, Offer.reportBelow_nil]
      exact ⟨.nil, Nat.zero_le _, List.forall_mem_nil _⟩
  | @cons build _ builds _ first _ ih =>
      obtain ⟨others, few, bounded⟩ := ih (count + 1)
      simp only [readGroups, monadLift_self]
      rw [Offer.reportBelow_cons, problems_bind, value_bind, List.filter_append, mayEnter_overflows,
        first.unplaced]
      cases enters : (mayEnter limits (count + 1) level none).value with
      | false => exact ⟨others.append_left _, few.trans (by omega), bounded⟩
      | true =>
          obtain ⟨room, deep⟩ := (mayEnter_eq_true_iff _ _ _ _).mp enters
          rw [if_pos rfl, if_pos rfl, value_bind, value_bind, value_pure, problems_bind, problems_bind, problems_pure,
            List.append_nil, List.filter_append, List.length_cons]
          refine ⟨((first.reported deep).append others).append_left _, ?_, ?_⟩
          · omega
          · exact List.forall_mem_cons.mpr ⟨first.bounded deep, bounded⟩

/-- Of a form whose values are all shown exactly what goes beyond the limits is reported as such, and the tree that is
built keeps them. -/
theorem builds_readGroup (schema : Schema) (limits : Limits) (form : GroupForm) (level : Nat) :
    Builds schema limits level (readGroup plainView schema limits form level) (offer schema form) := by
  induction form generalizing level with
  | step fields below logical ih =>
      have built : (below.map (readGroup plainView schema limits)).Forall₂
          (fun build => Builds schema limits (level + 1) (build (level + 1))) (below.map (offer schema)) := by
        rw [List.forall₂_map_left_iff, List.forall₂_map_right_iff]
        exact List.forall₂_same.mpr fun form mem => ih form mem (level + 1)
      obtain ⟨groups, few, bounded⟩ := readGroups_overflows built 0
      obtain ⟨reported, tallies⟩ := readFields_tallies (.empty schema limits) fields.distinct fun _ _ => ⟨rfl, rfl⟩
      rw [readGroup_mk, offer_mk]
      exact {
        unplaced := rfl
        reported := fun _ => by
          rw [problems_bind, problems_bind, problems_pure, List.append_nil, List.filter_append]
          exact (reported.append groups).trans (Offer.report_mk level none _ _).symm
        bounded := fun room => Limits.bounds_mk_iff.mpr ⟨⟨room, few, tallies.holds⟩, bounded⟩ }

end Tally

end Exchange

end Criteria
