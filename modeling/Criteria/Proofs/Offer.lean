import Criteria.Proofs.Faults
import Criteria.Proofs.Intake
import Criteria.Proofs.Keyed
import Mathlib.Data.List.Perm.Basic

/-!
# What goes beyond the limits

What a text or a form offers, apart from what can be said about its values: for every group the entries that its fields
would take and the groups below it.  Of entries about one field and of groups below one group the first one beyond the
limit is reported, and with the groups that are built every one that is nested too deep.  The count that decides is
that of the bag, which stops one above the limit, so that it says of no later entry that it is the first.
-/

namespace Criteria

/-- What a group offers: its place, the places of the entries that are taken with the names of their fields, and the
groups below. -/
inductive Offer where
  | mk (place : Option Nat) (taken : List (String × Option Nat)) (below : List Offer)

/-- Decides whether a field takes an entry. -/
def Field.takes (field : Field) (entry : Entry) : Bool :=
  match field.check entry with
  | .ok _ => true
  | .error _ => false

/-- Those of some results that are entries a field takes, by name and place. -/
def Field.taken (field : Field) (results : List (Option Entry × Option Nat)) : List (String × Option Nat) :=
  (results.filter fun result => result.1.any field.takes).map fun result => (field.name, result.2)

theorem Field.taken_cons (field : Field) (entry : Entry) (place : Option Nat)
    (results : List (Option Entry × Option Nat)) :
    field.taken ((some entry, place) :: results) =
      (if field.takes entry then [(field.name, place)] else []) ++ field.taken results := by
  rw [taken, List.filter_cons, Option.any_some]
  split <;> rfl

/-- The places of the entries about one field. -/
def placesOf (name : String) (taken : List (String × Option Nat)) : List (Option Nat) :=
  (taken.filter fun entry => entry.1 == name).map Prod.snd

theorem placesOf_append (name : String) (seen taken : List (String × Option Nat)) :
    placesOf name (seen ++ taken) = placesOf name seen ++ placesOf name taken := by
  rw [placesOf, List.filter_append, List.map_append]
  rfl

theorem placesOf_taken (field : Field) (results : List (Option Entry × Option Nat)) :
    placesOf field.name (field.taken results) = (field.taken results).map Prod.snd := by
  rw [placesOf, List.filter_eq_self.mpr]
  intro entry mem
  obtain ⟨result, -, rfl⟩ := List.mem_map.mp mem
  exact beq_iff_eq.mpr rfl

theorem placesOf_taken_of_ne {field : Field} {name : String} (other : name ≠ field.name)
    (results : List (Option Entry × Option Nat)) : placesOf name (field.taken results) = [] := by
  rw [placesOf, List.filter_eq_nil_iff.mpr, List.map_nil]
  intro entry mem
  obtain ⟨result, -, rfl⟩ := List.mem_map.mp mem
  exact fun same => other (beq_iff_eq.mp same).symm

/-- The problem with a field whose first entry beyond the limit stands at a place. -/
def Field.crowded (field : Field) (limits : Limits) (place : Option Nat) : Problem :=
  .about field.name (.tooManyEntries field.name (field.limit limits)) place

namespace Offer

/-- The place of a group. -/
def place : Offer → Option Nat
  | mk place _ _ => place

/-- The problem with the first group beyond the limit. -/
def surplus (limits : Limits) (group : Offer) : Problem :=
  .general (.tooManyGroups limits.maxGroups) group.place

/-- The problem with a group that is nested too deep. -/
def buried (limits : Limits) (group : Offer) : Problem :=
  .general (.nestedTooDeep limits.maxNesting) group.place

/-- What goes beyond the limits in one group at a level: the first entry too many of every field, the groups below if
they are nested too deep, as far as they may be built, and the first group too many. -/
def overflows (schema : Schema) (limits : Limits) (level : Nat) : Offer → List Problem
  | mk _ taken below =>
      (schema.fields.flatMap fun field =>
        ((placesOf field.name taken)[field.limit limits]?).toList.map (field.crowded limits)) ++
      (if limits.maxNesting < level + 1 then (below.take limits.maxGroups).map (buried limits) else []) ++
      (below[limits.maxGroups]?).toList.map (surplus limits)

mutual

/-- The groups that are built from a group at a level, with their levels. -/
def entered (limits : Limits) (level : Nat) : Offer → List (Nat × Offer)
  | mk place taken below =>
      (level, mk place taken below) ::
        if limits.maxNesting < level + 1 then [] else enteredFirst limits (level + 1) limits.maxGroups below

/-- The groups that are built from the first of some groups at a level. -/
def enteredFirst (limits : Limits) (level : Nat) : Nat → List Offer → List (Nat × Offer)
  | 0, _ => []
  | _, [] => []
  | count + 1, group :: groups => entered limits level group ++ enteredFirst limits level count groups

end

end Offer

/-- Decides whether a cause is that something goes beyond the limits. -/
def Problem.Cause.isOverflow : Problem.Cause → Bool
  | .tooManyEntries _ _ | .tooManyGroups _ | .nestedTooDeep _ => true
  | _ => false

/-- Decides whether a problem is that something goes beyond the limits. -/
def Problem.isOverflow (p : Problem) : Bool :=
  p.cause.isOverflow

/-! ## The first one too many -/

section Late

variable {α : Type}

/-- The first of some elements that is beyond a limit, where a number of them came before. -/
def late (limit count : Nat) (xs : List α) : Option α :=
  if count ≤ limit then xs[limit - count]? else none

theorem late_zero (limit : Nat) (xs : List α) : late limit 0 xs = xs[limit]? :=
  if_pos (Nat.zero_le limit)

theorem late_nil (limit count : Nat) : late limit count ([] : List α) = none := by
  rw [late]
  split <;> rfl

theorem late_of_lt {limit count : Nat} (full : limit < count) (xs : List α) : late limit count xs = none :=
  if_neg (Nat.not_le.mpr full)

theorem late_cons (limit count : Nat) (x : α) (xs : List α) :
    late limit count (x :: xs) = if count = limit then some x else late limit (count + 1) xs := by
  rcases Nat.lt_trichotomy count limit with room | last | full
  · have index : limit - count = limit - (count + 1) + 1 := by omega
    rw [late, late, if_pos (Nat.le_of_lt room), if_pos (Nat.succ_le_of_lt room), if_neg (Nat.ne_of_lt room), index,
      List.getElem?_cons_succ]
  · rw [late, if_pos (Nat.le_of_eq last), if_pos last, last, Nat.sub_self, List.getElem?_cons_zero]
  · rw [late_of_lt full, late_of_lt (Nat.lt_succ_of_lt full), if_neg (Nat.ne_of_gt full)]

theorem late_append (limit count : Nat) (xs ys : List α) :
    (late limit count (xs ++ ys)).toList = (late limit count xs).toList ++ (late limit (count + xs.length) ys).toList := by
  induction xs generalizing count with
  | nil => rw [late_nil]; rfl
  | cons x xs ih =>
      rw [List.cons_append, late_cons, late_cons, List.length_cons, Nat.add_comm xs.length 1, ← Nat.add_assoc]
      split
      · rw [late_of_lt (by omega) ys]
        rfl
      · exact ih (count + 1)

end Late

/-! ## Adding entries -/

namespace Intake

open Noted

variable {limits : Limits} {field : Field}

/-- The checks of a field are not about limits. -/
theorem isOverflow_of_check {entry : Entry} {cause : Problem.Cause} (wrong : field.check entry = .error cause) :
    cause.isOverflow = false := by
  have range (r : Range) (wrong : field.checkRange r = .error cause) : cause.isOverflow = false := by
    unfold Field.checkRange at wrong
    split at wrong
    · cases wrong
    · cases wrong
      rfl
  have textMatch (m : TextMatch) (wrong : Field.checkMatch m = .error cause) : cause.isOverflow = false := by
    unfold Field.checkMatch at wrong
    split at wrong
    · cases wrong
      rfl
    · cases wrong
  unfold Field.check at wrong
  split at wrong
  · cases entry with
    | range r => exact range r wrong
    | excludedRange r => exact range r wrong
    | textMatch m => exact textMatch m wrong
    | _ => cases wrong
  · cases wrong
    rfl

/-- A bag says of an entry whether it is the first too many, and counts up to one above the limit. -/
theorem addEntry_taken {bag : Bag} {count : Nat} (counts : bag.count = min count (field.limit limits + 1))
    {entry : Entry} (takes : field.takes entry = true) (place : Option Nat) :
    (addEntry limits field bag entry place).problems.filter Problem.isOverflow =
        (late (field.limit limits) count [place]).toList.map (field.crowded limits) ∧
      (addEntry limits field bag entry place).value.count = min (count + 1) (field.limit limits + 1) := by
  have checked : field.check entry = .ok () := by
    unfold Field.takes at takes
    split at takes
    · assumption
    · cases takes
  rw [addEntry, checked, late_cons, late_nil]
  by_cases full : field.limit limits < bag.count
  · have beyond : count ≠ field.limit limits := by omega
    rw [if_pos full, if_neg beyond]
    refine ⟨rfl, ?_⟩
    rw [value_pure]
    omega
  · rw [if_neg full]
    by_cases last : count = field.limit limits
    · have first : bag.count = field.limit limits := by omega
      rw [if_pos last]
      simp only [if_pos first, problems_bind, value_bind, problems_note, problems_pure, value_pure, Bag.count_add]
      refine ⟨rfl, ?_⟩
      omega
    · have fewer : bag.count ≠ field.limit limits := by omega
      rw [if_neg last]
      simp only [if_neg fewer]
      refine ⟨rfl, ?_⟩
      change (bag.add entry).count = _
      rw [Bag.count_add]
      omega

/-- An entry that is not taken leaves the bag as it is. -/
theorem addEntry_refused (limits : Limits) (bag : Bag) {entry : Entry} (refuses : field.takes entry = false) (place : Option Nat) :
    (addEntry limits field bag entry place).problems.filter Problem.isOverflow = [] ∧
      (addEntry limits field bag entry place).value = bag := by
  obtain ⟨cause, wrong⟩ : ∃ cause, field.check entry = .error cause := by
    unfold Field.takes at refuses
    split at refuses
    · cases refuses
    · exact ⟨_, by assumption⟩
  rw [addEntry, wrong]
  split
  · exact ⟨rfl, rfl⟩
  · refine ⟨?_, rfl⟩
    have other : (Problem.about field.name cause place).isOverflow = false := isOverflow_of_check wrong
    exact List.filter_cons_of_neg (by rw [other]; exact Bool.false_ne_true)

/-- A bag never shrinks while entries are added, and it never has more than one above the limit. -/
theorem addEntry_room {bag : Bag} (room : bag.count ≤ field.limit limits + 1) (entry : Entry) (place : Option Nat) :
    bag.count ≤ (addEntry limits field bag entry place).value.count ∧
      (addEntry limits field bag entry place).value.count ≤ field.limit limits + 1 := by
  cases takes : field.takes entry with
  | true =>
      obtain ⟨-, count⟩ := addEntry_taken (min_eq_left room).symm takes place
      omega
  | false =>
      obtain ⟨-, same⟩ := addEntry_refused limits bag takes place
      rw [same]
      exact ⟨le_rfl, room⟩

/-- What readings come to, with their places. -/
def resultsOf (readings : List (Noted (Option Entry) × Option Nat)) : List (Option Entry × Option Nat) :=
  readings.map fun reading => (reading.1.value, reading.2)

/-- Of the entries of a list the first too many is reported, if there is one. -/
theorem addReadings_overflows {readings : List (Noted (Option Entry) × Option Nat)}
    (plain : ∀ reading ∈ readings, reading.1.problems.filter Problem.isOverflow = []) {bag : Bag} {count : Nat}
    (counts : bag.count = min count (field.limit limits + 1)) :
    (addReadings limits field bag readings).problems.filter Problem.isOverflow =
        (late (field.limit limits) count ((field.taken (resultsOf readings)).map Prod.snd)).toList.map
          (field.crowded limits) ∧
      (addReadings limits field bag readings).value.count =
        min (count + (field.taken (resultsOf readings)).length) (field.limit limits + 1) := by
  induction readings generalizing bag count with
  | nil =>
      change [] = (late (field.limit limits) count []).toList.map (field.crowded limits) ∧
        bag.count = min (count + 0) (field.limit limits + 1)
      rw [late_nil]
      exact ⟨rfl, counts⟩
  | cons reading readings ih =>
      obtain ⟨plainHere, later⟩ := List.forall_mem_cons.mp plain
      obtain ⟨⟨value, problems⟩, place⟩ := reading
      change problems.filter Problem.isOverflow = [] at plainHere
      cases value with
      | none =>
          have step : addReadings limits field bag ((⟨none, problems⟩, place) :: readings) =
              ⟨(addReadings limits field bag readings).value,
                problems ++ (addReadings limits field bag readings).problems⟩ := rfl
          have same : field.taken (resultsOf ((⟨none, problems⟩, place) :: readings)) =
              field.taken (resultsOf readings) := rfl
          rw [step, same, List.filter_append, plainHere, List.nil_append]
          exact ih later counts
      | some entry =>
          have step : addReadings limits field bag ((⟨some entry, problems⟩, place) :: readings) =
              ⟨(addReadings limits field (addEntry limits field bag entry place).value readings).value,
                problems ++ ((addEntry limits field bag entry place).problems ++
                  (addReadings limits field (addEntry limits field bag entry place).value readings).problems)⟩ := rfl
          have results : field.taken (resultsOf ((⟨some entry, problems⟩, place) :: readings)) =
              (if field.takes entry then [(field.name, place)] else []) ++ field.taken (resultsOf readings) :=
            field.taken_cons entry place _
          rw [step, results, List.filter_append, plainHere, List.nil_append, List.filter_append]
          cases takes : field.takes entry with
          | true =>
              obtain ⟨first, counts⟩ := addEntry_taken counts takes place
              obtain ⟨others, total⟩ := ih later counts
              rw [if_pos rfl, List.map_append, late_append, List.map_append, first, others, total, List.length_append]
              refine ⟨rfl, ?_⟩
              rw [List.length_singleton]
              omega
          | false =>
              obtain ⟨none, old⟩ := addEntry_refused limits bag takes place
              rw [if_neg Bool.false_ne_true, none, old, List.nil_append, List.nil_append]
              exact ih later counts

end Intake

/-! ## Reports -/

namespace Offer

variable {schema : Schema} {limits : Limits}

/-- What is reported of some entries of a group, where others came before. -/
def reportTaken (schema : Schema) (limits : Limits) (seen taken : List (String × Option Nat)) : List Problem :=
  schema.fields.flatMap fun field =>
    (late (field.limit limits) (placesOf field.name seen).length (placesOf field.name taken)).toList.map
      (field.crowded limits)

/-- What is reported of a group at a level and of the groups that are built from it. -/
def report (schema : Schema) (limits : Limits) (level : Nat) (group : Offer) : List Problem :=
  (group.entered limits level).flatMap fun entry => entry.2.overflows schema limits entry.1

/-- What is reported of some groups at a level, where a number of them came before. -/
def reportBelow (schema : Schema) (limits : Limits) (level count : Nat) (groups : List Offer) : List Problem :=
  (if limits.maxNesting < level then (groups.take (limits.maxGroups - count)).map (buried limits)
    else (groups.take (limits.maxGroups - count)).flatMap (report schema limits level)) ++
    (late limits.maxGroups count groups).toList.map (surplus limits)

theorem reportTaken_nil (seen : List (String × Option Nat)) : reportTaken schema limits seen [] = [] := by
  refine List.flatMap_eq_nil_iff.mpr fun field _ => ?_
  have none : placesOf field.name [] = [] := rfl
  rw [none, late_nil]
  rfl

theorem reportTaken_append (seen taken others : List (String × Option Nat)) :
    (reportTaken schema limits seen (taken ++ others)).Perm
      (reportTaken schema limits seen taken ++ reportTaken schema limits (seen ++ taken) others) := by
  have split : reportTaken schema limits seen (taken ++ others) = schema.fields.flatMap fun field =>
      (late (field.limit limits) (placesOf field.name seen).length (placesOf field.name taken)).toList.map
          (field.crowded limits) ++
        (late (field.limit limits) (placesOf field.name (seen ++ taken)).length (placesOf field.name others)).toList.map
          (field.crowded limits) := by
    refine List.flatMap_congr fun field _ => ?_
    rw [placesOf_append, placesOf_append, late_append, List.map_append, List.length_append]
  rw [split]
  exact (List.flatMap_append_perm _ _ _).symm

/-- Of entries about one field only that field is reported. -/
theorem reportTaken_taken {field : Field} (mem : field ∈ schema.fields) (seen : List (String × Option Nat))
    (results : List (Option Entry × Option Nat)) :
    reportTaken schema limits seen (field.taken results) =
      (late (field.limit limits) (placesOf field.name seen).length ((field.taken results).map Prod.snd)).toList.map
        (field.crowded limits) := by
  obtain ⟨before, after, split⟩ := List.append_of_mem mem
  have distinct := schema.distinct
  rw [split, List.map_append, List.map_cons] at distinct
  have none (others : List Field) (apart : ∀ other ∈ others, other.name ≠ field.name) :
      (others.flatMap fun other =>
        (late (other.limit limits) (placesOf other.name seen).length
          (placesOf other.name (field.taken results))).toList.map (other.crowded limits)) = [] := by
    refine List.flatMap_eq_nil_iff.mpr fun other hother => ?_
    rw [placesOf_taken_of_ne (apart other hother), late_nil]
    rfl
  obtain ⟨-, later, front⟩ := List.nodup_append.mp distinct
  rw [reportTaken, split, List.flatMap_append, List.flatMap_cons, placesOf_taken, none before, none after,
    List.nil_append, List.append_nil]
  · intro other hother same
    exact (List.nodup_cons.mp later).1 (same ▸ List.mem_map_of_mem hother)
  · intro other hother same
    exact front _ (List.mem_map_of_mem hother) _ List.mem_cons_self same

theorem enteredFirst_eq (level count : Nat) (groups : List Offer) :
    enteredFirst limits level count groups = (groups.take count).flatMap (entered limits level) := by
  induction groups generalizing count with
  | nil => cases count <;> simp [enteredFirst]
  | cons group groups ih =>
      cases count with
      | zero => simp [enteredFirst]
      | succ count => rw [enteredFirst, ih, List.take_succ_cons, List.flatMap_cons]

/-- What is reported of a group is what is reported of its entries and of the groups below. -/
theorem report_mk (level : Nat) (place : Option Nat) (taken : List (String × Option Nat)) (below : List Offer) :
    (report schema limits level (mk place taken below)).Perm
      (reportTaken schema limits [] taken ++ reportBelow schema limits (level + 1) 0 below) := by
  have own : reportTaken schema limits [] taken = schema.fields.flatMap fun field =>
      ((placesOf field.name taken)[field.limit limits]?).toList.map (field.crowded limits) := by
    refine List.flatMap_congr fun field _ => ?_
    rw [← late_zero]
    rfl
  rw [report, entered, List.flatMap_cons, overflows, ← own, reportBelow, late_zero, Nat.sub_zero, List.append_assoc,
    List.append_assoc]
  refine List.Perm.append_left _ ?_
  split
  · rw [List.flatMap_nil, List.append_nil]
  · rw [List.nil_append, enteredFirst_eq, List.flatMap_assoc]
    exact List.perm_append_comm

theorem reportBelow_nil (level count : Nat) : reportBelow schema limits level count [] = [] := by
  rw [reportBelow, List.take_nil, late_nil]
  split <;> rfl

/-- Whether a group is built, and what is reported if it is not, depends on its position and level. -/
theorem reportBelow_cons (level count : Nat) (group : Offer) (groups : List Offer) :
    reportBelow schema limits level count (group :: groups) =
      (Intake.mayEnter limits (count + 1) level group.place).problems ++
        ((if (Intake.mayEnter limits (count + 1) level group.place).value then report schema limits level group else []) ++
          reportBelow schema limits level (count + 1) groups) := by
  rw [reportBelow, reportBelow, late_cons, Intake.mayEnter]
  by_cases room : count < limits.maxGroups
  · have size : limits.maxGroups - count = limits.maxGroups - (count + 1) + 1 := by omega
    rw [if_neg (Nat.ne_of_lt room), if_neg (Nat.not_lt.mpr room), size, List.take_succ_cons]
    split
    · rfl
    · rw [List.flatMap_cons, List.append_assoc]
      rfl
  · have empty : limits.maxGroups - count = 0 := by omega
    have emptyToo : limits.maxGroups - (count + 1) = 0 := by omega
    have none (level : Nat) (groups : List Offer) : (if limits.maxNesting < level then
        (groups.take 0).map (buried limits) else (groups.take 0).flatMap (report schema limits level)) = [] := by
      split <;> rfl
    have full : limits.maxGroups < count + 1 := by omega
    rw [empty, emptyToo, none, none, late_of_lt full, if_pos full]
    by_cases last : count = limits.maxGroups
    · subst last
      simp only [if_true]
      rfl
    · have later : count + 1 ≠ limits.maxGroups + 1 := fun same => last (Nat.succ.inj same)
      simp only [if_neg last, if_neg later]
      rfl

end Offer

theorem Intake.mayEnter_overflows (limits : Limits) (position level : Nat) (place : Option Nat) :
    (mayEnter limits position level place).problems.filter Problem.isOverflow =
      (mayEnter limits position level place).problems := by
  rw [mayEnter]
  split
  · split <;> rfl
  · split <;> rfl

/-! ## What is built -/

/-- Every bag is about a known field and holds at most one entry beyond its limit. -/
def Limits.Holds (limits : Limits) (schema : Schema) (fields : Keyed Bag) : Prop :=
  ∀ entry ∈ fields.entries, ∃ field, schema.field? entry.1 = some field ∧ entry.2.count ≤ field.limit limits + 1

/-- In a tree whose root is at a level no group is nested too deep or has too many groups below, and no bag holds more
than one entry beyond its limit. -/
def Limits.Bounds (limits : Limits) (schema : Schema) (level : Nat) (root : Group) : Prop :=
  ∀ path group, root.at? path = some group →
    level + path.length ≤ limits.maxNesting ∧ group.groups.length ≤ limits.maxGroups ∧
      limits.Holds schema group.fields

theorem Limits.bounds_mk_iff {limits : Limits} {schema : Schema} {level : Nat} {logical : Logical} {fields : Keyed Bag}
    {groups : List Group} :
    limits.Bounds schema level (.mk logical fields groups) ↔
      (level ≤ limits.maxNesting ∧ groups.length ≤ limits.maxGroups ∧ limits.Holds schema fields) ∧
        ∀ child ∈ groups, limits.Bounds schema (level + 1) child := by
  constructor
  · intro bounds
    refine ⟨bounds [] _ rfl, fun child hchild path group found => ?_⟩
    obtain ⟨number, below, rfl⟩ := List.getElem_of_mem hchild
    have step : (Group.mk logical fields groups).at? (number :: path) = some group := by
      rw [Group.at?, Group.groups, List.getElem?_eq_getElem below]
      exact found
    have inside := bounds (number :: path) group step
    rw [List.length_cons] at inside
    exact ⟨by omega, inside.2⟩
  · rintro ⟨here, below⟩ path group found
    cases path with
    | nil =>
        cases found
        exact here
    | cons number path =>
        obtain ⟨child, hchild, found⟩ := Option.bind_eq_some_iff.mp found
        have inside := below child (List.mem_of_getElem? hchild) path group found
        rw [List.length_cons]
        exact ⟨by omega, inside.2⟩

/-! ## Bags that count -/

/-- Puts a bag under a name, or leaves out what is there if the bag is empty. -/
def withBag (fields : Keyed Bag) (name : String) (bag : Bag) : Keyed Bag :=
  if bag.isEmpty then fields.erase name else fields.insert name bag

theorem get?_withBag_of_ne (fields : Keyed Bag) {name key : String} (other : key ≠ name) (bag : Bag) :
    (withBag fields name bag).get? key = fields.get? key := by
  rw [withBag]
  split
  · rw [fields.get?_erase, if_neg other]
  · rw [fields.get?_insert, if_neg other]

theorem count_withBag (fields : Keyed Bag) (name : String) (bag : Bag) :
    (((withBag fields name bag).get? name).getD .empty).count = bag.count := by
  rw [withBag]
  split
  · rename_i none
    rw [fields.get?_erase, if_pos rfl]
    exact (beq_iff_eq.mp none).symm
  · rw [fields.get?_insert, if_pos rfl]
    rfl

theorem mem_entries_withBag {fields : Keyed Bag} {name : String} {bag : Bag} {entry : String × Bag}
    (mem : entry ∈ (withBag fields name bag).entries) : entry.1 = name ∨ entry ∈ fields.entries := by
  rw [withBag] at mem
  split at mem
  · exact .inr ((fields.mem_entries_erase _ _).mp mem).1
  · rcases (fields.mem_entries_alter _ _ _ _).mp mem with ⟨same, -⟩ | ⟨-, old⟩
    · exact .inl same
    · exact .inr old

/-- The bags of a group hold as many of the entries that came so far as their fields let in, and they are about known
fields. -/
structure Tallies (schema : Schema) (limits : Limits) (seen : List (String × Option Nat)) (fields : Keyed Bag) :
    Prop where
  known : ∀ entry ∈ fields.entries, ∃ field, schema.field? entry.1 = some field
  counts : ∀ field ∈ schema.fields, ((fields.get? field.name).getD .empty).count =
    min (placesOf field.name seen).length (field.limit limits + 1)

namespace Tallies

variable {schema : Schema} {limits : Limits} {seen : List (String × Option Nat)} {fields : Keyed Bag}

theorem empty (schema : Schema) (limits : Limits) : Tallies schema limits [] .empty where
  known _ mem := absurd mem List.not_mem_nil
  counts _ _ := (Nat.zero_min _).symm

theorem holds (tallies : Tallies schema limits seen fields) : limits.Holds schema fields := by
  rintro ⟨name, bag⟩ mem
  obtain ⟨field, found⟩ := tallies.known _ mem
  have counts := tallies.counts field (Schema.mem_of_field? found)
  rw [Schema.name_of_field? found, (fields.get?_eq_some_iff name bag).mpr mem, Option.getD_some] at counts
  refine ⟨field, found, ?_⟩
  change bag.count ≤ field.limit limits + 1
  omega

/-- A bag with the new entries about a field takes the place of the old one; if it is empty there is none. -/
theorem replace (tallies : Tallies schema limits seen fields) {field : Field} (mem : field ∈ schema.fields)
    {results : List (Option Entry × Option Nat)} {bag : Bag}
    (count : bag.count =
      min ((placesOf field.name seen).length + (field.taken results).length) (field.limit limits + 1)) :
    Tallies schema limits (seen ++ field.taken results) (withBag fields field.name bag) where
  known entry hentry := by
    rcases mem_entries_withBag hentry with same | old
    · exact ⟨field, same ▸ Schema.field?_of_mem mem⟩
    · exact tallies.known entry old
  counts other hother := by
    rw [placesOf_append, List.length_append]
    by_cases same : other.name = field.name
    · obtain rfl := schema.eq_of_name_eq hother mem same
      rw [count_withBag, count, placesOf_taken, List.length_map]
    · rw [get?_withBag_of_ne fields same, tallies.counts other hother, placesOf_taken_of_ne same]
      rfl

end Tallies

end Criteria
