import Criteria.Proofs.Exchange.Unrestricted

/-!
# Where the reading of a form ends

A pattern that cannot print the value of a norm ends the reading of a form, if the norm stands in a group that is
entered.  If there is no such norm, the form is read as it is where every value is shown somehow.
-/

namespace Criteria

/-- The view of a value, if it has one, can be printed. -/
def Field.Printable (field : Field) (v : Value) : Prop :=
  ∀ pattern, field.toView v ≠ .error (.unprintable pattern)

theorem Field.printable_of_toView {field : Field} {v : Value} {view : String} (shown : field.toView v = .ok view) :
    field.Printable v :=
  fun _ failed => nomatch shown.symm.trans failed

namespace Exchange

open Intake

/-! ## Readings that may end -/

namespace Reading

variable {α β : Type}

theorem run_monadLift (y : Noted α) : (monadLift y : Reading α).run = ⟨.ok y.value, y.problems⟩ :=
  congrArg (Noted.mk _) (List.append_nil _)

theorem run_monadLift_bind (y : Noted α) (f : α → Reading β) :
    (monadLift y >>= f).run = ⟨(f y.value).run.value, y.problems ++ (f y.value).run.problems⟩ := by
  change (⟨_, _⟩ : Noted (Except _ β)) = _
  rw [Noted.mk.injEq]
  exact ⟨rfl, congrArg (· ++ _) (List.append_nil _)⟩

/-- A reading is one that goes on to the end if a condition holds, and ends at a pattern if it does not. -/
structure Follows (x : Reading α) (y : Noted α) (condition : Prop) : Prop where
  reads : condition → x = monadLift y
  ends : ¬condition → ∃ pattern, x.run.value = .error pattern

namespace Follows

variable {x : Reading α} {y : Noted α} {p q : Prop}

theorem congr (h : Follows x y p) (same : p ↔ q) : Follows x y q :=
  propext same ▸ h

theorem lift (y : Noted α) : Follows (monadLift y) y True :=
  ⟨fun _ => rfl, fun impossible => absurd trivial impossible⟩

theorem pure (a : α) : Follows (pure a) (pure a) True :=
  ⟨fun _ => rfl, fun impossible => absurd trivial impossible⟩

/-- A composed reading ends where its first part does, or else where the second part does. -/
theorem bind {f : α → Reading β} {g : α → Noted β} (first : Follows x y p)
    (second : Follows (f y.value) (g y.value) q) : Follows (x >>= f) (y >>= g) (p ∧ q) where
  reads := by
    rintro ⟨here, later⟩
    have both : (monadLift y >>= f).run = (monadLift (y >>= g) : Reading β).run := by
      rw [run_monadLift_bind, second.reads later, run_monadLift, run_monadLift]
      rfl
    rw [first.reads here]
    exact both
  ends := by
    intro fails
    by_cases here : p
    · obtain ⟨pattern, ended⟩ := second.ends fun later => fails ⟨here, later⟩
      refine ⟨pattern, ?_⟩
      rw [first.reads here, run_monadLift_bind]
      exact ended
    · obtain ⟨pattern, ended⟩ := first.ends here
      refine ⟨pattern, ?_⟩
      change (ExceptT.bindCont f x.run.value).value = _
      rw [ended]
      rfl

theorem map (h : Follows x y p) (f : α → β) :
    Follows (x >>= fun a => Pure.pure (f a)) (y >>= fun a => Pure.pure (f a)) p :=
  (h.bind (f := fun a => Pure.pure (f a)) (pure (f y.value))).congr (and_iff_left trivial)

/-- What never ends comes first. -/
theorem lift_bind (y : Noted α) {f : α → Reading β} {g : α → Noted β} (second : Follows (f y.value) (g y.value) q) :
    Follows (monadLift y >>= f) (y >>= g) q :=
  ((lift y).bind second).congr (and_iff_right trivial)

end Follows

/-- Some readings go on to the end if a condition holds, and one of them ends at a pattern if it does not. -/
inductive FollowAll : List (Reading α) → List (Noted α) → Prop → Prop where
  | nil : FollowAll [] [] True
  | cons {x : Reading α} {y : Noted α} {xs : List (Reading α)} {ys : List (Noted α)} {p q : Prop} (first : Follows x y p)
      (others : FollowAll xs ys q) : FollowAll (x :: xs) (y :: ys) (p ∧ q)

namespace FollowAll

theorem congr {xs : List (Reading α)} {ys : List (Noted α)} {p q : Prop} (h : FollowAll xs ys p) (same : p ↔ q) :
    FollowAll xs ys q :=
  propext same ▸ h

theorem map {f : β → Reading α} {g : β → Noted α} {condition : β → Prop}
    (each : ∀ b, Follows (f b) (g b) (condition b)) (bs : List β) :
    FollowAll (bs.map f) (bs.map g) (∀ b ∈ bs, condition b) := by
  induction bs with
  | nil => exact nil.congr (iff_of_true trivial (List.forall_mem_nil _))
  | cons b bs ih => exact (cons (each b) ih).congr List.forall_mem_cons.symm

theorem append {xs xs' : List (Reading α)} {ys ys' : List (Noted α)} {p q : Prop} (first : FollowAll xs ys p)
    (second : FollowAll xs' ys' q) : FollowAll (xs ++ xs') (ys ++ ys') (p ∧ q) := by
  induction first with
  | nil => exact second.congr (and_iff_right trivial).symm
  | cons here _ ih => exact (cons here ih).congr and_assoc.symm

end FollowAll

end Reading

open Reading

/-! ## Entries -/

/-- The value of a norm, if it has one, can be printed. -/
def Shown (field : Field) (norm : String) : Prop :=
  ∀ value, field.ofNorm norm = .ok value → field.Printable value

theorem follows_view (field : Field) (v : Value) (norm : String) :
    Follows (viewOf field v norm) (plainView field v norm) (field.Printable v) := by
  rw [viewOf, plainView, viewOrNorm]
  cases view : field.toView v with
  | ok text => exact (Follows.pure text).congr (iff_of_true trivial (Field.printable_of_toView view))
  | error failure =>
      cases failure with
      | unprintable pattern =>
          exact ⟨fun printable => absurd view (printable pattern), fun _ => ⟨pattern, rfl⟩⟩
      | _ => exact (Follows.pure norm).congr (iff_of_true trivial fun _ failed => nomatch view.symm.trans failed)

theorem follows_value (field : Field) (norm : String) :
    Follows (readValue viewOf field norm) (readValue plainView field norm) (Shown field norm) := by
  refine .lift_bind (convert field (field.ofNorm norm) none) ?_
  rw [Shown]
  cases field.ofNorm norm with
  | error failure => exact (Follows.pure none).congr (iff_of_true trivial fun _ converted => nomatch converted)
  | ok v =>
      refine ((follows_view field v norm).map fun view => some (⟨v, view⟩ : Single)).congr ?_
      simp only [Except.ok.injEq, forall_eq']

theorem follows_range (field : Field) (form : RangeForm) :
    Follows (readRange viewOf field form) (readRange plainView field form)
      (∀ norm ∈ [form.lower, form.upper], Shown field norm) := by
  refine ((follows_value field form.lower).bind ((follows_value field form.upper).bind (q := True) ?_)).congr ?_
  · cases (readValue plainView field form.lower).value with
    | none => exact .pure none
    | some lower =>
        cases (readValue plainView field form.upper).value with
        | none => exact .pure none
        | some upper => exact .pure _
  · simp only [List.forall_mem_cons, List.not_mem_nil, false_implies, implies_true]

/-- The norms in a form. -/
def BagForm.norms (form : BagForm) : List String :=
  form.singles ++ form.excludedSingles ++ form.ranges.flatMap (fun r => [r.lower, r.upper]) ++
    form.excludedRanges.flatMap (fun r => [r.lower, r.upper]) ++ form.comparisons.map ComparisonForm.value

theorem followAll_entriesOf (field : Field) (form : BagForm) :
    FollowAll (entriesOf viewOf field form) (entriesOf plainView field form) (∀ norm ∈ form.norms, Shown field norm) := by
  have single := FollowAll.map fun norm => (follows_value field norm).map (Option.map Entry.single)
  have excludedSingle := FollowAll.map fun norm => (follows_value field norm).map (Option.map Entry.excludedSingle)
  have range := FollowAll.map fun r => (follows_range field r).map (Option.map Entry.range)
  have excludedRange := FollowAll.map fun r => (follows_range field r).map (Option.map Entry.excludedRange)
  have comparison := FollowAll.map fun c : ComparisonForm => (follows_value field c.value).map
    (Option.map fun s => Entry.comparison ⟨s.value, c.operator, s.view⟩)
  have textMatch := FollowAll.map fun m => (Follows.lift (readMatch field m)).map (Option.map Entry.textMatch)
  refine ((((((single form.singles).append (excludedSingle form.excludedSingles)).append (range form.ranges)).append
    (excludedRange form.excludedRanges)).append (comparison form.comparisons)).append (textMatch form.textMatches)).congr ?_
  simp only [BagForm.norms, List.forall_mem_append, List.forall_mem_flatMap, List.forall_mem_map, implies_true, and_true]

theorem follows_entries (limits : Limits) (field : Field) {xs : List (Reading (Option Entry))}
    {ys : List (Noted (Option Entry))} {p : Prop} (all : FollowAll xs ys p) (bag : Bag) :
    Follows (readEntries limits field bag xs) (readEntries limits field bag ys) p := by
  induction all generalizing bag with
  | nil => exact .pure bag
  | @cons x y xs ys p q first others ih =>
      refine first.bind ?_
      cases y.value with
      | none => exact ih bag
      | some entry => exact .lift_bind (addEntry limits field bag entry none) (ih _)

/-! ## Groups -/

/-- The named forms of the groups that are entered, where a group is at a level. -/
def enteredForms (limits : Limits) : GroupForm → Nat → List (String × BagForm) :=
  GroupForm.fold fun fields below _ level =>
    fields.entries ++
      if limits.maxNesting < level + 1 then []
      else (below.take limits.maxGroups).flatMap fun entered => entered (level + 1)

/-- Every value of the norms in a named form can be printed. -/
def FormShown (schema : Schema) (entry : String × BagForm) : Prop :=
  ∀ field, schema.field? entry.1 = some field → ∀ norm ∈ entry.2.norms, Shown field norm

/-- Every value of the norms in the groups that are entered can be printed. -/
def Shows (schema : Schema) (limits : Limits) (form : GroupForm) : Prop :=
  ∀ entry ∈ enteredForms limits form 0, FormShown schema entry

section Groups

variable {schema : Schema} {limits : Limits}

theorem enteredForms_mk (limits : Limits) (fields : Keyed BagForm) (below : List GroupForm) (logical : Option Logical)
    (level : Nat) :
    enteredForms limits (.mk fields below logical) level =
      fields.entries ++
        if limits.maxNesting < level + 1 then []
        else (below.take limits.maxGroups).flatMap fun form => enteredForms limits form (level + 1) := by
  rw [enteredForms, GroupForm.fold_mk, ← List.map_take, List.flatMap_map]

theorem follows_fields (fields : Keyed Bag) (forms : List (String × BagForm)) :
    Follows (readFields viewOf schema limits fields forms) (readFields plainView schema limits fields forms)
      (∀ entry ∈ forms, FormShown schema entry) := by
  induction forms generalizing fields with
  | nil => exact (Follows.pure fields).congr (iff_of_true trivial (List.forall_mem_nil _))
  | cons entry forms ih =>
      obtain ⟨name, form⟩ := entry
      rw [List.forall_mem_cons, FormShown]
      refine .lift_bind (lookUp schema name none) ?_
      rw [lookUp]
      cases schema.field? name with
      | none =>
          refine (ih fields).congr (and_iff_right ?_).symm
          intro field known
          exact absurd known.symm (Option.some_ne_none field)
      | some field =>
          refine ((follows_entries limits field (followAll_entriesOf field form) .empty).bind (ih _)).congr ?_
          simp only [Option.some.injEq, forall_eq']

/-- Of the groups at a level, the first ones are entered, unless they are too deep. -/
theorem follows_groups (limits : Limits) (level : Nat) {forms : List GroupForm} {build : GroupForm → Nat → Reading Group}
    {plain : GroupForm → Nat → Noted Group} {condition : GroupForm → Prop}
    (each : ∀ form ∈ forms, Follows (build form level) (plain form level) (condition form)) (seen : Nat) :
    Follows (readGroups limits level (seen + 1) (forms.map build)) (readGroups limits level (seen + 1) (forms.map plain))
      (level ≤ limits.maxNesting → ∀ form ∈ forms.take (limits.maxGroups - seen), condition form) := by
  induction forms generalizing seen with
  | nil => exact (Follows.pure []).congr (iff_of_true trivial fun _ _ mem => nomatch List.take_nil ▸ mem)
  | cons form forms ih =>
      obtain ⟨here, later⟩ := List.forall_mem_cons.mp each
      refine .lift_bind (mayEnter limits (seen + 1) level none) ?_
      have enters := mayEnter_eq_true_iff limits (seen + 1) level none
      cases may : (mayEnter limits (seen + 1) level none).value with
      | true =>
          obtain ⟨room, shallow⟩ := enters.mp may
          have size : limits.maxGroups - seen = limits.maxGroups - (seen + 1) + 1 := by omega
          refine (here.bind ((ih later (seen + 1)).map _)).congr ?_
          rw [size, List.take_succ_cons, List.forall_mem_cons, imp_iff_right shallow, imp_iff_right shallow]
      | false =>
          refine (ih later (seen + 1)).congr (imp_congr_right fun shallow => ?_)
          have full : limits.maxGroups ≤ seen := by
            by_contra room
            rw [may] at enters
            exact absurd (enters.mpr ⟨by omega, shallow⟩) Bool.false_ne_true
          rw [Nat.sub_eq_zero_of_le full, Nat.sub_eq_zero_of_le (Nat.le_succ_of_le full), List.take_zero, List.take_zero]

theorem follows_group (form : GroupForm) (level : Nat) :
    Follows (readGroup viewOf schema limits form level) (readGroup plainView schema limits form level)
      (∀ entry ∈ enteredForms limits form level, FormShown schema entry) := by
  induction form generalizing level with
  | step fields below logical ih =>
      have groups := follows_groups limits (level + 1) (fun form mem => ih form mem (level + 1)) 0
      rw [readGroup, readGroup, GroupForm.fold_mk, GroupForm.fold_mk]
      refine ((follows_fields .empty fields.entries).bind (groups.map _)).congr ?_
      rw [enteredForms_mk, List.forall_mem_append, Nat.sub_zero]
      refine and_congr_right fun _ => ?_
      by_cases deep : limits.maxNesting < level + 1
      · rw [if_pos deep]
        exact iff_of_true (fun shallow => absurd shallow (Nat.not_le.mpr deep)) (List.forall_mem_nil _)
      · rw [if_neg deep, imp_iff_right (Nat.not_lt.mp deep), List.forall_mem_flatMap]

end Groups

/-- A form is read as if all its values could be shown, unless a pattern cannot print one of them. -/
theorem read_eq {schema : Schema} {limits : Limits} {form : GroupForm} (shows : Shows schema limits form) :
    read schema limits form = (finish schema (readGroup plainView schema limits form 0)).mapError .problems := by
  rw [read, (follows_group form 0).reads shows, run_monadLift]

/-- Reading ends at a pattern that cannot print a value. -/
theorem read_eq_unprintable {schema : Schema} {limits : Limits} {form : GroupForm} (hidden : ¬Shows schema limits form) :
    ∃ pattern, read schema limits form = .error (.unprintable pattern) := by
  obtain ⟨pattern, ended⟩ := (follows_group form 0).ends hidden
  refine ⟨pattern, ?_⟩
  rw [read, ended]

end Exchange

end Criteria
