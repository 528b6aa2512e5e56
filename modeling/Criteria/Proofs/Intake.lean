import Criteria.Intake
import Criteria.Proofs.Validation

/-!
# Taking in without a problem

A reading that notes no problem is a plain value.  A composed reading is plain exactly if its parts are, an
entry is added without a problem exactly if the field allows the bag with it, and a group is entered without a
problem exactly if there may be one more and it is not too deep.
-/

namespace Criteria

theorem mapM_eq_some_iff {α β : Type} {f : α → Option β} {xs : List α} {ys : List β} :
    xs.mapM f = some ys ↔ xs.map f = ys.map some := by
  induction xs generalizing ys with
  | nil => cases ys <;> simp [List.mapM_nil]
  | cons x xs ih =>
      rw [List.mapM_cons, List.map_cons]
      cases ys with
      | nil => cases f x <;> cases xs.mapM f <;> simp
      | cons y ys =>
          simp only [Option.bind_eq_bind, Option.bind_eq_some_iff, Option.pure_def, Option.some.injEq,
            List.cons.injEq, List.map_cons, ← ih]
          constructor
          · rintro ⟨a, ha, as, has, rfl, rfl⟩
            exact ⟨ha, has⟩
          · rintro ⟨hy, hys⟩
            exact ⟨y, hy, ys, hys, rfl, rfl⟩

/-- All elements of a list have an image exactly if each has one. -/
theorem exists_mapM_iff {α β : Type} {f : α → Option β} {xs : List α} :
    (∃ ys, xs.mapM f = some ys) ↔ ∀ x ∈ xs, ∃ y, f x = some y := by
  induction xs with
  | nil => simp
  | cons x xs ih =>
      rw [List.forall_mem_cons, ← ih]
      simp only [List.mapM_cons, Option.bind_eq_bind, Option.bind_eq_some_iff, Option.pure_def,
        Option.some.injEq]
      constructor
      · rintro ⟨-, y, hy, ys, hys, rfl⟩
        exact ⟨⟨y, hy⟩, ys, hys⟩
      · rintro ⟨⟨y, hy⟩, ys, hys⟩
        exact ⟨_, y, hy, ys, hys, rfl⟩

namespace Noted

variable {α β : Type}

theorem eq_pure_iff (x : Noted α) (a : α) : x = pure a ↔ x.value = a ∧ x.problems = [] := by
  cases x
  exact Noted.mk.injEq _ _ _ _ ▸ Iff.rfl

theorem pure_inj {a b : α} : (pure a : Noted α) = pure b ↔ a = b := by
  rw [eq_pure_iff, value_pure, problems_pure]
  exact and_iff_left rfl

/-- A composed reading is plain exactly if both its parts are. -/
theorem bind_eq_pure_iff (x : Noted α) (f : α → Noted β) (b : β) :
    x >>= f = pure b ↔ ∃ a, x = pure a ∧ f a = pure b := by
  constructor
  · intro h
    obtain ⟨value, problems⟩ := (eq_pure_iff _ _).mp h
    rw [problems_bind, List.append_eq_nil_iff] at problems
    exact ⟨x.value, (eq_pure_iff _ _).mpr ⟨rfl, problems.1⟩, (eq_pure_iff _ _).mpr ⟨value, problems.2⟩⟩
  · rintro ⟨a, rfl, h⟩
    exact h

theorem note_bind_ne_pure (p : Problem) (f : Unit → Noted β) (b : β) : note p >>= f ≠ pure b := by
  rw [ne_eq, bind_eq_pure_iff]
  rintro ⟨a, h, -⟩
  cases congrArg problems h

/-- A reading gives what there is, and is plain exactly if there is something. -/
def Reads (x : Noted (Option α)) (result : Option α) : Prop :=
  ∀ r, x = pure r ↔ ∃ a, result = some a ∧ r = some a

theorem reads_some (a : α) : (pure (some a) : Noted (Option α)).Reads (some a) := by
  intro r
  rw [pure_inj]
  simp [eq_comm]

theorem reads_none (p : Problem) : (note p >>= fun _ => pure none : Noted (Option α)).Reads none := by
  intro r
  simp [note_bind_ne_pure]

theorem Reads.map {x : Noted (Option α)} {result : Option α} (h : x.Reads result) (f : α → β) :
    (x >>= fun a => pure (a.map f)).Reads (result.map f) := by
  intro r
  rw [bind_eq_pure_iff]
  constructor
  · rintro ⟨a, plain, mapped⟩
    obtain ⟨v, rfl, rfl⟩ := (h a).mp plain
    exact ⟨f v, rfl, (pure_inj.mp mapped).symm⟩
  · rintro ⟨b, found, rfl⟩
    obtain ⟨v, rfl, rfl⟩ := Option.map_eq_some_iff.mp found
    exact ⟨some v, (h _).mpr ⟨v, rfl, rfl⟩, rfl⟩

end Noted

namespace Intake

open Noted

theorem lookUp_eq_pure_iff (schema : Schema) (name : String) (offset : Option Nat) (r : Option Field) :
    lookUp schema name offset = pure r ↔ ∃ field, schema.field? name = some field ∧ r = some field := by
  rw [lookUp]
  cases schema.field? name with
  | none => exact reads_none _ r
  | some field => exact reads_some field r

theorem reads_convert (field : Field) (result : Except ConversionFailure Value) (offset : Option Nat) :
    (convert field result offset).Reads result.toOption := by
  unfold convert
  cases result with
  | error failure => exact reads_none _
  | ok v => exact reads_some v

/-- An entry is added without a problem exactly if the field accepts it and there is room for it. -/
theorem addEntry_eq_pure_iff (limits : Limits) (field : Field) {bag : Bag}
    (few : bag.count ≤ field.limit limits) (entry : Entry) (offset : Option Nat) (b : Bag) :
    addEntry limits field bag entry offset = pure b ↔
      field.check entry = .ok () ∧ bag.count + 1 ≤ field.limit limits ∧ b = bag.add entry := by
  rw [addEntry, if_neg (Nat.not_lt.mpr few)]
  cases field.check entry with
  | error cause => simp [note_bind_ne_pure]
  | ok _ =>
      by_cases full : bag.count = field.limit limits
      · rw [if_pos full]
        exact ⟨fun h => absurd h (note_bind_ne_pure _ _ _), fun h => by omega⟩
      · have room : bag.count + 1 ≤ field.limit limits := by omega
        simp only [if_neg full, room, true_and]
        exact pure_inj.trans eq_comm

/-- A group is entered exactly if its position and level are within the limits. -/
theorem mayEnter_eq_true_iff (limits : Limits) (position level : Nat) (offset : Option Nat) :
    (mayEnter limits position level offset).value = true ↔ position ≤ limits.maxGroups ∧ level ≤ limits.maxNesting := by
  rw [mayEnter]
  split
  · refine iff_of_false ?_ (by omega)
    split <;> exact Bool.false_ne_true
  · split
    · exact iff_of_false Bool.false_ne_true (by omega)
    · exact iff_of_true rfl (by omega)

/-- A group is entered without a problem exactly if it is one of those that there may be.  Of those beyond
only the first is looked at. -/
theorem mayEnter_eq_pure_iff (limits : Limits) {position : Nat} (near : position ≤ limits.maxGroups + 1)
    (level : Nat) (offset : Option Nat) (b : Bool) :
    mayEnter limits position level offset = pure b ↔
      position ≤ limits.maxGroups ∧ level ≤ limits.maxNesting ∧ b = true := by
  rw [mayEnter]
  split
  · have first : position = limits.maxGroups + 1 := by omega
    rw [if_pos first]
    exact ⟨fun h => absurd h (note_bind_ne_pure _ _ _), fun h => by omega⟩
  · split
    · rename_i deep
      simp [Nat.not_le.mpr deep, note_bind_ne_pure]
    · rw [pure_inj]
      constructor
      · rintro rfl
        exact ⟨by omega, by omega, rfl⟩
      · rintro ⟨-, -, rfl⟩
        rfl

theorem finish_eq_ok_iff (schema : Schema) (root : Noted Group) (c : Condition) :
    finish schema root = .ok c ↔ ∃ group, root = pure group ∧ c = ⟨schema, group⟩ := by
  rw [finish]
  simp only [eq_pure_iff]
  cases root.problems with
  | nil => simp [eq_comm]
  | cons p ps => simp

/-- Adds what is read of a list of entries, each with its place. -/
def addReadings (limits : Limits) (field : Field) (bag : Bag) :
    List (Noted (Option Entry) × Option Nat) → Noted Bag
  | [] => pure bag
  | (reading, offset) :: rest => do
      match ← reading with
      | none => addReadings limits field bag rest
      | some entry => do
          let bag ← addEntry limits field bag entry offset
          addReadings limits field bag rest

/-- Entries are taken in without a problem exactly if there are entries to be read and the field allows them all
together. -/
theorem addReadings_eq_pure_iff {limits : Limits} {field : Field} {bag : Bag}
    (allows : field.Allows limits bag) {readings : List (Noted (Option Entry) × Option Nat)}
    {results : List (Option Entry)} (reads : readings.Forall₂ (fun x result => x.1.Reads result) results)
    (b : Bag) :
    addReadings limits field bag readings = pure b ↔
      ∃ entries, results = entries.map some ∧ field.Allows limits (bag.addAll entries) ∧
        b = bag.addAll entries := by
  induction reads generalizing bag with
  | nil =>
      rw [addReadings, pure_inj]
      constructor
      · rintro rfl
        exact ⟨[], rfl, allows, rfl⟩
      · rintro ⟨entries, h, -, rfl⟩
        rw [List.map_eq_nil_iff.mp h.symm]
        rfl
  | @cons reading result readings results first rest ih =>
      rcases reading with ⟨reading, offset⟩
      rw [addReadings, bind_eq_pure_iff]
      constructor
      · rintro ⟨read, plain, h⟩
        obtain ⟨entry, rfl, rfl⟩ := (first read).mp plain
        obtain ⟨bag', added, h⟩ := (bind_eq_pure_iff _ _ _).mp h
        obtain ⟨checked, room, rfl⟩ := (addEntry_eq_pure_iff limits field allows.few _ _ _).mp added
        have allowsNext : field.Allows limits (bag.add entry) := by
          refine (field.allows_addAll_iff limits bag [entry]).mpr ⟨allows.checked, ?_, room⟩
          exact fun e mem => List.mem_singleton.mp mem ▸ checked
        obtain ⟨entries, rfl, allowsAll, rfl⟩ := (ih allowsNext).mp h
        exact ⟨entry :: entries, rfl, allowsAll, rfl⟩
      · rintro ⟨entries, h, allowsAll, rfl⟩
        cases entries with
        | nil => cases h
        | cons entry entries =>
            rw [List.map_cons, List.cons.injEq] at h
            rcases h with ⟨rfl, rfl⟩
            obtain ⟨-, checked, few⟩ := (field.allows_addAll_iff limits bag _).mp allowsAll
            rw [List.length_cons] at few
            have room : bag.count + 1 ≤ field.limit limits := by omega
            have entryChecked := checked entry List.mem_cons_self
            have allowsNext : field.Allows limits (bag.add entry) := by
              refine (field.allows_addAll_iff limits bag [entry]).mpr ⟨allows.checked, ?_, room⟩
              exact fun e mem => List.mem_singleton.mp mem ▸ entryChecked
            refine ⟨some entry, (first _).mpr ⟨entry, rfl, rfl⟩, ?_⟩
            refine (bind_eq_pure_iff _ _ _).mpr ⟨bag.add entry, ?_, ?_⟩
            · exact (addEntry_eq_pure_iff limits field allows.few _ _ _).mpr ⟨entryChecked, room, rfl⟩
            · exact (ih allowsNext).mpr ⟨entries, rfl, allowsAll, rfl⟩

end Intake

end Criteria
