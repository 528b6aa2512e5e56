import Mathlib.Data.List.Forall2

/-!
# Steps that may fail

A sequence of steps succeeds exactly if every step does, and fails for the reason for which one of them fails.
-/

namespace Criteria

variable {ε α β : Type}

theorem bind_eq_ok_iff {x : Except ε α} {f : α → Except ε β} {b : β} :
    x >>= f = .ok b ↔ ∃ a, x = .ok a ∧ f a = .ok b := by
  cases x with
  | error e => exact ⟨fun h => (nomatch h), fun ⟨_, h, _⟩ => (nomatch h)⟩
  | ok a =>
      constructor
      · exact fun h => ⟨a, rfl, h⟩
      · rintro ⟨_, h, g⟩
        cases h
        exact g

theorem pure_eq_ok_iff {a b : α} : (pure a : Except ε α) = .ok b ↔ a = b :=
  ⟨fun h => Except.ok.inj h, congrArg Except.ok⟩

/-- A step for every element succeeds exactly if each of them does. -/
theorem mapM_eq_ok_iff {f : α → Except ε β} {xs : List α} {ys : List β} :
    xs.mapM f = .ok ys ↔ List.Forall₂ (fun x y => f x = .ok y) xs ys := by
  induction xs generalizing ys with
  | nil => rw [List.mapM_nil, pure_eq_ok_iff, List.forall₂_nil_left_iff, eq_comm]
  | cons x xs ih =>
      simp only [List.mapM_cons, bind_eq_ok_iff, pure_eq_ok_iff, ih, List.forall₂_cons_left_iff]
      constructor
      · rintro ⟨y, first, ys, others, rfl⟩
        exact ⟨y, ys, first, others, rfl⟩
      · rintro ⟨y, ys, first, others, rfl⟩
        exact ⟨y, first, ys, others, rfl⟩

theorem exists_mapM_ok {f : α → Except ε β} {xs : List α} (h : ∀ x ∈ xs, ∃ y, f x = .ok y) :
    ∃ ys, xs.mapM f = .ok ys := by
  induction xs with
  | nil => exact ⟨[], rfl⟩
  | cons x xs ih =>
      obtain ⟨⟨y, first⟩, later⟩ := List.forall_mem_cons.mp h
      obtain ⟨ys, others⟩ := ih later
      exact ⟨y :: ys, by rw [List.mapM_cons, first, others]; rfl⟩

theorem exists_of_mem_mapM {f : α → Except ε β} {xs : List α} {ys : List β} (h : xs.mapM f = .ok ys) {y : β}
    (mem : y ∈ ys) : ∃ x ∈ xs, f x = .ok y := by
  have each := mapM_eq_ok_iff.mp h
  clear h
  induction each with
  | nil => cases mem
  | @cons x _ _ _ first _ ih =>
      rcases List.mem_cons.mp mem with rfl | later
      · exact ⟨x, List.mem_cons_self, first⟩
      · obtain ⟨x, here, result⟩ := ih later
        exact ⟨x, List.mem_cons_of_mem _ here, result⟩

theorem mapM_congr {f g : α → Except ε β} {xs : List α} (h : ∀ x ∈ xs, f x = g x) : xs.mapM f = xs.mapM g := by
  induction xs with
  | nil => rfl
  | cons x xs ih =>
      obtain ⟨first, later⟩ := List.forall_mem_cons.mp h
      rw [List.mapM_cons, List.mapM_cons, first, ih later]

theorem forall₂_of_mem {R S : α → β → Prop} {as : List α} {bs : List β} (h : List.Forall₂ R as bs)
    (imp : ∀ a ∈ as, ∀ b ∈ bs, R a b → S a b) : List.Forall₂ S as bs := by
  rw [List.forall₂_iff_zip] at h ⊢
  refine ⟨h.1, fun {a b} mem => ?_⟩
  obtain ⟨left, right⟩ := List.of_mem_zip mem
  exact imp a left b right (h.2 mem)

/-- A property of all results is one of all that they are results of. -/
theorem forall_mem_iff_of_mapM {f : α → Except ε β} {xs : List α} {ys : List β} (h : xs.mapM f = .ok ys)
    {P : α → Prop} {Q : β → Prop} (each : ∀ x ∈ xs, ∀ y, f x = .ok y → (Q y ↔ P x)) :
    (∀ y ∈ ys, Q y) ↔ ∀ x ∈ xs, P x := by
  induction mapM_eq_ok_iff.mp h with
  | nil => exact iff_of_true (List.forall_mem_nil _) (List.forall_mem_nil _)
  | @cons x y xs ys first others ih =>
      obtain ⟨here, later⟩ := List.forall_mem_cons.mp each
      rw [List.forall_mem_cons, List.forall_mem_cons, here y first, ih (mapM_eq_ok_iff.mpr others) later]

/-! ## Whether a step succeeds -/

/-- A step comes to a result. -/
def Succeeds (x : Except ε α) : Prop :=
  ∃ a, x = .ok a

theorem succeeds_ok (a : α) : Succeeds (.ok a : Except ε α) :=
  ⟨a, rfl⟩

theorem not_succeeds_error (e : ε) : ¬Succeeds (.error e : Except ε α) :=
  fun ⟨_, h⟩ => nomatch h

theorem succeeds_bind_iff {x : Except ε α} {f : α → Except ε β} {P Q : Prop} (first : Succeeds x ↔ P)
    (second : ∀ a, x = .ok a → (Succeeds (f a) ↔ Q)) : Succeeds (x >>= f) ↔ P ∧ Q := by
  rw [← first]
  constructor
  · rintro ⟨b, h⟩
    obtain ⟨a, here, later⟩ := bind_eq_ok_iff.mp h
    exact ⟨⟨a, here⟩, (second a here).mp ⟨b, later⟩⟩
  · rintro ⟨⟨a, here⟩, holds⟩
    obtain ⟨b, later⟩ := (second a here).mpr holds
    exact ⟨b, bind_eq_ok_iff.mpr ⟨a, here, later⟩⟩

/-- What always succeeds behind a step does not change whether it does. -/
theorem succeeds_bind_pure_iff {x : Except ε α} {f : α → β} : Succeeds (x >>= fun a => pure (f a)) ↔ Succeeds x :=
  (succeeds_bind_iff Iff.rfl fun a _ => iff_true_intro (succeeds_ok (f a))).trans (by rw [and_true])

theorem succeeds_mapM_iff {f : α → Except ε β} {xs : List α} {P : α → Prop} (h : ∀ x ∈ xs, Succeeds (f x) ↔ P x) :
    Succeeds (xs.mapM f) ↔ ∀ x ∈ xs, P x := by
  refine ⟨fun ⟨ys, mapped⟩ x mem => (h x mem).mp ?_, fun each => exists_mapM_ok fun x mem => (h x mem).mpr (each x mem)⟩
  obtain ⟨i, inside, rfl⟩ := List.getElem_of_mem mem
  have related := mapM_eq_ok_iff.mp mapped
  exact ⟨_, related.get inside (related.length_eq ▸ inside)⟩

/-! ## Why a step fails -/

/-- A step that fails does so with an error that has a property. -/
def FailsOnly (P : ε → Prop) (x : Except ε α) : Prop :=
  ∀ e, x = .error e → P e

section FailsOnly

variable {P Q : ε → Prop}

theorem failsOnly_ok (a : α) : FailsOnly P (.ok a : Except ε α) :=
  fun _ failed => nomatch failed

theorem failsOnly_error {e : ε} (h : P e) : FailsOnly P (.error e : Except ε α) := by
  rintro _ ⟨⟩
  exact h

theorem FailsOnly.imp {x : Except ε α} (first : FailsOnly P x) (h : ∀ e, P e → Q e) : FailsOnly Q x :=
  fun e failed => h e (first e failed)

theorem FailsOnly.bind {x : Except ε α} {f : α → Except ε β} (first : FailsOnly P x)
    (second : ∀ a, x = .ok a → FailsOnly P (f a)) : FailsOnly P (x >>= f) := by
  cases x with
  | error e => exact failsOnly_error (first e rfl)
  | ok a => exact second a rfl

theorem FailsOnly.bind_pure {x : Except ε α} {f : α → β} (h : FailsOnly P x) :
    FailsOnly P (x >>= fun a => pure (f a)) :=
  h.bind fun a _ => failsOnly_ok (f a)

theorem FailsOnly.map {x : Except ε α} (h : FailsOnly P x) (f : α → β) : FailsOnly P (x.map f) := by
  cases x with
  | error e => exact failsOnly_error (h e rfl)
  | ok a => exact failsOnly_ok (f a)

theorem failsOnly_mapM {f : α → Except ε β} {xs : List α} (h : ∀ x ∈ xs, FailsOnly P (f x)) :
    FailsOnly P (xs.mapM f) := by
  induction xs with
  | nil => exact failsOnly_ok []
  | cons x xs ih =>
      obtain ⟨first, later⟩ := List.forall_mem_cons.mp h
      rw [List.mapM_cons]
      exact first.bind fun _ _ => (ih later).bind_pure

end FailsOnly

/-! ## Two steps with the same outcome -/

/-- Both steps fail with the same error, or both come to results that are related. -/
inductive SameOutcome (R : α → β → Prop) : Except ε α → Except ε β → Prop where
  | error (e : ε) : SameOutcome R (.error e) (.error e)
  | ok {a : α} {b : β} (related : R a b) : SameOutcome R (.ok a) (.ok b)

theorem SameOutcome.bind {γ δ : Type} {R : α → β → Prop} {S : γ → δ → Prop} {x : Except ε α} {y : Except ε β}
    {f : α → Except ε γ} {g : β → Except ε δ} (first : SameOutcome R x y)
    (second : ∀ a b, R a b → SameOutcome S (f a) (g b)) : SameOutcome S (x >>= f) (y >>= g) := by
  cases first with
  | error e => exact .error e
  | ok related => exact second _ _ related

end Criteria
