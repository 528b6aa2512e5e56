import Mathlib.Data.List.Perm.Basic

/-!
# Lists up to order and likeness

Two lists hold alike elements in whatever order exactly if each of them has as many elements like any given one as the
other.  By this count alike parts can be taken away from both, and sorted lists go together place by place.
-/

namespace Criteria

/-- Two lists hold the same elements, in whatever order and any of them in the place of one it is like. -/
def Rearranged {α : Type} (alike : α → α → Bool) (xs ys : List α) : Prop :=
  ∃ zs, xs.Perm zs ∧ List.Forall₂ (fun a b => alike a b = true) zs ys

namespace Rearranged

variable {α β : Type} {alike : α → α → Bool} {xs ys zs : List α}

theorem of_forall₂ (h : List.Forall₂ (fun a b => alike a b = true) xs ys) : Rearranged alike xs ys :=
  ⟨xs, .refl _, h⟩

theorem length_eq (h : Rearranged alike xs ys) : xs.length = ys.length := by
  obtain ⟨zs, perm, pairs⟩ := h
  exact perm.length_eq.trans pairs.length_eq

theorem append {xs' ys' : List α} (h : Rearranged alike xs ys) (h' : Rearranged alike xs' ys') :
    Rearranged alike (xs ++ xs') (ys ++ ys') := by
  obtain ⟨zs, perm, pairs⟩ := h
  obtain ⟨zs', perm', pairs'⟩ := h'
  exact ⟨zs ++ zs', perm.append perm', List.rel_append pairs pairs'⟩

/-- Tests that do not tell like elements apart let like elements through. -/
theorem filter {p q : α → Bool} (congr : ∀ a b, alike a b = true → p a = q b) (h : Rearranged alike xs ys) :
    Rearranged alike (xs.filter p) (ys.filter q) := by
  obtain ⟨zs, perm, pairs⟩ := h
  refine ⟨zs.filter p, perm.filter p, List.rel_filter (fun a b like => ?_) pairs⟩
  change p a = true ↔ q b = true
  rw [congr a b like]

theorem countP_eq {p q : α → Bool} (congr : ∀ a b, alike a b = true → p a = q b) (h : Rearranged alike xs ys) :
    xs.countP p = ys.countP q := by
  rw [List.countP_eq_length_filter, List.countP_eq_length_filter]
  exact (h.filter congr).length_eq

theorem any_eq {p q : α → Bool} (congr : ∀ a b, alike a b = true → p a = q b) (h : Rearranged alike xs ys) :
    xs.any p = ys.any q := by
  have count := h.countP_eq congr
  rw [Bool.eq_iff_iff, List.any_eq_true, List.any_eq_true, ← List.countP_pos_iff, ← List.countP_pos_iff, count]

theorem map {f : β → α} {as bs : List β} (h : Rearranged (fun a b => alike (f a) (f b)) as bs) :
    Rearranged alike (as.map f) (bs.map f) := by
  obtain ⟨cs, perm, pairs⟩ := h
  refine ⟨cs.map f, perm.map f, ?_⟩
  rw [List.forall₂_map_left_iff, List.forall₂_map_right_iff]
  exact pairs

/-- Where every element is like itself alone nothing but the order differs. -/
theorem iff_perm [DecidableEq α] : Rearranged (fun a b : α => a == b) xs ys ↔ xs.Perm ys := by
  simp only [Rearranged, beq_iff_eq, List.forall₂_eq_eq_eq, exists_eq_right]

/-! ## Likeness that is an equivalence -/

variable (equivalence : Equivalence fun a b => alike a b = true)
include equivalence

theorem congr_right {a b : α} (like : alike a b = true) (c : α) : alike c a = alike c b := by
  rw [Bool.eq_iff_iff]
  exact ⟨fun h => equivalence.trans h like, fun h => equivalence.trans h (equivalence.symm like)⟩

theorem of_perm (perm : xs.Perm ys) : Rearranged alike xs ys :=
  ⟨ys, perm, List.forall₂_same.mpr fun a _ => equivalence.refl a⟩

theorem iff_countP : Rearranged alike xs ys ↔ ∀ a, xs.countP (alike a) = ys.countP (alike a) := by
  constructor
  · exact fun h a => h.countP_eq fun b c like => congr_right equivalence like a
  intro counts
  induction ys generalizing xs with
  | nil =>
      have empty : xs = [] := List.eq_nil_iff_forall_not_mem.mpr fun x mem =>
        List.countP_eq_zero.mp (counts x) x mem (equivalence.refl x)
      rw [empty]
      exact of_forall₂ .nil
  | cons y ys ih =>
      have present : 0 < xs.countP (alike y) := by
        rw [counts y]
        exact List.countP_pos_iff.mpr ⟨y, List.mem_cons_self, equivalence.refl y⟩
      obtain ⟨x, mem, like⟩ := List.countP_pos_iff.mp present
      obtain ⟨front, behind, rfl⟩ := List.append_of_mem mem
      have others : Rearranged alike (front ++ behind) ys := by
        refine ih fun a => ?_
        have count := counts a
        rw [List.perm_middle.countP_eq, List.countP_cons, List.countP_cons, congr_right equivalence like a] at count
        exact Nat.add_right_cancel count
      obtain ⟨zs, perm, pairs⟩ := others
      exact ⟨x :: zs, List.perm_middle.trans (perm.cons x), .cons (equivalence.symm like) pairs⟩

theorem trans (first : Rearranged alike xs ys) (second : Rearranged alike ys zs) : Rearranged alike xs zs := by
  rw [iff_countP equivalence] at first second ⊢
  exact fun a => (first a).trans (second a)

/-- Parts that hold alike elements can be taken away. -/
theorem cancel_right {xs' ys' : List α} (whole : Rearranged alike (xs ++ xs') (ys ++ ys'))
    (part : Rearranged alike xs' ys') : Rearranged alike xs ys := by
  rw [iff_countP equivalence] at whole part ⊢
  intro a
  have count := whole a
  rw [List.countP_append, List.countP_append, part a] at count
  exact Nat.add_right_cancel count

end Rearranged

/-! ## Sorted lists -/

section Sorted

variable {α : Type} {le : α → α → Bool}

/-- Two elements either of which may stand in front of the other. -/
def ties (le : α → α → Bool) (a b : α) : Bool :=
  le a b && le b a

theorem ties_iff {a b : α} : ties le a b = true ↔ le a b = true ∧ le b a = true := by
  rw [ties, Bool.and_eq_true]

theorem le_refl_of_total (total : ∀ a b, (le a b || le b a) = true) (a : α) : le a a = true := by
  have either := total a a
  rwa [Bool.or_self] at either

variable (trans : ∀ a b c, le a b = true → le b c = true → le a c = true)
  (total : ∀ a b, (le a b || le b a) = true)
include trans total

theorem equivalence_ties : Equivalence fun a b => ties le a b = true where
  refl a := ties_iff.mpr ⟨le_refl_of_total total a, le_refl_of_total total a⟩
  symm h := ties_iff.mpr (ties_iff.mp h).symm
  trans hab hbc := by
    obtain ⟨ab, ba⟩ := ties_iff.mp hab
    obtain ⟨bc, cb⟩ := ties_iff.mp hbc
    exact ties_iff.mpr ⟨trans _ _ _ ab bc, trans _ _ _ cb ba⟩

/-- The first of a sorted list may stand in front of every element that ties with one of the list. -/
theorem le_of_sorted {x y z : α} {xs : List α} (sorted : (x :: xs).Pairwise fun a b => le a b = true)
    (mem : y ∈ x :: xs) (tied : ties le z y = true) : le x z = true := by
  refine trans _ _ _ ?_ (ties_iff.mp tied).2
  rcases List.mem_cons.mp mem with rfl | later
  · exact le_refl_of_total total y
  · exact (List.pairwise_cons.mp sorted).1 y later

/-- Sorted lists that hold the same elements up to ties agree place by place up to ties. -/
theorem Rearranged.forall₂_of_sorted {xs ys : List α} (sorted : xs.Pairwise fun a b => le a b = true)
    (sortedToo : ys.Pairwise fun a b => le a b = true) (h : Rearranged (ties le) xs ys) :
    List.Forall₂ (fun a b => ties le a b = true) xs ys := by
  have equivalence := equivalence_ties trans total
  induction xs generalizing ys with
  | nil =>
      rw [List.length_eq_zero_iff.mp h.length_eq.symm]
      exact .nil
  | cons x xs ih =>
      obtain ⟨y, ys, rfl⟩ := List.exists_cons_of_length_eq_add_one h.length_eq.symm
      have counts := (iff_countP equivalence).mp h
      have here : 0 < (y :: ys).countP (ties le x) := by
        rw [← counts x]
        exact List.countP_pos_iff.mpr ⟨x, List.mem_cons_self, equivalence.refl x⟩
      have there : 0 < (x :: xs).countP (ties le y) := by
        rw [counts y]
        exact List.countP_pos_iff.mpr ⟨y, List.mem_cons_self, equivalence.refl y⟩
      obtain ⟨b, hb, tiedHere⟩ := List.countP_pos_iff.mp here
      obtain ⟨a, ha, tiedThere⟩ := List.countP_pos_iff.mp there
      have tied : ties le x y = true :=
        ties_iff.mpr ⟨le_of_sorted trans total sorted ha tiedThere, le_of_sorted trans total sortedToo hb tiedHere⟩
      have rest : Rearranged (ties le) xs ys := by
        rw [iff_countP equivalence]
        intro c
        have count := counts c
        rw [List.countP_cons, List.countP_cons, congr_right equivalence tied c] at count
        exact Nat.add_right_cancel count
      exact .cons tied (ih (List.pairwise_cons.mp sorted).2 (List.pairwise_cons.mp sortedToo).2 rest)

end Sorted

end Criteria
