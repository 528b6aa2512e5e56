import Criteria.Proofs.Extent
import Criteria.Proofs.Validation

/-!
# Trees that shrink

One tree shrinks to another if every bag becomes a related one under the same name and some groups go, with all that is
below them.  Whatever the relation keeps of a bag the tree keeps, and it gets neither more entries, if no bag does, nor
deeper, nor does it break a rule that it kept before.
-/

namespace Criteria

variable {α β γ : Type}

theorem forall₂_trans {R : β → α → Prop} {S : γ → β → Prop} {T : γ → α → Prop} {cs : List γ} {bs : List β} {as : List α}
    (first : List.Forall₂ R bs as) (second : List.Forall₂ S cs bs) (trans : ∀ a b c, R b a → S c b → T c a) :
    List.Forall₂ T cs as := by
  induction first generalizing cs with
  | nil =>
      cases second
      exact .nil
  | cons here _ ih =>
      cases second with
      | cons there later => exact .cons (trans _ _ _ here there) (ih later)

theorem sublistForall₂_of_forall₂ {R : β → α → Prop} {bs : List β} {as : List α} (h : List.Forall₂ R bs as) :
    List.SublistForall₂ R bs as :=
  List.sublistForall₂_iff.mpr ⟨as, h, List.Sublist.refl as⟩

theorem sublistForall₂_of_mem {R S : β → α → Prop} {bs : List β} {as : List α} (h : List.SublistForall₂ R bs as)
    (imp : ∀ a ∈ as, ∀ b, R b a → S b a) : List.SublistForall₂ S bs as := by
  induction h with
  | nil => exact .nil
  | cons first _ ih =>
      obtain ⟨here, later⟩ := List.forall_mem_cons.mp imp
      exact .cons (here _ first) (ih later)
  | cons_right _ ih => exact .cons_right (ih (List.forall_mem_cons.mp imp).2)

theorem sublistForall₂_trans {R : β → α → Prop} {S : γ → β → Prop} {T : γ → α → Prop} {cs : List γ} {bs : List β}
    {as : List α} (first : List.SublistForall₂ R bs as) (second : List.SublistForall₂ S cs bs)
    (trans : ∀ a ∈ as, ∀ b c, R b a → S c b → T c a) : List.SublistForall₂ T cs as := by
  induction first generalizing cs with
  | nil =>
      cases second
      exact .nil
  | cons here _ ih =>
      obtain ⟨transHere, transLater⟩ := List.forall_mem_cons.mp trans
      cases second with
      | nil => exact .nil
      | cons there later => exact .cons (transHere _ _ here there) (ih later transLater)
      | cons_right later => exact .cons_right (ih later transLater)
  | cons_right _ ih => exact .cons_right (ih second (List.forall_mem_cons.mp trans).2)

theorem exists_of_mem_sublistForall₂ {R : β → α → Prop} {bs : List β} {as : List α} (h : List.SublistForall₂ R bs as)
    {b : β} (mem : b ∈ bs) : ∃ a ∈ as, R b a := by
  induction h with
  | nil => cases mem
  | cons first _ ih =>
      rcases List.mem_cons.mp mem with rfl | later
      · exact ⟨_, List.mem_cons_self, first⟩
      · obtain ⟨a, here, related⟩ := ih later
        exact ⟨a, List.mem_cons_of_mem _ here, related⟩
  | cons_right _ ih =>
      obtain ⟨a, here, related⟩ := ih mem
      exact ⟨a, List.mem_cons_of_mem _ here, related⟩

theorem length_le_of_sublistForall₂ {R : β → α → Prop} {bs : List β} {as : List α} (h : List.SublistForall₂ R bs as) :
    bs.length ≤ as.length := by
  obtain ⟨kept, related, sublist⟩ := List.sublistForall₂_iff.mp h
  rw [related.length_eq]
  exact sublist.length_le

namespace Group

/-- A tree shrinks to another one: the parts of each group are joined as before, its bags are related to those before,
name by name, and the groups below it are those of a sublist, shrunk. -/
def Shrinks (R : String → Bag → Bag → Prop) : Group → Group → Prop :=
  fold fun logical fields below new =>
    new.logical = logical ∧
      List.Forall₂ (fun entry old => entry.1 = old.1 ∧ R old.1 old.2 entry.2) new.fields.entries fields.entries ∧
        List.SublistForall₂ (fun g shrinks => shrinks g) new.groups below

variable {R S T : String → Bag → Bag → Prop}

theorem shrinks_mk (logical : Logical) (fields : Keyed Bag) (groups : List Group) (new : Group) :
    (mk logical fields groups).Shrinks R new ↔
      new.logical = logical ∧
        List.Forall₂ (fun entry old => entry.1 = old.1 ∧ R old.1 old.2 entry.2) new.fields.entries fields.entries ∧
          List.SublistForall₂ (fun g old => old.Shrinks R g) new.groups groups := by
  rw [Shrinks, fold_mk, List.sublistForall₂_map_right_iff]

theorem Shrinks.refl (reflexive : ∀ name bag, R name bag bag) (group : Group) : group.Shrinks R group := by
  induction group with
  | step logical fields groups ih =>
      refine (shrinks_mk _ _ _ _).mpr ⟨rfl, List.forall₂_same.mpr fun entry _ => ⟨rfl, reflexive _ _⟩, ?_⟩
      exact sublistForall₂_of_forall₂ (List.forall₂_same.mpr ih)

theorem Shrinks.trans {a b c : Group} (first : a.Shrinks R b) (second : b.Shrinks S c)
    (trans : ∀ name old middle new, R name old middle → S name middle new → T name old new) : a.Shrinks T c := by
  induction a generalizing b c with
  | step logical fields groups ih =>
      rcases b with ⟨_, middle, below⟩
      obtain ⟨rfl, firstBags, firstBelow⟩ := (shrinks_mk _ _ _ _).mp first
      obtain ⟨joined, secondBags, secondBelow⟩ := (shrinks_mk _ _ _ _).mp second
      refine (shrinks_mk _ _ _ _).mpr ⟨joined, ?_, ?_⟩
      · refine forall₂_trans firstBags secondBags ?_
        rintro ⟨name, old⟩ ⟨_, middle⟩ ⟨_, new⟩ ⟨rfl, here⟩ ⟨rfl, there⟩
        exact ⟨rfl, trans _ _ _ _ here there⟩
      · exact sublistForall₂_trans firstBelow secondBelow fun g mem _ _ => ih g mem

theorem Shrinks.imp {a b : Group} (h : a.Shrinks R b) (imp : ∀ name old new, R name old new → S name old new) :
    a.Shrinks S b := by
  have same : b.Shrinks (fun _ old new => old = new) b := .refl (fun _ _ => rfl) b
  exact h.trans same fun name old middle new related unchanged => unchanged ▸ imp name old middle related

/-- What the relation keeps of every bag is kept by the tree. -/
theorem Shrinks.allBags {P Q : String → Bag → Prop} {a b : Group} (h : a.Shrinks R b)
    (keeps : ∀ name old new, R name old new → P name old → Q name new) (all : a.AllBags P) : b.AllBags Q := by
  induction a generalizing b with
  | step logical fields groups ih =>
      rcases b with ⟨_, others, below⟩
      obtain ⟨-, bags, kept⟩ := (shrinks_mk _ _ _ _).mp h
      rw [allBags_mk] at all ⊢
      constructor
      · intro entry mem
        obtain ⟨old, here, same, related⟩ := exists_of_mem_sublistForall₂ (sublistForall₂_of_forall₂ bags) mem
        rw [same]
        exact keeps _ _ _ related (all.1 old here)
      · intro g mem
        obtain ⟨old, here, shrinks⟩ := exists_of_mem_sublistForall₂ kept mem
        exact ih old here shrinks (all.2 old here)

theorem Shrinks.count_le {a b : Group} (h : a.Shrinks R b)
    (few : ∀ name old new, R name old new → new.count ≤ old.count) : b.count ≤ a.count := by
  induction a generalizing b with
  | step logical fields groups ih =>
      rcases b with ⟨_, others, below⟩
      obtain ⟨-, bags, kept⟩ := (shrinks_mk _ _ _ _).mp h
      rw [count_mk, count_mk]
      refine Nat.add_le_add ?_ ?_
      · refine List.Forall₂.sum_le_sum ?_
        rw [List.forall₂_map_left_iff, List.forall₂_map_right_iff]
        exact bags.imp fun entry old related => few _ _ _ related.2
      · refine List.SublistForall₂.sum_le_sum ?_ fun _ _ => Nat.zero_le _
        rw [List.sublistForall₂_map_left_iff, List.sublistForall₂_map_right_iff]
        exact sublistForall₂_of_mem kept fun old mem new shrinks => ih old mem shrinks

/-- A tree in order stays so if its bags do. -/
theorem Shrinks.groupProblems {schema : Schema} {limits : Limits} {a b : Group} {level : Nat} (h : a.Shrinks R b)
    (allows : ∀ name old new, R name old new → Validation.AllowsField schema limits name old →
      Validation.AllowsField schema limits name new)
    (valid : Validation.groupProblems schema limits a level = []) :
    Validation.groupProblems schema limits b level = [] := by
  induction a generalizing b level with
  | step logical fields groups ih =>
      rcases b with ⟨_, others, below⟩
      obtain ⟨-, bags, kept⟩ := (shrinks_mk _ _ _ _).mp h
      obtain ⟨allowed, few, shallow, inOrder⟩ := (Validation.groupProblems_mk_eq_nil_iff _ _ _ _ _ _).mp valid
      refine (Validation.groupProblems_mk_eq_nil_iff _ _ _ _ _ _).mpr ⟨?_, ?_, ?_, ?_⟩
      · intro entry mem
        obtain ⟨old, here, same, related⟩ := exists_of_mem_sublistForall₂ (sublistForall₂_of_forall₂ bags) mem
        rw [same]
        exact allows _ _ _ related (allowed old here)
      · exact (length_le_of_sublistForall₂ kept).trans few
      · intro some
        obtain ⟨g, mem⟩ := List.exists_mem_of_ne_nil _ some
        obtain ⟨old, here, -⟩ := exists_of_mem_sublistForall₂ kept mem
        exact shallow (List.ne_nil_of_mem here)
      · intro g mem
        obtain ⟨old, here, shrinks⟩ := exists_of_mem_sublistForall₂ kept mem
        exact ih old here shrinks (inOrder old here)

end Group

end Criteria
