import Criteria.Keyed
import Mathlib.Data.List.Perm.Subperm

/-!
# Collections by name, entry by entry

An entry is found under a name exactly if the collection holds it, and two collections that are the same
have, entry by entry, equal partners under equal names, in whatever order.
-/

namespace Criteria.Keyed

variable {α β : Type}

theorem lookup_eq_some_iff {entries : List (String × α)} (distinct : (entries.map Prod.fst).Nodup)
    (name : String) (value : α) : lookup name entries = some value ↔ (name, value) ∈ entries := by
  induction entries with
  | nil => simp [lookup]
  | cons entry rest ih =>
      rw [List.map_cons, List.nodup_cons] at distinct
      by_cases h : entry.1 = name
      · have absent : (name, value) ∉ rest := fun mem =>
          distinct.1 (h ▸ List.mem_map_of_mem mem)
        constructor
        · intro found
          simp only [lookup, h, ↓reduceIte, Option.some.injEq] at found
          rw [← h, ← found]
          exact List.mem_cons_self
        · intro mem
          rcases List.mem_cons.mp mem with same | mem
          · simp [lookup, ← same]
          · exact absurd mem absent
      · have other : (name, value) ≠ entry := fun same => h (by rw [← same])
        simp only [lookup, h, ↓reduceIte, ih distinct.2, List.mem_cons, other, false_or]

theorem get?_eq_some_iff (k : Keyed α) (name : String) (value : α) :
    k.get? name = some value ↔ (name, value) ∈ k.entries :=
  lookup_eq_some_iff k.distinct name value

theorem ext_entries {k l : Keyed α} (h : k.entries = l.entries) : k = l := by
  cases k
  cases l
  cases h
  rfl

@[simp] theorem entries_map (k : Keyed α) (f : String → α → β) :
    (k.map f).entries = k.entries.map fun entry => (entry.1, f entry.1 entry.2) := rfl

theorem get?_map (k : Keyed α) (f : String → α → β) (name : String) :
    (k.map f).get? name = (k.get? name).map (f name) := by
  change lookup name (k.entries.map fun entry => (entry.1, f entry.1 entry.2)) = (lookup name k.entries).map (f name)
  induction k.entries with
  | nil => rfl
  | cons entry rest ih =>
      rw [List.map_cons, lookup, lookup, ih]
      split
      · rename_i same
        rw [same, Option.map_some]
      · rfl

theorem mem_entries_alter (k : Keyed α) (name : String) (change : Option α → α) (key : String) (value : α) :
    (key, value) ∈ (k.alter name change).entries ↔
      (key = name ∧ value = change (k.get? name)) ∨ (key ≠ name ∧ (key, value) ∈ k.entries) := by
  rw [← get?_eq_some_iff, get?_alter, ← get?_eq_some_iff]
  split
  · rename_i same
    simp [same, eq_comm]
  · rename_i other
    simp [other]

theorem insert_eq_alter (k : Keyed α) (name : String) (change : Option α → α) :
    k.insert name (change (k.get? name)) = k.alter name change := by
  refine ext_entries ?_
  change alterList name (fun _ => change (lookup name k.entries)) k.entries =
    alterList name change k.entries
  induction k.entries with
  | nil => rfl
  | cons entry rest ih =>
      unfold alterList
      split
      · rename_i same
        rw [lookup, if_pos same]
      · rename_i other
        rw [lookup, if_neg other, ih]

theorem insert_eq_self (k : Keyed α) {name : String} {value : α} (h : k.get? name = some value) :
    k.insert name value = k := by
  refine ext_entries ?_
  change lookup name k.entries = some value at h
  change alterList name (fun _ => value) k.entries = k.entries
  revert h
  induction k.entries with
  | nil => exact fun h => nomatch h
  | cons entry rest ih =>
      intro h
      unfold alterList
      split
      · rename_i same
        rw [lookup, if_pos same] at h
        rw [← Option.some.inj h]
      · rename_i other
        rw [lookup, if_neg other] at h
        rw [ih h]

theorem mem_entries_erase (k : Keyed α) (name : String) (entry : String × α) :
    entry ∈ (k.erase name).entries ↔ entry ∈ k.entries ∧ entry.1 ≠ name := by
  rw [erase, List.mem_filter, decide_eq_true_eq]

theorem get?_erase (k : Keyed α) (name key : String) :
    (k.erase name).get? key = if key = name then none else k.get? key := by
  refine Option.ext fun value => ?_
  rw [get?_eq_some_iff, mem_entries_erase]
  split
  · rename_i same
    simp [same]
  · rename_i other
    simp [other, get?_eq_some_iff]

theorem erase_eq_self (k : Keyed α) {name : String} (h : k.get? name = none) : k.erase name = k := by
  refine ext_entries ?_
  change k.entries.filter (fun entry => entry.1 ≠ name) = k.entries
  refine List.filter_eq_self.mpr fun entry mem => decide_eq_true fun same => ?_
  have found := (k.get?_eq_some_iff name entry.2).mpr (same ▸ mem)
  rw [h] at found
  cases found

theorem entries_insert {k : Keyed α} {name : String} (absent : name ∉ k.names) (value : α) :
    (k.insert name value).entries = k.entries ++ [(name, value)] := by
  change alterList name (fun _ => value) k.entries = k.entries ++ [(name, value)]
  change name ∉ k.entries.map Prod.fst at absent
  revert absent
  induction k.entries with
  | nil => exact fun _ => rfl
  | cons entry rest ih =>
      intro absent
      rw [List.map_cons, List.mem_cons, not_or] at absent
      rw [alterList, if_neg (Ne.symm absent.1), ih absent.2, List.cons_append]

/-- Entries under distinct names are collected as they are. -/
theorem entries_ofList {entries : List (String × α)} (distinct : (entries.map Prod.fst).Nodup) :
    (ofList entries).entries = entries := by
  suffices collected : ∀ k : Keyed α, (k.names ++ entries.map Prod.fst).Nodup →
      (entries.foldl (fun k entry => k.insert entry.1 entry.2) k).entries = k.entries ++ entries from
    collected empty distinct
  clear distinct
  intro k
  induction entries generalizing k with
  | nil => exact fun _ => (List.append_nil _).symm
  | cons entry rest ih =>
      intro distinct
      have absent : entry.1 ∉ k.names := fun mem =>
        (List.nodup_append.mp distinct).2.2 _ mem _ List.mem_cons_self rfl
      have put := entries_insert absent entry.2
      have names : (k.insert entry.1 entry.2).names = k.names ++ [entry.1] := by
        rw [Keyed.names, put, List.map_append]
        rfl
      rw [List.foldl_cons, ih, put, List.append_assoc, List.singleton_append]
      rwa [names, List.append_assoc, List.singleton_append]

theorem ofList_entries (k : Keyed α) : ofList k.entries = k :=
  ext_entries (entries_ofList k.distinct)

/-- Every entry has an equal partner in a collection that is the same. -/
theorem exists_right_of_sameBy {same : α → α → Bool} {k l : Keyed α} (h : k.sameBy same l = true)
    {name : String} {value : α} (mem : (name, value) ∈ k.entries) :
    ∃ other, (name, other) ∈ l.entries ∧ same value other = true := by
  simp only [sameBy, Bool.and_eq_true, List.all_eq_true] at h
  have found := h.2 (name, value) mem
  rw [Option.any_eq_true] at found
  rcases found with ⟨other, hother, equal⟩
  exact ⟨other, (l.get?_eq_some_iff name other).mp hother, equal⟩

/-- The names of two collections that are the same are the same. -/
theorem names_subset_of_sameBy {same : α → α → Bool} {k l : Keyed α} (h : k.sameBy same l = true) :
    l.names ⊆ k.names := by
  have forward : k.names ⊆ l.names := by
    intro name mem
    obtain ⟨⟨_, value⟩, hmem, rfl⟩ := List.mem_map.mp mem
    obtain ⟨other, hother, -⟩ := exists_right_of_sameBy h hmem
    exact List.mem_map.mpr ⟨_, hother, rfl⟩
  have size : k.entries.length = l.entries.length := by
    simp only [sameBy, Bool.and_eq_true, beq_iff_eq] at h
    exact h.1
  have perm : k.names.Perm l.names :=
    (List.Nodup.subperm k.distinct forward).perm_of_length_le (by
      simp only [names, List.length_map]
      omega)
  exact perm.symm.subset

/-- Every entry of a collection that is the same has an equal partner here. -/
theorem exists_left_of_sameBy {same : α → α → Bool} {k l : Keyed α} (h : k.sameBy same l = true)
    {name : String} {other : α} (mem : (name, other) ∈ l.entries) :
    ∃ value, (name, value) ∈ k.entries ∧ same value other = true := by
  have present : name ∈ k.names := names_subset_of_sameBy h (List.mem_map_of_mem mem)
  obtain ⟨⟨_, value⟩, hmem, rfl⟩ := List.mem_map.mp present
  obtain ⟨partner, hpartner, equal⟩ := exists_right_of_sameBy h hmem
  have found := (l.get?_eq_some_iff _ _).mpr hpartner
  rw [(l.get?_eq_some_iff _ _).mpr mem] at found
  cases found
  exact ⟨value, hmem, equal⟩

end Criteria.Keyed
