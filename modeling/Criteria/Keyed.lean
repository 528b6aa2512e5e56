/-!
# Entries by name

A collection of entries under names: no name occurs twice, and the entries keep the order in which their
names first came.  Two collections are the same when they hold the same entries under the same names, in
whatever order.
-/

namespace Criteria

/-- Entries under distinct names, in order. -/
structure Keyed (α : Type) where
  entries : List (String × α)
  distinct : (entries.map Prod.fst).Nodup

namespace Keyed

variable {α β : Type}

/-- No entries at all. -/
def empty : Keyed α :=
  ⟨[], by simp⟩

instance : Inhabited (Keyed α) := ⟨empty⟩

/-- The names in order. -/
def names (k : Keyed α) : List String :=
  k.entries.map Prod.fst

/-- The entries without their names, in order. -/
def values (k : Keyed α) : List α :=
  k.entries.map Prod.snd

/-- The number of entries. -/
def size (k : Keyed α) : Nat :=
  k.entries.length

/-- Decides whether there are no entries. -/
def isEmpty (k : Keyed α) : Bool :=
  k.entries.isEmpty

/-- The entry under a name in a list of named entries. -/
def lookup (name : String) : List (String × α) → Option α
  | [] => none
  | (key, value) :: rest => if key = name then some value else lookup name rest

/-- The entry under a name. -/
def get? (k : Keyed α) (name : String) : Option α :=
  lookup name k.entries

/-- Decides whether there is an entry under a name. -/
def contains (k : Keyed α) (name : String) : Bool :=
  (k.get? name).isSome

/-- Changes the entry under a name in a list of named entries, or puts a new one at the end. -/
def alterList (name : String) (change : Option α → α) : List (String × α) → List (String × α)
  | [] => [(name, change none)]
  | (key, value) :: rest =>
      if key = name then (key, change (some value)) :: rest
      else (key, value) :: alterList name change rest

theorem mem_names_alterList (name : String) (change : Option α → α) (entries : List (String × α))
    (key : String) :
    key ∈ (alterList name change entries).map Prod.fst ↔ key = name ∨ key ∈ entries.map Prod.fst := by
  induction entries with
  | nil => simp [alterList]
  | cons entry rest ih =>
      unfold alterList
      split
      · rename_i h
        simp [h]
      · simp only [List.map_cons, List.mem_cons, ih]
        constructor
        · rintro (h | h | h) <;> simp [h]
        · rintro (h | h | h) <;> simp [h]

theorem nodup_alterList (name : String) (change : Option α → α) (entries : List (String × α))
    (h : (entries.map Prod.fst).Nodup) :
    ((alterList name change entries).map Prod.fst).Nodup := by
  induction entries with
  | nil => simp [alterList]
  | cons entry rest ih =>
      rw [List.map_cons, List.nodup_cons] at h
      unfold alterList
      split
      · rw [List.map_cons, List.nodup_cons]
        exact h
      · rename_i hne
        rw [List.map_cons, List.nodup_cons, mem_names_alterList]
        refine ⟨?_, ih h.2⟩
        rintro (heq | hmem)
        · exact hne heq
        · exact h.1 hmem

theorem lookup_alterList (name : String) (change : Option α → α) (entries : List (String × α))
    (key : String) :
    lookup key (alterList name change entries) =
      if key = name then some (change (lookup name entries)) else lookup key entries := by
  induction entries with
  | nil => simp [alterList, lookup, eq_comm]
  | cons entry rest ih =>
      by_cases h : entry.1 = name
      · by_cases hk : key = name
        · simp [alterList, lookup, h, hk]
        · have hne : ¬ name = key := fun heq => hk heq.symm
          simp [alterList, lookup, h, hk, hne]
      · by_cases hk : entry.1 = key
        · have hne : ¬ key = name := fun heq => h (hk.trans heq)
          simp [alterList, lookup, hk, hne]
        · simp [alterList, lookup, h, hk, ih]

theorem isSome_lookup_iff (name : String) (entries : List (String × α)) :
    (lookup name entries).isSome = true ↔ name ∈ entries.map Prod.fst := by
  induction entries with
  | nil => simp [lookup]
  | cons entry rest ih =>
      by_cases h : entry.1 = name
      · simp [lookup, h]
      · have hne : ¬ name = entry.1 := fun heq => h heq.symm
        simp [lookup, h, hne, ih]

/-- Changes the entry under a name in its place, or puts a new one at the end. -/
def alter (k : Keyed α) (name : String) (change : Option α → α) : Keyed α :=
  ⟨alterList name change k.entries, nodup_alterList name change k.entries k.distinct⟩

/-- Puts an entry under a name; one that is there already is replaced in its place. -/
def insert (k : Keyed α) (name : String) (value : α) : Keyed α :=
  k.alter name fun _ => value

/-- Removes the entry under a name; the others keep their order. -/
def erase (k : Keyed α) (name : String) : Keyed α :=
  ⟨k.entries.filter fun entry => entry.1 ≠ name,
    k.distinct.sublist (List.filter_sublist.map _)⟩

/-- Changes every entry, with a look at its name. -/
def map (k : Keyed α) (f : String → α → β) : Keyed β :=
  ⟨k.entries.map fun entry => (entry.1, f entry.1 entry.2), by
    have h : (k.entries.map fun entry => (entry.1, f entry.1 entry.2)).map Prod.fst =
        k.entries.map Prod.fst := by
      simp [List.map_map, Function.comp_def]
    rw [h]
    exact k.distinct⟩

/-- The entries of a list under their names; of two with one name the later one is kept, in the place of the
first. -/
def ofList (entries : List (String × α)) : Keyed α :=
  entries.foldl (fun k entry => k.insert entry.1 entry.2) empty

/-- Decides whether two collections hold the same entries under the same names, by the given equality of
entries; the order does not count. -/
def sameBy (same : α → α → Bool) (k l : Keyed α) : Bool :=
  k.size == l.size && k.entries.all fun entry => (l.get? entry.1).any (same entry.2)

/-! ## What is found under a name -/

@[simp]
theorem get?_empty (name : String) : (empty : Keyed α).get? name = none := rfl

/-- An entry is found exactly under the names of the collection. -/
theorem isSome_get?_iff (k : Keyed α) (name : String) :
    (k.get? name).isSome = true ↔ name ∈ k.names :=
  isSome_lookup_iff name k.entries

/-- Changing one entry leaves what is found under the other names. -/
theorem get?_alter (k : Keyed α) (name : String) (change : Option α → α) (key : String) :
    (k.alter name change).get? key =
      if key = name then some (change (k.get? name)) else k.get? key :=
  lookup_alterList name change k.entries key

/-- What is put under a name is found there. -/
theorem get?_insert (k : Keyed α) (name : String) (value : α) (key : String) :
    (k.insert name value).get? key = if key = name then some value else k.get? key :=
  k.get?_alter name (fun _ => value) key

end Keyed

end Criteria
