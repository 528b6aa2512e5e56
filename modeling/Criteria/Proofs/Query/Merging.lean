import Criteria.Proofs.Query.Joining
import Criteria.Proofs.Query.RoundTrip

/-!
# Conditions of joined texts

The condition of two texts with a semicolon between them is the merge of their conditions: what the second says about
fields is added to what the first says, and its groups stand behind those of the first.
-/

namespace Criteria

/-! ## Bags -/

namespace Bag

theorem append_assoc (a b c : Bag) : a ++ b ++ c = a ++ (b ++ c) := by
  change (a.append b).append c = a.append (b.append c)
  simp only [append, List.append_assoc]

theorem append_empty (bag : Bag) : bag ++ empty = bag := by
  change bag.append empty = bag
  simp only [append, empty, List.append_nil]

theorem add_eq_append (bag : Bag) (entry : Entry) : bag.add entry = bag ++ empty.add entry := by
  change _ = bag.append _
  cases entry <;> simp only [add, append, empty, List.append_nil, List.nil_append]

theorem addAll_eq_append (bag : Bag) (entries : List Entry) : bag.addAll entries = bag ++ empty.addAll entries := by
  induction entries generalizing bag with
  | nil => exact (append_empty bag).symm
  | cons entry entries ih =>
      rw [addAll_cons, addAll_cons, ih, ih (empty.add entry), add_eq_append bag, append_assoc]

theorem mem_toList_append (a b : Bag) (e : Entry) : e ∈ (a ++ b).toList ↔ e ∈ a.toList ∨ e ∈ b.toList := by
  rw [← addAll_toList b, ← addAll_eq_append, mem_toList_addAll, addAll_toList]

end Bag

/-! ## Entries changed twice -/

namespace Keyed

variable {α : Type}

theorem alter_alter (k : Keyed α) (name : String) (first second : Option α → α) :
    (k.alter name first).alter name second = k.alter name fun old => second (some (first old)) := by
  refine ext_entries ?_
  change alterList name second (alterList name first k.entries) = alterList name _ k.entries
  induction k.entries with
  | nil => simp [alterList]
  | cons entry rest ih =>
      by_cases same : entry.1 = name
      · simp [alterList, same]
      · simp [alterList, same, ih]

/-- Changes under two names can be made in any order if one of the names is there already. -/
theorem alter_comm {k : Keyed α} {name other : String} (present : name ∈ k.names) (differ : other ≠ name)
    (first second : Option α → α) :
    (k.alter other second).alter name first = (k.alter name first).alter other second := by
  refine ext_entries ?_
  change alterList name first (alterList other second k.entries) =
    alterList other second (alterList name first k.entries)
  change name ∈ k.entries.map Prod.fst at present
  revert present
  induction k.entries with
  | nil => exact fun present => nomatch present
  | cons entry rest ih =>
      intro present
      by_cases here : entry.1 = name
      · simp [alterList, here, Ne.symm differ]
      · have later : name ∈ rest.map Prod.fst := (List.mem_cons.mp present).resolve_left (Ne.symm here)
        by_cases there : entry.1 = other
        · simp [alterList, there, differ]
        · simp [alterList, here, there, ih later]

theorem mem_names_alter (k : Keyed α) (name : String) (change : Option α → α) (key : String) :
    key ∈ (k.alter name change).names ↔ key = name ∨ key ∈ k.names :=
  mem_names_alterList name change k.entries key

end Keyed

/-! ## Bags put behind bags -/

/-- Puts a bag behind what a collection holds under its name. -/
def putBehind (fields : Keyed Bag) (entry : String × Bag) : Keyed Bag :=
  fields.alter entry.1 fun old => old.getD .empty ++ entry.2

theorem putBehind_putBehind (fields : Keyed Bag) (name : String) (first second : Bag) :
    putBehind (putBehind fields (name, first)) (name, second) = putBehind fields (name, first ++ second) := by
  simp only [putBehind, Keyed.alter_alter, Option.getD_some, Bag.append_assoc]

/-- What the bags of a list come to under a name, put behind those of a collection. -/
theorem get?_foldl_putBehind {entries : List (String × Bag)} (distinct : (entries.map Prod.fst).Nodup)
    (fields : Keyed Bag) (name : String) :
    (entries.foldl putBehind fields).get? name =
      Option.merge (· ++ ·) (fields.get? name) (Keyed.lookup name entries) := by
  induction entries generalizing fields with
  | nil => exact (Option.merge_none_right).symm
  | cons entry entries ih =>
      obtain ⟨absent, distinct⟩ := List.nodup_cons.mp distinct
      rw [List.foldl_cons, ih distinct, putBehind, Keyed.get?_alter, Keyed.lookup]
      by_cases same : entry.1 = name
      · have nothing : Keyed.lookup name entries = none := by
          rw [← Option.not_isSome_iff_eq_none, Keyed.isSome_lookup_iff, ← same]
          exact absent
        rw [if_pos same.symm, if_pos same, nothing, same]
        cases fields.get? name <;> rfl
      · rw [if_neg (Ne.symm same), if_neg same]

theorem foldl_putBehind_comm {entries : List (String × Bag)} {name : String}
    (others : name ∉ entries.map Prod.fst) {fields : Keyed Bag} (present : name ∈ fields.names) (bag : Bag) :
    putBehind (entries.foldl putBehind fields) (name, bag) =
      entries.foldl putBehind (putBehind fields (name, bag)) := by
  induction entries generalizing fields with
  | nil => rfl
  | cons entry entries ih =>
      rw [List.map_cons, List.mem_cons, not_or] at others
      have stays : name ∈ (putBehind fields entry).names := (Keyed.mem_names_alter _ _ _ _).mpr (.inr present)
      rw [List.foldl_cons, ih others.2 stays, List.foldl_cons]
      exact congrArg (entries.foldl putBehind) (Keyed.alter_comm present (Ne.symm others.1) _ _)

/-- A bag may be put behind those of a list before that list is put behind a collection, or afterwards. -/
theorem foldl_putBehind_alterList {entries : List (String × Bag)} (distinct : (entries.map Prod.fst).Nodup)
    (fields : Keyed Bag) (name : String) (bag : Bag) :
    (Keyed.alterList name (fun old => old.getD .empty ++ bag) entries).foldl putBehind fields =
      putBehind (entries.foldl putBehind fields) (name, bag) := by
  induction entries generalizing fields with
  | nil => rfl
  | cons entry entries ih =>
      obtain ⟨absent, distinct⟩ := List.nodup_cons.mp distinct
      rw [Keyed.alterList, List.foldl_cons]
      split
      · rename_i same
        subst same
        have present : entry.1 ∈ (putBehind fields entry).names :=
          (Keyed.mem_names_alter _ _ _ _).mpr (.inl rfl)
        rw [foldl_putBehind_comm absent present, putBehind_putBehind]
        rfl
      · exact ih distinct _

/-! ## Statements gathered -/

namespace Query

theorem gather_eq_putBehind (fields : Keyed Bag) (name : String) {entries : List Entry} (some : entries ≠ []) :
    gather fields (name, entries) = putBehind fields (name, Bag.empty.addAll entries) := by
  rw [gather, if_neg (by simpa using some), putBehind]
  exact congrArg (fields.alter name) (funext fun _ => Bag.addAll_eq_append _ entries)

theorem foldl_putBehind_gather (fields gathered : Keyed Bag) (statement : String × List Entry) :
    (gather gathered statement).entries.foldl putBehind fields =
      gather (gathered.entries.foldl putBehind fields) statement := by
  obtain ⟨name, entries⟩ := statement
  by_cases none : entries = []
  · subst none
    rfl
  · rw [gather_eq_putBehind _ _ none, gather_eq_putBehind _ _ none]
    exact foldl_putBehind_alterList gathered.distinct fields name _

/-- Statements gathered behind bags are gathered for themselves and then put behind those bags. -/
theorem foldl_gather_eq (fields : Keyed Bag) (statements : List (String × List Entry)) :
    statements.foldl gather fields = (statements.foldl gather .empty).entries.foldl putBehind fields := by
  suffices collected : ∀ gathered : Keyed Bag, (statements.foldl gather gathered).entries.foldl putBehind fields =
      statements.foldl gather (gathered.entries.foldl putBehind fields) from (collected .empty).symm
  induction statements with
  | nil => exact fun _ => rfl
  | cons statement statements ih =>
      intro gathered
      rw [List.foldl_cons, ih, foldl_putBehind_gather, List.foldl_cons]

end Query

/-! ## Groups merged -/

namespace Group

/-- A group with all that another one says about fields added, and with the groups below that one added. -/
def merge (a b : Group) : Group :=
  b.groups.foldl addGroup (b.fields.entries.foldl (fun group entry => group.addField entry.1 entry.2) a)

theorem merge_eq (a b : Group) :
    a.merge b = mk a.logical (b.fields.entries.foldl putBehind a.fields) (a.groups ++ b.groups) := by
  have fields (entries : List (String × Bag)) (a : Group) :
      entries.foldl (fun group entry => group.addField entry.1 entry.2) a =
        mk a.logical (entries.foldl putBehind a.fields) a.groups := by
    induction entries generalizing a with
    | nil => cases a; rfl
    | cons entry entries ih => rw [List.foldl_cons, ih]; cases a; rfl
  have groups (others : List Group) (a : Group) :
      others.foldl addGroup a = mk a.logical a.fields (a.groups ++ others) := by
    induction others generalizing a with
    | nil => cases a; exact congrArg (mk _ _) (List.append_nil _).symm
    | cons other others ih =>
        rw [List.foldl_cons, ih]
        cases a
        exact congrArg (mk _ _) (List.append_assoc _ [other] others)
  rw [merge, fields, groups]
  rfl

theorem logical_merge (a b : Group) : (a.merge b).logical = a.logical := by
  rw [merge_eq]
  rfl

theorem groups_merge (a b : Group) : (a.merge b).groups = a.groups ++ b.groups := by
  rw [merge_eq]
  rfl

theorem field?_merge (a b : Group) (name : String) :
    (a.merge b).field? name = Option.merge (· ++ ·) (a.field? name) (b.field? name) := by
  rw [merge_eq]
  exact get?_foldl_putBehind b.fields.distinct a.fields name

/-- A group has no more entries about a field, and no more groups directly below, than it may have. -/
structure KeepsLimits (schema : Schema) (limits : Limits) (group : Group) : Prop where
  few : ∀ name bag field, group.field? name = some bag → schema.field? name = some field →
    bag.count ≤ field.limit limits
  room : group.groups.length ≤ limits.maxGroups

/-- What a schema allows under a name on both sides it allows together, if that is not too much. -/
theorem allowsField_merge {schema : Schema} {limits : Limits} {name : String} {old new : Option Bag} {bag : Bag}
    (first : ∀ bag, old = some bag → Validation.AllowsField schema limits name bag)
    (second : ∀ bag, new = some bag → Validation.AllowsField schema limits name bag)
    (joined : Option.merge (· ++ ·) old new = some bag)
    (few : ∀ field, schema.field? name = some field → bag.count ≤ field.limit limits) :
    Validation.AllowsField schema limits name bag := by
  cases old with
  | none =>
      rw [Option.merge_none_left] at joined
      exact second bag joined
  | some x =>
      cases new with
      | none => exact first bag joined
      | some y =>
          obtain rfl : x ++ y = bag := Option.some.inj joined
          obtain ⟨field, known, checked, -⟩ := first x rfl
          obtain ⟨same, knownToo, checkedToo, -⟩ := second y rfl
          rw [known] at knownToo
          cases knownToo
          refine ⟨field, known, fun e mem => ?_, few field known⟩
          exact ((Bag.mem_toList_append x y e).mp mem).elim (checked e) (checkedToo e)

/-- Nothing is wrong with a merge but its size. -/
theorem groupProblems_merge {schema : Schema} {limits : Limits} {a b : Group} {level : Nat}
    (first : Validation.groupProblems schema limits a level = [])
    (second : Validation.groupProblems schema limits b level = [])
    (keeps : (a.merge b).KeepsLimits schema limits) :
    Validation.groupProblems schema limits (a.merge b) level = [] := by
  obtain ⟨few, room⟩ := keeps
  rw [groups_merge] at room
  simp only [field?_merge] at few
  obtain ⟨logical, fields, groups⟩ := a
  obtain ⟨_, others, below⟩ := b
  obtain ⟨allowed, -, shallow, sound⟩ := (Validation.groupProblems_mk_eq_nil_iff _ _ _ _ _ _).mp first
  obtain ⟨allowedToo, -, shallowToo, soundToo⟩ := (Validation.groupProblems_mk_eq_nil_iff _ _ _ _ _ _).mp second
  rw [merge_eq, Validation.groupProblems_mk_eq_nil_iff]
  refine ⟨?_, room, ?_, List.forall_mem_append.mpr ⟨sound, soundToo⟩⟩
  · rintro ⟨name, bag⟩ mem
    have found := (Keyed.get?_eq_some_iff _ name bag).mpr mem
    have joined := (get?_foldl_putBehind others.distinct fields name).symm.trans found
    refine allowsField_merge (fun old here => ?_) (fun new there => ?_) joined fun field => few name bag field joined
    · exact allowed (name, old) ((Keyed.get?_eq_some_iff _ _ _).mp here)
    · exact allowedToo (name, new) ((Keyed.get?_eq_some_iff _ _ _).mp there)
  · intro nonempty
    by_cases here : groups = []
    · subst here
      exact shallowToo nonempty
    · exact shallow here

end Group

namespace Query

theorem unrestricted?_append {schema : Schema} {A B C : QueryNode} (marked : C.anyMark.isSome = A.anyMark.isSome)
    (items : SameParts C.items (A.items ++ B.items)) {a b : Group} (first : unrestricted? schema A = some a)
    (second : unrestricted? schema B = some b) : unrestricted? schema C = some (a.merge b) := by
  obtain ⟨⟨statements, groups⟩, parts, made⟩ := Option.bind_eq_some_iff.mp first
  obtain ⟨⟨others, below⟩, partsToo, madeToo⟩ := Option.bind_eq_some_iff.mp second
  cases made
  cases madeToo
  have logical : logicalOf C.anyMark = logicalOf A.anyMark := by
    rw [logicalOf, logicalOf, marked]
  rw [unrestricted?, items schema, parts?_append, parts, partsToo, Group.merge_eq, logical]
  exact congrArg (fun fields => some (Group.mk _ fields _)) ((List.foldl_append).trans (foldl_gather_eq _ _))

theorem anyMark_of_logical {schema : Schema} {tree : QueryNode} {root : Group}
    (stands : unrestricted? schema tree = some root) (unmarked : root.logical = .all) : tree.anyMark = none := by
  obtain ⟨parts, -, made⟩ := Option.bind_eq_some_iff.mp stands
  cases made
  cases marked : tree.anyMark with
  | none => rfl
  | some span =>
      rw [marked] at unmarked
      cases unmarked

/-- A text, a semicolon and another text without a mark at its beginning are read as the merge of what the two are
read as, unless that is too large. -/
theorem read_append {schema : Schema} {limits : Limits} {a b : String} {A B : Condition}
    (first : read schema limits a = .ok A) (second : read schema limits b = .ok B)
    (unmarked : B.root.logical = .all) (keeps : (A.root.merge B.root).KeepsLimits schema limits) :
    read schema limits (a ++ ";" ++ b) = .ok ⟨schema, A.root.merge B.root⟩ ∧
      (A.root.merge B.root).logical = A.root.logical ∧
      (∀ name, (A.root.merge B.root).field? name =
        Option.merge (· ++ ·) (A.root.field? name) (B.root.field? name)) ∧
      (A.root.merge B.root).groups = A.root.groups ++ B.root.groups := by
  refine ⟨?_, Group.logical_merge _ _, Group.field?_merge _ _, Group.groups_merge _ _⟩
  obtain ⟨tree, parsed, root, stands, sound, rfl⟩ := (read_eq_ok_iff _ _ _ _).mp first
  obtain ⟨other, parsedToo, rootToo, standsToo, soundToo, rfl⟩ := (read_eq_ok_iff _ _ _ _).mp second
  have noMark := anyMark_of_logical standsToo unmarked
  obtain ⟨joined, parsedJoined, marked, items⟩ := exists_parse_append parsed parsedToo noMark
  refine (read_eq_ok_iff _ _ _ _).mpr ⟨joined, ?_, _, unrestricted?_append marked items stands standsToo,
    Group.groupProblems_merge sound soundToo keeps, rfl⟩
  rw [String.toList_append, String.toList_append, List.append_assoc]
  exact parsedJoined

/-- One title, with the parts of the root joined by OR. -/
def oneTitle : Group :=
  .mk .any ⟨[("title", .ofList [.single ⟨.string "a", "a"⟩])], List.nodup_singleton _⟩ []

/-- A group of one title, joined by OR, and another title behind it. -/
def twoTitles : Group :=
  .mk .all ⟨[("title", .ofList [.single ⟨.string "c", "c"⟩])], List.nodup_singleton _⟩
    [.mk .any ⟨[("title", .ofList [.single ⟨.string "b", "b"⟩])], List.nodup_singleton _⟩ []]

theorem read_append_titles :
    read shelf ⟨4, 2, 2⟩ "*; title: a" = .ok ⟨shelf, oneTitle⟩ ∧
      read shelf ⟨4, 2, 2⟩ "*(title: b), title: c" = .ok ⟨shelf, twoTitles⟩ ∧
        twoTitles.logical = .all ∧ (oneTitle.merge twoTitles).KeepsLimits shelf ⟨4, 2, 2⟩ ∧
          read shelf ⟨4, 2, 2⟩ ("*; title: a" ++ ";" ++ "*(title: b), title: c") =
            .ok ⟨shelf, oneTitle.merge twoTitles⟩ ∧
          (oneTitle.merge twoTitles).logical = oneTitle.logical ∧
          (∀ name, (oneTitle.merge twoTitles).field? name =
            Option.merge (· ++ ·) (oneTitle.field? name) (twoTitles.field? name)) ∧
          (oneTitle.merge twoTitles).groups = oneTitle.groups ++ twoTitles.groups := by
  have parsed : parse "*; title: a".toList = .ok ⟨⟨0, 11⟩, some ⟨0, 2⟩, [
      .statement ⟨⟨3, 11⟩, ⟨3, 8⟩, "title".toList, some (⟨10, 11⟩, [.single ⟨10, 11⟩ ⟨⟨10, 11⟩, false, ['a']⟩])⟩],
      ⟨11, 11⟩⟩ := by
    decide +kernel
  have parsedToo : parse "*(title: b), title: c".toList = .ok ⟨⟨0, 21⟩, none, [
      .group ⟨0, 11⟩ (some ⟨0, 1⟩) [.statement ⟨⟨2, 10⟩, ⟨2, 7⟩, "title".toList,
        some (⟨9, 10⟩, [.single ⟨9, 10⟩ ⟨⟨9, 10⟩, false, ['b']⟩])⟩],
      .statement ⟨⟨13, 21⟩, ⟨13, 18⟩, "title".toList, some (⟨20, 21⟩, [.single ⟨20, 21⟩ ⟨⟨20, 21⟩, false, ['c']⟩])⟩],
      ⟨21, 21⟩⟩ := by
    decide +kernel
  have first : read shelf ⟨4, 2, 2⟩ "*; title: a" = .ok ⟨shelf, oneTitle⟩ := by
    refine (read_eq_ok_iff _ _ _ _).mpr ⟨_, parsed, oneTitle, ?_, by decide +kernel, rfl⟩
    simp only [unrestricted?, parts?]
    rfl
  have second : read shelf ⟨4, 2, 2⟩ "*(title: b), title: c" = .ok ⟨shelf, twoTitles⟩ := by
    refine (read_eq_ok_iff _ _ _ _).mpr ⟨_, parsedToo, twoTitles, ?_, by decide +kernel, rfl⟩
    simp only [unrestricted?, parts?]
    rfl
  have keeps : (oneTitle.merge twoTitles).KeepsLimits shelf ⟨4, 2, 2⟩ := by
    refine ⟨fun name bag field found known => ?_, by decide⟩
    obtain rfl : field = .text "title" := List.mem_singleton.mp (List.mem_of_find?_eq_some known)
    obtain rfl : "title" = name := Schema.name_of_field? known
    obtain rfl : Bag.ofList [.single ⟨.string "a", "a"⟩, .single ⟨.string "c", "c"⟩] = bag := Option.some.inj found
    decide
  exact ⟨first, second, rfl, keeps, read_append first second rfl keeps⟩

end Query

end Criteria
