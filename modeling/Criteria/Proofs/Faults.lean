import Criteria.Proofs.Extent
import Criteria.Proofs.Validation
import Criteria.Refine.Chain

/-!
# What the validation reports

A fault is something that is wrong at one place of a tree: with an entry, with a bag, with the number of groups below a
group, or with their being there at all.  The validation looks at the groups down to the deepest level allowed and
reports each fault there once, in the order of the tree, and nothing else; so it accepts a condition exactly if the tree
is no deeper, no group is too wide and every bag is allowed.
-/

namespace Criteria

/-! ## Places -/

/-- A part of a group. -/
inductive Part where
  /-- The entry with a number among those about the field with a number. -/
  | entry (field number : Nat)
  /-- All that is said about the field with a number. -/
  | bag (field : Nat)
  /-- The groups below, as many as they are. -/
  | width
  /-- The groups below, as deep as they are. -/
  | depth

/-- The numbers that put the parts of a group in order: field by field the entries and then the bag, then what concerns
the groups below. -/
def Part.key : Part → List Nat
  | entry field number => [0, field, 0, number]
  | bag field => [0, field, 1]
  | width => [1]
  | depth => [2]

/-- A part of a group of a tree; the path leads to the group, number by number. -/
structure Place where
  path : List Nat
  part : Part

namespace Place

/-- The numbers that put the places of a tree in order: the groups below a group come behind its own parts. -/
def key (p : Place) : List Nat :=
  p.path.flatMap (fun number => [3, number]) ++ p.part.key

/-- The place seen from the group above. -/
def under (number : Nat) (p : Place) : Place :=
  ⟨number :: p.path, p.part⟩

theorem key_under (number : Nat) (p : Place) : (p.under number).key = 3 :: number :: p.key := rfl

/-- A place stands in front of another one in the order of the tree. -/
def Before (p q : Place) : Prop :=
  p.key < q.key

theorem before_under {p q : Place} (number : Nat) (h : p.Before q) : (p.under number).Before (q.under number) := by
  simpa [Before, key_under, List.cons_lt_cons_iff] using h

theorem before_of_key {p q : Place} {i j : Nat} {is js : List Nat} (here : p.key = i :: is) (there : q.key = j :: js)
    (h : i < j) : p.Before q := by
  rw [Before, here, there, List.cons_lt_cons_iff]
  exact .inl h

theorem before_of_number_lt {i j : Nat} (h : i < j) (p q : Place) : (p.under i).Before (q.under j) := by
  simp [Before, key_under, List.cons_lt_cons_iff, h]

end Place

/-- The group that a path leads to. -/
def Group.at? (group : Group) : List Nat → Option Group
  | [] => some group
  | number :: path => (group.groups[number]?).bind fun g => g.at? path

/-- What holds of every group of a tree holds of its root and of every group of the trees below. -/
theorem Group.forall_at?_mk {P : Group → Prop} {logical : Logical} {fields : Keyed Bag} {groups : List Group} :
    (∀ path g, (mk logical fields groups).at? path = some g → P g) ↔
      P (mk logical fields groups) ∧ ∀ child ∈ groups, ∀ path g, child.at? path = some g → P g := by
  constructor
  · intro all
    refine ⟨all [] _ rfl, fun child mem path g found => ?_⟩
    obtain ⟨number, listed⟩ := List.mem_iff_getElem?.mp mem
    exact all (number :: path) g (Option.bind_eq_some_iff.mpr ⟨child, listed, found⟩)
  · rintro ⟨root, below⟩ path g found
    cases path with
    | nil =>
        cases found
        exact root
    | cons number path =>
        obtain ⟨child, listed, found⟩ := Option.bind_eq_some_iff.mp found
        exact below child (List.mem_of_getElem? listed) path g found

/-- A bag stands under a name in a group of a tree, however deep the group lies. -/
def Group.Holds (root : Group) (name : String) (bag : Bag) : Prop :=
  ∃ path group, root.at? path = some group ∧ (name, bag) ∈ group.fields.entries

namespace Group

variable {logical : Logical} {fields : Keyed Bag} {groups : List Group} {name : String} {bag : Bag}

theorem holds_of_mem (mem : (name, bag) ∈ fields.entries) : (mk logical fields groups).Holds name bag :=
  ⟨[], _, rfl, mem⟩

theorem holds_of_below {group : Group} (below : group ∈ groups) (holds : group.Holds name bag) :
    (mk logical fields groups).Holds name bag := by
  obtain ⟨number, listed⟩ := List.mem_iff_getElem?.mp below
  obtain ⟨path, found, led, mem⟩ := holds
  exact ⟨number :: path, found, Option.bind_eq_some_iff.mpr ⟨group, listed, led⟩, mem⟩

theorem allBags_iff_forall_holds {P : String → Bag → Prop} (root : Group) :
    root.AllBags P ↔ ∀ name bag, root.Holds name bag → P name bag := by
  have visited : root.AllBags P ↔
      ∀ path group, root.at? path = some group → ∀ entry ∈ group.fields.entries, P entry.1 entry.2 := by
    induction root with
    | step logical fields groups ih =>
        rw [allBags_mk, forall_at?_mk]
        exact and_congr_right fun _ => forall₂_congr ih
  rw [visited]
  constructor
  · rintro all name bag ⟨path, group, found, mem⟩
    exact all path group found (name, bag) mem
  · rintro all path group found ⟨name, bag⟩ mem
    exact all name bag ⟨path, group, found, mem⟩

end Group

/-! ## Faults -/

namespace Validation

/-- What is wrong with a part of a group that has to do with a field: the name of the field under a number, and the bag
under it. -/
inductive WrongAbout (schema : Schema) (limits : Limits) (number : Nat) (name : String) (bag : Bag) :
    Part → Problem → Prop where
  | unknown (unknown : schema.field? name = none) :
      WrongAbout schema limits number name bag (.bag number) (.about name .unknownField none)
  | refused {index : Nat} {field : Field} {entry : Entry} {cause : Problem.Cause}
      (known : schema.field? name = some field) (listed : bag.toList[index]? = some entry)
      (refused : field.check entry = .error cause) :
      WrongAbout schema limits number name bag (.entry number index) (.about name cause none)
  | overfull {field : Field} (known : schema.field? name = some field) (many : field.limit limits < bag.count) :
      WrongAbout schema limits number name bag (.bag number)
        (.about name (.tooManyEntries name (field.limit limits)) none)

/-- What is wrong with a part of a group at a level. -/
inductive Wrong (schema : Schema) (limits : Limits) (level : Nat) (group : Group) : Part → Problem → Prop where
  | field {number : Nat} {name : String} {bag : Bag} {part : Part} {problem : Problem}
      (listed : group.fields.entries[number]? = some (name, bag))
      (wrong : WrongAbout schema limits number name bag part problem) : Wrong schema limits level group part problem
  | wide (many : limits.maxGroups < group.groups.length) :
      Wrong schema limits level group .width (.general (.tooManyGroups limits.maxGroups) none)
  | deep (deepest : level = limits.maxNesting) (below : group.groups ≠ []) :
      Wrong schema limits level group .depth (.general (.nestedTooDeep limits.maxNesting) none)

/-- What is wrong at a place of a tree whose root stands at a level; below the deepest level allowed nothing counts. -/
def Fault (schema : Schema) (limits : Limits) (level : Nat) (root : Group) (place : Place) (problem : Problem) : Prop :=
  ∃ group, root.at? place.path = some group ∧ level + place.path.length ≤ limits.maxNesting ∧
    Wrong schema limits (level + place.path.length) group place.part problem

/-! ## Lists of faults -/

/-- A list of problems reports what is wrong at places, each once and in the order of the tree. -/
def Reports (problems : List Problem) (wrong : Place → Problem → Prop) : Prop :=
  ∃ found : List (Place × Problem), problems = found.map Prod.snd ∧
    found.Pairwise (fun a b => a.1.Before b.1) ∧ ∀ place problem, (place, problem) ∈ found ↔ wrong place problem

section Reports

variable {problems others : List Problem} {wrong wrongToo : Place → Problem → Prop}

theorem Reports.congr (h : Reports problems wrong)
    (same : ∀ place problem, wrong place problem ↔ wrongToo place problem) : Reports problems wrongToo := by
  obtain ⟨found, reported, ordered, mem⟩ := h
  exact ⟨found, reported, ordered, fun place problem => (mem place problem).trans (same place problem)⟩

theorem reports_nil (none : ∀ place problem, ¬wrong place problem) : Reports [] wrong :=
  ⟨[], rfl, .nil, fun place problem => iff_of_false List.not_mem_nil (none place problem)⟩

theorem reports_toList (problem? : Option Problem) (place : Place) :
    Reports problem?.toList fun p problem => p = place ∧ problem? = some problem := by
  cases problem? with
  | none => exact reports_nil fun _ _ wrong => nomatch wrong.2
  | some problem =>
      refine ⟨[(place, problem)], rfl, List.pairwise_singleton _ _, fun p q => ?_⟩
      rw [List.mem_singleton, Prod.mk.injEq, @eq_comm _ q]
      exact and_congr_right fun _ => Option.some.injEq problem q ▸ Iff.rfl

theorem reports_ite (broken : Prop) [Decidable broken] (problem : Problem) (place : Place) :
    Reports (if broken then [problem] else []) fun p q => p = place ∧ broken ∧ q = problem := by
  have report := reports_toList (if broken then some problem else none) place
  split at report
  · rename_i broken
    rw [if_pos broken]
    refine report.congr fun p q => and_congr_right fun _ => ?_
    rw [Option.some.injEq, and_iff_right broken, eq_comm]
  · rename_i kept
    rw [if_neg kept]
    exact reports_nil fun _ _ wrong => kept wrong.2.1

theorem Reports.append (h : Reports problems wrong) (g : Reports others wrongToo)
    (before : ∀ p q, ∀ a b, wrong p a → wrongToo q b → p.Before q) :
    Reports (problems ++ others) fun place problem => wrong place problem ∨ wrongToo place problem := by
  obtain ⟨found, rfl, ordered, mem⟩ := h
  obtain ⟨foundToo, rfl, orderedToo, memToo⟩ := g
  refine ⟨found ++ foundToo, List.map_append.symm, ?_, fun place problem => ?_⟩
  · refine List.pairwise_append.mpr ⟨ordered, orderedToo, ?_⟩
    rintro ⟨p, a⟩ here ⟨q, b⟩ there
    exact before p q a b ((mem p a).mp here) ((memToo q b).mp there)
  · rw [List.mem_append, mem, memToo]

/-- What is reported of every element of a list, one after another. -/
theorem reports_flatMap {α : Type} {xs : List α} {report : α → List Problem} {wrong : Nat → α → Place → Problem → Prop}
    (each : ∀ number x, xs[number]? = some x → Reports (report x) (wrong number x))
    (before : ∀ i j x y, i < j → ∀ p q a b, wrong i x p a → wrong j y q b → p.Before q) :
    Reports (xs.flatMap report) fun place problem =>
      ∃ number x, xs[number]? = some x ∧ wrong number x place problem := by
  induction xs generalizing wrong with
  | nil => exact reports_nil fun _ _ ⟨_, _, listed, _⟩ => nomatch listed
  | cons x xs ih =>
      have later := @ih (fun number => wrong (number + 1)) (fun number => each (number + 1))
        fun i j y z less => before (i + 1) (j + 1) y z (Nat.succ_lt_succ less)
      rw [List.flatMap_cons]
      refine ((each 0 x rfl).append later ?_).congr fun place problem => ?_
      · rintro p q a b here ⟨j, y, -, there⟩
        exact before 0 (j + 1) x y (Nat.succ_pos j) p q a b here there
      · constructor
        · rintro (here | ⟨number, y, listed, there⟩)
          · exact ⟨0, x, rfl, here⟩
          · exact ⟨number + 1, y, listed, there⟩
        · rintro ⟨number, y, listed, there⟩
          cases number with
          | zero =>
              cases listed
              exact .inl there
          | succ number => exact .inr ⟨number, y, listed, there⟩

theorem Reports.under (h : Reports problems wrong) (number : Nat) :
    Reports problems fun place problem => ∃ p : Place, place = p.under number ∧ wrong p problem := by
  obtain ⟨found, rfl, ordered, mem⟩ := h
  refine ⟨found.map fun fault => (fault.1.under number, fault.2), ?_, ?_, fun place problem => ?_⟩
  · rw [List.map_map]
    rfl
  · rw [List.pairwise_map]
    exact ordered.imp fun before => Place.before_under number before
  · rw [List.mem_map]
    constructor
    · rintro ⟨⟨p, q⟩, here, same⟩
      cases same
      exact ⟨p, rfl, (mem p q).mp here⟩
    · rintro ⟨p, rfl, here⟩
      exact ⟨(p, problem), (mem p problem).mpr here, rfl⟩

end Reports

/-! ## What the validation lists -/

section Lists

variable (schema : Schema) (limits : Limits)

theorem reports_fieldProblems (number : Nat) (name : String) (bag : Bag) :
    Reports (fieldProblems schema limits name bag) fun place problem =>
      place.path = [] ∧ WrongAbout schema limits number name bag place.part problem := by
  rw [fieldProblems]
  cases known : schema.field? name with
  | none =>
      refine (reports_toList (some _) ⟨[], .bag number⟩).congr ?_
      rintro ⟨path, part⟩ problem
      constructor
      · rintro ⟨⟨⟩, ⟨⟩⟩
        exact ⟨rfl, .unknown known⟩
      · rintro ⟨⟨⟩, wrong⟩
        cases wrong with
        | unknown => exact ⟨rfl, rfl⟩
        | refused known' => simp [known] at known'
        | overfull known' => simp [known] at known'
  | some field =>
      simp only
      rw [List.filterMap_eq_flatMap_toList]
      refine ((reports_flatMap (fun index entry _ => reports_toList _ ⟨[], .entry number index⟩) ?_).append
        (reports_ite _ _ ⟨[], .bag number⟩) ?_).congr ?_
      · rintro i j x y less p q a b ⟨rfl, -⟩ ⟨rfl, -⟩
        simp [Place.Before, Place.key, Part.key, List.cons_lt_cons_iff, less]
      · rintro p q a b ⟨index, entry, -, rfl, -⟩ ⟨rfl, -⟩
        simp [Place.Before, Place.key, Part.key, List.cons_lt_cons_iff]
      · rintro ⟨path, part⟩ problem
        constructor
        · rintro (⟨index, entry, listed, ⟨⟩, found⟩ | ⟨⟨⟩, many, rfl⟩)
          · refine ⟨rfl, ?_⟩
            split at found
            · cases found
            · rename_i cause refused
              cases found
              exact .refused known listed refused
          · exact ⟨rfl, .overfull known many⟩
        · rintro ⟨⟨⟩, wrong⟩
          cases wrong with
          | unknown unknown => simp [known] at unknown
          | refused known' listed refused =>
              cases known.symm.trans known'
              exact .inl ⟨_, _, listed, rfl, by rw [refused]⟩
          | overfull known' many =>
              cases known.symm.trans known'
              exact .inr ⟨rfl, many, rfl⟩

/-- What the fields of a group have wrong with them. -/
theorem reports_fields (fields : Keyed Bag) :
    Reports (fields.entries.flatMap fun entry => fieldProblems schema limits entry.1 entry.2) fun place problem =>
      ∃ number entry, fields.entries[number]? = some entry ∧
        place.path = [] ∧ WrongAbout schema limits number entry.1 entry.2 place.part problem := by
  refine reports_flatMap (fun number entry _ => reports_fieldProblems schema limits number entry.1 entry.2) ?_
  rintro i j x y less ⟨path, part⟩ ⟨path', part'⟩ a b ⟨⟨⟩, here⟩ ⟨⟨⟩, there⟩
  cases here <;> cases there <;> simp [Place.Before, Place.key, Part.key, List.cons_lt_cons_iff, less]

variable {schema limits}

/-- Faults of a tree: at its root, or in one of the groups below. -/
theorem fault_mk_iff {logical : Logical} {fields : Keyed Bag} {groups : List Group} {level : Nat}
    (room : level ≤ limits.maxNesting) (place : Place) (problem : Problem) :
    Fault schema limits level (.mk logical fields groups) place problem ↔
      (place.path = [] ∧ Wrong schema limits level (.mk logical fields groups) place.part problem) ∨
        ∃ number g, groups[number]? = some g ∧
          ∃ p : Place, place = p.under number ∧ Fault schema limits (level + 1) g p problem := by
  obtain ⟨path, part⟩ := place
  cases path with
  | nil =>
      constructor
      · rintro ⟨g, ⟨⟩, -, wrong⟩
        exact .inl ⟨rfl, wrong⟩
      · rintro (⟨-, wrong⟩ | ⟨number, g, -, p, ⟨⟩, -⟩)
        exact ⟨_, rfl, room, wrong⟩
  | cons number path =>
      have lower : level + (number :: path).length = level + 1 + path.length := by
        rw [List.length_cons]
        omega
      constructor
      · rintro ⟨g, found, deep, wrong⟩
        obtain ⟨child, listed, there⟩ := Option.bind_eq_some_iff.mp found
        rw [lower] at deep wrong
        exact .inr ⟨number, child, listed, ⟨path, part⟩, rfl, g, there, deep, wrong⟩
      · rintro (⟨⟨⟩, -⟩ | ⟨number, child, listed, p, ⟨⟩, g, there, deep, wrong⟩)
        exact ⟨g, Option.bind_eq_some_iff.mpr ⟨child, listed, there⟩, lower ▸ deep, lower ▸ wrong⟩

/-- What is wrong with a group itself: with its fields, the number of groups below it, or their being there. -/
theorem wrong_mk_iff {logical : Logical} {fields : Keyed Bag} {groups : List Group} {level : Nat} (place : Place)
    (problem : Problem) :
    place.path = [] ∧ Wrong schema limits level (.mk logical fields groups) place.part problem ↔
      ((∃ number entry, fields.entries[number]? = some entry ∧
          place.path = [] ∧ WrongAbout schema limits number entry.1 entry.2 place.part problem) ∨
        place = ⟨[], .width⟩ ∧ limits.maxGroups < groups.length ∧
          problem = .general (.tooManyGroups limits.maxGroups) none) ∨
      place = ⟨[], .depth⟩ ∧ (level = limits.maxNesting ∧ groups ≠ []) ∧
        problem = .general (.nestedTooDeep limits.maxNesting) none := by
  obtain ⟨path, part⟩ := place
  constructor
  · rintro ⟨⟨⟩, wrong⟩
    cases wrong with
    | field listed wrong => exact .inl (.inl ⟨_, _, listed, rfl, wrong⟩)
    | wide many => exact .inl (.inr ⟨rfl, many, rfl⟩)
    | deep deepest below => exact .inr ⟨rfl, ⟨deepest, below⟩, rfl⟩
  · rintro ((⟨number, entry, listed, ⟨⟩, wrong⟩ | ⟨⟨⟩, many, rfl⟩) | ⟨⟨⟩, ⟨deepest, below⟩, rfl⟩)
    · exact ⟨rfl, .field listed wrong⟩
    · exact ⟨rfl, .wide many⟩
    · exact ⟨rfl, .deep deepest below⟩

/-- What is reported of the groups below a group: that they are there at all, or what is wrong with each. -/
theorem reports_below {groups : List Group} {level : Nat} (room : level ≤ limits.maxNesting)
    (each : ∀ g ∈ groups, ∀ level ≤ limits.maxNesting,
      Reports (groupProblems schema limits g level) (Fault schema limits level g)) :
    Reports
      (if groups ≠ [] ∧ limits.maxNesting < level + 1 then [.general (.nestedTooDeep limits.maxNesting) none]
        else groups.flatMap fun g => groupProblems schema limits g (level + 1))
      fun place problem =>
        (place = ⟨[], .depth⟩ ∧ (level = limits.maxNesting ∧ groups ≠ []) ∧
          problem = .general (.nestedTooDeep limits.maxNesting) none) ∨
        ∃ number g, groups[number]? = some g ∧
          ∃ p : Place, place = p.under number ∧ Fault schema limits (level + 1) g p problem := by
  split
  · rename_i deep
    have deepest : level = limits.maxNesting := by omega
    refine (reports_toList (some _) ⟨[], .depth⟩).congr fun place problem => ?_
    constructor
    · rintro ⟨rfl, ⟨⟩⟩
      exact .inl ⟨rfl, ⟨deepest, deep.1⟩, rfl⟩
    · rintro (⟨rfl, -, rfl⟩ | ⟨_, _, _, _, _, _, _, shallow, _⟩)
      · exact ⟨rfl, rfl⟩
      · omega
  · rename_i shallow
    have reported : ∀ number g, groups[number]? = some g →
        Reports (groupProblems schema limits g (level + 1)) fun place problem =>
          ∃ p : Place, place = p.under number ∧ Fault schema limits (level + 1) g p problem := by
      intro number g listed
      have mem := List.mem_of_getElem? listed
      have room : level + 1 ≤ limits.maxNesting :=
        Nat.not_lt.mp fun deep => shallow ⟨List.ne_nil_of_mem mem, deep⟩
      exact (each g mem (level + 1) room).under number
    refine (reports_flatMap reported ?_).congr fun place problem => ?_
    · rintro i j x y less _ _ a b ⟨p, rfl, -⟩ ⟨q, rfl, -⟩
      exact Place.before_of_number_lt less p q
    · refine (or_iff_right ?_).symm
      rintro ⟨-, ⟨deepest, below⟩, -⟩
      exact shallow ⟨below, by omega⟩

theorem groupProblems_mk (logical : Logical) (fields : Keyed Bag) (groups : List Group) (level : Nat) :
    groupProblems schema limits (.mk logical fields groups) level =
      (fields.entries.flatMap fun entry => fieldProblems schema limits entry.1 entry.2) ++
        (if limits.maxGroups < groups.length then [.general (.tooManyGroups limits.maxGroups) none] else []) ++
        if groups ≠ [] ∧ limits.maxNesting < level + 1 then [.general (.nestedTooDeep limits.maxNesting) none]
        else groups.flatMap fun g => groupProblems schema limits g (level + 1) := by
  rw [groupProblems, Group.fold_mk]
  simp only [List.length_map, List.isEmpty_map, List.flatMap_map, Bool.and_eq_true, Bool.not_eq_true',
    List.isEmpty_eq_false_iff, decide_eq_true_eq]

/-- The validation of a tree reports what is wrong with it, down to the deepest level allowed. -/
theorem reports_groupProblems (schema : Schema) (group : Group) :
    ∀ level ≤ limits.maxNesting,
      Reports (groupProblems schema limits group level) (Fault schema limits level group) := by
  induction group with
  | step logical fields groups ih =>
      intro level room
      rw [groupProblems_mk]
      refine (((reports_fields schema limits fields).append
        (reports_ite (limits.maxGroups < groups.length) (.general (.tooManyGroups limits.maxGroups) none) ⟨[], .width⟩)
          ?_).append (reports_below room ih) ?_).congr fun place problem => ?_
      · rintro ⟨path, part⟩ q a b ⟨number, entry, -, ⟨⟩, wrong⟩ ⟨rfl, -⟩
        cases wrong <;> simp [Place.Before, Place.key, Part.key, List.cons_lt_cons_iff]
      · rintro p q a b own below
        obtain ⟨i, is, here, less⟩ : ∃ i is, p.key = i :: is ∧ i < 2 := by
          obtain ⟨path, part⟩ := p
          rcases own with ⟨number, entry, -, ⟨⟩, wrong⟩ | ⟨⟨⟩, -⟩
          · cases wrong <;> exact ⟨0, _, rfl, by decide⟩
          · exact ⟨1, _, rfl, by decide⟩
        rcases below with ⟨rfl, -⟩ | ⟨number, g, -, q, rfl, -⟩
        · exact Place.before_of_key here rfl less
        · exact Place.before_of_key here (Place.key_under number q) (by omega)
      · rw [fault_mk_iff room, wrong_mk_iff, or_assoc (c := ∃ _, _)]

/-- A tree is in order exactly if it is no deeper than allowed, no group has too many below it and every bag is
allowed. -/
theorem groupProblems_eq_nil_iff (schema : Schema) (group : Group) :
    ∀ level ≤ limits.maxNesting,
      groupProblems schema limits group level = [] ↔
        level + group.depth ≤ limits.maxNesting ∧
          ∀ path g, group.at? path = some g →
            g.groups.length ≤ limits.maxGroups ∧
              ∀ entry ∈ g.fields.entries, AllowsField schema limits entry.1 entry.2 := by
  induction group with
  | step logical fields groups ih =>
      intro level room
      rw [groupProblems_mk_eq_nil_iff, Group.forall_at?_mk]
      have depth : level + (Group.mk logical fields groups).depth ≤ limits.maxNesting ↔
          ∀ g ∈ groups, level + 1 + g.depth ≤ limits.maxNesting := by
        rw [← Nat.le_sub_iff_add_le' room, Group.depth_le_iff]
        exact forall₂_congr fun _ _ => by omega
      rw [depth]
      constructor
      · rintro ⟨allowed, few, shallow, below⟩
        have each := fun g mem => (ih g mem (level + 1) (shallow (List.ne_nil_of_mem mem))).mp (below g mem)
        exact ⟨fun g mem => (each g mem).1, ⟨few, allowed⟩, fun g mem => (each g mem).2⟩
      · rintro ⟨shallow, ⟨few, allowed⟩, below⟩
        have room := fun g mem => Nat.le_trans (Nat.le_add_right (level + 1) g.depth) (shallow g mem)
        refine ⟨allowed, few, fun some => ?_, fun g mem => ?_⟩
        · obtain ⟨g, mem⟩ := List.exists_mem_of_ne_nil groups some
          exact room g mem
        · exact (ih g mem (level + 1) (room g mem)).mpr ⟨shallow g mem, below g mem⟩

end Lists

end Validation

open Validation

/-- The validation accepts a condition exactly if it keeps within the limits, and otherwise it lists all that is wrong
down to the deepest level allowed, each fault once and in the order of the tree, and nothing else. -/
theorem Pass.run_validate_exactly (limits : Limits) (c : Condition) :
    ((validate limits).run c = .ok c ↔
      c.root.depth ≤ limits.maxNesting ∧
        ∀ path g, c.root.at? path = some g →
          g.groups.length ≤ limits.maxGroups ∧
            ∀ entry ∈ g.fields.entries, AllowsField c.schema limits entry.1 entry.2) ∧
    ∃ found : List (Place × Problem),
      found.Pairwise (fun a b => a.1.Before b.1) ∧
      (∀ place problem, (place, problem) ∈ found ↔ Fault c.schema limits 0 c.root place problem) ∧
      (validate limits).run c = if found = [] then .ok c else .error ⟨validate limits, found.map Prod.snd⟩ := by
  have root := Nat.zero_le limits.maxNesting
  obtain ⟨found, listed, ordered, mem⟩ := reports_groupProblems c.schema c.root 0 root
  have run : (validate limits).run c = if found = [] then .ok c else .error ⟨validate limits, found.map Prod.snd⟩ := by
    rw [Pass.run, Condition.problems, listed]
    cases found <;> rfl
  refine ⟨?_, found, ordered, mem, run⟩
  have accepted := groupProblems_eq_nil_iff c.schema c.root 0 root
  rw [Nat.zero_add, listed, List.map_eq_nil_iff] at accepted
  rw [← accepted, run]
  split <;> simp_all

end Criteria
