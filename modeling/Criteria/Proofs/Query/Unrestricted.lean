import Criteria.Proofs.Intake
import Criteria.Proofs.Keyed
import Criteria.Query.Reader

/-!
# What a query stands for without limits

The tree that a query stands for if every value is only converted: no entry is checked, nothing is counted, and
statements about one field of a group are put together.  There is none if a name is unknown or a value cannot be
converted.  Reading a query gives this tree exactly if there is one and nothing is wrong with it.
-/

namespace Criteria.Query

open Intake Noted

/-! ## Conversion alone -/

/-- The value of a scalar, with its text as view. -/
def scalar? (field : Field) (node : ScalarNode) : Option Single :=
  let view := String.ofList node.text
  (field.ofView view).toOption.map fun value => ⟨value, view⟩

/-- The range between the values of two scalars. -/
def range? (field : Field) (node : RangeNode) : Option Range := do
  let lower ← scalar? field node.lower
  let upper ← scalar? field node.upper
  return ⟨lower.value, upper.value, node.openLower.isNone, node.openUpper.isNone, lower.view, upper.view⟩

/-- The entry that a node stands for. -/
def entryOf? (field : Field) : EntryNode → Option Entry
  | .single _ value => (scalar? field value).map .single
  | .excludedSingle _ value => (scalar? field value).map .excludedSingle
  | .range r => (range? field r).map .range
  | .excludedRange _ r => (range? field r).map .excludedRange
  | .comparison _ _ operator value =>
      (scalar? field value).map fun s => .comparison ⟨s.value, operator, s.view⟩
  | .textMatch m => some (.textMatch (readMatch m))

/-- The nodes of the entries of a statement. -/
def StatementNode.nodes (node : StatementNode) : List EntryNode :=
  match node.entries with
  | some (_, nodes) => nodes
  | none => []

/-- The name of the field of a statement, and the entries about it. -/
def statement? (schema : Schema) (node : StatementNode) : Option (String × List Entry) := do
  let field ← schema.field? (String.ofList node.name)
  let entries ← node.nodes.mapM (entryOf? field)
  return (field.name, entries)

/-- Adds the entries of a statement to those about the same field; a statement without entries adds nothing. -/
def gather (fields : Keyed Bag) (statement : String × List Entry) : Keyed Bag :=
  if statement.2.isEmpty then fields
  else fields.alter statement.1 fun old => (old.getD .empty).addAll statement.2

/-- The statements and the groups that the parts of a group stand for. -/
def parts? (schema : Schema) : List ItemNode → Option (List (String × List Entry) × List Group)
  | [] => some ([], [])
  | .statement node :: rest => do
      let statement ← statement? schema node
      let (statements, groups) ← parts? schema rest
      return (statement :: statements, groups)
  | .group _ anyMark items :: rest => do
      let (inner, below) ← parts? schema items
      let (statements, groups) ← parts? schema rest
      return (statements, .mk (logicalOf anyMark) (inner.foldl gather .empty) below :: groups)

/-- The tree that a query stands for without limits. -/
def unrestricted? (schema : Schema) (tree : QueryNode) : Option Group := do
  let (statements, groups) ← parts? schema tree.items
  return .mk (logicalOf tree.anyMark) (statements.foldl gather .empty) groups

/-! ## Reading entries -/

theorem reads_scalar (field : Field) (node : ScalarNode) (offset : Nat) :
    (readScalar field node offset).Reads (scalar? field node) :=
  (reads_convert field _ _).map _

theorem reads_range (field : Field) (node : RangeNode) (offset : Nat) :
    (readRange field node offset).Reads (range? field node) := by
  intro r
  simp only [readRange, range?, bind_eq_pure_iff, Option.bind_eq_bind, Option.pure_def]
  constructor
  · rintro ⟨a, plain, b, plainUpper, h⟩
    obtain ⟨lower, found, rfl⟩ := (reads_scalar field node.lower offset a).mp plain
    obtain ⟨upper, foundUpper, rfl⟩ := (reads_scalar field node.upper offset b).mp plainUpper
    rw [found, foundUpper]
    exact ⟨_, rfl, (pure_inj.mp h).symm⟩
  · rintro ⟨range, found, rfl⟩
    obtain ⟨lower, foundLower, found⟩ := Option.bind_eq_some_iff.mp found
    obtain ⟨upper, foundUpper, found⟩ := Option.bind_eq_some_iff.mp found
    refine ⟨some lower, (reads_scalar field _ _ _).mpr ⟨lower, foundLower, rfl⟩, some upper,
      (reads_scalar field _ _ _).mpr ⟨upper, foundUpper, rfl⟩, ?_⟩
    exact congrArg pure found

theorem reads_entry (field : Field) (node : EntryNode) : (readEntry field node).Reads (entryOf? field node) := by
  cases node with
  | single _ value => exact (reads_scalar field value _).map _
  | excludedSingle _ value => exact (reads_scalar field value _).map _
  | range r => exact (reads_range field r _).map _
  | excludedRange _ r => exact (reads_range field r _).map _
  | comparison _ _ _ value => exact (reads_scalar field value _).map _
  | textMatch m => exact reads_some _

theorem readEntries_eq_addReadings (limits : Limits) (field : Field) (bag : Bag) (nodes : List EntryNode) :
    readEntries limits field bag nodes =
      addReadings limits field bag (nodes.map fun node => (readEntry field node, some node.span.start)) := by
  induction nodes generalizing bag with
  | nil => rfl
  | cons node nodes ih =>
      rw [readEntries, List.map_cons, addReadings]
      apply congrArg (readEntry field node >>= ·)
      funext entry
      cases entry with
      | none => exact ih bag
      | some entry => exact congrArg (addEntry limits field bag entry _ >>= ·) (funext ih)

theorem readEntries_eq_pure_iff {limits : Limits} {field : Field} {bag : Bag}
    (allows : field.Allows limits bag) (nodes : List EntryNode) (b : Bag) :
    readEntries limits field bag nodes = pure b ↔
      ∃ entries, nodes.mapM (entryOf? field) = some entries ∧ field.Allows limits (bag.addAll entries) ∧
        b = bag.addAll entries := by
  have reads : (nodes.map fun node => (readEntry field node, some node.span.start)).Forall₂
      (fun x result => x.1.Reads result) (nodes.map (entryOf? field)) := by
    rw [List.forall₂_map_left_iff, List.forall₂_map_right_iff]
    exact List.forall₂_same.mpr fun node _ => reads_entry field node
  rw [readEntries_eq_addReadings, addReadings_eq_pure_iff allows reads]
  simp only [mapM_eq_some_iff]

/-! ## Reading statements -/

section Statements

variable {schema : Schema} {limits : Limits}

/-- Nothing is wrong with any of the bags, and none of them is empty. -/
structure InOrder (schema : Schema) (limits : Limits) (fields : Keyed Bag) : Prop where
  allowed : ∀ entry ∈ fields.entries, Validation.AllowsField schema limits entry.1 entry.2
  filled : ∀ entry ∈ fields.entries, entry.2.isEmpty = false

theorem isEmpty_addAll_eq_false (bag : Bag) {entries : List Entry} (some : entries ≠ []) :
    (bag.addAll entries).isEmpty = false := by
  have length := List.length_pos_iff.mpr some
  rw [Bag.isEmpty, Bag.count_addAll, beq_eq_false_iff_ne]
  omega

theorem InOrder.old {fields : Keyed Bag} (inOrder : InOrder schema limits fields) {field : Field}
    {name : String} (found : schema.field? name = some field) :
    field.Allows limits ((fields.get? name).getD .empty) := by
  cases old : fields.get? name with
  | none => exact field.allows_empty limits
  | some bag =>
      obtain ⟨other, hother, allows⟩ := inOrder.allowed _ ((fields.get?_eq_some_iff name bag).mp old)
      rw [found] at hother
      cases hother
      exact allows

theorem gather_of_ne_nil (fields : Keyed Bag) (name : String) {entries : List Entry} (some : entries ≠ []) :
    gather fields (name, entries) = fields.insert name (((fields.get? name).getD .empty).addAll entries) := by
  rw [gather, if_neg (by simpa using some)]
  exact (fields.insert_eq_alter name fun old => (old.getD .empty).addAll entries).symm

/-- Bags that are in order with the entries of a statement are in order without them, and the field allows the
bag with them. -/
theorem inOrder_gather_iff {fields : Keyed Bag} (inOrder : InOrder schema limits fields) {field : Field}
    {name : String} (found : schema.field? name = some field) (entries : List Entry) :
    InOrder schema limits (gather fields (name, entries)) ↔
      field.Allows limits (((fields.get? name).getD .empty).addAll entries) := by
  by_cases none : entries = []
  · subst none
    exact iff_of_true inOrder (inOrder.old found)
  · rw [gather_of_ne_nil fields name none]
    constructor
    · intro after
      have mem := (fields.mem_entries_alter name
        (fun _ => ((fields.get? name).getD .empty).addAll entries) name _).mpr (.inl ⟨rfl, rfl⟩)
      obtain ⟨other, hother, allows⟩ := after.allowed _ mem
      rw [found] at hother
      cases hother
      exact allows
    · intro allows
      constructor
      · rintro ⟨key, bag⟩ mem
        rcases (fields.mem_entries_alter _ _ _ _).mp mem with ⟨rfl, rfl⟩ | ⟨-, mem⟩
        · exact ⟨field, found, allows⟩
        · exact inOrder.allowed _ mem
      · rintro ⟨key, bag⟩ mem
        rcases (fields.mem_entries_alter _ _ _ _).mp mem with ⟨rfl, rfl⟩ | ⟨-, mem⟩
        · exact isEmpty_addAll_eq_false _ none
        · exact inOrder.filled _ mem

theorem InOrder.of_gather {fields : Keyed Bag} (filled : ∀ entry ∈ fields.entries, entry.2.isEmpty = false)
    {statement : String × List Entry} (after : InOrder schema limits (gather fields statement)) :
    InOrder schema limits fields := by
  rcases statement with ⟨name, entries⟩
  by_cases none : entries = []
  · subst none
    exact after
  · refine ⟨fun ⟨key, bag⟩ mem => ?_, filled⟩
    rw [gather_of_ne_nil fields name none] at after
    by_cases same : key = name
    · subst same
      have changed := (fields.mem_entries_alter key
        (fun _ => ((fields.get? key).getD .empty).addAll entries) key _).mpr (.inl ⟨rfl, rfl⟩)
      obtain ⟨field, found, allows⟩ := after.allowed _ changed
      rw [(fields.get?_eq_some_iff key bag).mpr mem, Option.getD_some] at allows
      obtain ⟨checked, -, few⟩ := (field.allows_addAll_iff limits bag entries).mp allows
      exact ⟨field, found, checked, Nat.le_trans (Nat.le_add_right _ _) few⟩
    · exact after.allowed _ ((fields.mem_entries_alter _ _ _ _).mpr (.inr ⟨same, mem⟩))

theorem filled_gather {fields : Keyed Bag} (filled : ∀ entry ∈ fields.entries, entry.2.isEmpty = false)
    (statement : String × List Entry) :
    ∀ entry ∈ (gather fields statement).entries, entry.2.isEmpty = false := by
  rcases statement with ⟨name, entries⟩
  by_cases none : entries = []
  · subst none
    exact filled
  · rw [gather_of_ne_nil fields name none]
    rintro ⟨key, bag⟩ mem
    rcases (fields.mem_entries_alter _ _ _ _).mp mem with ⟨rfl, rfl⟩ | ⟨-, mem⟩
    · exact isEmpty_addAll_eq_false _ none
    · exact filled _ mem

theorem InOrder.of_foldl {fields : Keyed Bag} (filled : ∀ entry ∈ fields.entries, entry.2.isEmpty = false)
    {statements : List (String × List Entry)} (after : InOrder schema limits (statements.foldl gather fields)) :
    InOrder schema limits fields := by
  induction statements generalizing fields with
  | nil => exact after
  | cons statement statements ih => exact (ih (filled_gather filled statement) after).of_gather filled

/-- The bag that a statement leaves under its name is what it gathers there. -/
theorem insert_addAll_eq_gather {fields : Keyed Bag}
    (filled : ∀ entry ∈ fields.entries, entry.2.isEmpty = false) (name : String) (entries : List Entry) :
    (let bag := ((fields.get? name).getD .empty).addAll entries
      if bag.isEmpty then fields.erase name else fields.insert name bag) = gather fields (name, entries) := by
  by_cases none : entries = []
  · subst none
    change (if ((fields.get? name).getD .empty).isEmpty then fields.erase name
      else fields.insert name ((fields.get? name).getD .empty)) = fields
    cases old : fields.get? name with
    | none => exact fields.erase_eq_self old
    | some bag =>
        rw [Option.getD_some, filled _ ((fields.get?_eq_some_iff name bag).mp old)]
        exact fields.insert_eq_self old
  · rw [gather_of_ne_nil fields name none]
    dsimp only
    rw [isEmpty_addAll_eq_false _ none]
    rfl

/-- A statement is read without a problem exactly if its entries can be converted and its field allows them with
those that are there. -/
theorem readStatement_eq_pure_iff {fields : Keyed Bag} (inOrder : InOrder schema limits fields)
    (node : StatementNode) (result : Keyed Bag) :
    readStatement schema limits fields node = pure result ↔
      ∃ statement, statement? schema node = some statement ∧
        InOrder schema limits (gather fields statement) ∧ result = gather fields statement := by
  simp only [readStatement, bind_eq_pure_iff, lookUp_eq_pure_iff, statement?, Option.bind_eq_bind,
    Option.bind_eq_some_iff, Option.pure_def, Option.some.injEq]
  constructor
  · rintro ⟨-, ⟨field, found, rfl⟩, h⟩
    have name := Schema.name_of_field? found
    cases given : node.entries with
    | none =>
        rw [given] at h
        refine ⟨(field.name, []), ⟨field, found, [], ?_, rfl⟩, inOrder, (pure_inj.mp h).symm⟩
        rw [StatementNode.nodes, given]
        rfl
    | some pair =>
        rw [given] at h
        obtain ⟨bag, read, h⟩ := (bind_eq_pure_iff _ _ _).mp h
        rw [name] at read h
        obtain ⟨entries, converted, allows, rfl⟩ := (readEntries_eq_pure_iff (inOrder.old found) _ _).mp read
        refine ⟨(field.name, entries), ⟨field, found, entries, ?_, rfl⟩, ?_, ?_⟩
        · rw [StatementNode.nodes, given]
          exact converted
        · rw [name]
          exact (inOrder_gather_iff inOrder found entries).mpr allows
        · rw [name, ← insert_addAll_eq_gather inOrder.filled]
          exact (pure_inj.mp h).symm
  · rintro ⟨statement, ⟨field, found, entries, converted, rfl⟩, after, rfl⟩
    have name := Schema.name_of_field? found
    refine ⟨some field, ⟨field, found, rfl⟩, ?_⟩
    rw [StatementNode.nodes] at converted
    cases given : node.entries with
    | none =>
        rw [given] at converted
        cases converted
        rfl
    | some pair =>
        rw [given] at converted
        dsimp only
        rw [name] at after ⊢
        have allows := (inOrder_gather_iff inOrder found entries).mp after
        refine (bind_eq_pure_iff _ _ _).mpr
          ⟨_, (readEntries_eq_pure_iff (inOrder.old found) _ _).mpr ⟨entries, converted, allows, rfl⟩, ?_⟩
        exact congrArg pure (insert_addAll_eq_gather inOrder.filled _ entries)

/-! ## Reading groups -/

/-- Nothing has gone wrong so far with what was read of a group. -/
structure GroupParts.InOrder (schema : Schema) (limits : Limits) (parts : GroupParts) : Prop where
  fields : Query.InOrder schema limits parts.fields
  seen : parts.seen = parts.groups.length
  few : parts.groups.length ≤ limits.maxGroups

theorem GroupParts.inOrder_none (schema : Schema) (limits : Limits) : none.InOrder schema limits where
  fields := ⟨fun _ mem => absurd mem List.not_mem_nil, fun _ mem => absurd mem List.not_mem_nil⟩
  seen := rfl
  few := Nat.zero_le _

theorem GroupParts.InOrder.snoc {parts : GroupParts} (inOrder : parts.InOrder schema limits)
    (room : parts.groups.length + 1 ≤ limits.maxGroups) (group : Group) :
    GroupParts.InOrder schema limits ⟨parts.fields, parts.groups ++ [group], parts.seen + 1⟩ where
  fields := inOrder.fields
  seen := by rw [inOrder.seen, List.length_append, List.length_singleton]
  few := by rwa [List.length_append, List.length_singleton]

/-- The parts of a group with more statements and groups. -/
def GroupParts.extend (parts : GroupParts) (statements : List (String × List Entry)) (groups : List Group) :
    GroupParts :=
  ⟨statements.foldl gather parts.fields, parts.groups ++ groups, parts.seen + groups.length⟩

theorem GroupParts.extend_nil (parts : GroupParts) : parts.extend [] [] = parts := by
  rw [extend, List.append_nil]
  rfl

theorem GroupParts.extend_cons (parts : GroupParts) (statements : List (String × List Entry)) (group : Group)
    (groups : List Group) :
    GroupParts.extend ⟨parts.fields, parts.groups ++ [group], parts.seen + 1⟩ statements groups =
      parts.extend statements (group :: groups) := by
  rw [extend, extend, List.append_assoc, List.singleton_append, List.length_cons, Nat.add_assoc,
    Nat.add_comm 1]

/-- Nothing is wrong with a group at a level once it is extended. -/
structure GroupParts.Admits (schema : Schema) (limits : Limits) (level : Nat) (parts : GroupParts)
    (statements : List (String × List Entry)) (groups : List Group) : Prop where
  fields : Query.InOrder schema limits (statements.foldl gather parts.fields)
  few : parts.groups.length + groups.length ≤ limits.maxGroups
  shallow : groups ≠ [] → level + 1 ≤ limits.maxNesting
  below : ∀ group ∈ groups, Validation.groupProblems schema limits group (level + 1) = []

theorem groupProblems_eq_nil_iff_admits (level : Nat) (logical : Logical)
    (statements : List (String × List Entry)) (groups : List Group) :
    Validation.groupProblems schema limits (.mk logical (statements.foldl gather .empty) groups) level = [] ↔
      GroupParts.none.Admits schema limits level statements groups := by
  have filled : ∀ (statements : List (String × List Entry)) (fields : Keyed Bag),
      (∀ entry ∈ fields.entries, entry.2.isEmpty = false) →
        ∀ entry ∈ (statements.foldl gather fields).entries, entry.2.isEmpty = false := by
    intro statements
    induction statements with
    | nil => exact fun _ h => h
    | cons statement statements ih => exact fun _ h => ih _ (filled_gather h statement)
  rw [Validation.groupProblems_mk_eq_nil_iff]
  constructor
  · rintro ⟨allowed, few, shallow, below⟩
    refine ⟨⟨allowed, filled statements .empty fun _ mem => absurd mem List.not_mem_nil⟩, ?_, shallow, below⟩
    exact (Nat.zero_add _).symm ▸ few
  · rintro ⟨fields, few, shallow, below⟩
    exact ⟨fields.allowed, (Nat.zero_add groups.length) ▸ few, shallow, below⟩

/-- The parts of a group are read without a problem exactly if they stand for statements and groups, and nothing
is wrong with the group that has them. -/
theorem readItems_eq_pure_iff (level : Nat) (parts : GroupParts) (items : List ItemNode)
    (inOrder : parts.InOrder schema limits) (result : GroupParts) :
    readItems schema limits level parts items = pure result ↔
      ∃ statements groups, parts? schema items = some (statements, groups) ∧
        parts.Admits schema limits level statements groups ∧ result = parts.extend statements groups := by
  induction level, parts, items using readItems.induct generalizing result with
  | case1 level parts =>
      rw [readItems, pure_inj]
      constructor
      · rintro rfl
        refine ⟨[], [], by rw [parts?], ⟨inOrder.fields, inOrder.few, fun h => absurd rfl h, fun _ mem =>
          absurd mem List.not_mem_nil⟩, parts.extend_nil.symm⟩
      · rintro ⟨statements, groups, h, -, rfl⟩
        rw [parts?] at h
        cases h
        exact parts.extend_nil.symm
  | case2 level parts node rest ih =>
      rw [readItems, bind_eq_pure_iff]
      constructor
      · rintro ⟨fields, read, h⟩
        obtain ⟨statement, converted, after, rfl⟩ := (readStatement_eq_pure_iff inOrder.fields _ _).mp read
        obtain ⟨statements, groups, others, admits, rfl⟩ :=
          (ih _ ⟨after, inOrder.seen, inOrder.few⟩ result).mp h
        refine ⟨statement :: statements, groups, ?_, ⟨admits.fields, admits.few, admits.shallow,
          admits.below⟩, rfl⟩
        rw [parts?, converted, others]
        rfl
      · rintro ⟨statements, groups, h, admits, rfl⟩
        rw [parts?] at h
        obtain ⟨statement, converted, h⟩ := Option.bind_eq_some_iff.mp h
        obtain ⟨⟨statements, groups⟩, others, h⟩ := Option.bind_eq_some_iff.mp h
        cases h
        have after : InOrder schema limits (gather parts.fields statement) :=
          admits.fields.of_foldl (filled_gather inOrder.fields.filled statement)
        refine ⟨_, (readStatement_eq_pure_iff inOrder.fields _ _).mpr ⟨statement, converted, after, rfl⟩, ?_⟩
        exact (ih _ ⟨after, inOrder.seen, inOrder.few⟩ _).mpr ⟨statements, groups, others,
          ⟨admits.fields, admits.few, admits.shallow, admits.below⟩, rfl⟩
  | case3 level parts span anyMark items rest seen ihInner ihRest ihSkip =>
      have near : parts.seen + 1 ≤ limits.maxGroups + 1 := by
        have few := inOrder.few
        have seen := inOrder.seen
        omega
      rw [readItems, bind_eq_pure_iff]
      constructor
      · rintro ⟨may, entered, h⟩
        obtain ⟨room, shallow, rfl⟩ := (mayEnter_eq_pure_iff limits near _ _ _).mp entered
        obtain ⟨inner, read, h⟩ := (bind_eq_pure_iff _ _ _).mp h
        obtain ⟨innerStatements, below, innerParts, innerAdmits, rfl⟩ :=
          (ihInner (GroupParts.inOrder_none schema limits) _).mp read
        have further := inOrder.snoc (inOrder.seen ▸ room)
          (.mk (logicalOf anyMark) (innerStatements.foldl gather .empty) below)
        obtain ⟨statements, groups, others, admits, rfl⟩ := (ihRest _ further result).mp h
        refine ⟨statements, .mk (logicalOf anyMark) (innerStatements.foldl gather .empty) below :: groups,
          ?_, ⟨admits.fields, ?_, fun _ => shallow, ?_⟩, ?_⟩
        · rw [parts?, innerParts, others]
          rfl
        · have few := admits.few
          rw [List.length_append, List.length_singleton] at few
          rw [List.length_cons]
          omega
        · exact List.forall_mem_cons.mpr
            ⟨(groupProblems_eq_nil_iff_admits _ _ _ _).mpr innerAdmits, admits.below⟩
        · exact parts.extend_cons _ _ _
      · rintro ⟨statements, groups, h, admits, rfl⟩
        rw [parts?] at h
        obtain ⟨⟨innerStatements, below⟩, innerParts, h⟩ := Option.bind_eq_some_iff.mp h
        obtain ⟨⟨statements, groups⟩, others, h⟩ := Option.bind_eq_some_iff.mp h
        cases h
        obtain ⟨inner, belowOthers⟩ := List.forall_mem_cons.mp admits.below
        have innerAdmits := (groupProblems_eq_nil_iff_admits _ _ _ _).mp inner
        have few := admits.few
        rw [List.length_cons] at few
        have shallow := admits.shallow (List.cons_ne_nil _ _)
        refine ⟨true, (mayEnter_eq_pure_iff limits near _ _ _).mpr ⟨?_, shallow, rfl⟩, ?_⟩
        · rw [inOrder.seen]
          omega
        · refine (bind_eq_pure_iff _ _ _).mpr ⟨_, (ihInner (GroupParts.inOrder_none schema limits) _).mpr
            ⟨innerStatements, below, innerParts, innerAdmits, rfl⟩, ?_⟩
          have few : parts.groups.length + 1 + groups.length ≤ limits.maxGroups := by omega
          refine (ihRest _ (inOrder.snoc (by omega) _) _).mpr ⟨statements, groups, others,
            ⟨admits.fields, ?_, fun _ => shallow, belowOthers⟩, (parts.extend_cons _ _ _).symm⟩
          rwa [List.length_append, List.length_singleton]

/-- A query is read without a problem exactly if it stands for a tree with which nothing is wrong. -/
theorem readRoot_eq_pure_iff (tree : QueryNode) (root : Group) :
    readRoot schema limits tree = pure root ↔
      unrestricted? schema tree = some root ∧ Validation.groupProblems schema limits root 0 = [] := by
  rw [readRoot, bind_eq_pure_iff, unrestricted?]
  constructor
  · rintro ⟨parts, read, h⟩
    obtain ⟨statements, groups, converted, admits, rfl⟩ :=
      (readItems_eq_pure_iff 0 _ _ (GroupParts.inOrder_none schema limits) _).mp read
    cases pure_inj.mp h
    exact ⟨by rw [converted]; rfl, (groupProblems_eq_nil_iff_admits _ _ _ _).mpr admits⟩
  · rintro ⟨h, inOrder⟩
    obtain ⟨⟨statements, groups⟩, converted, h⟩ := Option.bind_eq_some_iff.mp h
    cases h
    refine ⟨_, (readItems_eq_pure_iff 0 _ _ (GroupParts.inOrder_none schema limits) _).mpr
      ⟨statements, groups, converted, (groupProblems_eq_nil_iff_admits _ _ _ _).mp inOrder, rfl⟩, rfl⟩

end Statements

end Criteria.Query
