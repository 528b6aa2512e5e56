import Criteria.Proofs.Query.Overflow
import Criteria.Proofs.Query.Places

/-!
# Complaints about a query

What is wrong with a query that stays within the limits, in the order of its text: every name that is not that of a
field, every value that cannot be converted, and every entry that its field does not take.
-/

namespace Criteria

/-- A group at a level and the groups below stay within the limits. -/
inductive Offer.Within (schema : Schema) (limits : Limits) : Nat → Offer → Prop
  | intro {level : Nat} {place : Option Nat} {taken : List (String × Option Nat)} {below : List Offer}
      (few : ∀ field ∈ schema.fields, (placesOf field.name taken).length ≤ field.limit limits)
      (room : below.length ≤ limits.maxGroups) (shallow : below ≠ [] → level < limits.maxNesting)
      (each : ∀ group ∈ below, Within schema limits (level + 1) group) : Within schema limits level (.mk place taken below)

namespace Query

open Intake Noted

/-- What is wrong with an entry: its values that cannot be converted, or that its field does not take it. -/
def entryFaults (field : Field) (node : EntryNode) : List Problem :=
  match entryOf? field node with
  | none => node.scalars.flatMap (scalarFaults field node.span.start)
  | some entry =>
      match field.check entry with
      | .ok _ => []
      | .error cause => [.about field.name cause (some node.span.start)]

/-- What is wrong with a statement: that there is no such field, or what is wrong with its entries. -/
def statementFaults (schema : Schema) (node : StatementNode) : List Problem :=
  match schema.field? (String.ofList node.name) with
  | none => [.about (String.ofList node.name) .unknownField (some node.nameSpan.start)]
  | some field => node.nodes.flatMap (entryFaults field)

/-- What is wrong with a query, in the order of its text. -/
def complaints (schema : Schema) (tree : QueryNode) : List Problem :=
  (statementsOf tree.items).flatMap (statementFaults schema)

/-! ## Reading within the limits -/

section Reading

variable {schema : Schema} {limits : Limits} {field : Field}

theorem scalarFaults_eq_nil {node : EntryNode} {entry : Entry} (found : entryOf? field node = some entry) (offset : Nat) :
    node.scalars.flatMap (scalarFaults field offset) = [] := by
  refine List.flatMap_eq_nil_iff.mpr fun scalar mem => ?_
  obtain ⟨value, converted⟩ := (exists_entryOf?_iff field node).mp ⟨entry, found⟩ scalar mem
  rw [scalarFaults, converted]

/-- Where there is room for an entry only its field decides about it. -/
theorem addEntry_within {bag : Bag} {entry : Entry}
    (room : bag.count + (if field.takes entry then 1 else 0) ≤ field.limit limits) (place : Option Nat) :
    (addEntry limits field bag entry place).problems =
        (match field.check entry with
          | .ok _ => []
          | .error cause => [.about field.name cause place]) ∧
      (addEntry limits field bag entry place).value.count = bag.count + if field.takes entry then 1 else 0 := by
  have few : ¬field.limit limits < bag.count := by omega
  rw [Field.takes] at room ⊢
  rw [addEntry, if_neg few]
  cases checked : field.check entry with
  | error cause => exact ⟨rfl, rfl⟩
  | ok _ =>
      rw [checked] at room
      have fewer : bag.count ≠ field.limit limits := fun full => by simp [full] at room
      simp only [if_neg fewer]
      exact ⟨rfl, Bag.count_add _ _⟩

/-- Entries for which there is room are read with exactly what is wrong with them. -/
theorem readEntries_within {bag : Bag} {nodes : List EntryNode}
    (room : bag.count + (field.taken (nodes.map fun node => (entryOf? field node, some node.span.start))).length ≤
      field.limit limits) :
    (readEntries limits field bag nodes).problems = nodes.flatMap (entryFaults field) := by
  induction nodes generalizing bag with
  | nil => rfl
  | cons node nodes ih =>
      rw [List.map_cons] at room
      rw [readEntries, readEntry_eq, List.flatMap_cons, entryFaults]
      cases found : entryOf? field node with
      | none =>
          rw [found] at room
          exact congrArg (_ ++ ·) (ih room)
      | some entry =>
          rw [found, Field.taken_cons, List.length_append] at room
          have length : (if field.takes entry then [(field.name, some node.span.start)] else []).length =
              if field.takes entry then 1 else 0 := by
            split <;> rfl
          rw [length, ← Nat.add_assoc] at room
          obtain ⟨problems, count⟩ := addEntry_within (Nat.le_of_add_right_le room) (some node.span.start)
          rw [scalarFaults_eq_nil found, problems_bind, List.nil_append, problems_bind, problems]
          exact congrArg (_ ++ ·) (ih (count ▸ room))

/-- A statement for whose entries there is room is read with exactly what is wrong with it. -/
theorem readStatement_within {seen : List (String × Option Nat)} {fields : Keyed Bag}
    (tallies : Tallies schema limits seen fields) {node : StatementNode}
    (few : ∀ field ∈ schema.fields, (placesOf field.name (seen ++ takenBy schema node)).length ≤ field.limit limits) :
    (readStatement schema limits fields node).problems = statementFaults schema node := by
  cases found : schema.field? (String.ofList node.name) with
  | none =>
      rw [readStatement, lookUp, statementFaults, found]
      rfl
  | some field =>
      have mem := Schema.mem_of_field? found
      have counts := tallies.counts field mem
      have room := few field mem
      rw [takenBy_of_some found, placesOf_append, List.length_append, placesOf_taken, List.length_map] at room
      rw [readStatement, lookUp, statementFaults, found]
      cases given : node.entries with
      | none =>
          rw [StatementNode.nodes, given]
          rfl
      | some entries =>
          have nodes : node.nodes = entries.2 := by rw [StatementNode.nodes, given]
          rw [nodes] at room ⊢
          have read : (readEntries limits field ((fields.get? field.name).getD .empty) entries.2).problems =
              entries.2.flatMap (entryFaults field) :=
            readEntries_within (by omega)
          exact (List.append_nil _).trans read

/-- The parts of a group that stays within the limits are read with exactly what is wrong with their statements. -/
theorem readItems_within {level : Nat} {seen : List (String × Option Nat)} {parts : GroupParts}
    (tallies : Tallies schema limits seen parts.fields) {items : List ItemNode}
    (few : ∀ field ∈ schema.fields, (placesOf field.name (seen ++ takenOf schema items)).length ≤ field.limit limits)
    (room : parts.seen + (offersOf schema items).length ≤ limits.maxGroups)
    (shallow : offersOf schema items ≠ [] → level < limits.maxNesting)
    (each : ∀ group ∈ offersOf schema items, group.Within schema limits (level + 1)) :
    (readItems schema limits level parts items).problems = (statementsOf items).flatMap (statementFaults schema) := by
  induction items using statementsOf.induct generalizing level seen parts with
  | case1 =>
      rw [readItems, statementsOf]
      rfl
  | case2 node rest ih =>
      rw [takenOf, ← List.append_assoc] at few
      rw [offersOf] at room shallow each
      have here : ∀ field ∈ schema.fields,
          (placesOf field.name (seen ++ takenBy schema node)).length ≤ field.limit limits := by
        intro field mem
        have total := few field mem
        rw [placesOf_append, List.length_append] at total
        omega
      rw [readItems, statementsOf, List.flatMap_cons, problems_bind, readStatement_within tallies here]
      exact congrArg (_ ++ ·) (ih (readStatement_tallies tallies node).2 few room shallow each)
  | case3 span anyMark items rest ihInner ihRest =>
      rw [takenOf] at few
      rw [offersOf, List.length_cons] at room
      rw [offersOf] at shallow each
      obtain ⟨inner, others⟩ := List.forall_mem_cons.mp each
      obtain ⟨fewInner, roomInner, shallowInner, eachInner⟩ := inner
      have deep := shallow (List.cons_ne_nil _ _)
      have enters : mayEnter limits (parts.seen + 1) (level + 1) (some span.start) = pure true :=
        (mayEnter_eq_pure_iff limits (by omega) _ _ _).mpr ⟨by omega, deep, rfl⟩
      have first : (readItems schema limits (level + 1) .none items).problems =
          (statementsOf items).flatMap (statementFaults schema) :=
        ihInner (.empty schema limits) fewInner ((Nat.zero_add _).trans_le roomInner) shallowInner eachInner
      have later (groups : List Group) : (readItems schema limits level ⟨parts.fields, groups, parts.seen + 1⟩ rest).problems =
          (statementsOf rest).flatMap (statementFaults schema) := by
        refine ihRest tallies few ?_ (fun _ => deep) others
        change parts.seen + 1 + (offersOf schema rest).length ≤ limits.maxGroups
        omega
      rw [readItems, enters, statementsOf, List.flatMap_append, problems_bind, problems_pure, List.nil_append]
      exact congrArg₂ (· ++ ·) first (later _)

/-- A query that stays within the limits is read with exactly what is wrong with it. -/
theorem readRoot_within {tree : QueryNode} (within : (offer schema tree).Within schema limits 0) :
    (readRoot schema limits tree).problems = complaints schema tree := by
  rw [offer] at within
  obtain ⟨few, room, shallow, each⟩ := within
  have read : (readItems schema limits 0 .none tree.items).problems = complaints schema tree :=
    readItems_within (.empty schema limits) few ((Nat.zero_add _).trans_le room) shallow each
  rw [readRoot, problems_bind, read, problems_pure, List.append_nil]

end Reading

/-! ## Places of complaints -/

section Places

variable {schema : Schema}

theorem offset_of_mem_entryFaults {field : Field} {node : EntryNode} {p : Problem} (mem : p ∈ entryFaults field node) :
    p.offset = some node.span.start := by
  unfold entryFaults at mem
  split at mem
  · obtain ⟨scalar, -, mem⟩ := List.mem_flatMap.mp mem
    unfold scalarFaults at mem
    split at mem
    · cases mem
    · rw [List.mem_singleton.mp mem]
      rfl
  · split at mem
    · cases mem
    · rw [List.mem_singleton.mp mem]
      rfl

theorem offset_of_mem_statementFaults {node : StatementNode} {p : Problem} (mem : p ∈ statementFaults schema node) :
    ∃ place ∈ node.places, p.offset = some place := by
  unfold statementFaults at mem
  split at mem
  · rw [List.mem_singleton.mp mem]
    exact ⟨_, List.mem_cons_self, rfl⟩
  · obtain ⟨entry, hentry, mem⟩ := List.mem_flatMap.mp mem
    exact ⟨_, List.mem_cons_of_mem _ (List.mem_map_of_mem hentry), offset_of_mem_entryFaults mem⟩

/-- The place of one problem is not behind that of another. -/
def NotBehind (p q : Problem) : Prop :=
  ∀ i ∈ p.offset, ∀ j ∈ q.offset, i ≤ j

theorem notBehind_of_le {p q : Problem} {i j : Nat} (first : p.offset = some i) (second : q.offset = some j)
    (less : i ≤ j) : NotBehind p q := by
  intro k hk l hl
  rw [first] at hk
  rw [second] at hl
  cases hk
  cases hl
  exact less

theorem pairwise_statementFaults {node : StatementNode} (ordered : node.places.Pairwise (· < ·)) :
    (statementFaults schema node).Pairwise NotBehind := by
  unfold statementFaults
  split
  · exact List.pairwise_singleton _ _
  · have entries := List.pairwise_map.mp (List.pairwise_cons.mp ordered).2
    refine List.pairwise_flatMap.mpr ⟨fun entry _ => ?_, entries.imp fun less p hp q hq => ?_⟩
    · refine List.pairwise_of_forall_mem_list fun p hp q hq => ?_
      exact notBehind_of_le (offset_of_mem_entryFaults hp) (offset_of_mem_entryFaults hq) le_rfl
    · exact notBehind_of_le (offset_of_mem_entryFaults hp) (offset_of_mem_entryFaults hq) (Nat.le_of_lt less)

/-- Complaints come in the order of the places they are about. -/
theorem pairwise_complaints {tree : QueryNode}
    (ordered : ((statementsOf tree.items).flatMap StatementNode.places).Pairwise (· < ·)) :
    (complaints schema tree).Pairwise NotBehind := by
  obtain ⟨each, across⟩ := List.pairwise_flatMap.mp ordered
  refine List.pairwise_flatMap.mpr ⟨fun node mem => pairwise_statementFaults (each node mem), ?_⟩
  refine across.imp fun less p hp q hq => ?_
  obtain ⟨i, hi, first⟩ := offset_of_mem_statementFaults hp
  obtain ⟨j, hj, second⟩ := offset_of_mem_statementFaults hq
  exact notBehind_of_le first second (Nat.le_of_lt (less i hi j hj))

end Places

/-- A text that does not follow the grammar is one problem at a place of it.  The names and entries of one that does
stand in the text at their places, which rise.  If it stays within the limits it is refused with exactly what is wrong
with its names and entries, each at the place of that in the order of the text, and if nothing is wrong it becomes the
condition it stands for. -/
theorem read_eq_complaints (schema : Schema) (limits : Limits) (text : String) :
    (∀ offset, parse text.toList = .error offset →
      read schema limits text = .error [.general .malformed (some offset)] ∧ offset ≤ text.length) ∧
    ∀ tree, parse text.toList = .ok tree →
      (∀ node ∈ statementsOf tree.items, node.StandsIn text.toList) ∧
      ((statementsOf tree.items).flatMap StatementNode.places).Pairwise (· < ·) ∧
      (complaints schema tree).Pairwise NotBehind ∧
      (∀ p ∈ complaints schema tree, ∃ offset < text.length, p.offset = some offset) ∧
      ((offer schema tree).Within schema limits 0 →
        (complaints schema tree ≠ [] → read schema limits text = .error (complaints schema tree)) ∧
        (complaints schema tree = [] → ∃ root, unrestricted? schema tree = some root ∧
          read schema limits text = .ok ⟨schema, root⟩)) := by
  refine ⟨fun offset parsed => ⟨?_, ?_⟩, fun tree parsed => ?_⟩
  · unfold Query.read
    rw [parsed]
  · rw [← String.length_toList]
    exact le_of_parse parsed
  · obtain ⟨stands, rising⟩ := lies_of_parse parsed
    refine ⟨stands, rising.ordered, pairwise_complaints rising.ordered, fun p mem => ?_, fun within => ?_⟩
    · obtain ⟨node, hnode, mem⟩ := List.mem_flatMap.mp mem
      obtain ⟨place, hplace, offset⟩ := offset_of_mem_statementFaults mem
      obtain ⟨-, below⟩ := rising.inside place (List.mem_flatMap.mpr ⟨node, hnode, hplace⟩)
      exact ⟨place, String.length_toList ▸ below, offset⟩
    · have problems := readRoot_within within
      have read : Query.read schema limits text = finish schema (readRoot schema limits tree) := by
        unfold Query.read
        rw [parsed]
      refine ⟨fun some => ?_, fun none => ?_⟩
      · rw [read, finish, problems]
        cases wrong : complaints schema tree with
        | nil => exact absurd wrong some
        | cons p ps => rfl
      · have accepted : Query.read schema limits text = .ok ⟨schema, (readRoot schema limits tree).value⟩ := by
          rw [read, finish, problems, none]
        obtain ⟨other, again, root, found, -, same⟩ := (read_eq_ok_iff schema limits text _).mp accepted
        rw [parsed] at again
        cases again
        exact ⟨root, found, accepted.trans (congrArg _ same)⟩

/-- A field of texts and one of whole numbers. -/
def drawer : Schema :=
  ⟨"drawer", [.text "title", .integer "id"], by decide⟩

/-- A statement about a field that is not there, and one about a range whose bounds are no numbers. -/
def drawerTree : QueryNode :=
  ⟨⟨0, 15⟩, none, [
    .statement ⟨⟨0, 7⟩, ⟨0, 3⟩, "foo".toList, some (⟨5, 6⟩, [.single ⟨5, 6⟩ ⟨⟨5, 6⟩, false, ['é']⟩])⟩,
    .statement ⟨⟨8, 15⟩, ⟨8, 10⟩, "id".toList, some (⟨12, 15⟩,
      [.range ⟨⟨12, 15⟩, none, ⟨⟨12, 13⟩, false, ['x']⟩, ⟨⟨14, 15⟩, false, ['y']⟩, none⟩])⟩], ⟨15, 15⟩⟩

theorem read_eq_complaints_drawer :
    (read drawer ⟨1, 0, 0⟩ "title: é b" = .error [.general .malformed (some 9)] ∧ 9 ≤ "title: é b".length) ∧
      read drawer ⟨1, 0, 0⟩ "foo: é; id: x-y" = .error [.about "foo" .unknownField (some 0),
        .about "id" (.conversion (.notNumber "x")) (some 12), .about "id" (.conversion (.notNumber "y")) (some 12)] ∧
      ∃ root, read drawer ⟨1, 0, 0⟩ "title: b" = .ok ⟨drawer, root⟩ := by
  have refused : parse "title: é b".toList = .error 9 := by
    decide +kernel
  have parsed : parse "foo: é; id: x-y".toList = .ok drawerTree := by
    decide +kernel
  have parsedToo : parse "title: b".toList = .ok ⟨⟨0, 8⟩, none, [
      .statement ⟨⟨0, 8⟩, ⟨0, 5⟩, "title".toList, some (⟨7, 8⟩, [.single ⟨7, 8⟩ ⟨⟨7, 8⟩, false, ['b']⟩])⟩],
      ⟨8, 8⟩⟩ := by
    decide +kernel
  have within {tree : QueryNode} {taken : List (String × Option Nat)} (takes : takenOf drawer tree.items = taken)
      (few : ∀ field ∈ drawer.fields, (placesOf field.name taken).length ≤ field.limit ⟨1, 0, 0⟩)
      (single : offersOf drawer tree.items = []) : (offer drawer tree).Within drawer ⟨1, 0, 0⟩ 0 := by
    rw [offer, takes, single]
    exact .intro few (Nat.zero_le _) (fun some => absurd rfl some) (List.forall_mem_nil _)
  have said : complaints drawer drawerTree = [.about "foo" .unknownField (some 0),
      .about "id" (.conversion (.notNumber "x")) (some 12), .about "id" (.conversion (.notNumber "y")) (some 12)] := by
    simp only [complaints, drawerTree, statementsOf]
    decide +kernel
  obtain ⟨-, -, -, -, read⟩ := (read_eq_complaints drawer ⟨1, 0, 0⟩ _).2 _ parsed
  obtain ⟨-, -, -, -, readToo⟩ := (read_eq_complaints drawer ⟨1, 0, 0⟩ _).2 _ parsedToo
  refine ⟨(read_eq_complaints drawer ⟨1, 0, 0⟩ _).1 _ refused, ?_, ?_⟩
  · have takes : takenOf drawer drawerTree.items = [] := by
      simp only [takenOf, drawerTree]
      decide +kernel
    have single : offersOf drawer drawerTree.items = [] := by simp only [offersOf, drawerTree]
    have refused := (read (within takes (by decide +kernel) single)).1
    rw [said] at refused
    exact refused (List.cons_ne_nil _ _)
  · refine Exists.imp (fun _ => And.right) ((readToo (within rfl ?_ ?_)).2 ?_)
    · simp only [takenOf]
      decide +kernel
    · simp only [offersOf]
    · simp only [complaints, statementsOf]
      decide +kernel

end Query

end Criteria
