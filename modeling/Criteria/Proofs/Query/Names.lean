import Criteria.Proofs.Acceptance
import Criteria.Proofs.Query.Written

/-!
# Names in queries

Every name in a query follows the grammar, and so every bag of a tree that was read stands under a name that can
be written and read again.
-/

namespace Criteria.Query

open Scan

/-! ## Scanned names -/

theorem yields_fieldName : Yields fieldName fun found => IsName found.2 := by
  refine Yields.node ?_
  intro c name d found
  rw [found_bind, found_ahead] at found
  obtain ⟨⟨_, e⟩, looked, taken⟩ := Option.bind_eq_some_iff.mp found
  obtain ⟨⟨ahead, _⟩, start, same⟩ := Option.map_eq_some_iff.mp looked
  cases same
  obtain ⟨rfl, someAhead⟩ := found_run start
  obtain ⟨rfl, some⟩ := found_run taken
  refine ⟨?_, List.all_eq_true.mp List.all_takeWhile⟩
  cases text : c.rest with
  | nil =>
      rw [text] at some
      exact absurd rfl some
  | cons x rest =>
      rw [text, List.takeWhile_cons] at some someAhead
      refine ⟨x, ?_, ?_⟩
      · rw [List.takeWhile_cons]
        split
        · rfl
        · rename_i no
          rw [if_neg no] at some
          exact absurd rfl some
      · by_contra no
        rw [if_neg no] at someAhead
        exact someAhead rfl

theorem yields_statement (fuel : Nat) : Yields (statement fuel) fun node => IsName node.name := by
  refine Yields.node_bind (P := fun found : (Span × List Char) × _ => IsName found.1.2) ?_ ?_
  · refine yields_fieldName.bind fun name isName => ?_
    refine (yields_any gap).bind fun _ _ => (yields_any (char ':')).bind fun _ _ => ?_
    refine (yields_any gap).bind fun _ _ => (yields_any (optional (entryList fuel))).bind fun entries _ => ?_
    refine (yields_any gap).bind fun _ _ => (yields_any (oneOf _)).bind fun _ _ => yields_pure isName
  · rintro span ⟨⟨nameSpan, name⟩, entries⟩ isName
    exact yields_pure isName

/-- All names in items and below follow the grammar. -/
def AllNamed (items : List ItemNode) : Prop :=
  ∀ statement ∈ statementsOf items, IsName statement.name

/-- All names in an item and below follow the grammar. -/
def Named (node : ItemNode) : Prop :=
  AllNamed [node]

theorem allNamed_of_forall {items : List ItemNode} (named : ∀ node ∈ items, Named node) : AllNamed items := by
  induction items with
  | nil => exact fun _ mem => absurd mem (by simp [statementsOf])
  | cons node items ih =>
      obtain ⟨here, later⟩ := List.forall_mem_cons.mp named
      cases node with
      | statement node =>
          rw [AllNamed, statementsOf, List.forall_mem_cons]
          exact ⟨here node (by simp [statementsOf]), ih later⟩
      | group span anyMark inner =>
          rw [AllNamed, statementsOf, List.forall_mem_append]
          refine ⟨fun statement mem => here statement ?_, ih later⟩
          rw [statementsOf]
          exact List.mem_append_left _ mem

theorem yields_itemsOf {item : Scan (Option ItemNode)}
    (h : Yields item fun found => ∀ node, found = some node → Named node) (bound : Nat) :
    Yields (itemsOf bound item) AllNamed := by
  refine (h.many bound).bind fun founds named => yields_pure (allNamed_of_forall fun node mem => ?_)
  obtain ⟨found, hfound, same⟩ := List.mem_filterMap.mp mem
  exact named found hfound node same

theorem yields_groupOf {items : Scan (List ItemNode)} (h : Yields items AllNamed) : Yields (groupOf items) Named := by
  refine Yields.node_bind (P := fun parts : Option Span × List ItemNode => AllNamed parts.2) ?_ ?_
  · refine (yields_any _).bind fun anyMark _ => (yields_any gap).bind fun _ _ => ?_
    refine (yields_any (char '(')).bind fun _ _ => (yields_any gap).bind fun _ _ => ?_
    refine h.bind fun inner named => (yields_any gap).bind fun _ _ => ?_
    exact (yields_any (char ')')).bind fun _ _ => yields_pure named
  · rintro span ⟨anyMark, inner⟩ named
    refine yields_pure fun statement mem => named statement ?_
    simpa [statementsOf] using mem

theorem yields_item (fuel : Nat) : Yields (item fuel) fun found => ∀ node, found = some node → Named node := by
  induction fuel with
  | zero => exact fun c a d found => nomatch found
  | succ fuel ih =>
      refine yields_oneOf ?_
      simp only [List.forall_mem_cons, List.not_mem_nil, false_implies, implies_true, and_true]
      refine ⟨(yields_statement fuel).map fun node isName => ?_,
        (yields_groupOf (yields_itemsOf ih fuel)).map ?_, (yields_any separator).map ?_⟩
      · rintro _ ⟨⟩
        simpa [Named, AllNamed, statementsOf] using isName
      · rintro node named _ ⟨⟩
        exact named
      · rintro - - _ ⟨⟩

/-- All names of a query follow the grammar. -/
theorem allNamed_of_parse {text : List Char} {tree : QueryNode} (h : parse text = .ok tree) :
    AllNamed tree.items := by
  have yields (fuel : Nat) : Yields (query fuel) fun tree => AllNamed tree.items := by
    refine Yields.node_bind (P := fun parts : Option Span × List ItemNode × Span => AllNamed parts.2.1) ?_ ?_
    · refine (yields_any gap).bind fun _ _ => (yields_any _).bind fun anyMark _ => ?_
      refine (yields_any gap).bind fun _ _ => (yields_itemsOf (yields_item fuel) fuel).bind fun items named => ?_
      exact (yields_any gap).bind fun _ _ => (yields_any (mark ending)).bind fun _ _ => yields_pure named
    · rintro span ⟨anyMark, items, ending⟩ named
      exact yields_pure named
  rw [parse] at h
  cases outcome : query (text.length + 1) (.start text) with
  | mk reach found =>
      rw [outcome] at h
      cases found with
      | none => cases h
      | some found =>
          cases h
          exact yields _ _ _ _ (congrArg Outcome.found outcome)

/-! ## Bags that were read -/

/-- A bag has entries and stands under a name that follows the grammar. -/
def Proper (name : String) (bag : Bag) : Prop :=
  IsName name.toList ∧ bag.isEmpty = false

theorem proper_gathered {statements : List (String × List Entry)} {fields : Keyed Bag}
    (named : ∀ statement ∈ statements, IsName statement.1.toList)
    (proper : ∀ bag ∈ fields.entries, Proper bag.1 bag.2) :
    ∀ bag ∈ (statements.foldl gather fields).entries, Proper bag.1 bag.2 := by
  induction statements generalizing fields with
  | nil => exact proper
  | cons statement statements ih =>
      obtain ⟨here, later⟩ := List.forall_mem_cons.mp named
      refine ih later fun bag mem => ⟨?_, filled_gather (fun bag mem => (proper bag mem).2) statement bag mem⟩
      rcases statement with ⟨name, entries⟩
      by_cases none : entries = []
      · subst none
        exact (proper bag mem).1
      · rw [gather_of_ne_nil fields name none] at mem
        rcases (fields.mem_entries_alter _ _ _ _).mp mem with ⟨rfl, -⟩ | ⟨-, mem⟩
        · exact here
        · exact (proper bag mem).1

theorem proper_parts {schema : Schema} (items : List ItemNode) (named : AllNamed items)
    {statements : List (String × List Entry)} {groups : List Group}
    (h : parts? schema items = some (statements, groups)) :
    (∀ statement ∈ statements, IsName statement.1.toList) ∧ ∀ group ∈ groups, group.AllBags Proper := by
  induction items using statementsOf.induct generalizing statements groups with
  | case1 =>
      rw [parts?] at h
      cases h
      exact ⟨fun _ mem => absurd mem List.not_mem_nil, fun _ mem => absurd mem List.not_mem_nil⟩
  | case2 node rest ih =>
      rw [AllNamed, statementsOf, List.forall_mem_cons] at named
      rw [parts?] at h
      obtain ⟨statement, read, h⟩ := Option.bind_eq_some_iff.mp h
      obtain ⟨⟨statements, groups⟩, others, h⟩ := Option.bind_eq_some_iff.mp h
      cases h
      obtain ⟨names, below⟩ := ih named.2 others
      refine ⟨List.forall_mem_cons.mpr ⟨?_, names⟩, below⟩
      obtain ⟨field, found, read⟩ := Option.bind_eq_some_iff.mp read
      obtain ⟨entries, -, read⟩ := Option.bind_eq_some_iff.mp read
      cases read
      rw [Schema.name_of_field? found, String.toList_ofList]
      exact named.1
  | case3 span anyMark inner rest ihInner ihRest =>
      rw [AllNamed, statementsOf, List.forall_mem_append] at named
      rw [parts?] at h
      obtain ⟨⟨innerStatements, innerGroups⟩, innerParts, h⟩ := Option.bind_eq_some_iff.mp h
      obtain ⟨⟨statements, groups⟩, others, h⟩ := Option.bind_eq_some_iff.mp h
      cases h
      obtain ⟨innerNames, innerBelow⟩ := ihInner named.1 innerParts
      obtain ⟨names, below⟩ := ihRest named.2 others
      refine ⟨names, List.forall_mem_cons.mpr ⟨?_, below⟩⟩
      exact (Group.allBags_mk _ _ _ _).mpr
        ⟨proper_gathered innerNames fun _ mem => absurd mem List.not_mem_nil, innerBelow⟩

/-- The bags of a tree that was read are not empty and stand under names that follow the grammar. -/
theorem proper_of_unrestricted? {schema : Schema} {text : List Char} {tree : QueryNode} (h : parse text = .ok tree)
    {root : Group} (found : unrestricted? schema tree = some root) : root.AllBags Proper := by
  obtain ⟨⟨statements, groups⟩, parts, found⟩ := Option.bind_eq_some_iff.mp found
  cases found
  obtain ⟨names, below⟩ := proper_parts tree.items (allNamed_of_parse h) parts
  exact (Group.allBags_mk _ _ _ _).mpr
    ⟨proper_gathered names fun _ mem => absurd mem List.not_mem_nil, below⟩

end Criteria.Query
