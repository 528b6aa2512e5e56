import Criteria.Proofs.Query.Entry

/-!
# Written statements are scanned as statements

What is written of a bag under the name of its field is read as that name and the entries of the bag but for
their views.
-/

namespace Criteria.Query

open Scan

theorem joinTexts_cons (separator text : List Char) (texts : List (List Char)) :
    joinTexts separator (text :: texts) = text ++ texts.flatMap (separator ++ ·) := by
  rw [joinTexts]
  induction texts generalizing text with
  | nil => simp [List.intercalate]
  | cons next texts ih =>
      rw [List.flatMap_cons, List.append_assoc, ← ih]
      simp [List.intercalate]

/-! ## Lists of entries -/

theorem solid_writeEntry {field : Field} {e : Entry} {written : List Char}
    (h : writeEntry field e = .ok written) (rest : List Char) : Solid (written ++ rest) := by
  cases e with
  | single s =>
      obtain ⟨text, rfl⟩ := exists_quote_of_writeValue h
      exact solid_quote text rest
  | excludedSingle s =>
      obtain ⟨value, -, same⟩ := bind_eq_ok_iff.mp h
      cases pure_eq_ok_iff.mp same
      exact solid_cons rfl _
  | range r => exact solid_writeRange h rest
  | excludedRange r =>
      obtain ⟨value, -, same⟩ := bind_eq_ok_iff.mp h
      cases pure_eq_ok_iff.mp same
      exact solid_cons rfl _
  | comparison c =>
      obtain ⟨value, -, same⟩ := bind_eq_ok_iff.mp h
      cases pure_eq_ok_iff.mp same
      cases c.operator <;> exact solid_cons rfl _
  | textMatch m =>
      cases pure_eq_ok_iff.mp h
      exact solid_cons rfl _

/-- The entries behind the first one, each with a comma and a blank in front, up to the semicolon. -/
def furtherTexts (texts : List (List Char)) (rest : List Char) : List Char :=
  texts.flatMap ([',', ' '] ++ ·) ++ ';' :: rest

theorem furtherTexts_cons (text : List Char) (texts : List (List Char)) (rest : List Char) :
    furtherTexts (text :: texts) rest = ',' :: ' ' :: (text ++ furtherTexts texts rest) := by
  rw [furtherTexts, List.flatMap_cons, List.append_assoc, List.append_assoc]
  rfl

theorem ends_furtherTexts (texts : List (List Char)) (rest : List Char) : Ends (furtherTexts texts rest) := by
  cases texts with
  | nil => exact .inr rfl
  | cons text texts => exact .inl rfl

/-- One more entry with its comma. -/
def nextEntry : Scan EntryNode := do
  char ','
  gap
  entry

theorem finds_nextEntry {field : Field} {e : Entry} (recovers : field.Recovers e) {text : List Char}
    (h : writeEntry field e = .ok text) (texts : List (List Char)) (rest : List Char) :
    Finds nextEntry (furtherTexts (text :: texts) rest) (furtherTexts texts rest) (DenotesEntry field e) := by
  rw [furtherTexts_cons]
  refine (finds_char ',' _).bind fun _ _ => ?_
  refine (finds_gap_blank (solid_writeEntry h _)).bind fun _ _ => ?_
  exact finds_entry recovers h (ends_furtherTexts texts rest)

theorem finds_furtherEntries {field : Field} {entries : List Entry} {texts : List (List Char)}
    (h : List.Forall₂ (fun e text => writeEntry field e = .ok text) entries texts)
    (recovers : ∀ e ∈ entries, field.Recovers e) {fuel : Nat} (enough : texts.length ≤ fuel) (rest : List Char) :
    Finds (further nextEntry fuel) (furtherTexts texts rest) (furtherTexts [] rest)
      fun nodes => List.Forall₂ (DenotesEntry field) entries nodes := by
  induction h generalizing fuel with
  | nil =>
      refine (finds_further_none fuel ?_).mono ?_
      · refine (finds_gap_nothing (solid_cons rfl rest)).bind_misses fun _ _ => ?_
        exact (misses_char (by simp)).bind
      · rintro nodes rfl
        exact .nil
  | @cons e text entries texts first others ih =>
      cases fuel with
      | zero => cases enough
      | succ fuel =>
          obtain ⟨here, later⟩ := List.forall_mem_cons.mp recovers
          have next := finds_nextEntry here first texts rest
          have start : Solid (furtherTexts (text :: texts) rest) := (ends_furtherTexts _ rest).solid
          refine (finds_further_cons ((finds_gap_nothing start).bind fun _ _ => next)
            (ih later (Nat.le_of_succ_le_succ enough))).mono ?_
          rintro nodes ⟨node, nodes, rfl, hnode, hnodes⟩
          exact .cons hnode hnodes

theorem solid_joinTexts {field : Field} {entries : List Entry} {texts : List (List Char)}
    (h : List.Forall₂ (fun e text => writeEntry field e = .ok text) entries texts) (nonempty : entries ≠ [])
    (rest : List Char) : Solid (joinTexts [',', ' '] texts ++ ';' :: rest) := by
  cases h with
  | nil => exact absurd rfl nonempty
  | cons first _ =>
      rw [joinTexts_cons, List.append_assoc]
      exact solid_writeEntry first _

/-- The written entries of a statement are scanned as those entries. -/
theorem finds_entryList {field : Field} {entries : List Entry} {texts : List (List Char)}
    (h : List.Forall₂ (fun e text => writeEntry field e = .ok text) entries texts) (nonempty : entries ≠ [])
    (recovers : ∀ e ∈ entries, field.Recovers e) {fuel : Nat} (enough : texts.length ≤ fuel) (rest : List Char) :
    Finds (entryList fuel) (joinTexts [',', ' '] texts ++ ';' :: rest) (';' :: rest)
      fun list => List.Forall₂ (DenotesEntry field) entries list.2 := by
  cases h with
  | nil => exact absurd rfl nonempty
  | @cons e text entries texts first others =>
      obtain ⟨here, later⟩ := List.forall_mem_cons.mp recovers
      rw [joinTexts_cons, List.append_assoc]
      refine Finds.node (P := List.Forall₂ (DenotesEntry field) (e :: entries)) ?_
      refine (finds_entry here first (ends_furtherTexts texts rest)).bind fun node hnode => ?_
      refine (finds_gap_nothing (ends_furtherTexts texts rest).solid).bind fun _ _ => ?_
      have further : Finds (many fuel nextEntry) (furtherTexts texts rest) (';' :: rest)
          fun nodes => List.Forall₂ (DenotesEntry field) entries nodes := by
        cases others with
        | nil =>
            refine (finds_many_none fuel (misses_char (by simp [furtherTexts])).bind).mono ?_
            rintro nodes rfl
            exact .nil
        | @cons e text entries texts second others =>
            obtain ⟨next, later⟩ := List.forall_mem_cons.mp later
            rw [List.length_cons, List.length_cons] at enough
            refine (finds_many_cons (finds_nextEntry next second texts rest)
              (finds_furtherEntries others later (by omega) rest)).mono ?_
            rintro nodes ⟨node, nodes, rfl, hnode, hnodes⟩
            exact .cons hnode hnodes
      refine further.bind fun nodes hnodes => ?_
      refine (finds_gap_nothing (solid_cons rfl rest)).bind fun _ _ => ?_
      refine (finds_optional_none (misses_char (by simp))).bind fun _ _ => ?_
      exact finds_pure (.cons hnode hnodes) _

/-! ## Statements -/

/-- A name that the grammar can read. -/
structure IsName (name : List Char) : Prop where
  begins : ∃ c, name.head? = some c ∧ isNameStart c = true
  continues : ∀ c ∈ name, isNamePart c = true

theorem finds_fieldName {name : List Char} (isName : IsName name) (rest : List Char) :
    Finds fieldName (name ++ ':' :: rest) (':' :: rest) fun found => found.2 = name := by
  rcases isName with ⟨⟨c, head, start⟩, continues⟩
  cases name with
  | nil => cases head
  | cons d name =>
      cases head
      refine Finds.node (P := fun found => found = c :: name) ?_
      refine (finds_ahead_run start (name ++ ':' :: rest)).bind fun _ _ => ?_
      exact finds_run (List.cons_ne_nil _ _) continues (by simp [isNamePart])

/-- A node is read as the name of a field and entries about it, but for their views. -/
def DenotesStatement (schema : Schema) (name : String) (entries : List Entry) (node : StatementNode) : Prop :=
  ∃ found, statement? schema node = some (name, found) ∧
    found.map Entry.withoutView = entries.map Entry.withoutView

theorem exists_entries {field : Field} {entries : List Entry} {nodes : List EntryNode}
    (h : List.Forall₂ (DenotesEntry field) entries nodes) :
    ∃ found, nodes.mapM (entryOf? field) = some found ∧
      found.map Entry.withoutView = entries.map Entry.withoutView := by
  simp only [mapM_eq_some_iff]
  induction h with
  | nil => exact ⟨[], rfl, rfl⟩
  | cons first _ ih =>
      rcases first with ⟨e, he, same⟩
      rcases ih with ⟨es, hes, others⟩
      exact ⟨e :: es, by rw [List.map_cons, List.map_cons, he, hes], by rw [List.map_cons, List.map_cons, same, others]⟩

theorem length_le_joinTexts (c : Char) (separator : List Char) (texts : List (List Char)) :
    texts.length ≤ (joinTexts (c :: separator) texts).length + 1 := by
  cases texts with
  | nil => exact Nat.zero_le _
  | cons text texts =>
      have further : texts.length ≤ (texts.flatMap ((c :: separator) ++ ·)).length := by
        induction texts with
        | nil => exact Nat.le_refl _
        | cons text texts ih =>
            rw [List.flatMap_cons, List.length_append, List.length_append, List.length_cons, List.length_cons]
            omega
      rw [joinTexts_cons, List.length_append, List.length_cons]
      omega

theorem writeStatement_eq_ok {schema : Schema} {name : String} {bag : Bag} {written : List Char}
    (h : writeStatement schema name bag = .ok written) :
    ∃ field texts, schema.field? name = some field ∧
      List.Forall₂ (fun e text => writeEntry field e = .ok text) bag.toList texts ∧
        written = name.toList ++ ':' :: ' ' :: (joinTexts [',', ' '] texts ++ [';']) := by
  obtain ⟨field, found, h⟩ := bind_eq_ok_iff.mp h
  obtain ⟨texts, entries, h⟩ := bind_eq_ok_iff.mp h
  refine ⟨field, texts, Schema.fieldOf_eq_ok_iff.mp found, mapM_eq_ok_iff.mp entries, ?_⟩
  rw [← pure_eq_ok_iff.mp h]
  simp

/-- What is written of a bag under a name is scanned as the name and the entries of the bag. -/
theorem finds_statement {schema : Schema} {name : String} (isName : IsName name.toList) {bag : Bag}
    (filled : bag.isEmpty = false)
    (recovers : ∀ field, schema.field? name = some field → ∀ e ∈ bag.toList, field.Recovers e)
    {written : List Char} (h : writeStatement schema name bag = .ok written) {fuel : Nat}
    (enough : written.length ≤ fuel) (rest : List Char) :
    Finds (statement fuel) (written ++ rest) rest (DenotesStatement schema name bag.toList) := by
  obtain ⟨field, texts, found, entries, rfl⟩ := writeStatement_eq_ok h
  have nonempty : bag.toList ≠ [] := by
    intro none
    rw [(Bag.isEmpty_iff_toList bag).mpr none] at filled
    cases filled
  have few : texts.length ≤ fuel := by
    have joined := length_le_joinTexts ',' [' '] texts
    simp only [List.length_append, List.length_cons] at enough
    omega
  rw [List.append_assoc, List.cons_append, List.cons_append, List.append_assoc, List.singleton_append]
  refine Finds.node_bind (P := fun parts => parts.1.2 = name.toList ∧ ∃ span nodes, parts.2 = some (span, nodes) ∧
    List.Forall₂ (DenotesEntry field) bag.toList nodes) ?_ ?_
  · refine (finds_fieldName isName _).bind fun foundName hname => ?_
    refine (finds_gap_nothing (solid_cons rfl _)).bind fun _ _ => ?_
    refine (finds_char ':' _).bind fun _ _ => ?_
    refine (finds_gap_blank (solid_joinTexts entries nonempty rest)).bind fun _ _ => ?_
    have list := finds_entryList entries nonempty (recovers field found) few rest
    refine (finds_optional_some list).bind fun listed hlisted => ?_
    refine (finds_gap_nothing (solid_cons rfl _)).bind fun _ _ => ?_
    refine ((finds_char ';' rest).oneOf _).bind fun _ _ => ?_
    rcases hlisted with ⟨⟨span, nodes⟩, rfl, hnodes⟩
    exact finds_pure ⟨hname, span, nodes, rfl, hnodes⟩ rest
  · rintro span ⟨⟨nameSpan, chars⟩, listed⟩ ⟨rfl, listSpan, nodes, rfl, hnodes⟩
    obtain ⟨es, read, same⟩ := exists_entries hnodes
    refine finds_pure ⟨es, ?_, same⟩ rest
    simp only [statement?, String.ofList_toList, found, StatementNode.nodes, Option.bind_eq_bind,
      Option.bind_some, read, Schema.name_of_field? found, Option.pure_def]

end Criteria.Query
