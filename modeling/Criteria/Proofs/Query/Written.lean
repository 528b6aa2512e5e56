import Criteria.Proofs.Query.Statement

/-!
# Written conditions are scanned as conditions

What is written of a tree is read as that tree but for its views, to whatever depth its groups go, if the names of
its fields can be read, none of its bags is empty and its entries can be recovered from what is written of them.
-/

namespace Criteria.Query

open Scan

/-! ## Statements put together -/

theorem get?_of_not_mem {fields : Keyed Bag} {name : String} (absent : name ∉ fields.names) :
    fields.get? name = none := by
  rw [← Option.not_isSome_iff_eq_none, fields.isSome_get?_iff]
  exact absent

/-- Statements about distinct fields make a bag each. -/
theorem entries_gathered {statements : List (String × List Entry)}
    (distinct : (statements.map Prod.fst).Nodup) (filled : ∀ statement ∈ statements, statement.2 ≠ []) :
    (statements.foldl gather .empty).entries =
      statements.map fun statement => (statement.1, Bag.empty.addAll statement.2) := by
  suffices collected : ∀ k : Keyed Bag, (k.names ++ statements.map Prod.fst).Nodup →
      (statements.foldl gather k).entries =
        k.entries ++ statements.map fun statement => (statement.1, Bag.empty.addAll statement.2) from
    collected .empty distinct
  clear distinct
  intro k
  induction statements generalizing k with
  | nil => exact fun _ => (List.append_nil _).symm
  | cons statement rest ih =>
      intro distinct
      rcases statement with ⟨name, entries⟩
      obtain ⟨here, later⟩ := List.forall_mem_cons.mp filled
      have absent : name ∉ k.names := fun mem =>
        (List.nodup_append.mp distinct).2.2 _ mem _ List.mem_cons_self rfl
      have put : (gather k (name, entries)).entries = k.entries ++ [(name, Bag.empty.addAll entries)] := by
        rw [gather_of_ne_nil k name here, get?_of_not_mem absent]
        exact Keyed.entries_insert absent _
      have names : (gather k (name, entries)).names = k.names ++ [name] := by
        rw [Keyed.names, put, List.map_append]
        rfl
      rw [List.foldl_cons, ih later, put, List.append_assoc, List.singleton_append, List.map_cons]
      rwa [names, List.append_assoc, List.singleton_append]

/-! ## Parts -/

/-- A bag under a name can be written and read again. -/
structure Writable (schema : Schema) (name : String) (bag : Bag) : Prop where
  isName : IsName name.toList
  filled : bag.isEmpty = false
  known : ∃ field, schema.field? name = some field
  writes : ∀ field, schema.field? name = some field → ∀ e ∈ bag.toList, field.Writes e

/-- What is written of a bag under a name stands for that bag. -/
structure Recoverable (schema : Schema) (name : String) (bag : Bag) : Prop where
  isName : IsName name.toList
  filled : bag.isEmpty = false
  known : ∃ field, schema.field? name = some field
  recovers : ∀ field, schema.field? name = some field → ∀ e ∈ bag.toList, field.Recovers e

theorem Writable.recoverable {schema : Schema} {name : String} {bag : Bag} (writable : Writable schema name bag) :
    Recoverable schema name bag :=
  ⟨writable.isName, writable.filled, writable.known,
    fun field known e mem => (writable.writes field known e mem).recovers⟩

/-- The items are read as the bags and groups of a tree but for its views. -/
def DenotesParts (schema : Schema) (group : Group) (items : List ItemNode) : Prop :=
  ∃ statements groups, parts? schema items = some (statements, groups) ∧
    (Group.mk group.logical (statements.foldl gather .empty) groups).withoutViews = group.withoutViews

/-- The item is a group that is read as a tree but for its views. -/
def DenotesGroup (schema : Schema) (group : Group) (item : ItemNode) : Prop :=
  ∃ span anyMark items, item = .group span anyMark items ∧ logicalOf anyMark = group.logical ∧
    DenotesParts schema group items

/-- The item is a statement that is read as a bag under a name but for its views. -/
def DenotesBag (schema : Schema) (bag : String × Bag) (item : ItemNode) : Prop :=
  ∃ node, item = .statement node ∧ DenotesStatement schema bag.1 bag.2.toList node

theorem exists_groups {schema : Schema} {groups : List Group} {items : List ItemNode}
    (h : List.Forall₂ (DenotesGroup schema) groups items) :
    ∃ found, parts? schema items = some ([], found) ∧
      found.map Group.withoutViews = groups.map Group.withoutViews := by
  induction h with
  | nil => exact ⟨[], by rw [parts?], rfl⟩
  | cons first _ ih =>
      rcases first with ⟨span, anyMark, inner, rfl, marked, statements, groups, parts, same⟩
      rcases ih with ⟨found, later, others⟩
      refine ⟨_, by simp only [parts?, parts, later]; rfl, ?_⟩
      rw [List.map_cons, List.map_cons, others, marked, same]

/-- A name and entries are those of a bag but for their views. -/
def Matches (bag : String × Bag) (statement : String × List Entry) : Prop :=
  statement.1 = bag.1 ∧ statement.2.map Entry.withoutView = bag.2.toList.map Entry.withoutView

theorem exists_statements {schema : Schema} {bags : List (String × Bag)} {items others : List ItemNode}
    {groups : List Group} (h : List.Forall₂ (DenotesBag schema) bags items)
    (parts : parts? schema others = some ([], groups)) :
    ∃ found, parts? schema (items ++ others) = some (found, groups) ∧ List.Forall₂ Matches bags found := by
  induction h with
  | nil => exact ⟨[], parts, .nil⟩
  | cons first _ ih =>
      rcases first with ⟨node, rfl, es, read, same⟩
      rcases ih with ⟨found, later, others⟩
      exact ⟨_, by simp only [List.cons_append, parts?, read, later]; rfl, .cons ⟨rfl, same⟩ others⟩

theorem names_of_matches {bags : List (String × Bag)} {statements : List (String × List Entry)}
    (h : List.Forall₂ Matches bags statements) : statements.map Prod.fst = bags.map Prod.fst := by
  induction h with
  | nil => rfl
  | cons first _ ih => rw [List.map_cons, List.map_cons, ih, first.1]

theorem nonempty_of_matches {bags : List (String × Bag)} {statements : List (String × List Entry)}
    (h : List.Forall₂ Matches bags statements) (filled : ∀ bag ∈ bags, bag.2.isEmpty = false) :
    ∀ statement ∈ statements, statement.2 ≠ [] := by
  induction h with
  | nil => exact fun _ mem => absurd mem List.not_mem_nil
  | cons first _ ih =>
      obtain ⟨here, later⟩ := List.forall_mem_cons.mp filled
      refine List.forall_mem_cons.mpr ⟨fun none => ?_, ih later⟩
      have length := congrArg List.length first.2
      rw [none, List.length_map, List.length_map, Bag.length_toList] at length
      rw [Bag.isEmpty, ← length] at here
      cases here

theorem bags_of_matches {bags : List (String × Bag)} {statements : List (String × List Entry)}
    (h : List.Forall₂ Matches bags statements) :
    statements.map (fun statement => (statement.1, (Bag.empty.addAll statement.2).withoutViews)) =
      bags.map fun bag => (bag.1, bag.2.withoutViews) := by
  induction h with
  | nil => rfl
  | cons first _ ih => rw [List.map_cons, List.map_cons, ih, Bag.withoutViews_ofList first.2, first.1]

/-- Statements that match the bags of a collection are gathered to that collection but for its views. -/
theorem gathered_of_matches {fields : Keyed Bag} (filled : ∀ bag ∈ fields.entries, bag.2.isEmpty = false)
    {statements : List (String × List Entry)} (h : List.Forall₂ Matches fields.entries statements) :
    ((statements.foldl gather .empty).map fun _ => Bag.withoutViews) = fields.map fun _ => Bag.withoutViews := by
  have distinct : (statements.map Prod.fst).Nodup := names_of_matches h ▸ fields.distinct
  refine Keyed.ext_entries ?_
  rw [Keyed.entries_map, Keyed.entries_map, entries_gathered distinct (nonempty_of_matches h filled),
    List.map_map]
  exact bags_of_matches h

/-- Items for the bags and then for the groups of a tree are read as the tree. -/
theorem denotesParts_of_items {schema : Schema} {logical : Logical} {fields : Keyed Bag} {groups : List Group}
    (filled : ∀ bag ∈ fields.entries, bag.2.isEmpty = false) {statements others : List ItemNode}
    (bags : List.Forall₂ (DenotesBag schema) fields.entries statements)
    (below : List.Forall₂ (DenotesGroup schema) groups others) :
    DenotesParts schema (.mk logical fields groups) (statements ++ others) := by
  obtain ⟨found, parts, sameGroups⟩ := exists_groups below
  obtain ⟨gathered, all, matched⟩ := exists_statements bags parts
  refine ⟨gathered, found, all, ?_⟩
  rw [Group.withoutViews_mk, Group.withoutViews_mk, gathered_of_matches filled matched, sameGroups]
  rfl

/-! ## Pieces of text -/

/-- A text begins with a sign or a name, or with a star in front of a parenthesis. -/
def BeginsPart (text : List Char) : Prop :=
  (∃ c rest, text = c :: rest ∧ c ≠ '*' ∧ isGap c = false) ∨ ∃ rest, text = '*' :: '(' :: rest

theorem BeginsPart.append {text : List Char} (h : BeginsPart text) (rest : List Char) :
    BeginsPart (text ++ rest) := by
  rcases h with ⟨c, tail, rfl, other, noGap⟩ | ⟨tail, rfl⟩
  · exact .inl ⟨c, tail ++ rest, rfl, other, noGap⟩
  · exact .inr ⟨tail ++ rest, rfl⟩

theorem BeginsPart.solid {text : List Char} (h : BeginsPart text) : Solid text := by
  rcases h with ⟨c, tail, rfl, -, noGap⟩ | ⟨tail, rfl⟩
  · exact solid_cons noGap tail
  · exact solid_cons rfl _

/-- No part of a query is taken for the mark of an OR at its beginning. -/
theorem BeginsPart.misses_rootMark {text : List Char} (h : BeginsPart text) : Misses rootMark text := by
  refine Misses.mark ?_
  rcases h with ⟨c, tail, rfl, other, -⟩ | ⟨tail, rfl⟩
  · exact (misses_char (by simpa using other)).bind
  · refine (finds_char '*' _).bind_misses fun _ _ => ?_
    refine (finds_gap_nothing (solid_cons rfl _)).bind_misses fun _ _ => misses_oneOf ?_
    rintro scan mem
    rw [List.mem_cons, List.mem_singleton] at mem
    rcases mem with rfl | rfl
    · exact misses_char (by simp)
    · exact misses_notAhead '(' tail

/-- A text is scanned as one item with a property, whatever follows. -/
structure ScansAs (fuel : Nat) (P : ItemNode → Prop) (text : List Char) : Prop where
  begins : BeginsPart text
  finds : ∀ rest, Finds (item fuel) (text ++ rest) rest fun found => ∃ node, found = some node ∧ P node

/-- What stands behind the parts of a group or query. -/
def Closing (rest : List Char) : Prop :=
  rest = [] ∨ rest.head? = some ')'

theorem Closing.solid {rest : List Char} (closing : Closing rest) : Solid rest := by
  intro c head
  rcases closing with rfl | found
  · cases head
  · rw [found] at head
    cases head
    rfl

theorem misses_statement {text : List Char} (other : ∀ c, text.head? = some c → isNameStart c = false)
    (fuel : Nat) : Misses (statement fuel) text :=
  Misses.bind (Misses.node (Misses.bind (Misses.node (Misses.bind (misses_ahead (misses_run other))))))

/-- What begins with neither a star nor a parenthesis is no group. -/
theorem misses_groupOf {text : List Char} (solid : Solid text) (noStar : text.head? ≠ some '*')
    (noOpening : text.head? ≠ some '(') (items : Scan (List ItemNode)) : Misses (groupOf items) text := by
  refine Misses.bind (Misses.node ?_)
  refine (finds_optional_none (misses_char noStar).mark).bind_misses fun _ _ => ?_
  exact (finds_gap_nothing solid).bind_misses fun _ _ => (misses_char noOpening).bind

theorem misses_item {rest : List Char} (closing : Closing rest) (fuel : Nat) : Misses (item fuel) rest := by
  have other {c : Char} (differs : c ≠ ')') : rest.head? ≠ some c := by
    rcases closing with rfl | found
    · exact fun same => nomatch same
    · rw [found]
      exact fun same => differs (Option.some.inj same).symm
  have noName (c : Char) (head : rest.head? = some c) : isNameStart c = false := by
    rcases closing with rfl | found
    · cases head
    · rw [found] at head
      cases head
      rfl
  cases fuel with
  | zero => exact misses_fail rest
  | succ fuel =>
      refine misses_oneOf ?_
      simp only [List.forall_mem_cons, List.not_mem_nil, false_implies, implies_true, and_true]
      refine ⟨(misses_statement noName fuel).map, ?_, ?_⟩
      · exact (misses_groupOf closing.solid (other (by decide)) (other (by decide)) _).map
      · exact Misses.map ((misses_char (other (by decide))).orElse (misses_char (other (by decide))))

/-- A find is an item with a property. -/
def IsItem (P : ItemNode → Prop) (found : Option ItemNode) : Prop :=
  ∃ node, found = some node ∧ P node

theorem finds_furtherItems {fuel bound : Nat} {properties : List (ItemNode → Prop)} {texts : List (List Char)}
    (h : List.Forall₂ (ScansAs fuel) properties texts) (enough : texts.length ≤ bound) {rest : List Char}
    (closing : Closing rest) :
    Finds (further (item fuel) bound) (texts.flatMap ([' '] ++ ·) ++ rest) rest
      (List.Forall₂ IsItem properties) := by
  induction h generalizing bound with
  | nil =>
      refine (finds_further_none bound ?_).mono ?_
      · exact (finds_gap_nothing closing.solid).bind_misses fun _ _ => misses_item closing fuel
      · rintro _ rfl
        exact .nil
  | @cons P text properties texts first _ ih =>
      cases bound with
      | zero => cases enough
      | succ bound =>
          rw [List.flatMap_cons, List.append_assoc, List.append_assoc]
          have next : Finds (gap >>= fun _ => item fuel)
              (' ' :: (text ++ (texts.flatMap ([' '] ++ ·) ++ rest))) (texts.flatMap ([' '] ++ ·) ++ rest)
              (IsItem P) :=
            (finds_gap_blank (first.begins.append _).solid).bind fun _ _ => first.finds _
          refine (finds_further_cons next (ih (Nat.le_of_succ_le_succ enough))).mono ?_
          rintro _ ⟨found, founds, rfl, here, later⟩
          exact .cons here later

/-- Pieces with blanks between them are scanned one by one. -/
theorem finds_itemsOf {fuel bound : Nat} {properties : List (ItemNode → Prop)} {texts : List (List Char)}
    (h : List.Forall₂ (ScansAs fuel) properties texts) (enough : texts.length ≤ bound + 1) {rest : List Char}
    (closing : Closing rest) :
    Finds (itemsOf bound (item fuel)) (joinTexts [' '] texts ++ rest) rest
      (List.Forall₂ (fun P node => P node) properties) := by
  have found : Finds (many bound (item fuel)) (joinTexts [' '] texts ++ rest) rest
      (List.Forall₂ IsItem properties) := by
    cases h with
    | nil =>
        refine (finds_many_none bound (misses_item closing fuel)).mono ?_
        rintro _ rfl
        exact .nil
    | @cons P text properties texts first others =>
        rw [joinTexts_cons, List.append_assoc]
        have further := finds_furtherItems others (Nat.le_of_succ_le_succ enough) closing
        refine (finds_many_cons (first.finds _) further).mono ?_
        rintro _ ⟨found, founds, rfl, here, later⟩
        exact .cons here later
  refine found.bind fun founds items => finds_pure ?_ rest
  clear h found
  induction items with
  | nil => exact .nil
  | cons first _ ih =>
      rcases first with ⟨node, rfl, holds⟩
      exact .cons holds ih

/-! ## Groups -/

theorem isGap_of_isNameStart {c : Char} (start : isNameStart c = true) : isGap c = false := by
  rw [Bool.eq_false_iff]
  intro blank
  simp only [isGap, Bool.or_eq_true, beq_iff_eq] at blank
  rcases blank with ((rfl | rfl) | rfl) | rfl <;> cases start

theorem head_ne_of_isNameStart {c d : Char} (start : isNameStart c = true) (other : isNameStart d = false)
    (text : List Char) : (c :: text).head? ≠ some d := by
  rintro same
  cases same
  rw [start] at other
  cases other

theorem scansAs_statement {schema : Schema} {bag : String × Bag} (recoverable : Recoverable schema bag.1 bag.2)
    {written : List Char} (h : writeStatement schema bag.1 bag.2 = .ok written) {fuel : Nat}
    (enough : written.length < fuel) : ScansAs fuel (DenotesBag schema bag) written where
  begins := by
    obtain ⟨_, _, -, -, rfl⟩ := writeStatement_eq_ok h
    obtain ⟨⟨c, head, start⟩, -⟩ := recoverable.isName
    cases chars : bag.1.toList with
    | nil =>
        rw [chars] at head
        cases head
    | cons d rest =>
        rw [chars] at head
        cases head
        refine .inl ⟨c, _, rfl, ?_, isGap_of_isNameStart start⟩
        rintro rfl
        cases start
  finds rest := by
    cases fuel with
    | zero => cases enough
    | succ fuel =>
        refine Finds.oneOf _ ((finds_statement recoverable.isName recoverable.filled recoverable.recovers h
          (Nat.le_of_lt_succ enough) rest).map ?_)
        exact fun node denotes => ⟨_, rfl, node, rfl, denotes⟩

/-- A group below, as one text. -/
def wrapped (written : Except ExportError (Logical × List (List Char))) : Except ExportError (List Char) := do
  let (logical, parts) ← written
  return wrapGroup logical parts

theorem writeParts_mk (schema : Schema) (logical : Logical) (fields : Keyed Bag) (groups : List Group) :
    writeParts schema (.mk logical fields groups) = do
      let statements ← (fields.entries.filter fun bag => !bag.2.isEmpty).mapM fun bag =>
        writeStatement schema bag.1 bag.2
      let others ← (groups.map (writeParts schema)).mapM wrapped
      return (logical, statements ++ others) := by
  rw [writeParts, Group.fold_mk]
  rfl

theorem writeParts_mk_eq_ok {schema : Schema} {logical : Logical} {fields : Keyed Bag} {groups : List Group}
    {written : Logical × List (List Char)} (h : writeParts schema (.mk logical fields groups) = .ok written) :
    ∃ statements others,
      List.Forall₂ (fun bag text => writeStatement schema bag.1 bag.2 = .ok text)
        (fields.entries.filter fun bag => !bag.2.isEmpty) statements ∧
      List.Forall₂ (fun group text => ∃ parts, writeParts schema group = .ok parts ∧
        text = wrapGroup parts.1 parts.2) groups others ∧
      written = (logical, statements ++ others) := by
  rw [writeParts_mk] at h
  obtain ⟨statements, bags, h⟩ := bind_eq_ok_iff.mp h
  obtain ⟨others, below, h⟩ := bind_eq_ok_iff.mp h
  refine ⟨statements, others, mapM_eq_ok_iff.mp bags, ?_, (pure_eq_ok_iff.mp h).symm⟩
  refine ((List.forall₂_map_left_iff.mp (mapM_eq_ok_iff.mp below))).imp fun group text found => ?_
  obtain ⟨⟨logical, parts⟩, read, same⟩ := bind_eq_ok_iff.mp found
  exact ⟨(logical, parts), read, (pure_eq_ok_iff.mp same).symm⟩

theorem length_le_of_mem_joinTexts (separator : List Char) {text : List Char} {texts : List (List Char)}
    (mem : text ∈ texts) : text.length ≤ (joinTexts separator texts).length := by
  cases texts with
  | nil => cases mem
  | cons first texts =>
      rw [joinTexts_cons, List.length_append]
      rcases List.mem_cons.mp mem with rfl | later
      · exact Nat.le_add_right _ _
      · have part : (separator ++ text).length ≤ (texts.flatMap (separator ++ ·)).length :=
          (List.sublist_flatten_of_mem (List.mem_map_of_mem later)).length_le
        rw [List.length_append] at part
        omega

/-- The written parts of a tree are scanned as that tree, if the bounds allow for the length of their text. -/
structure PartsScan (schema : Schema) (group : Group) (texts : List (List Char)) : Prop where
  begins : ∀ text ∈ texts, BeginsPart text
  finds : ∀ fuel rest, (joinTexts [' '] texts).length < fuel → Closing rest →
    Finds (itemsOf fuel (item fuel)) (joinTexts [' '] texts ++ rest) rest (DenotesParts schema group)

theorem PartsScan.solid {schema : Schema} {group : Group} {texts : List (List Char)}
    (h : PartsScan schema group texts) {rest : List Char} (closing : Closing rest) :
    Solid (joinTexts [' '] texts ++ rest) := by
  cases texts with
  | nil => exact closing.solid
  | cons text texts =>
      rw [joinTexts_cons, List.append_assoc]
      exact ((h.begins text List.mem_cons_self).append _).solid

theorem wrapGroup_eq (logical : Logical) (texts : List (List Char)) :
    wrapGroup logical texts =
      (if decide (logical = .any) then ['*'] else []) ++ '(' :: (joinTexts [' '] texts ++ [')']) := by
  cases logical <;> rfl

theorem beginsPart_wrapGroup (logical : Logical) (texts : List (List Char)) :
    BeginsPart (wrapGroup logical texts) := by
  cases logical with
  | all => exact .inl ⟨'(', _, rfl, by decide, rfl⟩
  | any => exact .inr ⟨_, rfl⟩

theorem finds_groupOf {schema : Schema} {group : Group} {texts : List (List Char)}
    (inner : PartsScan schema group texts) {fuel : Nat} (enough : (joinTexts [' '] texts).length < fuel)
    (rest : List Char) :
    Finds (groupOf (itemsOf fuel (item fuel))) (wrapGroup group.logical texts ++ rest) rest
      (DenotesGroup schema group) := by
  have closing : Closing (')' :: rest) := .inr rfl
  rw [wrapGroup_eq, List.append_assoc, List.cons_append, List.append_assoc, List.singleton_append]
  refine Finds.node_bind (P := fun parts => parts.1.isSome = decide (group.logical = .any) ∧
    DenotesParts schema group parts.2) ?_ ?_
  · refine (finds_flag _ (by simp)).bind fun anyMark hanyMark => ?_
    refine (finds_gap_nothing (solid_cons rfl _)).bind fun _ _ => ?_
    refine (finds_char '(' _).bind fun _ _ => ?_
    refine (finds_gap_nothing (inner.solid closing)).bind fun _ _ => ?_
    refine (inner.finds fuel _ enough closing).bind fun items hitems => ?_
    refine (finds_gap_nothing closing.solid).bind fun _ _ => ?_
    refine (finds_char ')' _).bind fun _ _ => ?_
    exact finds_pure ⟨hanyMark, hitems⟩ rest
  · rintro span ⟨anyMark, items⟩ ⟨marked, denotes⟩
    refine finds_pure ⟨span, anyMark, items, rfl, ?_, denotes⟩ rest
    dsimp only at marked
    rw [logicalOf, marked]
    cases group.logical <;> rfl

theorem scansAs_group {schema : Schema} {group : Group} {texts : List (List Char)}
    (inner : PartsScan schema group texts) {fuel : Nat}
    (enough : (wrapGroup group.logical texts).length < fuel) :
    ScansAs fuel (DenotesGroup schema group) (wrapGroup group.logical texts) where
  begins := beginsPart_wrapGroup group.logical texts
  finds rest := by
    cases fuel with
    | zero => cases enough
    | succ fuel =>
        have few : (joinTexts [' '] texts).length < fuel := by
          rw [wrapGroup_eq, List.length_append, List.length_cons, List.length_append, List.length_singleton]
            at enough
          omega
        refine Misses.oneOf_finds (misses_statement ?_ fuel).map (Finds.oneOf _ ?_)
        · intro c head
          obtain ⟨d, tail, same, noName⟩ : ∃ d tail, wrapGroup group.logical texts = d :: tail ∧
              isNameStart d = false := by
            cases group.logical <;> exact ⟨_, _, rfl, rfl⟩
          rw [same] at head
          cases head
          exact noName
        · exact (finds_groupOf inner few rest).map fun node denotes => ⟨node, rfl, denotes⟩

theorem forall_of_forall₂ {α β : Type} {P : β → Prop} {as : List α} {bs : List β}
    (h : List.Forall₂ (fun _ b => P b) as bs) : ∀ b ∈ bs, P b := by
  induction h with
  | nil => exact fun _ mem => absurd mem List.not_mem_nil
  | cons first _ ih => exact List.forall_mem_cons.mpr ⟨first, ih⟩

theorem exists_append_of_forall₂ {α β : Type} {R : α → β → Prop} {as others : List α} {cs : List β}
    (h : List.Forall₂ R (as ++ others) cs) :
    ∃ bs ds, cs = bs ++ ds ∧ List.Forall₂ R as bs ∧ List.Forall₂ R others ds := by
  induction as generalizing cs with
  | nil => exact ⟨[], cs, rfl, .nil, h⟩
  | cons a as ih =>
      obtain ⟨b, cs, first, rest, rfl⟩ := List.forall₂_cons_left_iff.mp h
      obtain ⟨bs, ds, rfl, here, later⟩ := ih rest
      exact ⟨b :: bs, ds, rfl, .cons first here, later⟩

/-- The written parts of a tree whose bags can be recovered are scanned as that tree. -/
theorem partsScan_of_writeParts {schema : Schema} {group : Group} (all : group.AllBags (Recoverable schema))
    {written : Logical × List (List Char)} (h : writeParts schema group = .ok written) :
    written.1 = group.logical ∧ PartsScan schema group written.2 := by
  induction group generalizing written with
  | step logical fields groups ih =>
      rw [Group.allBags_mk] at all
      rcases all with ⟨recoverable, inner⟩
      obtain ⟨statements, others, bags, below, rfl⟩ := writeParts_mk_eq_ok h
      have kept : (fields.entries.filter fun bag => !bag.2.isEmpty) = fields.entries :=
        List.filter_eq_self.mpr fun bag mem => by rw [(recoverable bag mem).filled]; rfl
      rw [kept] at bags
      have scans (fuel : Nat) (enough : ∀ text ∈ statements ++ others, text.length < fuel) :
          List.Forall₂ (ScansAs fuel) (fields.entries.map (DenotesBag schema) ++
            groups.map (DenotesGroup schema)) (statements ++ others) := by
        refine List.rel_append ?_ ?_
        · rw [List.forall₂_map_left_iff]
          exact forall₂_of_mem bags fun bag mem text hmem written =>
            scansAs_statement (recoverable bag mem) written (enough text (List.mem_append_left _ hmem))
        · rw [List.forall₂_map_left_iff]
          refine forall₂_of_mem below fun group mem text hmem => ?_
          rintro ⟨⟨logical, texts⟩, written, rfl⟩
          obtain ⟨rfl, scan⟩ := ih group mem (inner group mem) written
          exact scansAs_group scan (enough _ (List.mem_append_right _ hmem))
      refine ⟨rfl, ?_, ?_⟩
      · have enough (text : List Char) (mem : text ∈ statements ++ others) :=
          Nat.lt_succ_of_le (length_le_of_mem_joinTexts [' '] mem)
        exact forall_of_forall₂ ((scans _ enough).imp fun _ _ scan => scan.begins)
      · intro fuel rest enough closing
        have short (text : List Char) (mem : text ∈ statements ++ others) : text.length < fuel :=
          Nat.lt_of_le_of_lt (length_le_of_mem_joinTexts [' '] mem) enough
        have few : (statements ++ others).length ≤ fuel + 1 :=
          Nat.le_trans (length_le_joinTexts ' ' [] _) (Nat.succ_le_succ (Nat.le_of_lt enough))
        refine (finds_itemsOf (scans fuel short) few closing).mono fun items denote => ?_
        obtain ⟨first, second, rfl, denoteBags, denoteGroups⟩ := exists_append_of_forall₂ denote
        rw [List.forall₂_map_left_iff] at denoteBags denoteGroups
        exact denotesParts_of_items (fun bag mem => (recoverable bag mem).filled) denoteBags denoteGroups

/-! ## Queries -/

theorem finds_rootMark (rest : List Char) : Finds rootMark ('*' :: ';' :: rest) rest fun _ => True := by
  refine Finds.mark (P := fun _ => True) ?_
  refine (finds_char '*' _).bind fun _ _ => ?_
  refine (finds_gap_nothing (solid_cons rfl _)).bind fun _ _ => ?_
  exact (finds_char ';' rest).oneOf _

theorem misses_rootMark_parts {texts : List (List Char)} (begins : ∀ text ∈ texts, BeginsPart text) :
    Misses rootMark (joinTexts [' '] texts) := by
  cases texts with
  | nil => exact Misses.mark (misses_char (by simp [joinTexts])).bind
  | cons text texts =>
      rw [joinTexts_cons]
      exact ((begins text List.mem_cons_self).append _).misses_rootMark

/-- The text of a query with the given parts. -/
def textOf : Logical → List (List Char) → List Char
  | .all, texts => joinTexts [' '] texts
  | .any, texts => joinTexts [' '] (['*', ';'] :: texts)

theorem finds_gap_flatMap {texts : List (List Char)} (solid : Solid (joinTexts [' '] texts)) :
    Finds gap (texts.flatMap ([' '] ++ ·)) (joinTexts [' '] texts) fun _ => True := by
  cases texts with
  | nil => exact finds_gap_nothing solid
  | cons text texts =>
      rw [joinTexts_cons] at solid ⊢
      exact finds_gap_blank solid

/-- What is written of a tree is scanned as that tree. -/
theorem finds_query {schema : Schema} {group : Group} {texts : List (List Char)}
    (parts : PartsScan schema group texts) {fuel : Nat} (enough : (joinTexts [' '] texts).length < fuel) :
    Finds (query fuel) (textOf group.logical texts) [] fun tree =>
      logicalOf tree.anyMark = group.logical ∧ DenotesParts schema group tree.items := by
  have solid : Solid (joinTexts [' '] texts) := by
    have behind := parts.solid (.inl rfl)
    rwa [List.append_nil] at behind
  have found := parts.finds fuel [] enough (.inl rfl)
  rw [List.append_nil] at found
  have rest (anyMark : Option Span) (marked : logicalOf anyMark = group.logical) :
      Finds (do let items ← items fuel; gap; let ending ← mark ending; return (anyMark, items, ending))
        (joinTexts [' '] texts) [] fun parts =>
          logicalOf parts.1 = group.logical ∧ DenotesParts schema group parts.2.1 := by
    refine found.bind fun items hitems => ?_
    refine (finds_gap_nothing solid_nil).bind fun _ _ => ?_
    exact finds_ending.mark.bind fun _ _ => finds_pure ⟨marked, hitems⟩ []
  refine Finds.node_bind (P := fun parts => logicalOf parts.1 = group.logical ∧
    DenotesParts schema group parts.2.1) ?_ ?_
  · cases logical : group.logical with
    | all =>
        rw [logical] at rest
        rw [textOf]
        refine (finds_gap_nothing solid).bind fun _ _ => ?_
        refine (finds_optional_none (misses_rootMark_parts parts.begins)).bind fun anyMark none => ?_
        refine (finds_gap_nothing solid).bind fun _ _ => rest anyMark ?_
        rw [none]
        rfl
    | any =>
        rw [logical] at rest
        rw [textOf, joinTexts_cons, List.cons_append, List.cons_append, List.nil_append]
        refine (finds_gap_nothing (solid_cons rfl _)).bind fun _ _ => ?_
        refine (finds_optional_some (finds_rootMark _)).bind fun anyMark some => ?_
        refine (finds_gap_flatMap solid).bind fun _ _ => rest anyMark ?_
        rcases some with ⟨span, rfl, -⟩
        rfl
  · rintro span ⟨anyMark, items, ending⟩ ⟨marked, denotes⟩
    exact finds_pure ⟨marked, denotes⟩ []

end Criteria.Query
