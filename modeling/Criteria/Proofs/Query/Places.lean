import Criteria.Proofs.Acceptance
import Criteria.Proofs.Query.Tracking

/-!
# Places in queries

The tree of a query tells where its parts stand: at the place of a name the text has this name, at the place of an entry
the grammar reads this entry, and the places rise with the text.  A text that does not follow the grammar is given up at
a place of it.
-/

namespace Criteria.Query

open Scan

/-! ## Rising places -/

/-- Places rise from one place on and stay below another. -/
structure Rising (start stop : Nat) (places : List Nat) : Prop where
  ordered : places.Pairwise (· < ·)
  inside : ∀ place ∈ places, start ≤ place ∧ place < stop

namespace Rising

variable {start middle stop : Nat} {places others : List Nat}

theorem nil (start stop : Nat) : Rising start stop [] :=
  ⟨.nil, List.forall_mem_nil _⟩

theorem append (first : Rising start middle places) (second : Rising middle stop others) (less : start ≤ middle)
    (lessToo : middle ≤ stop) : Rising start stop (places ++ others) := by
  refine ⟨List.pairwise_append.mpr ⟨first.ordered, second.ordered, fun p hp q hq => ?_⟩,
    List.forall_mem_append.mpr ⟨fun p hp => ?_, fun p hp => ?_⟩⟩
  · exact Nat.lt_of_lt_of_le (first.inside p hp).2 (second.inside q hq).1
  · exact (first.inside p hp).imp_right fun below => Nat.lt_of_lt_of_le below lessToo
  · exact (second.inside p hp).imp_left (Nat.le_trans less)

theorem mono (rising : Rising middle stop places) {last : Nat} (less : start ≤ middle) (lessToo : stop ≤ last) :
    Rising start last places :=
  ⟨rising.ordered, fun p hp => (rising.inside p hp).imp (Nat.le_trans less) fun below => Nat.lt_of_lt_of_le below lessToo⟩

theorem singleton {place : Nat} (less : start ≤ place) (below : place < stop) : Rising start stop [place] :=
  ⟨List.pairwise_singleton _ _, List.forall_mem_singleton.mpr ⟨less, below⟩⟩

end Rising

/-- An element between two places: it is good, and its own places rise between them. -/
structure Between {α : Type} (good : α → Prop) (placesOf : α → List Nat) (start stop : Nat) (a : α) : Prop where
  less : start ≤ stop
  holds : good a
  rising : Rising start stop (placesOf a)

theorem Between.weaken {α : Type} {good : α → Prop} {placesOf : α → List Nat} {start middle stop : Nat} {a : α}
    (between : Between good placesOf middle stop a) (less : start ≤ middle) : Between good placesOf start stop a :=
  ⟨Nat.le_trans less between.less, between.holds, between.rising.mono less le_rfl⟩

/-- Elements that follow one another are good, and their places rise, if it is so for each of them. -/
theorem Between.all {α : Type} {good : α → Prop} {placesOf : α → List Nat} {start stop : Nat} {as : List α}
    (along : Along (Between good placesOf) start stop as) :
    start ≤ stop ∧ (∀ a ∈ as, good a) ∧ Rising start stop (as.flatMap placesOf) := by
  induction along with
  | nil less => exact ⟨less, List.forall_mem_nil _, .nil _ _⟩
  | cons less here _ ih =>
      obtain ⟨last, all, rising⟩ := ih
      refine ⟨Nat.le_trans less (Nat.le_trans here.less last), List.forall_mem_cons.mpr ⟨here.holds, all⟩, ?_⟩
      exact (here.rising.append rising here.less last).mono less le_rfl

/-! ## Entries -/

/-- At the place of an entry the grammar reads it. -/
def EntryNode.StandsIn (node : EntryNode) (text : List Char) : Prop :=
  (entry ⟨text.drop node.span.start, node.span.start⟩).found =
    some (node, ⟨text.drop node.span.stop, node.span.stop⟩)

/-- An entry stands in a text between two places. -/
def EntryNode.LiesIn (node : EntryNode) (text : List Char) (start stop : Nat) : Prop :=
  Between (EntryNode.StandsIn · text) (fun node => [node.span.start]) start stop node

section Entries

variable {text : List Char}

theorem moves_scalar : Moves text scalar := by
  intro c
  refine Tracks.orElse ?_ ?_
  · exact tracks_quotedText.node.bind fun _ _ _ holds => tracks_pure holds.2
  · exact (tracks_run _).node.bind fun _ _ _ holds => tracks_pure holds.2.2

theorem keeps_mark (expected : Char) : Keeps text (optional (mark (char expected))) :=
  (moves_char expected).mark.keeps.optional

theorem tracks_comparison (c : Cursor) : Tracks text comparison c (Spans EntryNode.span c) := by
  have operator : Keeps text compareOperator := by
    intro c
    refine (tracks_oneOf (P := fun _ _ => True) fun s mem => ?_).node.keep
    obtain ⟨op, -, rfl⟩ := List.mem_map.mp mem
    exact (tracks_chars _).bind fun _ _ _ _ => tracks_pure trivial
  refine Moves.spanned ?_ EntryNode.span (fun _ _ => ⟨_, rfl, rfl⟩) c
  exact operator.bind_moves fun _ => keeps_gap.bind_moves fun _ => moves_scalar.bind fun _ => keeps_pure _

theorem tracks_rangeNode (c : Cursor) : Tracks text rangeNode c (Spans RangeNode.span c) := by
  refine Moves.spanned ?_ RangeNode.span (fun _ _ => ⟨_, rfl, rfl⟩) c
  refine (keeps_mark ']').bind_moves fun _ => keeps_gap.bind_moves fun _ => moves_scalar.bind fun _ => ?_
  refine keeps_gap.bind fun _ => (moves_char '-').keeps.bind fun _ => keeps_gap.bind fun _ => ?_
  refine moves_scalar.keeps.bind fun _ => keeps_gap.bind fun _ => ?_
  exact (keeps_mark '[').bind fun _ => keeps_pure _

theorem tracks_matchNode (c : Cursor) : Tracks text matchNode c (Spans MatchNode.span c) := by
  have kind : Keeps text matchKind := by
    intro c
    refine (tracks_oneOf (P := fun _ _ => True) fun s mem => ?_).node.keep
    obtain ⟨kind, -, rfl⟩ := List.mem_map.mp mem
    exact (moves_char _).keeps.bind (fun _ => keeps_pure _) c
  refine Moves.spanned ?_ MatchNode.span (fun _ _ => ⟨_, rfl, rfl⟩) c
  refine (moves_char '~').bind fun _ => (keeps_mark 'i').bind fun _ => (keeps_mark '!').bind fun _ => ?_
  refine kind.bind fun _ => moves_scalar.keeps.bind fun _ => ?_
  exact (keeps_mark '*').bind fun _ => keeps_pure _

theorem tracks_entry (c : Cursor) : Tracks text entry c fun node d => node.LiesIn text c.offset d.offset := by
  have spanned : Tracks text entry c (Spans EntryNode.span c) := by
    refine tracks_oneOf ?_
    simp only [List.forall_mem_cons, List.not_mem_nil, false_implies, implies_true, and_true]
    refine ⟨(tracks_matchNode c).map fun _ _ ⟨span, here⟩ => ⟨span, here⟩, tracks_comparison c, ?_, ?_,
      (tracks_rangeNode c).map fun _ _ ⟨span, here⟩ => ⟨span, here⟩, ?_⟩
    · refine Moves.spanned ?_ EntryNode.span (fun _ _ => ⟨_, rfl, rfl⟩) c
      exact (moves_char '!').bind fun _ => keeps_gap.bind fun _ c => (tracks_rangeNode c).keep
    · refine Moves.spanned ?_ EntryNode.span (fun _ _ => ⟨_, rfl, rfl⟩) c
      exact (moves_char '!').bind fun _ => keeps_gap.bind fun _ => moves_scalar.keeps
    · exact Moves.spanned moves_scalar EntryNode.span (fun _ _ => ⟨_, rfl, rfl⟩) c
  refine spanned.mono fun node d stands there less found ⟨span, here⟩ => ?_
  rw [stands.eq, there.eq] at found
  refine ⟨less, ?_, ?_⟩
  · rw [EntryNode.StandsIn, span]
    exact found
  · rw [span]
    exact .singleton le_rfl here

end Entries

/-! ## Statements and groups -/

/-- All entries of a list stand in a text, and their places rise between two others. -/
structure EntriesLie (text : List Char) (start stop : Nat) (nodes : List EntryNode) : Prop where
  stand : ∀ node ∈ nodes, node.StandsIn text
  rising : Rising start stop (nodes.map fun node => node.span.start)

/-- At the place of the name of a statement the text has the name, and at the places of its entries it has them. -/
structure StatementNode.StandsIn (node : StatementNode) (text : List Char) : Prop where
  name : node.name <+: text.drop node.nameSpan.start
  entries : ∀ entry ∈ node.nodes, entry.StandsIn text

/-- The places of a statement: that of its name and those of its entries. -/
def StatementNode.places (node : StatementNode) : List Nat :=
  node.nameSpan.start :: node.nodes.map fun entry => entry.span.start

/-- All statements in items and below stand in a text, and their places rise between two others. -/
structure Lies (text : List Char) (start stop : Nat) (items : List ItemNode) : Prop where
  stands : ∀ node ∈ statementsOf items, node.StandsIn text
  rising : Rising start stop ((statementsOf items).flatMap StatementNode.places)

section Items

variable {text : List Char} {start stop : Nat}

theorem lies_nil : Lies text start stop [] := by
  refine ⟨?_, ?_⟩
  · rw [statementsOf]
    exact List.forall_mem_nil _
  · rw [statementsOf, List.flatMap_nil]
    exact .nil _ _

theorem lies_statement {node : StatementNode} (stands : node.StandsIn text) (rising : Rising start stop node.places) :
    Lies text start stop [.statement node] := by
  refine ⟨?_, ?_⟩
  · rw [statementsOf, statementsOf]
    exact List.forall_mem_singleton.mpr stands
  · rw [statementsOf, statementsOf, List.flatMap_singleton]
    exact rising

theorem lies_group {items : List ItemNode} (lies : Lies text start stop items) (span : Span) (anyMark : Option Span) :
    Lies text start stop [.group span anyMark items] := by
  have same : statementsOf [.group span anyMark items] = statementsOf items := by
    rw [statementsOf, statementsOf, List.append_nil]
  exact ⟨same ▸ lies.stands, same ▸ lies.rising⟩

theorem Lies.mono {items : List ItemNode} (lies : Lies text start stop items) {first last : Nat} (less : first ≤ start)
    (lessToo : stop ≤ last) : Lies text first last items :=
  ⟨lies.stands, lies.rising.mono less lessToo⟩

theorem tracks_fieldName (c : Cursor) : Tracks text fieldName c fun found d =>
    found.1.start = c.offset ∧ found.2 <+: text.drop c.offset ∧ c.offset < d.offset := by
  have start : Tracks text (ahead (run isNameStart)) c fun _ d => d = c := (tracks_run _).ahead
  have name : Tracks text (ahead (run isNameStart) >>= fun _ => run isNamePart) c fun word d =>
      word <+: text.drop c.offset ∧ c.offset < d.offset := by
    refine start.bind fun _ d _ same => (tracks_run _).mono fun word e stands _ _ _ holds => ?_
    subst same
    exact stands.rest ▸ holds
  refine name.node.mono fun found d _ _ _ _ ⟨span, holds⟩ => ?_
  rw [span]
  exact ⟨rfl, holds⟩

theorem tracks_entryList (fuel : Nat) (c : Cursor) :
    Tracks text (entryList fuel) c fun found d => EntriesLie text c.offset d.offset found.2 := by
  have another (c : Cursor) : Tracks text (char ',' >>= fun _ => gap >>= fun _ => entry) c fun node d =>
      node.LiesIn text c.offset d.offset := by
    refine (tracks_one _).bind fun _ e less _ => tracks_gap.bind fun _ f lessToo _ => ?_
    exact (tracks_entry f).mono fun node d _ _ _ _ lies => Between.weaken lies (Nat.le_trans less lessToo)
  refine Tracks.mono (Tracks.node (P := fun nodes d => EntriesLie text c.offset d.offset nodes) ?_)
    fun _ _ _ _ _ _ holds => holds.2
  refine (tracks_entry c).bind fun first d₁ _ lies => tracks_gap.bind fun _ d₂ less₂ _ => ?_
  refine (Tracks.many (P := fun start stop node => node.LiesIn text start stop) another fuel d₂).bind fun others d₃ _ along => ?_
  refine tracks_gap.bind fun _ d₄ less₄ _ => ((moves_char ',').keeps.optional d₄).bind fun _ d less _ => tracks_pure ?_
  obtain ⟨-, stand, rising⟩ := Between.all (.cons le_rfl lies (along.weaken less₂))
  refine ⟨stand, ?_⟩
  rw [List.map_eq_flatMap]
  exact rising.mono le_rfl (Nat.le_trans less₄ less)

theorem tracks_statement (fuel : Nat) (c : Cursor) : Tracks text (statement fuel) c fun node d =>
    Lies text c.offset d.offset [.statement node] := by
  have ending : Keeps text (oneOf [char ';', ahead (char ')'), ahead (mark ending)]) := by
    intro c
    refine tracks_oneOf ?_
    simp only [List.forall_mem_cons, List.not_mem_nil, false_implies, implies_true, and_true]
    exact ⟨((moves_char ';') c).keep, ((moves_char ')') c).ahead.keep, (tracks_ending.mark (c := c)).ahead.keep⟩
  refine Tracks.bind (Tracks.node (P := fun parts d => ∀ span,
    Lies text c.offset d.offset [.statement ⟨span, parts.1.1, parts.1.2, parts.2⟩]) ?_) ?_
  · refine (tracks_fieldName c).bind fun name d₁ less₁ ⟨start, named, here⟩ => tracks_gap.bind fun _ d₂ less₂ _ => ?_
    refine (tracks_one _).bind fun _ d₃ less₃ _ => tracks_gap.bind fun _ d₄ less₄ _ => ?_
    refine (tracks_entryList fuel d₄).optional.bind fun entries d₅ less₅ holds => tracks_gap.bind fun _ d₆ less₆ _ => ?_
    refine (ending d₆).bind fun _ d less _ => tracks_pure fun span => ?_
    have own : Rising c.offset d₁.offset [name.1.start] :=
      .singleton (Nat.le_of_eq start.symm) (start ▸ here)
    cases entries with
    | none =>
        refine lies_statement ⟨start ▸ named, List.forall_mem_nil _⟩ ?_
        exact own.mono le_rfl (by omega)
    | some entries =>
        obtain ⟨all, rising⟩ := holds entries rfl
        refine lies_statement ⟨start ▸ named, all⟩ ?_
        exact own.append (rising.mono (by omega) (by omega)) less₁ (by omega)
  · rintro ⟨span, ⟨nameSpan, name⟩, entries⟩ d _ ⟨-, holds⟩
    exact tracks_pure (holds span)

theorem statementsOf_filterMap (founds : List (Option ItemNode)) :
    statementsOf (founds.filterMap id) = founds.flatMap fun found => statementsOf found.toList := by
  induction founds with
  | nil => rw [List.filterMap_nil, List.flatMap_nil, statementsOf]
  | cons found founds ih =>
      rw [List.flatMap_cons, ← ih]
      cases found with
      | none => rw [List.filterMap_cons_none rfl, Option.toList_none, statementsOf, List.nil_append]
      | some node =>
          have kept : (some node :: founds).filterMap id = node :: founds.filterMap id := List.filterMap_cons_some rfl
          rw [kept, Option.toList_some]
          cases node <;> simp [statementsOf]

theorem tracks_itemsOf {item : Scan (Option ItemNode)}
    (h : ∀ c, Tracks text item c fun found d => Lies text c.offset d.offset found.toList) (bound : Nat) (c : Cursor) :
    Tracks text (itemsOf bound item) c fun items d => Lies text c.offset d.offset items := by
  have each (c : Cursor) : Tracks text item c fun found d =>
      Between (fun found => ∀ node ∈ statementsOf found.toList, node.StandsIn text)
        (fun found => (statementsOf found.toList).flatMap StatementNode.places) c.offset d.offset found :=
    (h c).mono fun _ _ _ _ less _ lies => ⟨less, lies.stands, lies.rising⟩
  refine (Tracks.many each bound c).bind fun founds d _ along => tracks_pure ?_
  obtain ⟨-, stands, rising⟩ := Between.all along
  refine ⟨?_, ?_⟩
  · rw [statementsOf_filterMap]
    exact List.forall_mem_flatMap.mpr stands
  · rw [statementsOf_filterMap, List.flatMap_assoc]
    exact rising

theorem tracks_groupOf {items : Scan (List ItemNode)}
    (h : ∀ c, Tracks text items c fun items d => Lies text c.offset d.offset items) (c : Cursor) :
    Tracks text (groupOf items) c fun node d => Lies text c.offset d.offset [node] := by
  refine Tracks.bind (Tracks.node (P := fun parts d => Lies text c.offset d.offset parts.2) ?_) ?_
  · refine (keeps_mark '*' c).bind fun anyMark d₁ less₁ _ => tracks_gap.bind fun _ d₂ less₂ _ => ?_
    refine (tracks_one _).bind fun _ d₃ less₃ _ => tracks_gap.bind fun _ d₄ less₄ _ => ?_
    refine (h d₄).bind fun items d₅ less₅ lies => tracks_gap.bind fun _ d₆ less₆ _ => ?_
    refine (tracks_one _).bind fun _ d less _ => tracks_pure ?_
    exact lies.mono (by omega) (by omega)
  · rintro ⟨span, anyMark, items⟩ d _ ⟨-, lies⟩
    exact tracks_pure (lies_group lies span anyMark)

theorem tracks_item (fuel : Nat) (c : Cursor) :
    Tracks text (item fuel) c fun found d => Lies text c.offset d.offset found.toList := by
  induction fuel generalizing c with
  | zero => exact tracks_fail _
  | succ fuel ih =>
      have separator : Keeps text separator := fun c => ((moves_char ';') c).orElse ((moves_char ',') c) |>.keep
      refine tracks_oneOf ?_
      simp only [List.forall_mem_cons, List.not_mem_nil, false_implies, implies_true, and_true]
      refine ⟨(tracks_statement fuel c).map fun _ _ => id, ?_, (separator c).map fun _ d _ => ?_⟩
      · exact (tracks_groupOf (tracks_itemsOf ih fuel) c).map fun _ _ => id
      · exact lies_nil

theorem tracks_query (fuel : Nat) (c : Cursor) :
    Tracks text (query fuel) c fun tree d => Lies text c.offset d.offset tree.items := by
  have star : Keeps text (optional rootMark) := by
    refine Keeps.optional (Moves.mark ?_).keeps
    refine (moves_char '*').bind fun _ => keeps_gap.bind fun _ c => ?_
    exact ((moves_char ';') c).keep.orElse (tracks_notAhead '(').keep
  refine Tracks.bind (Tracks.node (P := fun parts d => Lies text c.offset d.offset parts.2.1) ?_) ?_
  · refine tracks_gap.bind fun _ d₁ less₁ _ => (star d₁).bind fun anyMark d₂ less₂ _ => ?_
    refine tracks_gap.bind fun _ d₃ less₃ _ => (tracks_itemsOf (tracks_item fuel) fuel d₃).bind fun items d₄ less₄ lies => ?_
    refine tracks_gap.bind fun _ d₅ less₅ _ => tracks_ending.mark.bind fun _ d less _ => tracks_pure ?_
    exact lies.mono (by omega) (by omega)
  · rintro ⟨span, anyMark, items, ending⟩ d _ ⟨-, lies⟩
    exact tracks_pure lies

end Items

/-- A text that does not follow the grammar is given up at a place of it. -/
theorem le_of_parse {text : List Char} {offset : Nat} (parsed : parse text = .error offset) : offset ≤ text.length := by
  obtain ⟨reach, -⟩ := tracks_query (text.length + 1) _ (Cursor.standsIn_start text)
  rw [parse] at parsed
  cases outcome : query (text.length + 1) (.start text) with
  | mk far found =>
      rw [outcome] at parsed reach
      cases found with
      | none =>
          cases parsed
          exact reach
      | some found => cases parsed

/-- The statements of a query stand in its text, one behind the other. -/
theorem lies_of_parse {text : List Char} {tree : QueryNode} (parsed : parse text = .ok tree) :
    Lies text 0 text.length tree.items := by
  obtain ⟨-, founds⟩ := tracks_query (text.length + 1) _ (Cursor.standsIn_start text)
  rw [parse] at parsed
  cases outcome : query (text.length + 1) (.start text) with
  | mk far found =>
      rw [outcome] at parsed founds
      cases found with
      | none => cases parsed
      | some found =>
          cases parsed
          obtain ⟨there, -, lies⟩ := founds _ _ rfl
          exact lies.mono le_rfl there.inside

end Criteria.Query
