import Criteria.Proofs.Exporting
import Criteria.Proofs.Query.Names

/-!
# Reading what was written

A condition that was read can be written, what is written is read as the same condition, and that is written as
the same text.  Comparisons by greater or lower are left out, and so are values that differ from what their views
denote.
-/

namespace Criteria

/-! ## Writing without views -/

namespace Query

open Scan

theorem writeEntry_withoutView (field : Field) (e : Entry) : writeEntry field e.withoutView = writeEntry field e := by
  cases e <;> rfl

theorem writeStatement_withoutViews (schema : Schema) (name : String) (bag : Bag) :
    writeStatement schema name bag.withoutViews = writeStatement schema name bag := by
  rw [writeStatement, writeStatement, Bag.toList_withoutViews]
  simp only [List.mapM_map, writeEntry_withoutView, Function.comp_def]

/-- Writing does not look at views. -/
theorem writeParts_withoutViews (schema : Schema) (group : Group) :
    writeParts schema group.withoutViews = writeParts schema group := by
  induction group with
  | step logical fields groups ih =>
      have below : (groups.map Group.withoutViews).map (writeParts schema) = groups.map (writeParts schema) := by
        rw [List.map_map]
        exact List.map_congr_left fun group mem => ih group mem
      rw [Group.withoutViews_mk, writeParts_mk, writeParts_mk, below, Keyed.entries_map, List.filter_map,
        List.mapM_map]
      simp only [Function.comp_def, Bag.isEmpty_withoutViews, writeStatement_withoutViews]

theorem write_withoutViews (schema : Schema) (group : Group) :
    write ⟨schema, group.withoutViews⟩ = write ⟨schema, group⟩ := by
  rw [write, write]
  simp only [writeParts_withoutViews]

/-! ## Writing succeeds -/

/-- A tree whose bags can be recovered is written. -/
theorem exists_writeParts {schema : Schema} {group : Group} (all : group.AllBags (Recoverable schema)) :
    ∃ written, writeParts schema group = .ok written := by
  refine (succeeds_writeParts_iff group).mpr (all.mono ?_)
  rintro name bag ⟨-, -, ⟨field, known⟩, recovers⟩ -
  refine ⟨field, known, fun e he v hv => ?_⟩
  obtain ⟨view, toView, -⟩ := (recovers field known e he).shows v hv
  exact ⟨view, toView⟩

/-! ## Round trip -/

theorem length_joinTexts_le_textOf (logical : Logical) (texts : List (List Char)) :
    (joinTexts [' '] texts).length ≤ (textOf logical texts).length := by
  cases logical with
  | all => exact Nat.le_refl _
  | any =>
      cases texts with
      | nil => exact Nat.zero_le _
      | cons text texts =>
          rw [textOf, joinTexts_cons, joinTexts_cons, List.flatMap_cons]
          simp only [List.length_append, List.length_cons, List.length_nil]
          omega

theorem parse_of_finds {text : List Char} {P : QueryNode → Prop}
    (h : Finds (query (text.length + 1)) text [] P) : ∃ tree, parse text = .ok tree ∧ P tree := by
  obtain ⟨tree, stop, found, holds⟩ := h 0
  refine ⟨tree, ?_, holds⟩
  rw [parse, Cursor.start]
  cases outcome : query (text.length + 1) ⟨text, 0⟩ with
  | mk reach result =>
      rw [outcome] at found
      cases found
      rfl

/-- What is written of a tree whose bags can be recovered stands for that tree but for its views. -/
theorem exists_recovered {schema : Schema} {root : Group} (all : root.AllBags (Recoverable schema)) :
    ∃ text, write ⟨schema, root⟩ = .ok text ∧ ∃ tree, parse text.toList = .ok tree ∧
      ∃ found, unrestricted? schema tree = some found ∧ found.withoutViews = root.withoutViews := by
  obtain ⟨⟨logical, texts⟩, written⟩ := exists_writeParts all
  obtain ⟨rfl, scan⟩ := partsScan_of_writeParts all written
  refine ⟨String.ofList (textOf root.logical texts), ?_, ?_⟩
  · rw [write, written]
    cases root.logical <;> rfl
  · rw [String.toList_ofList]
    obtain ⟨tree, parsed, marked, statements, groups, parts, same⟩ :=
      parse_of_finds (finds_query scan (Nat.lt_succ_of_le (length_joinTexts_le_textOf root.logical texts)))
    refine ⟨tree, parsed, .mk (logicalOf tree.anyMark) (statements.foldl gather .empty) groups, ?_, ?_⟩
    · rw [unrestricted?, parts]
      rfl
    · rw [marked]
      exact same

theorem exists_written {schema : Schema} {root : Group} (all : root.AllBags (Writable schema)) :
    ∃ text, write ⟨schema, root⟩ = .ok text ∧ ∃ tree, parse text.toList = .ok tree ∧
      ∃ found, unrestricted? schema tree = some found ∧ found.withoutViews = root.withoutViews :=
  exists_recovered (all.mono fun _ _ => Writable.recoverable)

/-- A condition that was read, and that has only entries that can be written and read again, is written as a text
that is read as the same condition, and that one is written as the same text. -/
theorem read_write_read {schema : Schema} {limits : Limits} {text : String} {c : Condition}
    (accepted : read schema limits text = .ok c)
    (writes : c.root.AllBags fun name bag =>
      ∀ field, schema.field? name = some field → ∀ e ∈ bag.toList, field.Writes e) :
    ∃ written d, c.exportBy write limits = .ok written ∧ read schema limits written = .ok d ∧
      d.schema = c.schema ∧ d.root.withoutViews = c.root.withoutViews ∧ c.same d = true ∧
        d.exportBy write limits = .ok written := by
  obtain ⟨tree, parsed, root, found, valid, rfl⟩ := (read_eq_ok_iff schema limits text c).mp accepted
  have proper := proper_of_unrestricted? parsed found
  have writable : root.AllBags (Writable schema) := by
    refine ((proper.and (known_of_problems valid)).and writes).mono ?_
    rintro name bag ⟨⟨⟨isName, filled⟩, known⟩, writes⟩
    exact ⟨isName, filled, known, writes⟩
  obtain ⟨written, output, again, parsedAgain, other, foundAgain, same⟩ := exists_written writable
  have validAgain : (⟨schema, other⟩ : Condition).problems limits = [] := by
    rw [Condition.problems, ← Validation.groupProblems_withoutViews, same, Validation.groupProblems_withoutViews]
    exact valid
  have equal : root.same other = true := by
    refine Group.same_of_withoutViews same.symm (writable.mono ?_)
    rintro name bag ⟨-, -, ⟨field, known⟩, writes⟩ e he v hv
    exact ((writes field known e he).shows v hv).same_self
  refine ⟨written, ⟨schema, other⟩, ?_, ?_, rfl, same, ?_, ?_⟩
  · rw [Condition.exportBy, valid]
    exact output
  · exact (read_eq_ok_iff schema limits written _).mpr ⟨again, parsedAgain, other, foundAgain, validAgain, rfl⟩
  · rw [Condition.same, equal]
    simp
  · rw [Condition.exportBy, validAgain, ← write_withoutViews, same, write_withoutViews]
    exact output

/-- One field of texts. -/
def shelf : Schema :=
  ⟨"shelf", [.text "title"], by decide⟩

/-- A text that needs quotes, a negated match, and an empty group whose parts are joined by OR. -/
def shelfRoot : Group :=
  .mk .all ⟨[("title", .ofList [.excludedSingle ⟨.string "b;", "b;"⟩,
    .textMatch ⟨"c", .contains, true, false⟩])], by decide⟩ [.mk .any .empty []]

theorem read_write_read_shelf :
    read shelf ⟨4, 2, 2⟩ "title: !\"b;\", ~!*c; *()" = .ok ⟨shelf, shelfRoot⟩ ∧
      ∃ written d, (⟨shelf, shelfRoot⟩ : Condition).exportBy write ⟨4, 2, 2⟩ = .ok written ∧
        read shelf ⟨4, 2, 2⟩ written = .ok d ∧ d.schema = shelf ∧
          d.root.withoutViews = shelfRoot.withoutViews ∧ Condition.same ⟨shelf, shelfRoot⟩ d = true ∧
            d.exportBy write ⟨4, 2, 2⟩ = .ok written := by
  have parsed : parse "title: !\"b;\", ~!*c; *()".toList = .ok ⟨⟨0, 23⟩, none, [
      .statement ⟨⟨0, 19⟩, ⟨0, 5⟩, "title".toList, some (⟨7, 18⟩,
        [.excludedSingle ⟨7, 12⟩ ⟨⟨8, 12⟩, true, ['b', ';']⟩,
          .textMatch ⟨⟨14, 18⟩, none, some ⟨15, 16⟩, ⟨16, 17⟩, .contains, ⟨⟨17, 18⟩, false, ['c']⟩, none⟩])⟩,
      .group ⟨20, 23⟩ (some ⟨20, 21⟩) []], ⟨23, 23⟩⟩ := by
    decide +kernel
  have accepted : read shelf ⟨4, 2, 2⟩ "title: !\"b;\", ~!*c; *()" = .ok ⟨shelf, shelfRoot⟩ := by
    refine (read_eq_ok_iff _ _ _ _).mpr ⟨_, parsed, shelfRoot, ?_, by decide +kernel, rfl⟩
    simp only [unrestricted?, parts?]
    rfl
  refine ⟨accepted, read_write_read accepted ?_⟩
  have writes (field : Field) (known : shelf.field? "title" = some field) :
      field.Writes (.excludedSingle ⟨.string "b;", "b;"⟩) ∧
        field.Writes (.textMatch ⟨"c", .contains, true, false⟩) := by
    obtain rfl : Field.text "title" = field := Option.some.inj known
    refine ⟨⟨?_, trivial⟩, ⟨fun _ mem => absurd mem List.not_mem_nil, trivial⟩⟩
    exact List.forall_mem_singleton.mpr ⟨"b;", rfl, rfl⟩
  simp only [shelfRoot, Group.allBags_mk, List.forall_mem_singleton]
  refine ⟨fun field known => ?_, fun _ mem => absurd mem List.not_mem_nil,
    fun _ mem => absurd mem List.not_mem_nil⟩
  obtain ⟨first, second⟩ := writes field known
  exact List.forall_mem_cons.mpr ⟨first, List.forall_mem_singleton.mpr second⟩

end Query

end Criteria
