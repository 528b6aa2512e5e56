import Criteria.Proofs.Exchange.Decoding
import Criteria.Proofs.Exchange.RoundTrip
import Criteria.Proofs.Extent

/-!
# Conditions as JSON text

The JSON text of a valid condition without empty bags is read back as the same condition, exactly if the brackets and
braces of the text nest no deeper than a decoder goes and all its values can be shown.  Each level of groups costs two
brackets, so the limit on nested groups does not keep the text readable.
-/

namespace Criteria

theorem Group.withoutEmptyBags_of_filled {group : Group} (filled : group.AllBags fun _ bag => bag.isEmpty = false) :
    group.withoutEmptyBags = group := by
  induction group with
  | step logical fields groups ih =>
      rw [allBags_mk] at filled
      have bags : fields.filled = fields :=
        Keyed.ext_entries (List.filter_eq_self.mpr fun entry mem => by rw [filled.1 entry mem]; rfl)
      have below : groups.map withoutEmptyBags = groups :=
        (List.map_congr_left fun g mem => ih g mem (filled.2 g mem)).trans (List.map_id groups)
      rw [withoutEmptyBags_mk, bags, below]

namespace Exchange

open Json

/-! ## How deep forms nest -/

theorem nesting_listSlot_lt {α : Type} {encode : α → Json} {xs : List α} {level : Nat} (positive : 0 < level)
    (each : ∀ x ∈ xs, (encode x).nesting < level) : ∀ j ∈ listSlot encode xs, j.nesting < level + 1 := by
  rw [listSlot]
  split
  · rintro _ ⟨⟩
    exact nesting_array_lt_iff.mpr ⟨positive, List.forall_mem_map.mpr each⟩
  · rintro _ ⟨⟩

theorem BagForm.nesting_toJson_lt (bag : BagForm) : bag.toJson.nesting < 4 := by
  have ranges (r : RangeForm) : r.toJson.nesting < 2 := by
    rw [RangeForm.toJson_eq, nesting_recordOf_lt_iff]
    rcases r with ⟨lower, upper, includesLower, includesUpper⟩
    cases includesLower <;> cases includesUpper <;> simp [Json.text, nesting]
  have comparisons (c : ComparisonForm) : c.toJson.nesting < 2 := by
    rw [ComparisonForm.toJson_eq, nesting_recordOf_lt_iff]
    simp [Json.text, nesting]
  have textMatches (m : MatchForm) : m.toJson.nesting < 2 := by
    rw [MatchForm.toJson_eq, nesting_recordOf_lt_iff]
    rcases m with ⟨typeName, value, ignoresCase⟩
    cases ignoresCase <;> simp [Json.text, nesting]
  have texts (t : String) : (Json.text t).nesting < 2 := by simp [Json.text, nesting]
  rw [toJson_eq, nesting_recordOf_lt_iff]
  simp only [List.forall_mem_cons]
  exact ⟨by decide, nesting_listSlot_lt two_pos fun t _ => texts t, nesting_listSlot_lt two_pos fun t _ => texts t,
    nesting_listSlot_lt two_pos fun r _ => ranges r, nesting_listSlot_lt two_pos fun r _ => ranges r,
    nesting_listSlot_lt two_pos fun c _ => comparisons c, nesting_listSlot_lt two_pos fun m _ => textMatches m,
    List.forall_mem_nil _⟩

theorem nesting_fieldsSlot_lt (fields : Keyed BagForm) : ∀ j ∈ fieldsSlot fields, j.nesting < 5 := by
  rw [fieldsSlot]
  split
  · rintro j ⟨⟩
    exact nesting_record_lt_iff.mpr ⟨by decide, List.forall_mem_map.mpr fun entry _ => entry.2.nesting_toJson_lt⟩
  · rintro _ ⟨⟩

/-- Two brackets for each level of groups, and five for the deepest group and what it says about fields. -/
theorem nesting_le_of_writeGroup {schema : Schema} {group : Group} {form : GroupForm}
    (written : writeGroup schema group = .ok form) : form.toJson.nesting ≤ 2 * group.depth + 5 := by
  rw [← Nat.lt_succ_iff]
  induction group generalizing form with
  | step logical fields groups ih =>
      obtain ⟨bags, forms, -, below, rfl⟩ := writeGroup_mk_eq_ok written
      have shallow : ∀ form ∈ forms, form.toJson.nesting < 2 * (Group.mk logical fields groups).depth + 4 := by
        intro form mem
        obtain ⟨g, hg, writes⟩ := exists_of_mem_mapM below mem
        have deeper : g.depth < (Group.mk logical fields groups).depth := Group.depth_lt_of_mem hg
        have nests := ih g hg writes
        omega
      rw [GroupForm.toJson_mk, nesting_recordOf_lt_iff]
      simp only [List.forall_mem_cons]
      refine ⟨by omega, fun j mem => ?_, nesting_listSlot_lt (by omega) shallow, keyword_shallow (by omega),
        List.forall_mem_nil _⟩
      exact Nat.lt_of_lt_of_le (nesting_fieldsSlot_lt _ j mem) (by omega)

/-! ## Reading the text -/

/-- What is written of a valid tree is read as the same tree without its empty bags, exactly if all its values can be
shown. -/
theorem exists_read_same_iff {schema : Schema} {limits : Limits} {root : Group} {form : GroupForm}
    (valid : (⟨schema, root⟩ : Condition).problems limits = [])
    (exchanges : root.AllBags (AboutField schema Field.Exchanges)) (written : writeGroup schema root = .ok form) :
    (∃ d, read schema limits form = .ok d ∧ Condition.same ⟨schema, root.withoutEmptyBags⟩ d = true) ↔
      root.AllBags (AboutField schema Field.Printable) := by
  rw [← enteredForms_shown_iff valid written exchanges]
  constructor
  · rintro ⟨d, accepted, -⟩
    exact ((read_eq_ok_iff schema limits form d).mp accepted).1
  · intro shows
    obtain ⟨found, stands, validAgain, -, equal, -⟩ := exists_unrestricted?_of_written valid exchanges written
    exact ⟨⟨schema, found⟩, (read_eq_ok_iff _ _ _ _).mpr ⟨shows, found, stands, validAgain, rfl⟩, equal⟩

theorem readText_eq_ok_iff {text : String} {form : GroupForm} {shallow : Prop}
    (found : ∀ other, GroupForm.ofText? text = some other ↔ shallow ∧ form = other) (schema : Schema) (limits : Limits)
    (d : Condition) : readText schema limits text = .ok d ↔ shallow ∧ read schema limits form = .ok d := by
  rw [readText]
  cases parsed : GroupForm.ofText? text with
  | none =>
      have deep : ¬shallow := fun holds => nomatch parsed.symm.trans ((found form).mpr ⟨holds, rfl⟩)
      exact iff_of_false (fun h => nomatch h) (fun h => deep h.1)
  | some other =>
      obtain ⟨holds, rfl⟩ := (found other).mp parsed
      exact (and_iff_right holds).symm

/-- A valid condition without empty bags, whose values are what their norms denote, is written as JSON text, and this
text, compact or pretty, is read as the same condition exactly if it nests no deeper than 127 brackets and all values
can be shown. -/
theorem text_read_back_iff {c : Condition} {limits : Limits} (valid : c.problems limits = [])
    (filled : c.root.AllBags fun _ bag => bag.isEmpty = false)
    (exchanges : c.root.AllBags (AboutField c.schema Field.Exchanges)) :
    ∃ form, c.exportBy write limits = .ok form ∧ form.toJson.nesting ≤ 2 * c.root.depth + 5 ∧
      ∀ text ∈ [form.compactText, form.prettyText],
        (∃ d, readText c.schema limits text = .ok d ∧ c.same d = true) ↔
          form.toJson.nesting ≤ 127 ∧ c.root.AllBags (AboutField c.schema Field.Printable) := by
  rcases c with ⟨schema, root⟩
  obtain ⟨form, written⟩ := exists_writeGroup valid exchanges
  have back := exists_read_same_iff valid exchanges written
  rw [Group.withoutEmptyBags_of_filled filled] at back
  refine ⟨form, (Condition.exportBy_eq_write valid).trans written, nesting_le_of_writeGroup written, fun text mem => ?_⟩
  have found : ∀ other, GroupForm.ofText? text = some other ↔ form.toJson.nesting < startLevel ∧ form = other := by
    rcases List.mem_pair.mp mem with rfl | rfl
    · exact form.ofText?_compactText_iff
    · exact form.ofText?_prettyText_iff
  simp only [readText_eq_ok_iff found, and_assoc, exists_and_left, back]
  exact and_congr_left fun _ => Nat.lt_succ_iff

/-- A range of dates and an empty group below. -/
def pageRoot : Group :=
  .mk .any ⟨[("day", .ofList [.range ⟨.date leapDay, .date afterLeapDay, true, false, "", ""⟩])], by decide⟩
    [.empty .any]

theorem text_read_back_iff_page :
    (⟨diary, pageRoot⟩ : Condition).problems .standard = [] ∧
      (pageRoot.AllBags fun _ bag => bag.isEmpty = false) ∧ pageRoot.AllBags (AboutField diary Field.Exchanges) ∧
        ∃ form, (⟨diary, pageRoot⟩ : Condition).exportBy write .standard = .ok form ∧
          ∀ text ∈ [form.compactText, form.prettyText],
            ∃ d, readText diary .standard text = .ok d ∧ Condition.same ⟨diary, pageRoot⟩ d = true := by
  have valid : (⟨diary, pageRoot⟩ : Condition).problems .standard = [] := by decide +kernel
  have all {P : String → Bag → Prop}
      (range : P "day" (.ofList [.range ⟨.date leapDay, .date afterLeapDay, true, false, "", ""⟩])) :
      pageRoot.AllBags P := by
    simp only [pageRoot, Group.empty, Group.allBags_mk, List.forall_mem_cons]
    exact ⟨⟨range, List.forall_mem_nil _⟩, ⟨List.forall_mem_nil _, List.forall_mem_nil _⟩, List.forall_mem_nil _⟩
  have about {P : Field → Value → Prop} (first : P days (.date leapDay)) (second : P days (.date afterLeapDay)) :
      pageRoot.AllBags (AboutField diary P) :=
    all ((aboutField_iff (show diary.field? "day" = some days from rfl)).mpr
      (List.forall_mem_singleton.mpr (List.forall_mem_cons.mpr ⟨first, List.forall_mem_singleton.mpr second⟩)))
  have exchanges := about (P := Field.Exchanges) ⟨"2012-02-29", rfl, rfl⟩ ⟨"2012-03-01", rfl, rfl⟩
  have printable := about (P := Field.Printable)
    (Field.printable_of_toView (show days.toView _ = .ok "29.02.2012" from rfl))
    (Field.printable_of_toView (show days.toView _ = .ok "01.03.2012" from rfl))
  obtain ⟨form, written, shallow, reads⟩ := text_read_back_iff valid (all rfl) exchanges
  exact ⟨valid, all rfl, exchanges, form, written, fun text mem =>
    (reads text mem).mpr ⟨shallow.trans (by decide), printable⟩⟩

/-- Empty groups, each but the last with one group below. -/
def nested : Nat → Group
  | 0 => .empty .all
  | n + 1 => .mk .all .empty [nested n]

/-- The form of nested groups. -/
def nestedForm : Nat → GroupForm
  | 0 => .mk .empty [] none
  | n + 1 => .mk .empty [nestedForm n] none

theorem writeGroup_nested (schema : Schema) (n : Nat) : writeGroup schema (nested n) = .ok (nestedForm n) := by
  induction n with
  | zero => rfl
  | succ n ih =>
      rw [nested, writeGroup_mk, List.mapM_cons, ih]
      rfl

theorem nesting_nestedForm (n : Nat) : (nestedForm n).toJson.nesting = 2 * n + 1 := by
  induction n with
  | zero => rfl
  | succ n ih =>
      have unfolded : (nestedForm (n + 1)).toJson = record [("groups", array [(nestedForm n).toJson])] :=
        GroupForm.toJson_mk .empty [nestedForm n] none
      rw [unfolded, record, List.map_singleton, nesting, nestingMembers, nestingMembers, nesting, nestingAll,
        nestingAll, ih]
      omega

/-- Sixty-four nested groups keep the usual limits, and their JSON text is not read. -/
theorem nested_text_not_read :
    (⟨diary, nested 64⟩ : Condition).problems .standard = [] ∧
      ((nested 64).AllBags fun _ bag => bag.isEmpty = false) ∧ (nested 64).AllBags (AboutField diary Field.Exchanges) ∧
        ∃ form, (⟨diary, nested 64⟩ : Condition).exportBy write .standard = .ok form ∧
          ∀ text ∈ [form.compactText, form.prettyText], ∀ d, readText diary .standard text ≠ .ok d := by
  have noBags (P : String → Bag → Prop) (n : Nat) : (nested n).AllBags P := by
    induction n with
    | zero => exact (Group.allBags_mk _ _ _ _).mpr ⟨List.forall_mem_nil _, List.forall_mem_nil _⟩
    | succ n ih => exact (Group.allBags_mk _ _ _ _).mpr ⟨List.forall_mem_nil _, List.forall_mem_singleton.mpr ih⟩
  have valid : (⟨diary, nested 64⟩ : Condition).problems .standard = [] := by decide +kernel
  have deep : ¬(nestedForm 64).toJson.nesting < startLevel := by
    rw [nesting_nestedForm]
    decide
  refine ⟨valid, noBags _ 64, noBags _ 64, nestedForm 64,
    (Condition.exportBy_eq_write valid).trans (writeGroup_nested diary 64), fun text mem d accepted => ?_⟩
  rcases List.mem_pair.mp mem with rfl | rfl
  · exact deep ((readText_eq_ok_iff (nestedForm 64).ofText?_compactText_iff _ _ _).mp accepted).1
  · exact deep ((readText_eq_ok_iff (nestedForm 64).ofText?_prettyText_iff _ _ _).mp accepted).1

end Exchange

end Criteria
