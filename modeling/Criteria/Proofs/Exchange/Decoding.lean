import Criteria.Exchange.Json
import Criteria.Proofs.Intake
import Criteria.Proofs.Json.Reading
import Criteria.Proofs.Keyed

/-!
# Decoding written forms

An exchange form is read back from its JSON text, compact or pretty, exactly if the brackets and braces of the text
nest less deep than the levels a decoder starts with.
-/

namespace Criteria

/-! ## Nesting -/

namespace Json

mutual

/-- How deep the brackets and braces of a value nest. -/
def nesting : Json → Nat
  | null | bool _ | number _ | string _ => 0
  | array elements => nestingAll elements + 1
  | object members => nestingMembers members + 1

/-- How deep the brackets and braces of several values nest. -/
def nestingAll : List Json → Nat
  | [] => 0
  | element :: elements => max (nesting element) (nestingAll elements)

/-- How deep the brackets and braces of the values of members nest. -/
def nestingMembers : List (Option String × Json) → Nat
  | [] => 0
  | (_, value) :: members => max (nesting value) (nestingMembers members)

end

theorem nestingAll_lt_iff {elements : List Json} {level : Nat} :
    nestingAll elements < level ↔ 0 < level ∧ ∀ j ∈ elements, j.nesting < level := by
  induction elements with
  | nil => simp [nestingAll]
  | cons element elements ih => rw [nestingAll, Nat.max_lt, ih, List.forall_mem_cons, and_left_comm]

theorem nestingMembers_lt_iff {members : List (Option String × Json)} {level : Nat} :
    nestingMembers members < level ↔ 0 < level ∧ ∀ member ∈ members, member.2.nesting < level := by
  induction members with
  | nil => simp [nestingMembers]
  | cons member members ih => rw [nestingMembers, Nat.max_lt, ih, List.forall_mem_cons, and_left_comm]

theorem nesting_array_lt_iff {elements : List Json} {level : Nat} :
    (array elements).nesting < level + 1 ↔ 0 < level ∧ ∀ j ∈ elements, j.nesting < level := by
  rw [nesting, Nat.add_lt_add_iff_right, nestingAll_lt_iff]

theorem nesting_record_lt_iff {members : List (String × Json)} {level : Nat} :
    (record members).nesting < level + 1 ↔ 0 < level ∧ ∀ member ∈ members, member.2.nesting < level := by
  rw [record, nesting, Nat.add_lt_add_iff_right, nestingMembers_lt_iff, List.forall_mem_map]

theorem bind_enter_eq_some_iff {α : Type} {level : Nat} {rest : Nat → Option α} {a : α} :
    (enter (level + 1) >>= rest) = some a ↔ 0 < level ∧ rest level = some a := by
  rw [enter]
  split
  · exact iff_of_false (fun h => nomatch h) (by omega)
  · have positive : 0 < level := by omega
    exact ⟨fun found => ⟨positive, found⟩, And.right⟩

/-! ## Records with members left out -/

/-- The members that are not left out. -/
def presentOf (members : List (String × Option Json)) : List (String × Json) :=
  members.flatMap fun member => (member.2.map (member.1, ·)).toList

/-- A record of the members that are not left out. -/
def recordOf (members : List (String × Option Json)) : Json :=
  record (presentOf members)

theorem forall_presentOf_iff {members : List (String × Option Json)} {P : String → Json → Prop} :
    (∀ member ∈ presentOf members, P member.1 member.2) ↔ ∀ member ∈ members, ∀ j ∈ member.2, P member.1 j := by
  simp only [presentOf, List.forall_mem_flatMap, Option.mem_toList, Option.mem_def, Option.map_eq_some_iff]
  refine forall₂_congr fun member _ => ⟨fun all j found => all _ ⟨j, found, rfl⟩, ?_⟩
  rintro all _ ⟨j, found, rfl⟩
  exact all j found

theorem nesting_recordOf_lt_iff {members : List (String × Option Json)} {level : Nat} :
    (recordOf members).nesting < level + 1 ↔ 0 < level ∧ ∀ member ∈ members, ∀ j ∈ member.2, j.nesting < level := by
  rw [recordOf, nesting_record_lt_iff, forall_presentOf_iff (P := fun _ j => j.nesting < level)]

theorem textual_recordOf {members : List (String × Option Json)}
    (each : ∀ member ∈ members, ∀ j ∈ member.2, Textual j) : Textual (recordOf members) :=
  .record ((forall_presentOf_iff (P := fun _ j => Textual j)).mpr each)

theorem filter_presentOf {key : String} {members : List (String × Option Json)} (absent : key ∉ members.map Prod.fst) :
    (presentOf members).filter (fun member => member.1 == key) = [] := by
  rw [List.filter_eq_nil_iff, forall_presentOf_iff (P := fun name _ => ¬(name == key) = true)]
  intro member mem _ _ same
  exact absent (List.mem_map.mpr ⟨member, mem, eq_of_beq same⟩)

/-- Under each key of a record stands its member, or nothing if it is left out. -/
theorem single?_presentOf {members : List (String × Option Json)} (distinct : (members.map Prod.fst).Nodup)
    {member : String × Option Json} (mem : member ∈ members) :
    single? member.1 (presentOf members) = some member.2 := by
  obtain ⟨before, after, rfl⟩ := List.append_of_mem mem
  rw [List.map_append, List.map_cons, List.nodup_append, List.nodup_cons] at distinct
  obtain ⟨-, ⟨later, -⟩, apart⟩ := distinct
  have earlier : member.1 ∉ before.map Prod.fst := fun mem => apart _ mem _ List.mem_cons_self rfl
  have found : (presentOf (before ++ member :: after)).filter (fun other => other.1 == member.1) =
      (member.2.map (member.1, ·)).toList := by
    rw [presentOf, List.flatMap_append, List.flatMap_cons, List.filter_append, List.filter_append]
    change (presentOf before).filter _ ++ (_ ++ (presentOf after).filter _) = _
    rw [filter_presentOf earlier, filter_presentOf later, List.nil_append, List.append_nil]
    cases member.2 <;> simp
  rw [single?, found]
  cases member.2 <;> rfl

/-- A record is taken apart into its members, one level down. -/
theorem bind_toRecord?_eq_some_iff {members : List (String × Option Json)} {keys : List String}
    (names : members.map Prod.fst = keys) (distinct : keys.Nodup) {α : Type}
    {rest : Nat × List (Option Json) → Option α} {level : Nat} {a : α} :
    (toRecord? keys (level + 1) (recordOf members) >>= rest) = some a ↔
      0 < level ∧ rest (level, members.map Prod.snd) = some a := by
  subst names
  have keyed : ((presentOf members).map fun member => (some member.1, member.2)).mapM
      (fun member : Option String × Json => member.1.map fun key => (key, member.2)) = some (presentOf members) := by
    rw [mapM_eq_some_iff, List.map_map]
    rfl
  have found : (members.map Prod.fst).mapM (fun key => single? key (presentOf members)) =
      some (members.map Prod.snd) := by
    rw [mapM_eq_some_iff, List.map_map, List.map_map]
    exact List.map_congr_left fun member mem => single?_presentOf distinct mem
  rw [recordOf, record, toRecord?, bind_assoc, bind_enter_eq_some_iff]
  simp only [keyed, found, Option.bind_eq_bind, Option.bind_some, Option.pure_def]

end Json

namespace Exchange

open Json

/-! ## Decoders of written values -/

/-- A decoder finds the value that was written, exactly if what was written does not nest too deep. -/
def Decodes {α : Type} (decode : Nat → Json → Option α) (j : Json) (a : α) : Prop :=
  ∀ level b, 0 < level → (decode level j = some b ↔ j.nesting < level ∧ a = b)

theorem decodes_text (t : String) : Decodes decodeText (Json.text t) t := by
  intro level b positive
  simp [decodeText, Json.text, toText?, nesting, positive]

variable {α : Type} {decode : Nat → Json → Option α} {encode : α → Json} {xs : List α}

/-- Values that are written one by one are found one by one. -/
theorem mapM_map_eq_some_iff {β γ : Type} {read : γ → Option β} {write : β → γ} {P : γ → Prop} {xs ys : List β}
    (h : ∀ x ∈ xs, ∀ y, read (write x) = some y ↔ P (write x) ∧ x = y) :
    (xs.map write).mapM read = some ys ↔ (∀ w ∈ xs.map write, P w) ∧ xs = ys := by
  rw [mapM_eq_some_iff, List.map_map, List.forall_mem_map]
  induction xs generalizing ys with
  | nil => cases ys <;> simp
  | cons x xs ih =>
      obtain ⟨first, others⟩ := List.forall_mem_cons.mp h
      cases ys with
      | nil => simp
      | cons y ys =>
          rw [List.map_cons, List.map_cons, List.cons.injEq, ih others, Function.comp_apply, first,
            List.forall_mem_cons, List.cons.injEq, and_and_and_comm]

theorem decodes_array (h : ∀ x ∈ xs, Decodes decode (encode x) x) :
    Decodes (toList? decode) (array (xs.map encode)) xs := by
  intro level ys positive
  obtain ⟨level, rfl⟩ := Nat.exists_eq_add_one.mpr positive
  rw [toList?, bind_enter_eq_some_iff, nesting_array_lt_iff, and_assoc]
  exact and_congr_right fun positive => mapM_map_eq_some_iff fun x mem y => h x mem level y positive

theorem decodes_entries {entries : List (String × α)} (h : ∀ entry ∈ entries, Decodes decode (encode entry.2) entry.2) :
    Decodes (toEntries? decode) (record (entries.map fun entry => (entry.1, encode entry.2))) entries := by
  intro level ys positive
  obtain ⟨level, rfl⟩ := Nat.exists_eq_add_one.mpr positive
  rw [nesting_record_lt_iff, record, toEntries?, bind_enter_eq_some_iff, and_assoc, List.map_map]
  refine and_congr_right fun positive => ?_
  rw [mapM_map_eq_some_iff (P := fun member : Option String × Json => member.2.nesting < level),
    List.forall_mem_map, List.forall_mem_map]
  · rfl
  · intro entry mem found
    have value := h entry mem level
    simp [value _ positive, Option.bind_eq_some_iff, and_assoc]

/-! ## Members -/

/-- A list as a member, left out if it is empty. -/
def listSlot (encode : α → Json) (xs : List α) : Option Json :=
  if !xs.isEmpty then some (array (xs.map encode)) else none

theorem memberIf_eq (present : Bool) (key : String) (value : Json) :
    memberIf present key value = ((if present then some value else none).map (key, ·)).toList := by
  cases present <;> rfl

theorem listMember_eq (key : String) (encode : α → Json) (xs : List α) :
    listMember key encode xs = ((listSlot encode xs).map (key, ·)).toList := by
  rw [listMember, listSlot]
  cases xs <;> rfl

theorem listOf_listSlot (h : ∀ x ∈ xs, Decodes decode (encode x) x) {level : Nat} (positive : 0 < level)
    (ys : List α) :
    listOf decode level (listSlot encode xs) = some ys ↔ (∀ j ∈ listSlot encode xs, j.nesting < level) ∧ xs = ys := by
  rw [listSlot]
  cases xs with
  | nil => simp [listOf, withDefault]
  | cons x xs => simpa [listOf, withDefault] using decodes_array h level ys positive

theorem textual_listSlot (h : ∀ x ∈ xs, Textual (encode x)) : ∀ j ∈ listSlot encode xs, Textual j := by
  rw [listSlot]
  cases xs with
  | nil => exact fun _ none => nomatch none
  | cons x xs => simpa using Textual.array (List.forall_mem_map.mpr h)

/-! ## Entries -/

theorem RangeForm.toJson_eq (r : RangeForm) :
    r.toJson = recordOf [("lower", some (.text r.lower)), ("upper", some (.text r.upper)),
      ("inclusive-lower", if !r.includesLower then some (.bool false) else none),
      ("inclusive-upper", if !r.includesUpper then some (.bool false) else none)] := by
  simp [RangeForm.toJson, recordOf, presentOf, memberIf_eq]

theorem RangeForm.decodes_toJson (r : RangeForm) : Decodes RangeForm.ofJson? r.toJson r := by
  intro level s positive
  obtain ⟨level, rfl⟩ := Nat.exists_eq_add_one.mpr positive
  rw [toJson_eq, RangeForm.ofJson?, bind_toRecord?_eq_some_iff (by rfl) (by decide), nesting_recordOf_lt_iff, and_assoc]
  refine and_congr_right fun positive => ?_
  rcases r with ⟨lower, upper, includesLower, includesUpper⟩
  cases includesLower <;> cases includesUpper <;>
    simp [required, withDefault, toText?, toBool?, Json.text, nesting, positive]

theorem RangeForm.textual_toJson (r : RangeForm) : Textual r.toJson := by
  rw [toJson_eq]
  rcases r with ⟨lower, upper, includesLower, includesUpper⟩
  refine textual_recordOf ?_
  cases includesLower <;> cases includesUpper <;> simp [Textual.text, Textual.bool]

theorem ComparisonForm.toJson_eq (c : ComparisonForm) :
    c.toJson = recordOf [("operator", some (.text c.operator.sign)), ("value", some (.text c.value))] := rfl

theorem ComparisonForm.decodes_toJson (c : ComparisonForm) : Decodes ComparisonForm.ofJson? c.toJson c := by
  intro level d positive
  obtain ⟨level, rfl⟩ := Nat.exists_eq_add_one.mpr positive
  rw [toJson_eq, ComparisonForm.ofJson?, bind_toRecord?_eq_some_iff (by rfl) (by decide), nesting_recordOf_lt_iff,
    and_assoc]
  refine and_congr_right fun positive => ?_
  simp [required, decodeOperator, toWord?, toText?, Json.text, nesting, positive]

theorem ComparisonForm.textual_toJson (c : ComparisonForm) : Textual c.toJson := by
  rw [toJson_eq]
  exact textual_recordOf (by simp [Textual.text])

theorem MatchForm.toJson_eq (m : MatchForm) :
    m.toJson = recordOf [("type", some (.text m.typeName)), ("value", some (.text m.value)),
      ("case-insensitive", if m.ignoresCase then some (.bool true) else none)] := by
  simp [MatchForm.toJson, recordOf, presentOf, memberIf_eq]

theorem MatchForm.decodes_toJson (m : MatchForm) : Decodes MatchForm.ofJson? m.toJson m := by
  intro level s positive
  obtain ⟨level, rfl⟩ := Nat.exists_eq_add_one.mpr positive
  rw [toJson_eq, MatchForm.ofJson?, bind_toRecord?_eq_some_iff (by rfl) (by decide), nesting_recordOf_lt_iff, and_assoc]
  refine and_congr_right fun positive => ?_
  rcases m with ⟨typeName, value, ignoresCase⟩
  cases ignoresCase <;> simp [required, withDefault, toText?, toBool?, Json.text, nesting, positive]

theorem MatchForm.textual_toJson (m : MatchForm) : Textual m.toJson := by
  rw [toJson_eq]
  rcases m with ⟨typeName, value, ignoresCase⟩
  refine textual_recordOf ?_
  cases ignoresCase <;> simp [Textual.text, Textual.bool]

/-! ## Bags -/

theorem BagForm.toJson_eq (bag : BagForm) :
    bag.toJson = recordOf [("simple-values", listSlot Json.text bag.singles),
      ("excluded-simple-values", listSlot Json.text bag.excludedSingles),
      ("ranges", listSlot RangeForm.toJson bag.ranges),
      ("excluded-ranges", listSlot RangeForm.toJson bag.excludedRanges),
      ("comparisons", listSlot ComparisonForm.toJson bag.comparisons),
      ("pattern-matchers", listSlot MatchForm.toJson bag.textMatches)] := by
  simp only [BagForm.toJson, recordOf, presentOf, listMember_eq, List.flatMap_cons, List.flatMap_nil, List.append_nil,
    List.append_assoc]

theorem BagForm.decodes_toJson (bag : BagForm) : Decodes BagForm.ofJson? bag.toJson bag := by
  intro level other positive
  obtain ⟨level, rfl⟩ := Nat.exists_eq_add_one.mpr positive
  rw [toJson_eq, BagForm.ofJson?, bind_toRecord?_eq_some_iff (by rfl) (by decide), nesting_recordOf_lt_iff, and_assoc]
  refine and_congr_right fun positive => ?_
  rcases bag with ⟨singles, excludedSingles, ranges, excludedRanges, comparisons, textMatches⟩
  simp only [List.map_cons, List.map_nil, Option.bind_eq_bind, Option.bind_eq_some_iff, Option.pure_def,
    Option.some.injEq, List.forall_mem_cons,
    listOf_listSlot (fun t _ => decodes_text t) positive,
    listOf_listSlot (fun r _ => RangeForm.decodes_toJson r) positive,
    listOf_listSlot (fun c _ => ComparisonForm.decodes_toJson c) positive,
    listOf_listSlot (fun m _ => MatchForm.decodes_toJson m) positive]
  constructor
  · rintro ⟨_, ⟨first, rfl⟩, _, ⟨second, rfl⟩, _, ⟨third, rfl⟩, _, ⟨fourth, rfl⟩, _, ⟨fifth, rfl⟩, _, ⟨sixth, rfl⟩, rfl⟩
    exact ⟨⟨first, second, third, fourth, fifth, sixth, List.forall_mem_nil _⟩, rfl⟩
  · rintro ⟨⟨first, second, third, fourth, fifth, sixth, -⟩, rfl⟩
    exact ⟨_, ⟨first, rfl⟩, _, ⟨second, rfl⟩, _, ⟨third, rfl⟩, _, ⟨fourth, rfl⟩, _, ⟨fifth, rfl⟩, _, ⟨sixth, rfl⟩, rfl⟩

theorem BagForm.textual_toJson (bag : BagForm) : Textual bag.toJson := by
  rw [toJson_eq]
  refine textual_recordOf ?_
  simp only [List.forall_mem_cons]
  exact ⟨textual_listSlot fun t _ => .text t, textual_listSlot fun t _ => .text t,
    textual_listSlot fun r _ => RangeForm.textual_toJson r, textual_listSlot fun r _ => RangeForm.textual_toJson r,
    textual_listSlot fun c _ => ComparisonForm.textual_toJson c,
    textual_listSlot fun m _ => MatchForm.textual_toJson m, List.forall_mem_nil _⟩

/-! ## Groups -/

/-- The entries of a collection as a member, left out if there are none. -/
def fieldsSlot (fields : Keyed BagForm) : Option Json :=
  if !fields.isEmpty then some (.record (fields.entries.map fun entry => (entry.1, entry.2.toJson))) else none

theorem GroupForm.toJson_mk (fields : Keyed BagForm) (groups : List GroupForm) (logical : Option Logical) :
    (GroupForm.mk fields groups logical).toJson =
      recordOf [("fields", fieldsSlot fields), ("groups", listSlot GroupForm.toJson groups),
        ("logical-case", logical.map fun l => Json.text l.keyword)] := by
  have folded : (GroupForm.mk fields groups logical).toJson =
      record (memberIf (!fields.isEmpty) "fields"
          (record (fields.entries.map fun entry => (entry.1, entry.2.toJson))) ++
        memberIf (!(groups.map GroupForm.toJson).isEmpty) "groups" (array (groups.map GroupForm.toJson)) ++
        (logical.map fun logical => ("logical-case", Json.text logical.keyword)).toList) := by
    rw [toJson, GroupForm.fold_mk]
    cases logical <;> rfl
  rw [folded, List.isEmpty_map, memberIf_eq, memberIf_eq]
  cases logical <;>
    simp [recordOf, presentOf, fieldsSlot, listSlot]

theorem decodes_fieldsSlot (fields : Keyed BagForm) {level : Nat} (positive : 0 < level)
    (entries : List (String × BagForm)) :
    withDefault [] (toEntries? BagForm.ofJson? level) (fieldsSlot fields) = some entries ↔
      (∀ j ∈ fieldsSlot fields, j.nesting < level) ∧ fields.entries = entries := by
  have decodes :=
    decodes_entries (fun entry (_ : entry ∈ fields.entries) => entry.2.decodes_toJson) level entries positive
  cases none : fields.isEmpty with
  | true =>
      have no : fields.entries = [] := List.isEmpty_iff.mp none
      simp [fieldsSlot, none, withDefault, no]
  | false => simpa [fieldsSlot, none, withDefault] using decodes

/-- Inside an array there is one level less than around it. -/
theorem toList?_below (decode : Nat → Json → Option α) (level : Nat) (j : Json) :
    toList? (fun _ => decode level) (level + 1) j = toList? decode (level + 1) j := by
  refine Option.ext fun xs => ?_
  cases j with
  | array elements => rw [toList?, toList?, bind_enter_eq_some_iff, bind_enter_eq_some_iff]
  | _ => rfl

theorem decodeMention_keyword (level : Nat) (logical mention : Option Logical) :
    withDefault none (decodeMention level) (logical.map fun l => Json.text l.keyword) = some mention ↔
      logical = mention := by
  cases logical <;> simp [withDefault, decodeMention, decodeLogical, Json.text, toWord?]

theorem keyword_shallow {level : Nat} (positive : 0 < level) {logical : Option Logical} :
    ∀ j ∈ logical.map fun l => Json.text l.keyword, j.nesting < level := by
  cases logical <;> simp [Json.text, nesting, positive]

/-- A group is found in its JSON value, exactly if this does not nest too deep. -/
theorem GroupForm.decodes_toJson (form : GroupForm) : Decodes GroupForm.ofJson? form.toJson form := by
  induction form with
  | step fields groups logical ih =>
      intro level other positive
      rw [toJson_mk]
      match level, positive with
      | 1, _ =>
          rw [nesting_recordOf_lt_iff]
          exact iff_of_false (fun found => nomatch found) (fun ⟨⟨positive, _⟩, _⟩ => absurd positive (Nat.lt_irrefl 0))
      | level + 2, _ =>
          have inside : 0 < level + 1 := Nat.succ_pos level
          have below : toList? (fun _ => GroupForm.ofJson? level) (level + 1) = toList? GroupForm.ofJson? (level + 1) :=
            funext (toList?_below GroupForm.ofJson? level)
          have found (gs : List GroupForm) := listOf_listSlot ih inside gs
          rw [listOf] at found
          rw [GroupForm.ofJson?, bind_toRecord?_eq_some_iff (by rfl) (by decide), nesting_recordOf_lt_iff, and_assoc]
          refine and_congr_right fun _ => ?_
          simp only [List.map_cons, List.map_nil, Option.bind_eq_bind, Option.bind_eq_some_iff, Option.pure_def,
            Option.some.injEq, List.forall_mem_cons, decodes_fieldsSlot fields inside, below, found,
            decodeMention_keyword]
          constructor
          · rintro ⟨_, ⟨first, rfl⟩, _, ⟨second, rfl⟩, _, rfl, rfl⟩
            exact ⟨⟨first, second, keyword_shallow inside, List.forall_mem_nil _⟩, by rw [Keyed.ofList_entries]⟩
          · rintro ⟨⟨first, second, -⟩, rfl⟩
            exact ⟨_, ⟨first, rfl⟩, _, ⟨second, rfl⟩, _, rfl, by rw [Keyed.ofList_entries]⟩

theorem GroupForm.textual_toJson (form : GroupForm) : Textual form.toJson := by
  induction form with
  | step fields groups logical ih =>
      rw [toJson_mk]
      refine textual_recordOf ?_
      simp only [List.forall_mem_cons]
      refine ⟨?_, textual_listSlot ih, ?_, List.forall_mem_nil _⟩
      · rw [fieldsSlot]
        split
        · simpa using Textual.record (List.forall_mem_map.mpr fun entry _ => entry.2.textual_toJson)
        · exact fun _ none => nomatch none
      · cases logical <;> simp [Textual.text]

/-- A form is read back from its compact text, exactly if this does not nest too deep. -/
theorem GroupForm.ofText?_compactText_iff (form other : GroupForm) :
    GroupForm.ofText? form.compactText = some other ↔ form.toJson.nesting < startLevel ∧ form = other := by
  rw [ofText?, compactText, String.toList_ofList, parse_compact form.textual_toJson, Option.bind_some]
  exact form.decodes_toJson startLevel other (by decide)

/-- A form is read back from its pretty text, exactly if this does not nest too deep. -/
theorem GroupForm.ofText?_prettyText_iff (form other : GroupForm) :
    GroupForm.ofText? form.prettyText = some other ↔ form.toJson.nesting < startLevel ∧ form = other := by
  rw [ofText?, prettyText, String.toList_ofList, parse_pretty form.textual_toJson, Option.bind_some]
  exact form.decodes_toJson startLevel other (by decide)

/-- The compact and the pretty text of a form are read back as this form and as no other, whatever was left out of them
on writing, exactly if their brackets and braces nest no deeper than 127. -/
theorem GroupForm.texts_hold_iff (form other : GroupForm) :
    (GroupForm.ofText? form.compactText = some other ↔ form.toJson.nesting ≤ 127 ∧ form = other) ∧
      (GroupForm.ofText? form.prettyText = some other ↔ form.toJson.nesting ≤ 127 ∧ form = other) := by
  have shallow : form.toJson.nesting ≤ 127 ↔ form.toJson.nesting < startLevel := Nat.lt_succ_iff.symm
  rw [shallow]
  exact ⟨form.ofText?_compactText_iff other, form.ofText?_prettyText_iff other⟩

end Exchange

end Criteria
