import Criteria.Proofs.Exporting
import Criteria.Proofs.Faults
import Criteria.Proofs.Sql.Making
import Criteria.Proofs.Sql.Success

/-!
# Why there is no clause

A clause that is not made has a cause: the condition breaks the rules, or a bag somewhere in its tree is about a field
without a column, holds a value that cannot be converted or a pattern that the platform does not know.  A condition
that keeps the rules is about known fields only, so the rendering of SQL, and of exports, never comes upon another one.
-/

namespace Criteria

namespace Bag

theorem isEmpty_eq_false_of_mem_textMatches {bag : Bag} {m : TextMatch} (mem : m ∈ bag.textMatches) :
    bag.isEmpty = false := by
  cases empty : bag.isEmpty with
  | false => rfl
  | true =>
      rw [eq_empty_of_isEmpty empty] at mem
      cases mem

theorem mem_textMatches_of_mem_toList {bag : Bag} {m : TextMatch} (mem : .textMatch m ∈ bag.toList) :
    m ∈ bag.textMatches := by
  simpa [toList] using mem

end Bag

namespace Sql

variable {α β : Type}

/-! ## Makings that fail -/

/-- A making that fails does so with an error that has a property, whatever is bound before. -/
def MakingFailsOnly (P : SqlError → Prop) (making : Making α) : Prop :=
  ∀ d, FailsOnly P (making d)

section

variable {P Q : SqlError → Prop} {making : Making α}

theorem makingFailsOnly_pure (a : α) : MakingFailsOnly P (pure a : Making α) :=
  fun d => failsOnly_ok (a, d)

theorem makingFailsOnly_throw {e : SqlError} (h : P e) : MakingFailsOnly P (throw e : Making α) :=
  fun _ => failsOnly_error h

theorem makingFailsOnly_bindValue (v : Value) : MakingFailsOnly P (bindValue v) :=
  fun d => failsOnly_ok (d.bind v)

theorem MakingFailsOnly.imp (fails : MakingFailsOnly P making) (h : ∀ e, P e → Q e) : MakingFailsOnly Q making :=
  fun d => (fails d).imp h

theorem MakingFailsOnly.bind {next : α → Making β} (first : MakingFailsOnly P making)
    (second : ∀ a, MakingFailsOnly P (next a)) : MakingFailsOnly P (making >>= next) :=
  fun d => FailsOnly.bind (first d) fun pair _ => second pair.1 pair.2

theorem MakingFailsOnly.bind_pure {f : α → β} (first : MakingFailsOnly P making) :
    MakingFailsOnly P (making >>= fun a => pure (f a)) :=
  first.bind fun a => makingFailsOnly_pure (f a)

theorem makingFailsOnly_lift_bind {outcome : Except SqlError α} {next : α → Making β} (first : FailsOnly P outcome)
    (second : ∀ a, outcome = .ok a → MakingFailsOnly P (next a)) : MakingFailsOnly P (liftM outcome >>= next) := by
  cases outcome with
  | error e => exact makingFailsOnly_throw (first e rfl)
  | ok a => exact second a rfl

theorem makingFailsOnly_mapM {make : α → Making β} {as : List α} (h : ∀ a ∈ as, MakingFailsOnly P (make a)) :
    MakingFailsOnly P (as.mapM make) := by
  induction as with
  | nil => exact makingFailsOnly_pure []
  | cons a as ih =>
      obtain ⟨first, later⟩ := List.forall_mem_cons.mp h
      rw [List.mapM_cons]
      exact first.bind fun _ => (ih later).bind_pure

end

/-! ## Causes -/

/-- Why no test is written for an entry. -/
inductive Target.Declines (t : Target) : Entry → SqlError → Prop where
  | conversion {entry : Entry} {v sample : Value} {cs : Converters} {failure : ConversionFailure}
      (mentioned : v ∈ entry.values) (set : t.converters = some cs)
      (failed : cs.convert v (t.hints sample) = .error failure) :
      Declines t entry (.conversion t.field.name failure)
  | unsupported {m : TextMatch} (regex : m.kind = .regex) (platform : t.platform = .mssql) :
      Declines t (.textMatch m) (.unsupportedMatch ⟨.mssql, .regex⟩)

/-- Why a bag under a name is not rendered. -/
inductive Mapping.Declines (m : Mapping) (name : String) (bag : Bag) : SqlError → Prop where
  | unknown (unknown : m.schema.field? name = none) : Declines m name bag (.unknownField name)
  | unmapped (without : m.columns.get? name = none) : Declines m name bag (.unmappedField name)
  | entry {t : Target} {entry : Entry} {e : SqlError} (found : m.target name = .ok t) (listed : entry ∈ bag.toList)
      (declines : t.Declines entry e) : Declines m name bag e

namespace Target

variable {t : Target}

theorem bind_failsOnly {entry : Entry} {v : Value} (mentioned : v ∈ entry.values) (sample : Value) :
    MakingFailsOnly (t.Declines entry) (t.bind v (t.hints sample)) := by
  unfold Target.bind
  cases set : t.converters with
  | none => exact makingFailsOnly_bindValue v
  | some cs =>
      dsimp only
      cases converted : cs.convert v (t.hints sample) with
      | error failure => exact makingFailsOnly_throw (.conversion mentioned set converted)
      | ok w => exact (makingFailsOnly_bindValue w).bind_pure

theorem compare_failsOnly {entry : Entry} (sign : String) {v : Value} (mentioned : v ∈ entry.values) :
    MakingFailsOnly (t.Declines entry) (t.compare sign v) :=
  (bind_failsOnly mentioned v).bind_pure

theorem range_failsOnly {entry : Entry} {r : Range} (excluded : Bool) (lower : r.lower ∈ entry.values)
    (upper : r.upper ∈ entry.values) : MakingFailsOnly (t.Declines entry) (t.range r excluded) :=
  (bind_failsOnly lower r.lower).bind fun _ => (bind_failsOnly upper r.lower).bind_pure

theorem regexSql_failsOnly (p : Platform) (column placeholder : String) (negated ignoresCase : Bool) :
    FailsOnly (fun reason => p = .mssql ∧ reason = ⟨.mssql, .regex⟩)
      (p.regexSql column placeholder negated ignoresCase) := by
  cases p with
  | mssql => exact failsOnly_error ⟨rfl, rfl⟩
  | _ => exact failsOnly_ok _

theorem textMatch_failsOnly (m : TextMatch) : MakingFailsOnly (t.Declines (.textMatch m)) (t.textMatch m) := by
  unfold textMatch
  cases kind : m.kind with
  | regex =>
      refine (makingFailsOnly_bindValue _).bind fun placeholder => ?_
      have known := regexSql_failsOnly t.platform (t.columnSql (t.hints (.string m.text))) placeholder m.negated
        m.ignoresCase
      split
      · exact makingFailsOnly_pure _
      · rename_i reason failed
        obtain ⟨platform, rfl⟩ := known reason failed
        exact makingFailsOnly_throw (.unsupported kind platform)
  | equals =>
      refine (makingFailsOnly_bindValue _).bind fun placeholder => ?_
      dsimp only
      split <;> exact makingFailsOnly_pure _
  | _ => exact (makingFailsOnly_bindValue _).bind_pure

/-- The tests of a bag are not written because that of one of its entries is not. -/
theorem bag_failsOnly (bag : Bag) :
    MakingFailsOnly (fun e => ∃ entry ∈ bag.toList, t.Declines entry e) (t.bag bag) := by
  obtain ⟨singles, excludedSingles, ranges, excludedRanges, comparisons, textMatches⟩ :=
    Bag.forall_mem_toList_iff.mp fun entry (mem : entry ∈ bag.toList) e (declines : t.Declines entry e) =>
      (⟨entry, mem, declines⟩ : ∃ entry ∈ bag.toList, t.Declines entry e)
  have compares (p : Comparison → Bool) :
      MakingFailsOnly (fun e => ∃ entry ∈ bag.toList, t.Declines entry e)
        ((bag.comparisons.filter p).mapM fun c => t.compare c.operator.sign c.value) :=
    makingFailsOnly_mapM fun c mem =>
      (compare_failsOnly _ (List.mem_singleton_self _)).imp (comparisons c (List.mem_of_mem_filter mem))
  have matches_ (p : TextMatch → Bool) :
      MakingFailsOnly (fun e => ∃ entry ∈ bag.toList, t.Declines entry e)
        ((bag.textMatches.filter p).mapM t.textMatch) :=
    makingFailsOnly_mapM fun m mem => (textMatch_failsOnly m).imp (textMatches m (List.mem_of_mem_filter mem))
  refine MakingFailsOnly.bind (makingFailsOnly_mapM fun s mem => ?_) fun _ => ?_
  · exact (compare_failsOnly _ (List.mem_singleton_self _)).imp (singles s mem)
  refine MakingFailsOnly.bind (makingFailsOnly_mapM fun r mem => ?_) fun _ => ?_
  · exact (range_failsOnly _ List.mem_cons_self (List.mem_cons_of_mem _ List.mem_cons_self)).imp (ranges r mem)
  refine (compares _).bind fun _ => (matches_ _).bind fun _ => ?_
  refine MakingFailsOnly.bind (makingFailsOnly_mapM fun s mem => ?_) fun _ => ?_
  · exact (compare_failsOnly _ (List.mem_singleton_self _)).imp (excludedSingles s mem)
  refine MakingFailsOnly.bind (makingFailsOnly_mapM fun r mem => ?_) fun _ => ?_
  · exact (range_failsOnly _ List.mem_cons_self (List.mem_cons_of_mem _ List.mem_cons_self)).imp (excludedRanges r mem)
  exact (compares _).bind fun _ => (matches_ _).bind_pure

end Target

namespace Mapping

variable {m : Mapping}

theorem target_failsOnly (name : String) (bag : Bag) : FailsOnly (m.Declines name bag) (m.target name) := by
  unfold target
  cases unknown : m.schema.field? name with
  | none => exact failsOnly_error (.unknown unknown)
  | some field =>
      cases without : m.columns.get? name with
      | none => exact failsOnly_error (.unmapped without)
      | some column => exact failsOnly_ok _

theorem bags_failsOnly (entries : List (String × Bag)) :
    MakingFailsOnly (fun e => ∃ entry ∈ entries, entry.2.isEmpty = false ∧ m.Declines entry.1 entry.2 e)
      (m.bags entries) := by
  induction entries with
  | nil => exact makingFailsOnly_pure []
  | cons entry entries ih =>
      have later := ih.imp fun e ⟨entry', mem, cause⟩ =>
        (⟨entry', List.mem_cons_of_mem entry mem, cause⟩ :
          ∃ entry' ∈ entry :: entries, entry'.2.isEmpty = false ∧ m.Declines entry'.1 entry'.2 e)
      rw [bags]
      cases filled : entry.2.isEmpty with
      | true => exact later
      | false =>
          rw [if_neg Bool.false_ne_true]
          refine makingFailsOnly_lift_bind ((target_failsOnly entry.1 entry.2).imp ?_) fun t found => ?_
          · exact fun e declines => ⟨entry, List.mem_cons_self, filled, declines⟩
          · refine ((t.bag_failsOnly entry.2).imp ?_).bind fun _ => later.bind_pure
            rintro e ⟨test, listed, declines⟩
            exact ⟨entry, List.mem_cons_self, filled, .entry found listed declines⟩

theorem belowParts_failsOnly {P : SqlError → Prop} {groups : List (Making Expr)}
    (h : ∀ making ∈ groups, MakingFailsOnly P making) : MakingFailsOnly P (belowParts groups) := by
  induction groups with
  | nil => exact makingFailsOnly_pure []
  | cons making groups ih =>
      obtain ⟨here, later⟩ := List.forall_mem_cons.mp h
      rw [belowParts]
      exact here.bind fun _ => (ih later).bind_pure

/-- A group is not rendered because a bag with entries in its tree is not. -/
theorem group_failsOnly (group : Group) :
    MakingFailsOnly (fun e => ∃ name bag, group.Holds name bag ∧ bag.isEmpty = false ∧ m.Declines name bag e)
      (m.group group) := by
  induction group with
  | step logical fields groups ih =>
      rw [Mapping.group, Group.fold_mk]
      refine ((bags_failsOnly fields.entries).imp ?_).bind fun _ =>
        (belowParts_failsOnly (List.forall_mem_map.mpr fun group below => ?_)).bind_pure
      · rintro e ⟨⟨name, bag⟩, mem, cause⟩
        exact ⟨name, bag, Group.holds_of_mem mem, cause⟩
      · refine (ih group below).imp ?_
        rintro e ⟨name, bag, holds, cause⟩
        exact ⟨name, bag, Group.holds_of_below below holds, cause⟩

end Mapping

/-- Why there is no clause: the condition breaks the rules, or, if it keeps them, a bag with entries in its tree is not
rendered. -/
theorem generate_failsOnly (limits : Limits) (m : Mapping) (c : Condition) :
    FailsOnly (fun e => (c.problems limits ≠ [] ∧ e = .invalid (c.problems limits)) ∨
        c.problems limits = [] ∧
          ∃ name bag, c.root.Holds name bag ∧ bag.isEmpty = false ∧ m.Declines name bag e)
      (generate limits m c) := by
  rw [generate]
  cases problems : c.problems limits with
  | cons problem more => exact failsOnly_error (.inl ⟨List.cons_ne_nil _ _, rfl⟩)
  | nil =>
      have fails := m.group_failsOnly c.root (.start m.platform)
      dsimp only
      split
      · exact failsOnly_ok _
      · rename_i e failed
        exact failsOnly_error (.inr ⟨rfl, fails e failed⟩)

/-! ## Without converters -/

/-- Why there is no clause of a condition if no converters are set up. -/
inductive Refused (limits : Limits) (platform : Platform) (columns : Keyed String) (c : Condition) : SqlError → Prop where
  | invalid (broken : c.problems limits ≠ []) : Refused limits platform columns c (.invalid (c.problems limits))
  | unmapped {name : String} {bag : Bag} (valid : c.problems limits = []) (holds : c.root.Holds name bag)
      (filled : bag.isEmpty = false) (without : columns.get? name = none) :
      Refused limits platform columns c (.unmappedField name)
  | unsupported {name : String} {bag : Bag} {m : TextMatch} (valid : c.problems limits = [])
      (holds : c.root.Holds name bag) (listed : m ∈ bag.textMatches) (regex : m.kind = .regex)
      (mssql : platform = .mssql) : Refused limits platform columns c (.unsupportedMatch ⟨.mssql, .regex⟩)

variable {limits : Limits} {platform : Platform} {columns : Keyed String} {c : Condition}

theorem Mapping.target_empty_eq_ok {schema : Schema} {name : String} {t : Target}
    (h : (⟨schema, platform, columns, .empty⟩ : Mapping).target name = .ok t) :
    (∃ column, columns.get? name = some column) ∧ t.converters = none ∧ t.platform = platform := by
  obtain ⟨column, converters, samePlatform⟩ := target_eq_ok h
  exact ⟨⟨t.column, column⟩, converters.trans (Keyed.get?_empty name), samePlatform⟩

/-- Without converters a bag about a known field is rendered if there is a column and the platform knows its
patterns. -/
theorem Mapping.takes_empty_iff {schema : Schema} {name : String} (bag : Bag)
    (known : ∃ field, schema.field? name = some field) :
    (⟨schema, platform, columns, .empty⟩ : Mapping).Takes name bag ↔
      (∃ column, columns.get? name = some column) ∧ (platform = .mssql → ∀ m ∈ bag.textMatches, m.kind ≠ .regex) := by
  constructor
  · rintro ⟨t, found, takes⟩
    obtain ⟨mapped, -, rfl⟩ := target_empty_eq_ok found
    obtain ⟨-, -, -, -, -, textMatches⟩ := Bag.forall_mem_toList_iff.mp takes
    exact ⟨mapped, fun mssql m mem regex => textMatches m mem regex mssql⟩
  · rintro ⟨⟨column, mapped⟩, patterns⟩
    obtain ⟨field, found⟩ := known
    have target : (⟨schema, platform, columns, .empty⟩ : Mapping).target name =
        .ok ⟨field, column, none, platform⟩ := by
      rw [target, found, mapped, Keyed.get?_empty]
    have converts (v sample : Value) : (⟨field, column, none, platform⟩ : Target).Converts v sample :=
      fun _ none => nomatch none
    refine ⟨_, target, Bag.forall_mem_toList_iff.mpr ⟨?_, ?_, ?_, ?_, ?_, ?_⟩⟩
    · exact fun s _ => converts _ _
    · exact fun s _ => converts _ _
    · exact fun r _ => ⟨converts _ _, converts _ _⟩
    · exact fun r _ => ⟨converts _ _, converts _ _⟩
    · exact fun c _ => converts _ _
    · exact fun m mem regex mssql => patterns mssql m mem regex

theorem succeeds_generate_empty_iff :
    Succeeds (generate limits ⟨c.schema, platform, columns, .empty⟩ c) ↔
      c.problems limits = [] ∧
        (∀ name bag, c.root.Holds name bag → bag.isEmpty = false → ∃ column, columns.get? name = some column) ∧
          (platform ≠ .mssql ∨ ∀ name bag, c.root.Holds name bag → ∀ m ∈ bag.textMatches, m.kind ≠ .regex) := by
  rw [succeeds_generate_iff]
  refine and_congr_right fun valid => ?_
  have known := (Group.allBags_iff_forall_holds _).mp (known_of_problems valid)
  rw [Group.allBags_iff_forall_holds, ← imp_iff_not_or]
  constructor
  · intro takes
    have each (name : String) (bag : Bag) (holds : c.root.Holds name bag) (filled : bag.isEmpty = false) :=
      (Mapping.takes_empty_iff bag (known name bag holds)).mp (takes name bag holds filled)
    refine ⟨fun name bag holds filled => (each name bag holds filled).1, fun mssql name bag holds m mem => ?_⟩
    exact (each name bag holds (Bag.isEmpty_eq_false_of_mem_textMatches mem)).2 mssql m mem
  · rintro ⟨mapped, patterns⟩ name bag holds filled
    exact (Mapping.takes_empty_iff bag (known name bag holds)).mpr
      ⟨mapped name bag holds filled, fun mssql => patterns mssql name bag holds⟩

theorem generate_empty_failsOnly :
    FailsOnly (Refused limits platform columns c) (generate limits ⟨c.schema, platform, columns, .empty⟩ c) := by
  refine (generate_failsOnly limits _ c).imp fun e cause => ?_
  obtain ⟨broken, rfl⟩ | ⟨valid, name, bag, holds, filled, declines⟩ := cause
  · exact .invalid broken
  · cases declines with
    | unknown unknown =>
        obtain ⟨field, found⟩ := (Group.allBags_iff_forall_holds _).mp (known_of_problems valid) name bag holds
        cases unknown.symm.trans found
    | unmapped without => exact .unmapped valid holds filled without
    | entry found listed declines =>
        obtain ⟨-, none, rfl⟩ := Mapping.target_empty_eq_ok found
        cases declines with
        | conversion mentioned set failed => cases none.symm.trans set
        | @unsupported m regex mssql =>
            exact .unsupported valid holds (Bag.mem_textMatches_of_mem_toList listed) regex mssql

/-- Without converters a clause is made exactly if the condition keeps the rules, every bag with entries in its tree is
about a field with a column, and the platform knows all patterns; otherwise the error says which of these fails, and it
never is that a field is unknown or that a value cannot be converted.  No export meets an unknown field either. -/
theorem generate_fails_exactly (limits : Limits) (platform : Platform) (columns : Keyed String) (c : Condition) :
    (Succeeds (generate limits ⟨c.schema, platform, columns, .empty⟩ c) ↔
      c.problems limits = [] ∧
        (∀ name bag, c.root.Holds name bag → bag.isEmpty = false → ∃ column, columns.get? name = some column) ∧
          (platform ≠ .mssql ∨ ∀ name bag, c.root.Holds name bag → ∀ m ∈ bag.textMatches, m.kind ≠ .regex)) ∧
    (∀ e, generate limits ⟨c.schema, platform, columns, .empty⟩ c = .error e →
      Refused limits platform columns c e ∧ (∀ name, e ≠ .unknownField name) ∧
        ∀ name failure, e ≠ .conversion name failure) ∧
    ∀ name, c.exportBy Exchange.write limits ≠ .error (.unknownField name) ∧
      (∀ print : Exchange.GroupForm → String,
        c.exportBy (fun c => (Exchange.write c).map print) limits ≠ .error (.unknownField name)) ∧
      c.exportBy Query.write limits ≠ .error (.unknownField name) := by
  refine ⟨succeeds_generate_empty_iff, fun e failed => ?_, fun name => ⟨?_, fun print => ?_, ?_⟩⟩
  · have refused := generate_empty_failsOnly e failed
    refine ⟨refused, ?_, ?_⟩
    · rintro name rfl
      cases refused
    · rintro name failure rfl
      cases refused
  · exact Condition.exportBy_ne_unknownField Exchange.writeGroup_failsOnly limits name
  · exact Condition.exportBy_ne_unknownField (fun known => (Exchange.writeGroup_failsOnly known).map print) limits name
  · exact Condition.exportBy_ne_unknownField (fun known => (Query.writeParts_failsOnly known).bind_pure) limits name

end Sql

end Criteria
