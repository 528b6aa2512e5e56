import Criteria.Proofs.Meaning
import Criteria.Proofs.Outcome
import Criteria.Proofs.Views
import Criteria.Sql.Clause

/-!
# When a clause is made

Whether a clause is made depends on nothing that is bound on the way: a condition has one exactly if it keeps the
limits and every bag with entries is about a field with a column, all its values can be converted, and the platform
knows its patterns.
-/

namespace Criteria.Sql

variable {α β : Type}

/-- A making succeeds on a condition, whatever is bound before. -/
def MadeIff (making : Making α) (condition : Prop) : Prop :=
  ∀ d, Succeeds (making d) ↔ condition

variable {making : Making α} {P Q : Prop}

theorem MadeIff.congr (h : MadeIff making P) (same : P ↔ Q) : MadeIff making Q :=
  fun d => (h d).trans same

theorem madeIff_pure (a : α) : MadeIff (pure a : Making α) True :=
  fun _ => iff_true_intro (succeeds_ok _)

theorem madeIff_throw (e : SqlError) : MadeIff (throw e : Making α) False :=
  fun _ => iff_false_intro (not_succeeds_error e)

theorem madeIff_bindValue (v : Value) : MadeIff (bindValue v) True :=
  fun _ => iff_true_intro (succeeds_ok _)

theorem MadeIff.bind {next : α → Making β} (first : MadeIff making P) (second : ∀ a, MadeIff (next a) Q) :
    MadeIff (making >>= next) (P ∧ Q) :=
  fun d => succeeds_bind_iff (first d) fun pair _ => second pair.1 pair.2

theorem MadeIff.bind_pure {f : α → β} (h : MadeIff making P) : MadeIff (making >>= fun a => pure (f a)) P :=
  (h.bind fun a => madeIff_pure (f a)).congr (by rw [and_true])

/-- What does not make anything may still fail. -/
theorem madeIff_lift_bind {outcome : Except SqlError α} {next : α → Making β} {P : α → Prop}
    (h : ∀ a, MadeIff (next a) (P a)) : MadeIff (liftM outcome >>= next) (∃ a, outcome = .ok a ∧ P a) := by
  cases outcome with
  | error e => exact (madeIff_throw e).congr (iff_of_false id fun ⟨_, same, _⟩ => nomatch same)
  | ok a => exact (h a).congr ⟨fun holds => ⟨a, rfl, holds⟩, fun ⟨_, same, holds⟩ => Except.ok.inj same ▸ holds⟩

theorem madeIff_mapM {make : α → Making β} {P : α → Prop} (h : ∀ a, MadeIff (make a) (P a)) (as : List α) :
    MadeIff (as.mapM make) (∀ a ∈ as, P a) := by
  induction as with
  | nil => exact (madeIff_pure []).congr (iff_of_true trivial (List.forall_mem_nil _))
  | cons a as ih =>
      rw [List.mapM_cons, List.forall_mem_cons]
      exact (h a).bind fun _ => ih.bind_pure

namespace Target

/-- A value can be converted, in the variant that goes by a given value. -/
def Converts (t : Target) (v sample : Value) : Prop :=
  ∀ cs, t.converters = some cs → Succeeds (cs.convert v (t.hints sample))

/-- A test can be written for an entry. -/
def Takes (t : Target) : Entry → Prop
  | .single s => t.Converts s.value s.value
  | .excludedSingle s => t.Converts s.value s.value
  | .range r => t.Converts r.lower r.lower ∧ t.Converts r.upper r.lower
  | .excludedRange r => t.Converts r.lower r.lower ∧ t.Converts r.upper r.lower
  | .comparison c => t.Converts c.value c.value
  | .textMatch m => m.kind = .regex → t.platform ≠ .mssql

variable {t : Target}

theorem madeIff_bind (v sample : Value) : MadeIff (t.bind v (t.hints sample)) (t.Converts v sample) := by
  unfold Target.bind Converts
  cases t.converters with
  | none => exact (madeIff_bindValue v).congr (iff_of_true trivial fun _ none => nomatch none)
  | some cs =>
      dsimp only
      cases converted : cs.convert v (t.hints sample) with
      | error failure =>
          refine (madeIff_throw _).congr (iff_of_false id fun all => ?_)
          exact not_succeeds_error failure (converted ▸ all cs rfl)
      | ok w =>
          refine (madeIff_bindValue w).bind_pure.congr (iff_of_true trivial ?_)
          rintro _ ⟨⟩
          exact converted ▸ succeeds_ok w

theorem madeIff_compare (sign : String) (v : Value) : MadeIff (t.compare sign v) (t.Converts v v) :=
  (madeIff_bind v v).bind_pure

theorem madeIff_range (r : Range) (excluded : Bool) :
    MadeIff (t.range r excluded) (t.Converts r.lower r.lower ∧ t.Converts r.upper r.lower) :=
  (madeIff_bind r.lower r.lower).bind fun _ => (madeIff_bind r.upper r.lower).bind_pure

theorem succeeds_regexSql_iff (p : Platform) (column placeholder : String) (negated ignoresCase : Bool) :
    Succeeds (p.regexSql column placeholder negated ignoresCase) ↔ p ≠ .mssql := by
  cases p with
  | mssql => exact iff_of_false (not_succeeds_error _) fun other => other rfl
  | _ => exact iff_of_true (succeeds_ok _) fun same => nomatch same

theorem madeIff_regexTest (column placeholder : String) (negated ignoresCase : Bool) :
    MadeIff (match t.platform.regexSql column placeholder negated ignoresCase with
      | .ok sql => pure (.test sql)
      | .error reason => throw (.unsupportedMatch reason) : Making Expr) (t.platform ≠ .mssql) := by
  have known := succeeds_regexSql_iff t.platform column placeholder negated ignoresCase
  cases found : t.platform.regexSql column placeholder negated ignoresCase with
  | ok sql => exact (madeIff_pure _).congr (iff_of_true trivial (known.mp (found ▸ succeeds_ok sql)))
  | error reason => exact (madeIff_throw _).congr ((iff_of_false id (not_succeeds_error reason)).trans (found ▸ known))

theorem madeIff_textMatch (m : TextMatch) : MadeIff (t.textMatch m) (m.kind = .regex → t.platform ≠ .mssql) := by
  unfold textMatch
  cases m.kind with
  | regex =>
      refine ((madeIff_bindValue _).bind fun placeholder => madeIff_regexTest _ _ _ _).congr ?_
      exact ⟨fun known _ => known.2, fun known => ⟨trivial, known rfl⟩⟩
  | equals =>
      refine ((madeIff_bindValue _).bind fun placeholder => ?_).congr
        (iff_of_true ⟨trivial, trivial⟩ fun same => nomatch same)
      dsimp only
      split <;> exact madeIff_pure _
  | _ => exact (madeIff_bindValue _).bind_pure.congr (iff_of_true trivial fun same => nomatch same)

theorem forall_mem_filters_iff (p : α → Bool) (xs : List α) {P : α → Prop} :
    (∀ x ∈ xs, P x) ↔ (∀ x ∈ xs.filter fun x => !p x, P x) ∧ ∀ x ∈ xs.filter p, P x := by
  rw [List.forall_mem_filter, List.forall_mem_filter]
  refine ⟨fun all => ⟨fun x mem _ => all x mem, fun x mem _ => all x mem⟩, fun ⟨without, with_⟩ x mem => ?_⟩
  cases holds : p x with
  | true => exact with_ x mem holds
  | false => exact without x mem (by rw [holds]; rfl)

theorem madeIff_singles (sign : String) (values : List Single) :
    MadeIff (values.mapM fun s => t.compare sign s.value) (∀ s ∈ values, t.Converts s.value s.value) :=
  madeIff_mapM (fun s => madeIff_compare sign s.value) values

theorem madeIff_comparisons (cs : List Comparison) :
    MadeIff (cs.mapM fun c => t.compare c.operator.sign c.value) (∀ c ∈ cs, t.Converts c.value c.value) :=
  madeIff_mapM (fun c => madeIff_compare c.operator.sign c.value) cs

theorem madeIff_bag (bag : Bag) : MadeIff (t.bag bag) (∀ e ∈ bag.toList, t.Takes e) := by
  refine ((madeIff_singles "=" _).bind fun _ => (madeIff_mapM (madeIff_range · false) _).bind fun _ =>
    (madeIff_comparisons _).bind fun _ => (madeIff_mapM madeIff_textMatch _).bind fun _ =>
      (madeIff_singles "<>" _).bind fun _ => (madeIff_mapM (madeIff_range · true) _).bind fun _ =>
        (madeIff_comparisons _).bind fun _ => (madeIff_mapM madeIff_textMatch _).bind_pure).congr ?_
  rw [Bag.forall_mem_toList_iff, forall_mem_filters_iff (fun c => c.operator.narrows) bag.comparisons,
    forall_mem_filters_iff (fun m => m.negated) bag.textMatches]
  simp only [Takes]
  tauto

end Target

namespace Mapping

variable {m : Mapping}

/-- A field has a column, and tests can be written for all entries about it. -/
def Takes (m : Mapping) (name : String) (bag : Bag) : Prop :=
  ∃ t, m.target name = .ok t ∧ ∀ e ∈ bag.toList, t.Takes e

theorem madeIff_bags (entries : List (String × Bag)) :
    MadeIff (m.bags entries) (∀ entry ∈ entries, entry.2.isEmpty = false → m.Takes entry.1 entry.2) := by
  induction entries with
  | nil => exact (madeIff_pure []).congr (iff_of_true trivial (List.forall_mem_nil _))
  | cons entry entries ih =>
      rw [List.forall_mem_cons, bags]
      cases empty : entry.2.isEmpty with
      | true => exact ih.congr (and_iff_right fun some => nomatch some).symm
      | false =>
          rw [if_neg Bool.false_ne_true, forall_prop_of_true (rfl : false = false)]
          refine (madeIff_lift_bind fun t => (t.madeIff_bag entry.2).bind fun _ => ih.bind_pure).congr ?_
          simp only [Takes, ← and_assoc, exists_and_right]

theorem madeIff_belowParts {groups : List Group} {P : Group → Prop} (h : ∀ g ∈ groups, MadeIff (m.group g) (P g)) :
    MadeIff (belowParts (groups.map m.group)) (∀ g ∈ groups, P g) := by
  induction groups with
  | nil => exact (madeIff_pure []).congr (iff_of_true trivial (List.forall_mem_nil _))
  | cons group groups ih =>
      obtain ⟨here, later⟩ := List.forall_mem_cons.mp h
      rw [List.map_cons, belowParts, List.forall_mem_cons]
      exact here.bind fun _ => (ih later).bind_pure

/-- An expression is made of a group exactly if all bags with entries in it can be tested. -/
theorem madeIff_group (group : Group) :
    MadeIff (m.group group) (group.AllBags fun name bag => bag.isEmpty = false → m.Takes name bag) := by
  induction group with
  | step logical fields groups ih =>
      rw [Mapping.group, Group.fold_mk, Group.allBags_mk]
      exact (madeIff_bags fields.entries).bind fun _ => (madeIff_belowParts ih).bind_pure

end Mapping

/-- A clause is made of a condition exactly if the condition keeps the limits and all its bags with entries can be
tested. -/
theorem succeeds_generate_iff (limits : Limits) (m : Mapping) (c : Condition) :
    Succeeds (generate limits m c) ↔
      c.problems limits = [] ∧ c.root.AllBags fun name bag => bag.isEmpty = false → m.Takes name bag := by
  rw [generate]
  cases problems : c.problems limits with
  | nil =>
      have made := m.madeIff_group c.root (.start m.platform)
      rw [← made, and_iff_right rfl]
      cases m.group c.root (.start m.platform) with
      | ok pair => exact iff_of_true (succeeds_ok _) (succeeds_ok _)
      | error e => exact iff_of_false (not_succeeds_error _) (not_succeeds_error _)
  | cons problem more => exact iff_of_false (not_succeeds_error _) fun h => nomatch h.1

end Criteria.Sql
