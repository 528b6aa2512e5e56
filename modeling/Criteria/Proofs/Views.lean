import Criteria.Proofs.Meaning
import Criteria.Proofs.Outcome
import Criteria.Proofs.Validation

/-!
# Conditions without their views

A view is the text a value was given as or is shown as.  Validation does not look at views, and conditions that
agree but for their views are the same, as long as every value is equal to itself.
-/

namespace Criteria

/-- A single value without its view. -/
def Single.withoutView (s : Single) : Single :=
  ⟨s.value, ""⟩

/-- A range without its views. -/
def Range.withoutView (r : Range) : Range :=
  ⟨r.lower, r.upper, r.includesLower, r.includesUpper, "", ""⟩

/-- A comparison without its view. -/
def Comparison.withoutView (c : Comparison) : Comparison :=
  ⟨c.value, c.operator, ""⟩

namespace Entry

/-- An entry without its views. -/
def withoutView : Entry → Entry
  | single s => .single s.withoutView
  | excludedSingle s => .excludedSingle s.withoutView
  | range r => .range r.withoutView
  | excludedRange r => .excludedRange r.withoutView
  | comparison c => .comparison c.withoutView
  | textMatch m => .textMatch m

/-- The values in an entry. -/
def values : Entry → List Value
  | single s => [s.value]
  | excludedSingle s => [s.value]
  | range r => [r.lower, r.upper]
  | excludedRange r => [r.lower, r.upper]
  | comparison c => [c.value]
  | textMatch _ => []

theorem check_withoutView (field : Field) (e : Entry) :
    field.check e.withoutView = .ok () ↔ field.check e = .ok () := by
  have range (kind : Kind) (r : Range) :
      (if field.accepts kind then field.checkRange r.withoutView else .error (.notAccepted kind)) = .ok () ↔
        (if field.accepts kind then field.checkRange r else .error (.notAccepted kind)) = .ok () := by
    have order : field.inOrder r.withoutView = field.inOrder r := rfl
    rw [Field.checkRange, Field.checkRange, order]
    cases field.accepts kind <;> cases field.inOrder r <;> simp
  cases e with
  | single s => exact Iff.rfl
  | excludedSingle s => exact Iff.rfl
  | range r => exact range .range r
  | excludedRange r => exact range .excludedRange r
  | comparison c => exact Iff.rfl
  | textMatch m => exact Iff.rfl

end Entry

namespace Bag

/-- A bag without its views. -/
def withoutViews (bag : Bag) : Bag where
  singles := bag.singles.map Single.withoutView
  excludedSingles := bag.excludedSingles.map Single.withoutView
  ranges := bag.ranges.map Range.withoutView
  excludedRanges := bag.excludedRanges.map Range.withoutView
  comparisons := bag.comparisons.map Comparison.withoutView
  textMatches := bag.textMatches

theorem toList_withoutViews (bag : Bag) : bag.withoutViews.toList = bag.toList.map Entry.withoutView := by
  simp only [withoutViews, toList, List.map_append, List.map_map]
  rfl

@[simp] theorem count_withoutViews (bag : Bag) : bag.withoutViews.count = bag.count := by
  simp only [withoutViews, count, List.length_map]

@[simp] theorem isEmpty_withoutViews (bag : Bag) : bag.withoutViews.isEmpty = bag.isEmpty := by
  rw [isEmpty, isEmpty, count_withoutViews]

theorem withoutViews_add (bag : Bag) (e : Entry) :
    (bag.add e).withoutViews = bag.withoutViews.add e.withoutView := by
  cases e <;> simp [add, withoutViews, Entry.withoutView]

theorem withoutViews_addAll (bag : Bag) (entries : List Entry) :
    (bag.addAll entries).withoutViews = bag.withoutViews.addAll (entries.map Entry.withoutView) := by
  induction entries generalizing bag with
  | nil => rfl
  | cons e entries ih => rw [addAll_cons, ih, withoutViews_add, List.map_cons, addAll_cons]

/-- Entries that are those of a bag but for their views make that bag but for its views. -/
theorem withoutViews_ofList {bag : Bag} {entries : List Entry}
    (h : entries.map Entry.withoutView = bag.toList.map Entry.withoutView) :
    (empty.addAll entries).withoutViews = bag.withoutViews := by
  rw [withoutViews_addAll, h, ← toList_withoutViews]
  exact addAll_toList bag.withoutViews

theorem sameList_of_map_eq {α β : Type} {same : α → α → Bool} {f : α → β} {as bs : List α}
    (h : as.map f = bs.map f) (equal : ∀ a ∈ as, ∀ b, f a = f b → same a b = true) :
    sameList same as bs = true := by
  induction as generalizing bs with
  | nil =>
      cases bs with
      | nil => rfl
      | cons b bs => cases h
  | cons a as ih =>
      cases bs with
      | nil => cases h
      | cons b bs =>
          rw [List.map_cons, List.map_cons, List.cons.injEq] at h
          obtain ⟨first, others⟩ := List.forall_mem_cons.mp equal
          rw [sameList, first b h.1, ih h.2 others]
          rfl

/-- A property of all values in a bag. -/
def AllValues (P : Value → Prop) (bag : Bag) : Prop :=
  ∀ e ∈ bag.toList, ∀ v ∈ e.values, P v

theorem allValues_iff (P : Value → Prop) (bag : Bag) :
    bag.AllValues P ↔
      (∀ s ∈ bag.singles, P s.value) ∧ (∀ s ∈ bag.excludedSingles, P s.value) ∧
        (∀ r ∈ bag.ranges, P r.lower ∧ P r.upper) ∧ (∀ r ∈ bag.excludedRanges, P r.lower ∧ P r.upper) ∧
          ∀ c ∈ bag.comparisons, P c.value := by
  simp only [AllValues, toList, List.forall_mem_append, List.forall_mem_map, Entry.values, List.forall_mem_cons,
    List.not_mem_nil, false_implies, implies_true, and_true, and_assoc]

theorem allValues_of_isEmpty {bag : Bag} (none : bag.isEmpty = true) (P : Value → Prop) : bag.AllValues P := by
  rw [AllValues, (isEmpty_iff_toList bag).mp none]
  exact List.forall_mem_nil _

/-- Bags that agree but for their views are the same if every value is equal to itself. -/
theorem same_of_withoutViews {a b : Bag} (h : a.withoutViews = b.withoutViews)
    (equal : a.AllValues fun v => v.same v = true) : a.same b = true := by
  simp only [withoutViews, mk.injEq] at h
  rcases h with ⟨singles, excludedSingles, ranges, excludedRanges, comparisons, textMatches⟩
  have single (s t : Single) (self : s.value.same s.value = true) (hst : s.withoutView = t.withoutView) :
      s.same t = true := by
    rw [Single.same, ← (Single.mk.inj hst).1]
    exact self
  have range (r q : Range) (self : r.lower.same r.lower = true ∧ r.upper.same r.upper = true)
      (hrq : r.withoutView = q.withoutView) : r.same q = true := by
    obtain ⟨lower, upper, includesLower, includesUpper, -⟩ := Range.mk.inj hrq
    rw [Range.same, ← lower, ← upper, ← includesLower, ← includesUpper, self.1, self.2]
    simp
  have comparison (c d : Comparison) (self : c.value.same c.value = true)
      (hcd : c.withoutView = d.withoutView) : c.same d = true := by
    obtain ⟨value, operator, -⟩ := Comparison.mk.inj hcd
    rw [Comparison.same, ← value, ← operator, self]
    simp
  obtain ⟨selfSingles, selfExcluded, selfRanges, selfExcludedRanges, selfComparisons⟩ := (allValues_iff _ a).mp equal
  rw [same, sameList_of_map_eq singles fun s mem t => single s t (selfSingles s mem),
    sameList_of_map_eq excludedSingles fun s mem t => single s t (selfExcluded s mem),
    sameList_of_map_eq ranges fun r mem q => range r q (selfRanges r mem),
    sameList_of_map_eq excludedRanges fun r mem q => range r q (selfExcludedRanges r mem),
    sameList_of_map_eq comparisons fun c mem d => comparison c d (selfComparisons c mem), textMatches]
  simp

end Bag

namespace Group

/-- A tree without its views. -/
def withoutViews : Group → Group :=
  mapBags fun _ => Bag.withoutViews

theorem withoutViews_mk (logical : Logical) (fields : Keyed Bag) (groups : List Group) :
    (mk logical fields groups).withoutViews =
      mk logical (fields.map fun _ => Bag.withoutViews) (groups.map withoutViews) :=
  mapBags_mk _ logical fields groups

end Group

theorem Validation.allowsField_withoutViews (schema : Schema) (limits : Limits) (name : String) (bag : Bag) :
    AllowsField schema limits name bag.withoutViews ↔ AllowsField schema limits name bag := by
  refine exists_congr fun field => and_congr_right fun _ => ?_
  constructor
  · rintro ⟨checked, few⟩
    rw [Bag.toList_withoutViews, List.forall_mem_map] at checked
    exact ⟨fun e mem => (e.check_withoutView field).mp (checked e mem), Bag.count_withoutViews bag ▸ few⟩
  · rintro ⟨checked, few⟩
    refine ⟨?_, (Bag.count_withoutViews bag).symm ▸ few⟩
    rw [Bag.toList_withoutViews, List.forall_mem_map]
    exact fun e mem => (e.check_withoutView field).mpr (checked e mem)

/-- Validation does not look at views. -/
theorem Validation.groupProblems_withoutViews (schema : Schema) (limits : Limits) (group : Group) (level : Nat) :
    groupProblems schema limits group.withoutViews level = [] ↔
      groupProblems schema limits group level = [] := by
  induction group generalizing level with
  | step logical fields groups ih =>
      rw [Group.withoutViews_mk, groupProblems_mk_eq_nil_iff, groupProblems_mk_eq_nil_iff]
      simp only [Keyed.entries_map, List.forall_mem_map, allowsField_withoutViews, List.length_map, ne_eq,
        List.map_eq_nil_iff]
      refine and_congr_right fun _ => and_congr_right fun _ => and_congr_right fun _ => ?_
      exact forall₂_congr fun group mem => ih group mem (level + 1)

theorem Condition.problems_of_withoutViews {schema : Schema} {limits : Limits} {a b : Group}
    (same : a.withoutViews = b.withoutViews) (valid : (⟨schema, b⟩ : Condition).problems limits = []) :
    (⟨schema, a⟩ : Condition).problems limits = [] := by
  rw [problems, ← Validation.groupProblems_withoutViews, same, Validation.groupProblems_withoutViews]
  exact valid

/-- Every bag of a valid tree is about a field of the schema. -/
theorem known_of_problems {schema : Schema} {limits : Limits} {group : Group} {level : Nat}
    (h : Validation.groupProblems schema limits group level = []) :
    group.AllBags fun name _ => ∃ field, schema.field? name = some field := by
  induction group generalizing level with
  | step logical fields groups ih =>
      obtain ⟨allowed, -, -, below⟩ := (Validation.groupProblems_mk_eq_nil_iff _ _ _ _ _ _).mp h
      refine (Group.allBags_mk _ _ _ _).mpr ⟨fun bag mem => ?_, fun group mem => ih group mem (below group mem)⟩
      obtain ⟨field, found, -⟩ := allowed bag mem
      exact ⟨field, found⟩

theorem Keyed.sameBy_of_map_eq {α β : Type} {same : α → α → Bool} {f : α → β} {k l : Keyed α}
    (h : (k.map fun _ => f) = l.map fun _ => f)
    (equal : ∀ entry ∈ k.entries, ∀ b, f entry.2 = f b → same entry.2 b = true) : k.sameBy same l = true := by
  have entries := congrArg Keyed.entries h
  rw [entries_map, entries_map] at entries
  have size : k.size = l.size := by simpa [Keyed.size] using congrArg List.length entries
  rw [sameBy, size, beq_self_eq_true, Bool.true_and, List.all_eq_true]
  rintro ⟨name, value⟩ mem
  have mapped : (name, f value) ∈ l.entries.map fun entry => (entry.1, f entry.2) :=
    entries ▸ List.mem_map_of_mem mem
  obtain ⟨⟨key, other⟩, hother, same⟩ := List.mem_map.mp mapped
  obtain ⟨rfl, hvalue⟩ := Prod.mk.inj same
  rw [(l.get?_eq_some_iff key other).mpr hother]
  exact equal _ mem other hvalue.symm

theorem Group.eq_of_mem_zip {α β : Type} {f : α → β} {as bs : List α} (h : as.map f = bs.map f) {pair : α × α}
    (mem : pair ∈ as.zip bs) : f pair.1 = f pair.2 := by
  induction as generalizing bs with
  | nil => cases mem
  | cons a as ih =>
      cases bs with
      | nil => cases h
      | cons b bs =>
          rw [List.map_cons, List.map_cons, List.cons.injEq] at h
          rw [List.zip_cons_cons, List.mem_cons] at mem
          rcases mem with rfl | later
          · exact h.1
          · exact ih h.2 later

/-- Trees that agree but for their views are the same if every value is equal to itself. -/
theorem Group.same_of_withoutViews {a b : Group} (h : a.withoutViews = b.withoutViews)
    (equal : a.AllBags fun _ bag => bag.AllValues fun v => v.same v = true) : a.same b = true := by
  induction a generalizing b with
  | step logical fields groups ih =>
      rcases b with ⟨otherLogical, otherFields, otherGroups⟩
      rw [withoutViews_mk, withoutViews_mk, mk.injEq] at h
      rcases h with ⟨rfl, hfields, hgroups⟩
      rw [allBags_mk] at equal
      have length : groups.length = otherGroups.length := by simpa using congrArg List.length hgroups
      have bags : fields.sameBy Bag.same otherFields = true :=
        Keyed.sameBy_of_map_eq hfields fun entry mem other same =>
          Bag.same_of_withoutViews same (equal.1 entry mem)
      have below : ((groups.zip otherGroups).all fun pair => pair.1.same pair.2) = true := by
        rw [List.all_eq_true]
        intro pair mem
        have here := (List.of_mem_zip mem).1
        exact ih pair.1 here (eq_of_mem_zip hgroups mem) (equal.2 pair.1 here)
      rw [same_mk]
      simp [Group.logical, Group.fields, Group.groups, bags, length, below]

/-! ## Values that their views denote -/

theorem Binary64.same_self {x : Binary64} (number : x ≠ .nan) : x.same x = true := by
  cases x with
  | nan => exact absurd rfl number
  | infinite negative => simp [same, compare]
  | finite negative m e => simp [same, compare]

namespace Transformer

theorem print_nan {t : Transformer} {text : String} (h : t.print (.float .nan) = .ok text) : text = "NaN" := by
  induction t with
  | integer grouping => cases h
  | number precision grouping rounding =>
      have shown : numberText precision rounding .nan = "NaN".toList := by cases precision <;> rfl
      rw [← Except.ok.inj h, print.printNumber, shown]
      cases grouping <;> rfl
  | date pattern => cases h
  | moment pattern => cases h
  | birthday inner allowsAge allowsFuture today ih => exact ih h

theorem exists_failure_nan (grouped : Bool) : ∃ failure, Numeral.read grouped "NaN".toList = .error failure := by
  cases grouped <;> exact ⟨_, rfl⟩

/-- The display text of a NaN cannot be read as a number. -/
theorem read_nan (t : Transformer) (x : Binary64) : t.read "NaN" ≠ .ok (.float x) := by
  induction t with
  | integer grouping =>
      obtain ⟨failure, failed⟩ := exists_failure_nan grouping
      rw [read, failed]
      exact fun h => nomatch h
  | number precision grouping rounding =>
      obtain ⟨failure, failed⟩ := exists_failure_nan grouping
      rw [read, failed]
      exact fun h => nomatch h
  | date pattern =>
      rw [read]
      split <;> exact fun h => nomatch h
  | moment pattern =>
      rw [read]
      split <;> exact fun h => nomatch h
  | birthday inner allowsAge allowsFuture today ih =>
      have trimmed : Text.trim "NaN".toList = "NaN".toList := by decide
      have noAge : isAge "NaN".toList = false := by decide
      rw [read, trimmed, noAge, String.ofList_toList]
      intro h
      obtain ⟨v, found, h⟩ := bind_eq_ok_iff.mp h
      cases v with
      | float y =>
          cases h
          exact ih found
      | date d =>
          dsimp only at h
          split at h <;> cases h
      | integer n => cases h
      | string text => cases h
      | boolean b => cases h
      | moment m => cases h

end Transformer

namespace Field

/-- A value is what its view denotes. -/
def Shows (field : Field) (v : Value) : Prop :=
  ∃ view, field.toView v = .ok view ∧ field.ofView view = .ok v

/-- A value is what its norm denotes. -/
def Exchanges (field : Field) (v : Value) : Prop :=
  ∃ norm, field.toNorm v = .ok norm ∧ field.ofNorm norm = .ok v

/-- No text denotes a value that differs from itself. -/
theorem same_self_of_printBy {transformer : Option Transformer} {v : Value} {text : String}
    (printed : printBy transformer v = .ok text) (read : readBy transformer text = .ok v) : v.same v = true := by
  cases v with
  | integer n => simp [Value.same]
  | string text => simp [Value.same]
  | boolean b => simp [Value.same]
  | date d => simp [Value.same]
  | moment m => simp [Value.same]
  | float x =>
      refine Binary64.same_self ?_
      rintro rfl
      cases transformer with
      | none => cases read
      | some t =>
          rw [readBy, Transformer.print_nan printed] at read
          exact t.read_nan .nan read

theorem Shows.same_self {field : Field} {v : Value} (shows : field.Shows v) : v.same v = true := by
  rcases shows with ⟨view, toView, ofView⟩
  exact same_self_of_printBy toView ofView

theorem Exchanges.same_self {field : Field} {v : Value} (exchanges : field.Exchanges v) : v.same v = true := by
  rcases exchanges with ⟨norm, toNorm, ofNorm⟩
  exact same_self_of_printBy toNorm ofNorm

end Field

end Criteria
