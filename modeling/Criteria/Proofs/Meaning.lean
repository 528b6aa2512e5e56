import Criteria.Condition.Group
import Criteria.Proofs.Keyed
import Mathlib.Tactic.Tauto

/-!
# What a condition means on a row

Given how the entries about each field come out on a row, a condition lets the row in or keeps it out.  A bag
lets the row in if one of the entries that let rows in does, or there is none of these, and no entry that takes
rows away does.  A group joins what its bags and the groups below say, and a group with nothing in it says
nothing.  Groups that are the same say the same.
-/

namespace Criteria

/-- Joins the answers of the parts of a group. -/
def Logical.join : Logical → List Bool → Bool
  | .all, parts => parts.all id
  | .any, parts => parts.any id

/-- The answer of a group with the given answers of its parts; without parts there is none. -/
def Logical.combine (logical : Logical) (parts : List Bool) : Option Bool :=
  if parts.isEmpty then none else some (logical.join parts)

/-- Only which answers occur counts, not how often or in which order. -/
theorem Logical.combine_congr (logical : Logical) {xs ys : List Bool} (h : ∀ b, b ∈ xs ↔ b ∈ ys) :
    logical.combine xs = logical.combine ys := by
  have empty : xs.isEmpty = ys.isEmpty := by
    rw [Bool.eq_iff_iff, List.isEmpty_iff, List.isEmpty_iff, List.eq_nil_iff_forall_not_mem,
      List.eq_nil_iff_forall_not_mem]
    simp only [h]
  have joined : logical.join xs = logical.join ys := by
    cases logical with
    | all =>
        rw [Bool.eq_iff_iff, join, join, List.all_eq_true, List.all_eq_true]
        simp only [h]
    | any =>
        rw [Bool.eq_iff_iff, join, join, List.any_eq_true, List.any_eq_true]
        simp only [h]
  rw [combine, combine, empty, joined]

/-! ## Bags -/

/-- Decides whether a bag has entries that let rows in. -/
def Bag.widens (bag : Bag) : Bool :=
  !bag.singles.isEmpty || !bag.ranges.isEmpty ||
    bag.comparisons.any (fun c => !c.operator.narrows) || bag.textMatches.any fun m => !m.negated

/-- How the entries about one field come out on one row: whether it has a value, lies in a range, passes a
comparison, and whether its text fits a pattern, leaving aside whether that is wanted. -/
structure Tests where
  equals : Value → Bool
  within : Range → Bool
  passes : Comparison → Bool
  fits : TextMatch → Bool

namespace Tests

/-- Decides whether an entry of a bag lets the row in. -/
def admits (t : Tests) (bag : Bag) : Bool :=
  bag.singles.any (fun s => t.equals s.value) || bag.ranges.any t.within ||
    bag.comparisons.any (fun c => !c.operator.narrows && t.passes c) ||
    bag.textMatches.any fun m => !m.negated && t.fits m

/-- Decides whether an entry of a bag takes the row away. -/
def refuses (t : Tests) (bag : Bag) : Bool :=
  bag.excludedSingles.any (fun s => t.equals s.value) || bag.excludedRanges.any t.within ||
    bag.comparisons.any (fun c => c.operator.narrows && t.equals c.value) ||
    bag.textMatches.any fun m => m.negated && t.fits m

/-- Decides whether a bag lets the row in. -/
def accepts (t : Tests) (bag : Bag) : Bool :=
  (!bag.widens || t.admits bag) && !t.refuses bag

/-- Two bags are both empty or both not, and say the same about the row. -/
structure Agree (t : Tests) (a b : Bag) : Prop where
  isEmpty : a.isEmpty = b.isEmpty
  accepts : t.accepts a = t.accepts b

theorem Agree.refl (t : Tests) (a : Bag) : t.Agree a a :=
  ⟨rfl, rfl⟩

/-- Two pairs of lists of single values and ranges are both without elements or both not, and come out alike
on the row. -/
structure Alike (t : Tests) (values : List Single) (ranges : List Range) (others : List Single)
    (otherRanges : List Range) : Prop where
  empty : (values = [] ∧ ranges = []) ↔ others = [] ∧ otherRanges = []
  any : (values.any (fun s => t.equals s.value) || ranges.any t.within) =
    (others.any (fun s => t.equals s.value) || otherRanges.any t.within)

theorem Alike.refl (t : Tests) (values : List Single) (ranges : List Range) :
    t.Alike values ranges values ranges :=
  ⟨Iff.rfl, rfl⟩

/-- Equal entries come out alike. -/
structure Lawful (t : Tests) : Prop where
  equals_congr : ∀ a b : Value, a.same b = true → t.equals a = t.equals b
  within_congr : ∀ a b : Range, a.same b = true → t.within a = t.within b
  passes_congr : ∀ a b : Comparison, a.same b = true → t.passes a = t.passes b

end Tests

namespace Bag

theorem map_eq_of_sameList {α β : Type} {same : α → α → Bool} {f : α → β} {as bs : List α}
    (congr : ∀ a b, same a b = true → f a = f b) (h : sameList same as bs = true) :
    as.map f = bs.map f := by
  induction as generalizing bs with
  | nil =>
      cases bs with
      | nil => rfl
      | cons b bs => cases h
  | cons a as ih =>
      cases bs with
      | nil => cases h
      | cons b bs =>
          rw [sameList, Bool.and_eq_true] at h
          rw [List.map_cons, List.map_cons, congr a b h.1, ih h.2]

theorem any_eq_of_sameList {α : Type} {same : α → α → Bool} {f : α → Bool} {as bs : List α}
    (congr : ∀ a b, same a b = true → f a = f b) (h : sameList same as bs = true) :
    as.any f = bs.any f := by
  have mapped := congrArg (List.any · id) (map_eq_of_sameList congr h)
  simpa only [List.any_map, Function.id_comp] using mapped

theorem length_eq_of_sameList {α : Type} {same : α → α → Bool} {as bs : List α}
    (h : sameList same as bs = true) : as.length = bs.length := by
  have mapped := congrArg List.length (map_eq_of_sameList (fun _ _ _ => rfl : ∀ a b, _ → () = ()) h)
  simpa only [List.length_map] using mapped

theorem isEmpty_eq_of_sameList {α : Type} {same : α → α → Bool} {as bs : List α}
    (h : sameList same as bs = true) : as.isEmpty = bs.isEmpty := by
  rw [Bool.eq_iff_iff, List.isEmpty_iff_length_eq_zero, List.isEmpty_iff_length_eq_zero,
    length_eq_of_sameList h]

theorem isEmpty_iff (bag : Bag) :
    bag.isEmpty = true ↔
      bag.singles = [] ∧ bag.excludedSingles = [] ∧ bag.ranges = [] ∧ bag.excludedRanges = [] ∧
        bag.comparisons = [] ∧ bag.textMatches = [] := by
  simp only [isEmpty, count, beq_iff_eq, Nat.add_eq_zero_iff, List.length_eq_zero_iff, and_assoc]

theorem eq_empty_of_isEmpty {bag : Bag} (h : bag.isEmpty = true) : bag = .empty := by
  rw [isEmpty_iff] at h
  cases bag
  simp only at h
  simp only [empty, h]

/-- Bags whose values and ranges come out alike, and that agree in the rest, say the same. -/
theorem agree_of_alike {t : Tests} {a b : Bag} (included : t.Alike a.singles a.ranges b.singles b.ranges)
    (excluded : t.Alike a.excludedSingles a.excludedRanges b.excludedSingles b.excludedRanges)
    (comparisons : a.comparisons = b.comparisons) (textMatches : a.textMatches = b.textMatches) :
    t.Agree a b := by
  constructor
  · have includedEmpty := included.empty
    have excludedEmpty := excluded.empty
    rw [Bool.eq_iff_iff, isEmpty_iff, isEmpty_iff, comparisons, textMatches]
    tauto
  · have widens : a.widens = b.widens := by
      have empty : (!a.singles.isEmpty || !a.ranges.isEmpty) =
          (!b.singles.isEmpty || !b.ranges.isEmpty) := by
        rw [← Bool.not_and, ← Bool.not_and, Bool.not_inj_iff, Bool.eq_iff_iff, Bool.and_eq_true,
          Bool.and_eq_true, List.isEmpty_iff, List.isEmpty_iff, List.isEmpty_iff, List.isEmpty_iff]
        exact included.empty
      rw [Bag.widens, Bag.widens, empty, comparisons, textMatches]
    have admits : t.admits a = t.admits b := by
      rw [Tests.admits, Tests.admits, included.any, comparisons, textMatches]
    have refuses : t.refuses a = t.refuses b := by
      rw [Tests.refuses, Tests.refuses, excluded.any, comparisons, textMatches]
    rw [Tests.accepts, Tests.accepts, widens, admits, refuses]

/-- Bags that are the same say the same. -/
theorem agree_of_same {t : Tests} (lawful : t.Lawful) {a b : Bag} (h : a.same b = true) :
    t.Agree a b := by
  simp only [same, Bool.and_eq_true, beq_iff_eq] at h
  rcases h with ⟨⟨⟨⟨⟨singles, excludedSingles⟩, ranges⟩, excludedRanges⟩, comparisons⟩, textMatches⟩
  have operators (c d : Comparison) (hcd : c.same d = true) : c.operator = d.operator := by
    simp only [Comparison.same, Bool.and_eq_true, beq_iff_eq] at hcd
    exact hcd.2
  have values (c d : Comparison) (hcd : c.same d = true) : t.equals c.value = t.equals d.value := by
    simp only [Comparison.same, Bool.and_eq_true] at hcd
    exact lawful.equals_congr _ _ hcd.1
  constructor
  · rw [isEmpty, isEmpty, count, count, length_eq_of_sameList singles,
      length_eq_of_sameList excludedSingles, length_eq_of_sameList ranges,
      length_eq_of_sameList excludedRanges, length_eq_of_sameList comparisons, textMatches]
  · have widens : a.widens = b.widens := by
      rw [widens, widens, textMatches, isEmpty_eq_of_sameList singles,
        isEmpty_eq_of_sameList ranges,
        any_eq_of_sameList (fun c d hcd => by rw [operators c d hcd]) comparisons]
    have admits : t.admits a = t.admits b := by
      rw [Tests.admits, Tests.admits, textMatches,
        any_eq_of_sameList (fun s r => lawful.equals_congr s.value r.value) singles,
        any_eq_of_sameList lawful.within_congr ranges,
        any_eq_of_sameList (fun c d hcd => by rw [operators c d hcd, lawful.passes_congr c d hcd])
          comparisons]
    have refuses : t.refuses a = t.refuses b := by
      rw [Tests.refuses, Tests.refuses, textMatches,
        any_eq_of_sameList (fun s r => lawful.equals_congr s.value r.value) excludedSingles,
        any_eq_of_sameList lawful.within_congr excludedRanges,
        any_eq_of_sameList (fun c d hcd => by rw [operators c d hcd, values c d hcd]) comparisons]
    rw [Tests.accepts, Tests.accepts, widens, admits, refuses]

end Bag

/-! ## Groups -/

/-- The answers of the bags of a group; empty bags give none. -/
def bagAnswers (tests : String → Tests) (fields : Keyed Bag) : List Bool :=
  (fields.entries.filter fun entry => !entry.2.isEmpty).map fun entry => (tests entry.1).accepts entry.2

theorem mem_bagAnswers (tests : String → Tests) (fields : Keyed Bag) (b : Bool) :
    b ∈ bagAnswers tests fields ↔
      ∃ name bag, (name, bag) ∈ fields.entries ∧ bag.isEmpty = false ∧ (tests name).accepts bag = b := by
  simp [bagAnswers, and_assoc]

namespace Group

/-- What a group says about a row, if it says anything. -/
def meaning (tests : String → Tests) : Group → Option Bool :=
  fold fun logical fields below => logical.combine (bagAnswers tests fields ++ below.filterMap id)

/-- A property of every bag of a tree and the name it stands under. -/
def AllBags (P : String → Bag → Prop) : Group → Prop :=
  fold fun _ fields below => (∀ entry ∈ fields.entries, P entry.1 entry.2) ∧ ∀ p ∈ below, p

theorem meaning_mk (tests : String → Tests) (logical : Logical) (fields : Keyed Bag)
    (groups : List Group) :
    (mk logical fields groups).meaning tests =
      logical.combine (bagAnswers tests fields ++ groups.filterMap (meaning tests)) := by
  rw [meaning, fold_mk, List.filterMap_map]
  rfl

theorem allBags_mk (P : String → Bag → Prop) (logical : Logical) (fields : Keyed Bag)
    (groups : List Group) :
    (mk logical fields groups).AllBags P ↔
      (∀ entry ∈ fields.entries, P entry.1 entry.2) ∧ ∀ g ∈ groups, g.AllBags P := by
  rw [AllBags, fold_mk, List.forall_mem_map]

theorem AllBags.mono {P Q : String → Bag → Prop} (h : ∀ name bag, P name bag → Q name bag)
    {group : Group} (all : group.AllBags P) : group.AllBags Q := by
  induction group with
  | step logical fields groups ih =>
      rw [allBags_mk] at all ⊢
      exact ⟨fun entry mem => h _ _ (all.1 entry mem), fun g mem => ih g mem (all.2 g mem)⟩

theorem AllBags.and {P Q : String → Bag → Prop} {group : Group} (first : group.AllBags P)
    (second : group.AllBags Q) : group.AllBags fun name bag => P name bag ∧ Q name bag := by
  induction group with
  | step logical fields groups ih =>
      rw [allBags_mk] at first second ⊢
      exact ⟨fun entry mem => ⟨first.1 entry mem, second.1 entry mem⟩,
        fun g mem => ih g mem (first.2 g mem) (second.2 g mem)⟩

theorem mapBags_mk (f : String → Bag → Bag) (logical : Logical) (fields : Keyed Bag)
    (groups : List Group) :
    (mk logical fields groups).mapBags f = mk logical (fields.map f) (groups.map (mapBags f)) := by
  rw [mapBags, fold_mk]

theorem same_mk (logical : Logical) (fields : Keyed Bag) (groups : List Group) (other : Group) :
    (mk logical fields groups).same other =
      (logical == other.logical && fields.sameBy Bag.same other.fields &&
        groups.length == other.groups.length &&
        (groups.zip other.groups).all fun pair => pair.1.same pair.2) := by
  rw [same, fold_mk, List.length_map, List.zip_map_left, List.all_map]
  rfl

/-- Changing every bag into one that says the same leaves the group saying the same. -/
theorem meaning_mapBags {tests : String → Tests} {f : String → Bag → Bag} {group : Group}
    (agree : group.AllBags fun name bag => (tests name).Agree (f name bag) bag) :
    (group.mapBags f).meaning tests = group.meaning tests := by
  induction group with
  | step logical fields groups ih =>
      rw [allBags_mk] at agree
      have bags : bagAnswers tests (fields.map f) = bagAnswers tests fields := by
        rw [bagAnswers, Keyed.entries_map, List.filter_map, List.map_map, bagAnswers]
        have kept : fields.entries.filter ((fun entry => !entry.2.isEmpty) ∘
            fun entry => (entry.1, f entry.1 entry.2)) =
              fields.entries.filter fun entry => !entry.2.isEmpty :=
          List.filter_congr fun entry mem => congrArg (! ·) (agree.1 entry mem).isEmpty
        rw [kept]
        exact List.map_congr_left fun entry mem =>
          (agree.1 entry (List.mem_of_mem_filter mem)).accepts
      have below : (groups.map (mapBags f)).filterMap (meaning tests) =
          groups.filterMap (meaning tests) := by
        rw [List.filterMap_map]
        exact List.filterMap_congr fun g mem => ih g mem (agree.2 g mem)
      rw [mapBags_mk, meaning_mk, meaning_mk, bags, below]

theorem filterMap_eq_of_zip {α β : Type} {f : α → Option β} {as bs : List α}
    (length : as.length = bs.length) (h : ∀ pair ∈ as.zip bs, f pair.1 = f pair.2) :
    as.filterMap f = bs.filterMap f := by
  induction as generalizing bs with
  | nil =>
      cases bs with
      | nil => rfl
      | cons b bs => cases length
  | cons a as ih =>
      cases bs with
      | nil => cases length
      | cons b bs =>
          rw [List.zip_cons_cons, List.forall_mem_cons] at h
          rw [List.filterMap_cons, List.filterMap_cons, h.1, ih (Nat.succ.inj length) h.2]

/-- Groups that are the same say the same. -/
theorem meaning_of_same {tests : String → Tests} (lawful : ∀ name, (tests name).Lawful)
    {a b : Group} (h : a.same b = true) : a.meaning tests = b.meaning tests := by
  induction a generalizing b with
  | step logical fields groups ih =>
      rcases b with ⟨otherLogical, otherFields, otherGroups⟩
      rw [same_mk] at h
      simp only [Group.logical, Group.fields, Group.groups, Bool.and_eq_true, beq_iff_eq] at h
      rcases h with ⟨⟨⟨rfl, hfields⟩, hlength⟩, hgroups⟩
      rw [List.all_eq_true] at hgroups
      have bags (b : Bool) : b ∈ bagAnswers tests fields ↔ b ∈ bagAnswers tests otherFields := by
        rw [mem_bagAnswers, mem_bagAnswers]
        constructor
        · rintro ⟨name, bag, mem, nonempty, rfl⟩
          obtain ⟨other, hother, equal⟩ := Keyed.exists_right_of_sameBy hfields mem
          have agree := Bag.agree_of_same (lawful name) equal
          exact ⟨name, other, hother, agree.isEmpty ▸ nonempty, agree.accepts.symm⟩
        · rintro ⟨name, other, mem, nonempty, rfl⟩
          obtain ⟨bag, hbag, equal⟩ := Keyed.exists_left_of_sameBy hfields mem
          have agree := Bag.agree_of_same (lawful name) equal
          exact ⟨name, bag, hbag, agree.isEmpty ▸ nonempty, agree.accepts⟩
      have below : groups.filterMap (meaning tests) = otherGroups.filterMap (meaning tests) :=
        filterMap_eq_of_zip hlength fun pair mem =>
          ih pair.1 (List.of_mem_zip mem).1 (hgroups pair mem)
      rw [meaning_mk, meaning_mk, below]
      refine Logical.combine_congr _ fun b => ?_
      rw [List.mem_append, List.mem_append, bags]

end Group

end Criteria
