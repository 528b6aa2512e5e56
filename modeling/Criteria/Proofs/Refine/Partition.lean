import Criteria.Proofs.Refine.Containment
import Criteria.Proofs.Refine.Settled

/-!
# Folding is exact

In an order made of steps equal values are the same value, and lining values up puts their clusters into strictly
ascending order, so that no value has two clusters and no cluster two runs.  The sort is stable, so that the first
value of a cluster is the one that was given first.  A value stays single if it is the first of a cluster that is a run
for itself; what does not stay lies in the one range of its run or equals a value in front of it.
-/

namespace Criteria

/-! ## Equal values -/

theorem PartialComparison.eq_self {α : Type} {compare : α → α → Option Ordering} (laws : PartialComparison compare)
    {a : α} (compares : (compare a a).isSome = true) : compare a a = some .eq := by
  obtain ⟨answer, found⟩ := Option.isSome_iff_exists.mp compares
  have swapped := laws.swap a a
  rw [found] at swapped ⊢
  cases answer with
  | lt => cases swapped
  | eq => rfl
  | gt => cases swapped

theorem TimeOfDay.eq_of_compare_eq {t u : TimeOfDay} (h : t.compare u = .eq) : t = u := by
  simp only [compare, Ordering.then_eq_eq, Nat.compare_eq_eq] at h
  obtain ⟨hour, minute, second, nanosecond⟩ := h
  cases t
  cases u
  cases hour
  cases minute
  cases second
  cases nanosecond
  rfl

theorem Moment.eq_of_compare_eq {m n : Moment} (h : m.compare n = .eq) : m = n := by
  obtain ⟨date, time⟩ := Ordering.then_eq_eq.mp h
  rw [Moment.mk.injEq]
  exact ⟨Date.eq_of_compare_eq date, TimeOfDay.eq_of_compare_eq time⟩

/-- In an order made of steps equal values are the same. -/
theorem ValueOrder.eq_of_compare_eq {order : ValueOrder} (steps : order.hasSteps = true) {a b : Value}
    (h : order.compare a b = some .eq) : a = b := by
  have integers {m n : Int64} (h : some (Ord.compare m.toInt n.toInt) = some Ordering.eq) : m = n :=
    Int64.toInt_inj.mp (Int.compare_eq_eq.mp (Option.some.inj h))
  have dates {d e : Date} (h : some (d.compare e) = some Ordering.eq) : d = e :=
    Date.eq_of_compare_eq (Option.some.inj h)
  have moments {m n : Moment} (h : some (m.compare n) = some Ordering.eq) : m = n :=
    Moment.eq_of_compare_eq (Option.some.inj h)
  cases order with
  | number => cases steps
  | text => cases steps
  | _ =>
      cases a <;> cases b <;>
        first | exact congrArg _ (integers h) | exact congrArg _ (dates h) | exact congrArg _ (moments h) | cases h

namespace Refine

/-! ## Lists -/

section Lists

variable {α : Type} {xs : List α}

theorem eq_or_rel_of_pairwise {R : α → α → Prop} (pairwise : xs.Pairwise R) {x y : α} (hx : x ∈ xs) (hy : y ∈ xs) :
    x = y ∨ R x y ∨ R y x := by
  let related (x y : α) : Prop := x = y ∨ R x y ∨ R y x
  have : Std.Symm related := ⟨fun _ _ h => h.elim (fun same => .inl same.symm) fun h => .inr h.symm⟩
  have all : xs.Pairwise related := pairwise.imp fun r => .inr (.inl r)
  exact all.forall_of_forall (fun _ _ => .inl rfl) hx hy

/-- Sorting keeps the order of elements that may stand in any order. -/
theorem filter_mergeSort {le : α → α → Bool} (trans : ∀ a b c, le a b = true → le b c = true → le a c = true)
    (total : ∀ a b, (le a b || le b a) = true) {p : α → Bool}
    (alike : ∀ a b, p a = true → p b = true → le a b = true) (xs : List α) :
    (xs.mergeSort le).filter p = xs.filter p := by
  have sorted : (xs.filter p).Pairwise fun a b => le a b = true :=
    List.pairwise_of_forall_mem_list fun a ha b hb => alike a b (List.mem_filter.mp ha).2 (List.mem_filter.mp hb).2
  have sublist := (List.sublist_mergeSort trans total sorted List.filter_sublist).filter p
  rw [List.filter_filter] at sublist
  simp only [Bool.and_self] at sublist
  exact (sublist.eq_of_length ((List.mergeSort_perm xs le).filter p).length_eq.symm).symm

/-- Of what is at most once in a list there is none or one. -/
theorem countP_eq_toNat_any {p : α → Bool} (once : xs.Pairwise fun a b => ¬(p a = true ∧ p b = true)) :
    xs.countP p = (xs.any p).toNat := by
  induction xs with
  | nil => rfl
  | cons x xs ih =>
      obtain ⟨here, later⟩ := List.pairwise_cons.mp once
      rw [List.any_cons]
      cases found : p x with
      | false => rw [List.countP_cons_of_neg (by rw [found]; exact Bool.false_ne_true), ih later, Bool.false_or]
      | true =>
          have none : xs.countP p = 0 := List.countP_eq_zero.mpr fun y hy other => here y hy ⟨found, other⟩
          rw [List.countP_cons_of_pos found, none]
          rfl

/-- The distinct elements of a list are those that equal none in front of them. -/
theorem distinctFrom_eq {same : α → α → Bool} (trans : ∀ a b c, same a b = true → same b c = true → same a c = true)
    (kept seen : List α) (alike : ∀ x, (kept.any fun k => same k x) = seen.any fun k => same k x) (xs : List α) :
    distinctFrom same kept xs =
      ((xs.zipIdx seen.length).filter fun entry =>
        !((seen ++ xs).take entry.2).any fun k => same k entry.1).map Prod.fst := by
  induction xs generalizing kept seen with
  | nil => rfl
  | cons x xs ih =>
      have front : (seen ++ x :: xs).take seen.length = seen := List.take_left
      have later : seen ++ x :: xs = (seen ++ [x]) ++ xs := by rw [List.append_assoc, List.singleton_append]
      have length : seen.length + 1 = (seen ++ [x]).length := by rw [List.length_append, List.length_singleton]
      rw [distinctFrom, List.zipIdx_cons, List.filter_cons, front, ← alike]
      split
      · rename_i found
        have alike (y : α) : (kept.any fun k => same k y) = (seen ++ [x]).any fun k => same k y := by
          rw [List.any_append, List.any_cons, List.any_nil, Bool.or_false, ← alike]
          cases joins : same x y with
          | false => rw [Bool.or_false]
          | true =>
              obtain ⟨k, hk, equal⟩ := List.any_eq_true.mp found
              rw [Bool.or_true]
              exact List.any_eq_true.mpr ⟨k, hk, trans _ _ _ equal joins⟩
        rw [found, Bool.not_true, if_neg Bool.false_ne_true, ih kept (seen ++ [x]) alike, length, later]
      · rename_i new
        have alike (y : α) : ((x :: kept).any fun k => same k y) = (seen ++ [x]).any fun k => same k y := by
          rw [List.any_append, List.any_cons, List.any_cons, List.any_nil, Bool.or_false, alike, Bool.or_comm]
        rw [Bool.eq_false_iff.mpr new, Bool.not_false, if_pos rfl, ih (x :: kept) (seen ++ [x]) alike, length, later,
          List.map_cons]

theorem distinct_eq {same : α → α → Bool} (trans : ∀ a b c, same a b = true → same b c = true → same a c = true)
    (xs : List α) :
    distinct same xs =
      (xs.zipIdx.filter fun entry => !(xs.take entry.2).any fun k => same k entry.1).map Prod.fst :=
  distinctFrom_eq trans [] [] (fun _ => rfl) xs

end Lists

/-! ## Clusters in ascending order -/

/-- Every value of a list compares with itself. -/
def AllCompare (field : Field) (values : List Single) : Prop :=
  ∀ s ∈ values, (field.compare s.value s.value).isSome = true

theorem mem_clusters_iff {field : Field} {values : List Single} {c : Cluster} :
    c ∈ clusters field (linedUp field values) ↔ ∃ run ∈ runsOf field values, c ∈ run := by
  rw [← flatten_splitRuns (fun a b => isStep field a.first.single.value b.first.single.value)
    (clusters field (linedUp field values)), List.mem_flatten]
  rfl

theorem dropped_iff {field : Field} {values : List Single} {run : List Cluster} (hrun : run ∈ runsOf field values)
    {c : Cluster} (hc : c ∈ run) {p : Placed} (hp : p ∈ c.members) :
    p.place ∈ (runsOf field values).flatMap droppedOfRun ↔ ¬(run = [c] ∧ p = c.first) := by
  constructor
  · rintro dropped ⟨rfl, rfl⟩
    exact not_dropped_of_mem hrun dropped
  · intro stays
    refine List.mem_flatMap.mpr ⟨run, hrun, ?_⟩
    match run, hc with
    | [d], hc =>
        obtain rfl := List.mem_singleton.mp hc
        have other := (List.mem_cons.mp hp).resolve_left fun first => stays ⟨rfl, first⟩
        exact List.mem_map_of_mem other
    | d :: e :: rest, hc => exact List.mem_flatMap.mpr ⟨c, hc, List.mem_map_of_mem (f := Placed.place) hp⟩

section Order

variable {field : Field} {order : ValueOrder} (ordered : field.order = some order)
include ordered

theorem lineUp_eq_lt_iff (a b : Value) :
    lineUp field a b = .lt ↔
      Ord.compare a.kind.name b.kind.name = .lt ∨ a.kind = b.kind ∧ order.compare a b = some .lt := by
  rw [lineUp, Field.compare, ordered, Option.bind_some, Ordering.then_eq_lt]
  refine or_congr_right (and_congr ⟨Value.Kind.eq_of_compare_name, fun same => ?_⟩ ?_)
  · rw [same, Std.ReflOrd.compare_self]
  · cases order.compare a b <;> simp

theorem lineUp_lt_trans {a b c : Value} (hab : lineUp field a b = .lt) (hbc : lineUp field b c = .lt) :
    lineUp field a c = .lt := by
  rw [lineUp_eq_lt_iff ordered] at hab hbc ⊢
  rcases hab with below | ⟨kindB, hab⟩
  · rcases hbc with above | ⟨kindC, -⟩
    · exact .inl (Std.TransCmp.lt_trans below above)
    · exact .inl (kindC ▸ below)
  · rcases hbc with above | ⟨kindC, hbc⟩
    · exact .inl (kindB ▸ above)
    · exact .inr ⟨kindB.trans kindC, order.partialComparison.lt_trans _ _ _ hab hbc⟩

theorem lineUp_self_ne_lt (a : Value) : lineUp field a a ≠ .lt := by
  rw [ne_eq, lineUp_eq_lt_iff ordered, Std.ReflOrd.compare_self]
  rintro (⟨⟨⟩⟩ | ⟨-, less⟩)
  exact order.partialComparison.not_lt_self a less

theorem isEqual_self {values : List Single} (compares : AllCompare field values) {s : Single} (mem : s ∈ values) :
    field.isEqual s.value s.value = true := by
  have self := compares s mem
  rw [Field.compare, ordered, Option.bind_some] at self
  rw [Field.isEqual, ordered, order.isEqual_iff]
  exact order.partialComparison.eq_self self

/-- The range that a run becomes goes from its first to its last value and holds what equals one of its values. -/
theorem ends_of_rangeOfRun? {values : List Single} (free : FreeOfMoments values) {run : List Cluster}
    (hrun : run ∈ runsOf field values) {r : Range} (becomes : rangeOfRun? run = some r) :
    ∃ first last : Cluster, run.head? = some first ∧ run.getLast? = some last ∧
      r = .inclusive first.first.single last.first.single ∧ order.compare first.value last.value = some .lt ∧
        ∀ x, covers field r x = true ↔ ∃ c ∈ run, field.isEqual c.value x = true := by
  match run, hrun, becomes with
  | c :: d :: rest, hrun, becomes =>
      rw [rangeOfRun?_cons_cons] at becomes
      cases becomes
      have chain := (isChain_of_mem_splitRuns hrun).imp fun a b => isNext_of_isStep ordered
      refine ⟨c, rest.getLastD d, rfl, by simp [List.getLast?_cons], rfl, lt_last chain, fun x => ?_⟩
      rw [covers_eq_within ordered, within_rangeOf ordered free hrun]
      simp only [Field.isEqual, ordered]

/-- Nothing lies in two ranges if the first ends below the second. -/
theorem not_covers_both (steps : order.hasSteps = true) {r q : Range}
    (ascending : r.lower.kind = q.lower.kind → field.compare r.upper q.lower = some .lt) {x : Value}
    (first : covers field r x = true) : covers field q x = false := by
  have laws := order.partialComparison
  rw [Bool.eq_false_iff]
  intro second
  rw [covers_eq_within ordered, order.within_iff] at first second
  have kind {low : Value} {included : Bool}
      (below : order.compare low x = some .lt ∨ included = true ∧ order.compare low x = some .eq) :
      low.kind = x.kind := by
    refine ((ValueOrder.isSome_compare steps low x).mp ?_).1
    rcases below with less | ⟨-, equal⟩
    · rw [less]
      rfl
    · rw [equal]
      rfl
  have between := ascending ((kind first.1).trans (kind second.1).symm)
  rw [Field.compare, ordered, Option.bind_some] at between
  have above : order.compare x q.lower = some .lt := by
    rcases first.2 with less | ⟨-, equal⟩
    · exact laws.lt_trans _ _ _ less between
    · exact laws.lt_of_eq_of_lt equal between
  rcases second.1 with less | ⟨-, equal⟩
  · exact laws.not_lt_self x (laws.lt_trans _ _ _ above less)
  · exact laws.not_lt_self x (laws.lt_of_lt_of_eq above equal)

variable (steps : order.hasSteps = true)
include steps

theorem eq_of_isEqual {a b : Value} (equal : field.isEqual a b = true) : a = b := by
  rw [Field.isEqual, ordered, order.isEqual_iff] at equal
  exact ValueOrder.eq_of_compare_eq steps equal

theorem eq_of_isStep {a b c : Value} (first : isStep field a b = true) (second : isStep field a c = true) : b = c := by
  rw [isStep, Option.any_eq_true] at first second
  obtain ⟨next, found, first⟩ := first
  obtain ⟨other, foundToo, second⟩ := second
  rw [found] at foundToo
  cases foundToo
  exact (eq_of_isEqual ordered steps first).symm.trans (eq_of_isEqual ordered steps second)

theorem value_eq_of_mem_members {values : List Single} {c : Cluster} (hc : c ∈ clusters field (linedUp field values))
    {p : Placed} (hp : p ∈ c.members) : p.single.value = c.value := by
  rcases isEqual_of_mem_clusters hc hp with rfl | equal
  · rfl
  · exact (eq_of_isEqual ordered steps equal).symm

/-- The members of a cluster stand in the order in which they were given. -/
theorem pairwise_members {values : List Single} {c : Cluster} (hc : c ∈ clusters field (linedUp field values)) :
    c.members.Pairwise fun p q => p.place < q.place := by
  let alike (p : Placed) : Bool := p.single.value == c.value
  have members : c.members.Sublist (linedUp field values) := by
    have part := List.sublist_flatten_of_mem (List.mem_map_of_mem (f := Cluster.members) hc)
    rwa [← List.flatMap_def, flatMap_clusters] at part
  have same : c.members.filter alike = c.members :=
    List.filter_eq_self.mpr fun p hp => beq_iff_eq.mpr (value_eq_of_mem_members ordered steps hc hp)
  have stable : (linedUp field values).filter alike =
      (values.zipIdx.map fun entry => (⟨entry.1, entry.2⟩ : Placed)).filter alike := by
    refine filter_mergeSort (standsBefore_trans ordered steps) (standsBefore_total ordered) (fun p q hp hq => ?_) _
    rw [standsBefore, beq_iff_eq.mp hp, beq_iff_eq.mp hq, bne_iff_ne]
    exact (lineUp_total ordered c.value c.value).elim id id
  have given := members.filter alike
  rw [same, stable] at given
  have places : values.zipIdx.Pairwise fun a b => a.2 < b.2 := by
    rw [← List.pairwise_map, List.zipIdx_map_snd]
    exact List.pairwise_lt_range' 1
  have placed : (values.zipIdx.map fun entry => (⟨entry.1, entry.2⟩ : Placed)).Pairwise fun p q => p.place < q.place :=
    List.pairwise_map.mpr places
  exact placed.sublist (given.trans List.filter_sublist)

variable {values : List Single} (compares : AllCompare field values)
include compares

/-- The clusters stand in strictly ascending order. -/
theorem pairwise_clusters :
    (clusters field (linedUp field values)).Pairwise fun c d => lineUp field c.value d.value = .lt := by
  have : Trans (fun c d : Cluster => lineUp field c.value d.value = .lt)
      (fun c d : Cluster => lineUp field c.value d.value = .lt)
      (fun c d : Cluster => lineUp field c.value d.value = .lt) := ⟨lineUp_lt_trans ordered⟩
  have sorted : (clusters field (linedUp field values)).Pairwise fun a b => lineUp field a.value b.value ≠ .gt :=
    List.pairwise_map.mp ((pairwise_linedUp ordered steps values).sublist (sublist_clusters field _))
  have apart := List.isChain_iff_getElem.mp (isChain_clusters field (linedUp field values))
  refine List.IsChain.pairwise (List.isChain_iff_getElem.mpr fun i hi => ?_)
  have notAbove := List.pairwise_iff_getElem.mp sorted i (i + 1) (by omega) hi (by omega)
  have differs := apart i hi
  obtain ⟨run, hrun, hc⟩ := mem_clusters_iff.mp (List.getElem_mem (Nat.lt_of_succ_lt hi))
  have self := compares _ (first_mem_of_mem_run hrun hc)
  rw [Field.compare, ordered, Option.bind_some, ValueOrder.isSome_compare steps] at self
  rw [Field.isEqual, ordered, Bool.eq_false_iff, ne_eq, order.isEqual_iff] at differs
  rw [lineUp_eq_lt_iff ordered]
  rcases (lineUp_ne_gt_iff ordered _ _).mp notAbove with below | ⟨kind, notAbove⟩
  · exact .inl below
  · exact .inr ⟨kind, (ValueOrder.lt_or_eq_of_ne_gt steps kind self.2 notAbove).resolve_right differs⟩

/-- No value has two clusters. -/
theorem cluster_eq_of_value_eq {c d : Cluster} (hc : c ∈ clusters field (linedUp field values))
    (hd : d ∈ clusters field (linedUp field values)) (same : c.value = d.value) : c = d := by
  rcases eq_or_rel_of_pairwise (pairwise_clusters ordered steps compares) hc hd with rfl | less | less
  · rfl
  · exact absurd (same ▸ less) (lineUp_self_ne_lt ordered _)
  · exact absurd (same ▸ less) (lineUp_self_ne_lt ordered _)

theorem pairwise_runsOf :
    (∀ run ∈ runsOf field values, run.Pairwise fun c d => lineUp field c.value d.value = .lt) ∧
      (runsOf field values).Pairwise fun run next =>
        ∀ c ∈ run, ∀ d ∈ next, lineUp field c.value d.value = .lt := by
  have ascending := pairwise_clusters ordered steps compares
  rwa [← flatten_splitRuns (fun a b => isStep field a.first.single.value b.first.single.value)
    (clusters field (linedUp field values)), List.pairwise_flatten] at ascending

/-- No cluster has two runs. -/
theorem run_eq_of_mem {run other : List Cluster} (hrun : run ∈ runsOf field values)
    (hother : other ∈ runsOf field values) {c : Cluster} (hc : c ∈ run) (hcToo : c ∈ other) : run = other := by
  rcases eq_or_rel_of_pairwise (pairwise_runsOf ordered steps compares).2 hrun hother with rfl | less | less
  · rfl
  · exact absurd (less c hc c hcToo) (lineUp_self_ne_lt ordered _)
  · exact absurd (less c hcToo c hc) (lineUp_self_ne_lt ordered _)

/-! ## What stays single -/

/-- The first member of a cluster is given before every equal value. -/
theorem first_place_le {c : Cluster} (hc : c ∈ clusters field (linedUp field values)) {s : Single} {place : Nat}
    (mem : (s, place) ∈ values.zipIdx) (same : s.value = c.value) : c.first.place ≤ place := by
  obtain ⟨run, hrun, d, hd, hp⟩ := exists_run_of_mem_zipIdx field mem
  have cluster := mem_clusters_of_mem_run hrun hd
  have value := value_eq_of_mem_members ordered steps cluster hp
  obtain rfl := cluster_eq_of_value_eq ordered steps compares hc cluster (same.symm.trans value)
  rcases List.mem_cons.mp hp with first | other
  · rw [← first]
  · exact Nat.le_of_lt ((List.pairwise_cons.mp (pairwise_members ordered steps hc)).1 _ other)

/-- A member of a cluster equals a value in front of it unless it is the first. -/
theorem any_take_eq_false_iff {c : Cluster} (hc : c ∈ clusters field (linedUp field values)) {p : Placed}
    (hp : p ∈ c.members) (placed : (p.single, p.place) ∈ values.zipIdx) :
    ((values.take p.place).any fun k => sameSingle field k p.single) = false ↔ p = c.first := by
  have value := value_eq_of_mem_members ordered steps hc hp
  rw [List.any_eq_false]
  constructor
  · intro new
    refine (List.mem_cons.mp hp).resolve_right fun other => ?_
    obtain ⟨run, hrun, hcRun⟩ := mem_clusters_iff.mp hc
    have before := (List.pairwise_cons.mp (pairwise_members ordered steps hc)).1 p other
    have first := mem_zipIdx_of_mem_run hrun hcRun List.mem_cons_self
    obtain ⟨inside, found⟩ := List.getElem?_eq_some_iff.mp (List.mem_zipIdx_iff_getElem?.mp first)
    refine new c.first.single ?_ ?_
    · exact List.mem_take_iff_getElem.mpr ⟨c.first.place, Nat.lt_min.mpr ⟨before, inside⟩, found⟩
    · rw [sameSingle, value]
      exact isEqual_self ordered compares (List.fst_mem_of_mem_zipIdx first)
  · rintro rfl k hk equal
    obtain ⟨place, earlier, rfl⟩ := List.mem_take_iff_getElem.mp hk
    obtain ⟨before, inside⟩ := Nat.lt_min.mp earlier
    have mem : (values[place], place) ∈ values.zipIdx :=
      List.mem_zipIdx_iff_getElem?.mpr (List.getElem?_eq_getElem inside)
    have least := first_place_le ordered steps compares hc mem (eq_of_isEqual ordered steps equal)
    exact absurd (Nat.lt_of_le_of_lt least before) (Nat.lt_irrefl _)

/-- A value lies in a range exactly if its run is one of several clusters. -/
theorem any_covers_iff (free : FreeOfMoments values) {run : List Cluster} (hrun : run ∈ runsOf field values)
    {c : Cluster} (hc : c ∈ run) :
    ((rangesOf field values).any fun r => covers field r c.value) = true ↔ run ≠ [c] := by
  have cluster := mem_clusters_of_mem_run hrun hc
  rw [List.any_eq_true]
  constructor
  · rintro ⟨r, hr, lies⟩ rfl
    obtain ⟨other, hother, becomes⟩ := List.mem_filterMap.mp hr
    obtain ⟨first, last, begins, ends, -, above, holds⟩ := ends_of_rangeOfRun? ordered free hother becomes
    obtain ⟨a, ha, equal⟩ := (holds _).mp lies
    obtain rfl := cluster_eq_of_value_eq ordered steps compares (mem_clusters_of_mem_run hother ha) cluster
      (eq_of_isEqual ordered steps equal)
    obtain rfl := run_eq_of_mem ordered steps compares hother hrun ha hc
    cases begins
    cases ends
    exact order.partialComparison.not_lt_self _ above
  · intro several
    match run, hrun, hc with
    | [d], _, hc =>
        obtain rfl := List.mem_singleton.mp hc
        exact absurd rfl several
    | d :: e :: rest, hrun, hc =>
        refine ⟨_, List.mem_filterMap.mpr ⟨_, hrun, rangeOfRun?_cons_cons d e rest⟩, ?_⟩
        rw [covers_eq_within ordered, within_rangeOf ordered free hrun]
        have self := isEqual_self ordered compares (first_mem_of_mem_run hrun hc)
        rw [Field.isEqual, ordered] at self
        exact ⟨c, hc, self⟩

/-- The values that stay single are the distinct values that lie in none of the ranges. -/
theorem singlesOf_eq (free : FreeOfMoments values) :
    singlesOf field values =
      dropCovered field (rangesOf field values) (distinct (sameSingle field) values) := by
  have trans (a b c : Single) (hab : sameSingle field a b = true) (hbc : sameSingle field b c = true) :
      sameSingle field a c = true := by
    rw [sameSingle] at hab hbc ⊢
    rw [eq_of_isEqual ordered steps hab]
    exact hbc
  rw [distinct_eq trans, dropCovered, List.filter_map, List.filter_filter, singlesOf]
  congr 1
  refine List.filter_congr fun entry placed => ?_
  obtain ⟨run, hrun, c, hc, hp⟩ := exists_run_of_mem_zipIdx field placed
  have cluster := mem_clusters_of_mem_run hrun hc
  have value : entry.1.value = c.value := value_eq_of_mem_members ordered steps cluster hp
  have dropped := dropped_iff hrun hc hp
  have new := any_take_eq_false_iff ordered steps compares cluster hp placed
  have covered := any_covers_iff ordered steps compares free hrun hc
  rw [Bool.eq_iff_iff, Function.comp_apply, Bool.and_eq_true, Bool.not_eq_true', Bool.not_eq_true', Bool.not_eq_true',
    new, value, Bool.eq_false_iff, Bool.eq_false_iff, ne_eq, ne_eq, List.contains_iff_mem, dropped, covered, not_not,
    not_not]

/-! ## Runs as ranges -/

/-- No step leads from a value of the list to the beginning of a run. -/
theorem not_isStep_to_head? (free : FreeOfMoments values) {run : List Cluster} (hrun : run ∈ runsOf field values)
    {c : Cluster} (begins : run.head? = some c) {s : Single} (listed : s ∈ values) :
    isStep field s.value c.value = false := by
  obtain ⟨tail, rfl⟩ := List.head?_eq_some_iff.mp begins
  rw [Bool.eq_false_iff]
  intro step
  obtain ⟨other, hother, d, hd, p, hp, rfl⟩ := exists_run_of_mem field listed
  rw [value_eq_of_mem_members ordered steps (mem_clusters_of_mem_run hother hd) hp] at step
  obtain ⟨front, behind, rfl⟩ := List.append_of_mem hd
  cases behind with
  | nil =>
      have ends : (front ++ [d]).getLast? = some d := List.getLast?_concat
      have first := first_mem_of_mem_run hrun List.mem_cons_self
      have none := not_isStep_of_getLast? ordered steps (fun _ => free) hother ends first
      exact Bool.false_ne_true (none.symm.trans step)
  | cons e behind =>
      -- The step inside the other run leads to the same cluster, so that the runs are one, and its first cluster
      -- would stand behind another.
      have inside := (List.isChain_cons_cons.mp (List.isChain_append.mp (isChain_of_mem_splitRuns hother)).2.1).1
      have he : e ∈ front ++ d :: e :: behind :=
        List.mem_append_right _ (List.mem_cons_of_mem d List.mem_cons_self)
      obtain rfl := cluster_eq_of_value_eq ordered steps compares (mem_clusters_of_mem_run hother he)
        (mem_clusters_of_mem_run hrun List.mem_cons_self) (eq_of_isStep ordered steps inside step)
      have same := run_eq_of_mem ordered steps compares hother hrun he List.mem_cons_self
      have ascending := (pairwise_runsOf ordered steps compares).1 _ hother
      cases front with
      | nil =>
          obtain ⟨rfl, -⟩ := List.cons.inj same
          exact lineUp_self_ne_lt ordered _ ((List.pairwise_cons.mp ascending).1 _ List.mem_cons_self)
      | cons f front =>
          obtain ⟨rfl, -⟩ := List.cons.inj same
          refine lineUp_self_ne_lt ordered _ ((List.pairwise_cons.mp ascending).1 _ ?_)
          exact List.mem_append_right _ (List.mem_cons_of_mem d List.mem_cons_self)

end Order

/-! ## The account of a list -/

/-- A path of given values by single steps from one value to another. -/
structure IsPath (field : Field) (values : List Single) (low high : Single) (path : List Single) : Prop where
  given : path ⊆ values
  first : path.head? = some low
  last : path.getLast? = some high
  climbs : path.IsChain fun a b => isStep field a.value b.value = true

/-- A range that includes its bounds, the lower one below the upper one, and holds exactly what lies on a path of given
values between the two. -/
structure IsClimb (field : Field) (values : List Single) (r : Range) : Prop where
  filled : ∃ low high path, r = .inclusive low high ∧ IsPath field values low high path ∧
    ∀ x, covers field r x = true ↔ ∃ s ∈ path, field.isEqual s.value x = true
  above : field.compare r.lower r.upper = some .lt

/-- A list of values is what remains of it and ranges, without gaps and without overlap, and the ranges are as long as
they can be. -/
structure FoldsInto (field : Field) (values remaining : List Single) (ranges : List Range) : Prop where
  /-- Every value equals one remaining value or lies in one range. -/
  once : ∀ s ∈ values,
    remaining.countP (sameSingle field s) + ranges.countP (fun r => covers field r s.value) = 1
  climbs : ∀ r ∈ ranges, IsClimb field values r
  /-- What remains are the first of equal values, in their order, without those that lie in a range. -/
  remaining_eq : remaining = dropCovered field ranges (distinct (sameSingle field) values)
  scattered : Scattered field remaining
  /-- No step leads from a value to a range or from a range to a value. -/
  maximal : ∀ r ∈ ranges, ∀ s ∈ values, isStep field s.value r.lower = false ∧ isStep field r.upper s.value = false
  ascending : ranges.Pairwise fun r q => r.lower.kind = q.lower.kind →
    field.compare r.upper q.lower = some .lt ∧ isStep field r.upper q.lower = false

theorem isClimb_of_mem_rangesOf {field : Field} {order : ValueOrder} (ordered : field.order = some order)
    {values : List Single} (free : FreeOfMoments values) {r : Range} (mem : r ∈ rangesOf field values) :
    IsClimb field values r := by
  obtain ⟨run, hrun, becomes⟩ := List.mem_filterMap.mp mem
  obtain ⟨first, last, begins, ends, rfl, above, holds⟩ := ends_of_rangeOfRun? ordered free hrun becomes
  constructor
  · refine ⟨first.first.single, last.first.single, run.map fun c => c.first.single, rfl, ?_, fun x => ?_⟩
    · refine {
        given := fun s hs => ?_
        first := by rw [List.head?_map, begins, Option.map_some]
        last := by rw [List.getLast?_map, ends, Option.map_some]
        climbs := (List.isChain_map _).mpr (isChain_of_mem_splitRuns hrun) }
      obtain ⟨c, hc, rfl⟩ := List.mem_map.mp hs
      exact first_mem_of_mem_run hrun hc
    · rw [holds]
      simp only [List.mem_map, exists_exists_and_eq_and]
      rfl
  · rw [Field.compare, ordered]
    exact above

theorem scattered_of_length_le_one {field : Field} {order : ValueOrder} (ordered : field.order = some order)
    {values : List Single} (few : values.length ≤ 1) : Scattered field values := by
  rcases values with _ | ⟨s, _ | ⟨t, rest⟩⟩
  · exact ⟨.nil, fun _ none => nomatch none⟩
  · refine ⟨List.pairwise_singleton _ _, fun a ha b hb => ?_⟩
    obtain rfl := List.mem_singleton.mp ha
    obtain rfl := List.mem_singleton.mp hb
    rw [Bool.eq_false_iff]
    exact fun step => order.partialComparison.not_lt_self _ (isNext_of_isStep ordered step).above
  · exact absurd (Nat.succ_le_succ_iff.mp few) (Nat.not_succ_le_zero _)

section Account

variable {field : Field} {order : ValueOrder} (ordered : field.order = some order) (steps : order.hasSteps = true)
  {values : List Single} (compares : AllCompare field values) (free : FreeOfMoments values)
include ordered steps

theorem fold_eq_of_hasSteps (values : List Single) :
    fold field values = (singlesOf field values, rangesOf field values) := by
  by_cases few : values.length ≤ 1
  · have scattered : Scattered field values := scattered_of_length_le_one ordered few
    rw [scattered.fold_eq, scattered.unfolded.1, scattered.unfolded.2]
  · rw [fold, if_pos]
    · rfl
    · rw [ordered, Option.any_some, steps, Bool.true_and, decide_eq_true_eq]
      omega

include compares free

theorem scattered_remaining : Scattered field (singlesOf field values) where
  apart := by
    rw [singlesOf_eq ordered steps compares free]
    have apart : (dropCovered field (rangesOf field values) (distinct (sameSingle field) values)).Pairwise
        fun a b => sameSingle field a b = false := (pairwise_distinct values).sublist (dropCovered_sublist _ _)
    refine apart.imp fun {a b} differs => ⟨differs, ?_⟩
    rw [sameSingle, Bool.eq_false_iff] at differs
    rw [Bool.eq_false_iff]
    intro equal
    rw [eq_of_isEqual ordered steps equal] at differs equal
    exact differs equal
  stepless a ha b hb := by
    obtain ⟨c, hc, rfl⟩ := exists_run_of_mem_singlesOf ha
    exact not_isStep_of_alone ordered steps (fun _ => free) hc (singlesOf_subset field values hb)

/-- Of two ranges of one kind the first ends below the second, and no step leads from one to the other. -/
theorem pairwise_rangesOf :
    (rangesOf field values).Pairwise fun r q => r.lower.kind = q.lower.kind →
      field.compare r.upper q.lower = some .lt ∧ isStep field r.upper q.lower = false := by
  refine List.pairwise_filterMap.mpr ((pairwise_runsOf ordered steps compares).2.imp_of_mem ?_)
  intro run next hrun hnext less r becomes q becomesToo kind
  obtain ⟨first, last, -, ends, rfl, above, -⟩ := ends_of_rangeOfRun? ordered free hrun becomes
  obtain ⟨start, _, begins, -, rfl, -, -⟩ := ends_of_rangeOfRun? ordered free hnext becomesToo
  have listed := first_mem_of_mem_run hnext (List.mem_of_head? begins)
  refine ⟨?_, not_isStep_of_getLast? ordered steps (fun _ => free) hrun ends listed⟩
  have inside := ((ValueOrder.isSome_compare steps first.value last.value).mp (by rw [above]; rfl)).1
  have alike : last.value.kind = start.value.kind := inside.symm.trans kind
  have below := less last (List.mem_of_getLast? ends) start (List.mem_of_head? begins)
  rw [lineUp_eq_lt_iff ordered, alike, Std.ReflOrd.compare_self] at below
  rcases below with ⟨⟨⟩⟩ | ⟨-, below⟩
  rw [Field.compare, ordered]
  exact below

theorem countP_add_countP_eq_one {s : Single} (listed : s ∈ values) :
    (singlesOf field values).countP (sameSingle field s) +
      (rangesOf field values).countP (fun r => covers field r s.value) = 1 := by
  have single : (singlesOf field values).Pairwise fun a b =>
      ¬(sameSingle field s a = true ∧ sameSingle field s b = true) := by
    refine (scattered_remaining ordered steps compares free).apart.imp fun {a b} differs both => ?_
    rw [sameSingle, sameSingle] at both
    rw [← eq_of_isEqual ordered steps both.1, both.2] at differs
    exact Bool.false_ne_true differs.1.symm
  have range : (rangesOf field values).Pairwise fun r q =>
      ¬(covers field r s.value = true ∧ covers field q s.value = true) := by
    refine (pairwise_rangesOf ordered steps compares free).imp fun ascending both => ?_
    have none := not_covers_both ordered steps (fun kind => (ascending kind).1) both.1
    exact Bool.false_ne_true (none.symm.trans both.2)
  rw [countP_eq_toNat_any single, countP_eq_toNat_any range]
  cases covered : (rangesOf field values).any fun r => covers field r s.value with
  | true =>
      have none : (singlesOf field values).any (sameSingle field s) = false := by
        rw [singlesOf_eq ordered steps compares free, List.any_eq_false]
        intro t kept same
        have lies := (List.mem_filter.mp kept).2
        rw [← eq_of_isEqual ordered steps same, covered] at lies
        exact Bool.false_ne_true lies
      rw [none]
      rfl
  | false =>
      have account := any_fold ordered free s.value
      have self := isEqual_self ordered compares listed
      simp only [covers_eq_within ordered] at covered
      rw [covered, Bool.or_false] at account
      have one : (singlesOf field values).any (sameSingle field s) = true := by
        obtain ⟨t, kept, same⟩ : ∃ t ∈ singlesOf field values, order.isEqual t.value s.value = true := by
          rw [← List.any_eq_true, account, List.any_eq_true]
          rw [Field.isEqual, ordered] at self
          exact ⟨s, listed, self⟩
        have value : t.value = s.value := eq_of_isEqual ordered steps (by rwa [Field.isEqual, ordered])
        refine List.any_eq_true.mpr ⟨t, kept, ?_⟩
        rw [sameSingle, value]
        exact self
      rw [one]
      rfl

end Account

/-- Folding splits values into what stays single and the longest runs. -/
theorem foldsInto_fold {field : Field} (steps : field.hasSteps = true) {values : List Single}
    (compares : AllCompare field values) (free : FreeOfMoments values) :
    FoldsInto field values (fold field values).1 (fold field values).2 := by
  rw [Field.hasSteps, Bool.and_eq_true, Option.any_eq_true] at steps
  obtain ⟨-, order, ordered, steps⟩ := steps
  rw [fold_eq_of_hasSteps ordered steps]
  exact {
    once := fun s listed => countP_add_countP_eq_one ordered steps compares free listed
    climbs := fun r mem => isClimb_of_mem_rangesOf ordered free mem
    remaining_eq := singlesOf_eq ordered steps compares free
    scattered := scattered_remaining ordered steps compares free
    maximal := fun r mem s listed => by
      obtain ⟨run, hrun, becomes⟩ := List.mem_filterMap.mp mem
      obtain ⟨first, last, begins, ends, rfl, -, -⟩ := ends_of_rangeOfRun? ordered free hrun becomes
      exact ⟨not_isStep_to_head? ordered steps compares free hrun begins listed,
        not_isStep_of_getLast? ordered steps (fun _ => free) hrun ends listed⟩
    ascending := pairwise_rangesOf ordered steps compares free }

/-- A field of birthdays, which are dates or ages. -/
def born : Field :=
  .birthday "born" ⟨"%m/%d/%Y"⟩ ⟨2026, 1, 1, by decide⟩

/-- Ages and dates, out of order and one of them twice. -/
def agesAndDates : List Single :=
  [⟨.integer 21, "21"⟩, ⟨.date ⟨2000, 1, 2, by decide⟩, "01/02/2000"⟩, ⟨.integer 18, "18"⟩,
    ⟨.date ⟨2000, 1, 1, by decide⟩, "01/01/2000"⟩, ⟨.integer 21, "021"⟩, ⟨.integer 19, "19"⟩]

theorem foldsInto_fold_agesAndDates :
    born.hasSteps = true ∧ FoldsInto born agesAndDates (fold born agesAndDates).1 (fold born agesAndDates).2 :=
  ⟨by decide, foldsInto_fold (by decide) (by unfold AllCompare; decide) (by unfold FreeOfMoments; decide)⟩

end Refine

end Criteria
