import Criteria.Proofs.Row
import Criteria.Proofs.Successor
import Criteria.Refine.Folding
import Mathlib.Data.List.Chain
import Mathlib.Data.List.Perm.Basic

/-!
# Folding values into ranges keeps the meaning

Lining the values up, gathering equal ones and splitting into runs only rearranges them: every value stands in
one cluster of one run.  In a run every value is the next one above the value before it, so that nothing lies
between them, and the range from the first to the last holds what is equal to one of them and nothing else.
For date-times there is much between one day and the next, so they are left out.
-/

namespace Criteria.Refine

/-! ## Values, clusters and runs -/

/-- The members of a cluster. -/
def Cluster.members (c : Cluster) : List Placed :=
  c.first :: c.others

/-- The value of a cluster. -/
def Cluster.value (c : Cluster) : Value :=
  c.first.single.value

theorem flatMap_clustersFrom (field : Field) (first : Placed) (others rest : List Placed) :
    (clustersFrom field first others rest).flatMap Cluster.members =
      first :: others.reverse ++ rest := by
  induction rest generalizing first others with
  | nil => simp [clustersFrom, Cluster.members]
  | cons next rest ih =>
      rw [clustersFrom]
      split
      · rw [ih, List.reverse_cons, List.cons_append, List.append_assoc, List.singleton_append,
          List.cons_append]
      · rw [List.flatMap_cons, ih, List.reverse_nil, Cluster.members, List.singleton_append]

theorem flatMap_clusters (field : Field) (values : List Placed) :
    (clusters field values).flatMap Cluster.members = values := by
  cases values with
  | nil => rfl
  | cons first rest => exact flatMap_clustersFrom field first [] rest

theorem isEqual_of_mem_clustersFrom {field : Field} {first : Placed} {others rest : List Placed}
    (equal : ∀ p ∈ others, field.isEqual first.single.value p.single.value = true)
    {c : Cluster} (mem : c ∈ clustersFrom field first others rest) {p : Placed} (hp : p ∈ c.others) :
    field.isEqual c.value p.single.value = true := by
  induction rest generalizing first others with
  | nil =>
      rw [clustersFrom, List.mem_singleton] at mem
      subst mem
      exact equal p (List.mem_reverse.mp hp)
  | cons next rest ih =>
      rw [clustersFrom] at mem
      split at mem
      · rename_i joins
        exact ih (List.forall_mem_cons.mpr ⟨joins, equal⟩) mem
      · cases mem with
        | head => exact equal p (List.mem_reverse.mp hp)
        | tail _ mem => exact ih (List.forall_mem_nil _) mem

/-- The members of a cluster equal the first of them. -/
theorem isEqual_of_mem_clusters {field : Field} {values : List Placed} {c : Cluster}
    (mem : c ∈ clusters field values) {p : Placed} (hp : p ∈ c.members) :
    p = c.first ∨ field.isEqual c.value p.single.value = true := by
  cases values with
  | nil => cases mem
  | cons first rest =>
      cases hp with
      | head => exact .inl rfl
      | tail _ hp => exact .inr (isEqual_of_mem_clustersFrom (List.forall_mem_nil _) mem hp)

theorem flatten_splitRuns {α : Type} (follows : α → α → Bool) (xs : List α) :
    (splitRuns follows xs).flatten = xs := by
  induction xs with
  | nil => rfl
  | cons x xs ih =>
      rw [splitRuns]
      split
      · rename_i y run runs split
        rw [split] at ih
        rw [← ih]
        split <;> rfl
      · rw [List.flatten_cons, ih, List.singleton_append]

theorem isChain_of_mem_splitRuns {α : Type} {follows : α → α → Bool} {xs run : List α}
    (mem : run ∈ splitRuns follows xs) : run.IsChain fun a b => follows a b = true := by
  induction xs generalizing run with
  | nil => cases mem
  | cons x xs ih =>
      rw [splitRuns] at mem
      split at mem
      · rename_i y rest runs found
        rw [found] at ih
        split at mem
        · rename_i joins
          cases mem with
          | head => exact List.isChain_cons_cons.mpr ⟨joins, ih List.mem_cons_self⟩
          | tail _ mem => exact ih (List.mem_cons_of_mem _ mem)
        · cases mem with
          | head => exact List.isChain_singleton x
          | tail _ mem => exact ih mem
      · cases mem with
        | head => exact List.isChain_singleton x
        | tail _ mem => exact ih mem

/-- The runs that the values of a list form. -/
def runsOf (field : Field) (values : List Single) : List (List Cluster) :=
  runs field (clusters field (linedUp field values))

theorem runsOf_nil (field : Field) : runsOf field [] = [] := by
  rw [runsOf, linedUp, List.zipIdx_nil, List.map_nil, List.mergeSort_nil]
  rfl

/-- The values of the runs are the values of the list, with their places. -/
theorem runsOf_perm (field : Field) (values : List Single) :
    ((runsOf field values).flatten.flatMap Cluster.members).Perm
      (values.zipIdx.map fun entry => ⟨entry.1, entry.2⟩) := by
  rw [runsOf, runs, flatten_splitRuns, flatMap_clusters]
  exact List.mergeSort_perm _ _

/-- Every value stands in a cluster of a run, with its place. -/
theorem exists_run_of_mem_zipIdx (field : Field) {values : List Single} {s : Single} {place : Nat}
    (mem : (s, place) ∈ values.zipIdx) :
    ∃ run ∈ runsOf field values, ∃ c ∈ run, (⟨s, place⟩ : Placed) ∈ c.members := by
  have listed := (runsOf_perm field values).mem_iff.mpr (List.mem_map_of_mem mem)
  obtain ⟨c, hc, hp⟩ := List.mem_flatMap.mp listed
  obtain ⟨run, hrun, hc⟩ := List.mem_flatten.mp hc
  exact ⟨run, hrun, c, hc, hp⟩

theorem exists_run_of_mem (field : Field) {values : List Single} {s : Single} (mem : s ∈ values) :
    ∃ run ∈ runsOf field values, ∃ c ∈ run, ∃ p ∈ c.members, p.single = s := by
  obtain ⟨place, hplace, rfl⟩ := List.getElem_of_mem mem
  have placed : (values[place], place) ∈ values.zipIdx := by
    rw [List.mem_zipIdx_iff_getElem?]
    exact List.getElem?_eq_getElem hplace
  obtain ⟨run, hrun, c, hc, hp⟩ := exists_run_of_mem_zipIdx field placed
  exact ⟨run, hrun, c, hc, _, hp, rfl⟩

theorem mem_zipIdx_of_mem_run {field : Field} {values : List Single} {run : List Cluster}
    (hrun : run ∈ runsOf field values) {c : Cluster} (hc : c ∈ run) {p : Placed} (hp : p ∈ c.members) :
    (p.single, p.place) ∈ values.zipIdx := by
  have listed : p ∈ (runsOf field values).flatten.flatMap Cluster.members :=
    List.mem_flatMap.mpr ⟨c, List.mem_flatten.mpr ⟨run, hrun, hc⟩, hp⟩
  obtain ⟨entry, hentry, rfl⟩ := List.mem_map.mp ((runsOf_perm field values).mem_iff.mp listed)
  exact hentry

theorem first_mem_of_mem_run {field : Field} {values : List Single} {run : List Cluster}
    (hrun : run ∈ runsOf field values) {c : Cluster} (hc : c ∈ run) : c.first.single ∈ values :=
  List.fst_mem_of_mem_zipIdx (mem_zipIdx_of_mem_run hrun hc List.mem_cons_self)

/-- The place of the value that a run leaves single, if it does. -/
def keptOfRun : List Cluster → List Nat
  | [c] => [c.first.place]
  | _ => []

theorem keptOfRun_append_droppedOfRun (run : List Cluster) :
    keptOfRun run ++ droppedOfRun run = run.flatMap fun c => c.members.map Placed.place := by
  cases run with
  | nil => rfl
  | cons c rest =>
      cases rest with
      | nil => simp [keptOfRun, droppedOfRun, Cluster.members]
      | cons d rest => rfl

/-- The places of the values that stay single and of those that are dropped are all places. -/
theorem placesOf_perm (field : Field) (values : List Single) :
    ((runsOf field values).flatMap keptOfRun ++ (runsOf field values).flatMap droppedOfRun).Perm
      (List.range' 0 values.length) := by
  have places : ((runsOf field values).flatMap fun run => keptOfRun run ++ droppedOfRun run).Perm
      (List.range' 0 values.length) := by
    have perm := (runsOf_perm field values).map Placed.place
    rw [List.map_flatMap, List.flatten_eq_flatMap, List.flatMap_assoc, List.map_map] at perm
    simp only [keptOfRun_append_droppedOfRun]
    exact List.zipIdx_map_snd 0 values ▸ perm
  exact (List.flatMap_append_perm _ _ _).trans places

/-- A value that is a run for itself is not dropped. -/
theorem not_dropped_of_mem {field : Field} {values : List Single} {c : Cluster}
    (mem : [c] ∈ runsOf field values) :
    c.first.place ∉ (runsOf field values).flatMap droppedOfRun := by
  have nodup := (placesOf_perm field values).nodup_iff.mpr List.nodup_range'
  have kept : c.first.place ∈ (runsOf field values).flatMap keptOfRun :=
    List.mem_flatMap.mpr ⟨[c], mem, List.mem_singleton_self _⟩
  exact fun dropped => (List.nodup_append.mp nodup).2.2 _ kept _ dropped rfl

/-! ## Runs as ranges -/

/-- A step of a field with an order leads to the next value. -/
theorem isNext_of_isStep {field : Field} {order : ValueOrder} (ordered : field.order = some order)
    {a b : Value} (h : isStep field a b = true) : order.IsNext a b := by
  rw [isStep, ordered, Option.bind_some, Option.any_eq_true] at h
  rcases h with ⟨next, found, equal⟩
  rw [Field.isEqual, ordered, order.isEqual_iff] at equal
  have laws := order.partialComparison
  have isNext := order.isNext_of_next? found
  exact {
    above := laws.lt_of_lt_of_eq isNext.above equal
    least := fun plain w above => laws.congr_left next b w equal ▸ isNext.least plain w above }

theorem lt_last {order : ValueOrder} {c d : Cluster} {rest : List Cluster}
    (chain : (c :: d :: rest).IsChain fun a b => order.IsNext a.value b.value) :
    order.compare c.value (rest.getLastD d).value = some .lt := by
  induction rest generalizing c d with
  | nil => exact (List.isChain_cons_cons.mp chain).1.above
  | cons e rest ih =>
      obtain ⟨next, chain⟩ := List.isChain_cons_cons.mp chain
      rw [List.getLastD_cons]
      exact order.partialComparison.lt_trans _ _ _ next.above (ih chain)

/-- The values of a run that is not about date-times are what lies between the first and the last. -/
theorem between_iff {order : ValueOrder} {c : Cluster} {rest : List Cluster}
    (chain : (c :: rest).IsChain fun a b => order.IsNext a.value b.value)
    (plain : ∀ a ∈ c :: rest, a.value.kind ≠ .moment) (x : Value) :
    ((order.compare c.value x = some .lt ∨ order.compare c.value x = some .eq) ∧
      (order.compare x (rest.getLastD c).value = some .lt ∨
        order.compare x (rest.getLastD c).value = some .eq)) ↔
      ∃ a ∈ c :: rest, order.compare a.value x = some .eq := by
  have laws := order.partialComparison
  induction rest generalizing c with
  | nil =>
      simp only [List.getLastD_nil, List.mem_singleton, exists_eq_left]
      constructor
      · rintro ⟨below | equal, above⟩
        · rcases above with above | above
          · exact absurd (laws.lt_trans _ _ _ below above) (laws.not_lt_self _)
          · exact absurd (laws.lt_of_lt_of_eq below above) (laws.not_lt_self _)
        · exact equal
      · exact fun equal => ⟨.inr equal, .inr (laws.eq_symm equal)⟩
  | cons d rest ih =>
      have last := lt_last chain
      obtain ⟨next, chain⟩ := List.isChain_cons_cons.mp chain
      obtain ⟨plainFirst, plain⟩ := List.forall_mem_cons.mp plain
      have between := ih chain plain
      rw [List.getLastD_cons, List.exists_mem_cons_iff]
      constructor
      · rintro ⟨below | equal, above⟩
        · exact .inr (between.mp ⟨next.least plainFirst x below, above⟩)
        · exact .inl equal
      · rintro (equal | equal)
        · refine ⟨.inr equal, .inl ?_⟩
          rw [← laws.congr_left _ _ _ equal]
          exact last
        · obtain ⟨below, above⟩ := between.mpr equal
          refine ⟨.inl ?_, above⟩
          rcases below with below | equal
          · exact laws.lt_trans _ _ _ next.above below
          · exact laws.lt_of_lt_of_eq next.above equal

/-! ## Bags -/

/-- None of the values of a list is a date-time. -/
def FreeOfMoments (values : List Single) : Prop :=
  ∀ s ∈ values, s.value.kind ≠ .moment

/-- The values that stay single. -/
def singlesOf (field : Field) (values : List Single) : List Single :=
  (values.zipIdx.filter fun entry =>
    !((runsOf field values).flatMap droppedOfRun).contains entry.2).map Prod.fst

/-- The ranges that runs of values become. -/
def rangesOf (field : Field) (values : List Single) : List Range :=
  (runsOf field values).filterMap rangeOfRun?

theorem fold_cases (field : Field) (values : List Single) :
    fold field values = (values, []) ∨ fold field values = (singlesOf field values, rangesOf field values) := by
  rw [fold]
  split
  · exact .inr rfl
  · exact .inl rfl

theorem singlesOf_subset (field : Field) (values : List Single) : singlesOf field values ⊆ values := by
  intro s mem
  obtain ⟨entry, hentry, rfl⟩ := List.mem_map.mp mem
  exact List.fst_mem_of_mem_zipIdx (List.mem_of_mem_filter hentry)

theorem fold_subset (field : Field) (values : List Single) : (fold field values).1 ⊆ values := by
  rcases fold_cases field values with same | found
  · rw [same]
    exact List.Subset.refl _
  · rw [found]
    exact singlesOf_subset field values

/-- The value of a run of one cluster stays single. -/
theorem first_mem_singlesOf {field : Field} {values : List Single} {c : Cluster}
    (mem : [c] ∈ runsOf field values) : c.first.single ∈ singlesOf field values := by
  have placed := mem_zipIdx_of_mem_run mem (List.mem_singleton_self c) List.mem_cons_self
  refine List.mem_map.mpr ⟨_, List.mem_filter.mpr ⟨placed, ?_⟩, rfl⟩
  have stays := not_dropped_of_mem mem
  rw [← List.contains_iff_mem, Bool.not_eq_true] at stays
  rw [stays]
  rfl

/-- A run of two or more clusters becomes the range of what equals one of its values. -/
theorem within_rangeOf {field : Field} {order : ValueOrder} (ordered : field.order = some order)
    {values : List Single} (free : FreeOfMoments values) {c d : Cluster} {rest : List Cluster}
    (mem : c :: d :: rest ∈ runsOf field values) (x : Value) :
    order.within x (.inclusive c.first.single (rest.getLastD d).first.single) = true ↔
      ∃ a ∈ c :: d :: rest, order.isEqual a.value x = true := by
  have chain := (isChain_of_mem_splitRuns mem).imp fun a b => isNext_of_isStep ordered
  have plain (a : Cluster) (ha : a ∈ c :: d :: rest) : a.value.kind ≠ .moment :=
    free _ (first_mem_of_mem_run mem ha)
  have between := between_iff chain plain x
  rw [List.getLastD_cons] at between
  simp only [order.within_iff, order.isEqual_iff, ← between, Range.inclusive, true_and]
  rfl

theorem rangeOfRun?_cons_cons (c d : Cluster) (rest : List Cluster) :
    rangeOfRun? (c :: d :: rest) = some (.inclusive c.first.single (rest.getLastD d).first.single) := by
  rw [rangeOfRun?, List.getLastD_cons]

theorem nil_of_singlesOf_nil {field : Field} {values : List Single} (singles : singlesOf field values = [])
    (ranges : rangesOf field values = []) : values = [] := by
  refine List.eq_nil_iff_forall_not_mem.mpr fun s mem => ?_
  obtain ⟨run, hrun, c, hc, -⟩ := exists_run_of_mem field mem
  match run, hrun, hc with
  | [c], hrun, _ =>
      have kept := first_mem_singlesOf hrun
      rw [singles] at kept
      cases kept
  | c :: d :: rest, hrun, _ =>
      have folded : Range.inclusive c.first.single (rest.getLastD d).first.single ∈
          rangesOf field values := List.mem_filterMap.mpr ⟨_, hrun, rangeOfRun?_cons_cons c d rest⟩
      rw [ranges] at folded
      cases folded

theorem any_fold {field : Field} {order : ValueOrder} (ordered : field.order = some order)
    {values : List Single} (free : FreeOfMoments values) (x : Value) :
    ((singlesOf field values).any (fun s => order.isEqual s.value x) ||
        (rangesOf field values).any (order.within x)) =
      values.any fun s => order.isEqual s.value x := by
  rw [Bool.eq_iff_iff, Bool.or_eq_true, List.any_eq_true, List.any_eq_true, List.any_eq_true]
  constructor
  · rintro (⟨s, mem, equal⟩ | ⟨r, mem, lies⟩)
    · exact ⟨s, singlesOf_subset field values mem, equal⟩
    · obtain ⟨run, hrun, becomes⟩ := List.mem_filterMap.mp mem
      match run, hrun, becomes with
      | c :: d :: rest, hrun, becomes =>
          rw [rangeOfRun?_cons_cons] at becomes
          cases becomes
          obtain ⟨a, ha, equal⟩ := (within_rangeOf ordered free hrun x).mp lies
          exact ⟨_, first_mem_of_mem_run hrun ha, equal⟩
  · rintro ⟨s, mem, equal⟩
    obtain ⟨run, hrun, c, hc, p, hp, rfl⟩ := exists_run_of_mem field mem
    have first : order.isEqual c.value x = true := by
      have hcluster : c ∈ clusters field (linedUp field values) := by
        rw [← flatten_splitRuns (fun a b => isStep field a.first.single.value b.first.single.value)
          (clusters field (linedUp field values))]
        exact List.mem_flatten.mpr ⟨run, hrun, hc⟩
      rcases isEqual_of_mem_clusters hcluster hp with rfl | joined
      · exact equal
      · rw [Field.isEqual, ordered] at joined
        rw [order.isEqual_iff] at joined equal ⊢
        exact order.partialComparison.eq_trans joined equal
    match run, hrun, hc with
    | [d], hrun, hc =>
        cases List.mem_singleton.mp hc
        exact .inl ⟨_, first_mem_singlesOf hrun, first⟩
    | d :: e :: rest, hrun, hc =>
        exact .inr ⟨_, List.mem_filterMap.mpr ⟨_, hrun, rangeOfRun?_cons_cons d e rest⟩,
          (within_rangeOf ordered free hrun x).mpr ⟨c, hc, first⟩⟩

/-- Values come out alike when their runs are ranges. -/
theorem alike_fold {field : Field} {order : ValueOrder} (ordered : field.order = some order) {t : Tests}
    {x : Value} (equals : t.equals = fun v => order.isEqual v x) (within : t.within = order.within x)
    {values : List Single} (free : FreeOfMoments values) (ranges : List Range) :
    t.Alike (fold field values).1 (ranges ++ (fold field values).2) values ranges := by
  rcases fold_cases field values with same | found
  · rw [same, List.append_nil]
    exact Tests.Alike.refl t values ranges
  · rw [found]
    constructor
    · rw [List.append_eq_nil_iff]
      constructor
      · rintro ⟨singles, empty, folded⟩
        exact ⟨nil_of_singlesOf_nil singles folded, empty⟩
      · rintro ⟨rfl, rfl⟩
        exact ⟨rfl, rfl, by rw [rangesOf, runsOf_nil, List.filterMap_nil]⟩
    · rw [equals, within, List.any_append, ← any_fold ordered free x, Bool.or_assoc]
      exact congrArg _ (Bool.or_comm _ _)

/-- A bag with its runs of values folded says the same, unless there are date-times among the values. -/
theorem agree_foldBag (row : Row) {schema : Schema} {name : String} {field : Field}
    (found : schema.field? name = some field) {bag : Bag} (singles : FreeOfMoments bag.singles)
    (excludedSingles : FreeOfMoments bag.excludedSingles) :
    (row.tests schema name).Agree (foldBag field bag) bag := by
  rw [foldBag]
  split
  · rename_i stepped
    rw [Field.hasSteps, Bool.and_eq_true, Option.any_eq_true] at stepped
    rcases stepped with ⟨-, order, ordered, -⟩
    have tests := row.tests_of_order found ordered
    exact Bag.agree_of_alike (alike_fold ordered (by rw [tests]) (by rw [tests]) singles _)
      (alike_fold ordered (by rw [tests]) (by rw [tests]) excludedSingles _) rfl rfl
  · exact Tests.Agree.refl _ _

end Criteria.Refine
