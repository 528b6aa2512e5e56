import Criteria.Proofs.Refine.Folding

/-!
# Runs are as long as they can be

Where an order is made of steps, it depends on the kinds alone whether two values compare, so that lining values up
sorts them.  The clusters of a list lined up go up, and a run ends only where no step leads on.  So a value that stays
single is not one step below any value of the list, and to fold again what folding left over changes nothing.
-/

namespace Criteria

/-! ## Lining values up -/

theorem Value.Kind.eq_of_compare_name {k l : Value.Kind} (h : Ord.compare k.name l.name = .eq) : k = l := by
  have same : k.name = l.name := Std.LawfulEqOrd.eq_of_compare h
  revert same
  cases k <;> cases l <;> decide

namespace ValueOrder

/-- The kinds of values that an order made of steps compares, each with its own. -/
def comparesKind : ValueOrder → Value.Kind → Bool
  | .integer, .integer | .date, .date | .date, .moment | .birthday, .integer | .birthday, .date => true
  | _, _ => false

theorem isSome_compare {order : ValueOrder} (steps : order.hasSteps = true) (a b : Value) :
    (order.compare a b).isSome = true ↔ a.kind = b.kind ∧ order.comparesKind a.kind = true := by
  cases order with
  | number => cases steps
  | text => cases steps
  | _ => cases a <;> cases b <;> simp [compare, Value.kind, comparesKind]

theorem lt_or_eq_of_ne_gt {order : ValueOrder} (steps : order.hasSteps = true) {a b : Value}
    (alike : a.kind = b.kind) (compares : order.comparesKind a.kind = true) (h : order.compare a b ≠ some .gt) :
    order.compare a b = some .lt ∨ order.compare a b = some .eq := by
  obtain ⟨answer, found⟩ := Option.isSome_iff_exists.mp ((isSome_compare steps a b).mpr ⟨alike, compares⟩)
  rw [found] at h ⊢
  cases answer with
  | lt => exact .inl rfl
  | eq => exact .inr rfl
  | gt => exact absurd rfl h

/-- Only the order of dates has a next value for a date-time. -/
theorem next?_moment {order : ValueOrder} (other : order ≠ .date) {v : Value} (moment : v.kind = .moment) :
    order.next? v = none := by
  cases v with
  | moment m =>
      cases order with
      | date => exact absurd rfl other
      | _ => rfl
  | _ => cases moment

end ValueOrder

namespace Refine

section Order

variable {field : Field} {order : ValueOrder} (ordered : field.order = some order)
include ordered

theorem lineUp_ne_gt_iff (a b : Value) :
    lineUp field a b ≠ .gt ↔
      Ord.compare a.kind.name b.kind.name = .lt ∨ a.kind = b.kind ∧ order.compare a b ≠ some .gt := by
  rw [lineUp, Field.compare, ordered, Option.bind_some]
  cases names : Ord.compare a.kind.name b.kind.name with
  | lt => simp
  | gt =>
      refine iff_of_false (fun h => h rfl) ?_
      rintro (⟨⟨⟩⟩ | ⟨same, -⟩)
      rw [same, Std.ReflOrd.compare_self] at names
      cases names
  | eq =>
      have same := Value.Kind.eq_of_compare_name names
      cases order.compare a b <;> simp [same, Ordering.then]

theorem lineUp_total (a b : Value) : lineUp field a b ≠ .gt ∨ lineUp field b a ≠ .gt := by
  rw [lineUp_ne_gt_iff ordered, lineUp_ne_gt_iff ordered]
  cases names : Ord.compare a.kind.name b.kind.name with
  | lt => exact .inl (.inl rfl)
  | gt => exact .inr (.inl (Std.OrientedCmp.lt_of_gt names))
  | eq =>
      have same := Value.Kind.eq_of_compare_name names
      cases found : order.compare a b with
      | none => exact .inl (.inr ⟨same, nofun⟩)
      | some answer =>
          cases answer with
          | lt => exact .inl (.inr ⟨same, nofun⟩)
          | eq => exact .inl (.inr ⟨same, nofun⟩)
          | gt =>
              refine .inr (.inr ⟨same.symm, ?_⟩)
              rw [order.partialComparison.swap a b, found]
              nofun

/-- Between two values of one kind only values of that kind are lined up. -/
theorem kind_eq_of_between {a b c : Value} (hab : lineUp field a b ≠ .gt) (hbc : lineUp field b c ≠ .gt)
    (same : a.kind = c.kind) : a.kind = b.kind := by
  rcases (lineUp_ne_gt_iff ordered a b).mp hab with below | ⟨kind, -⟩
  · rcases (lineUp_ne_gt_iff ordered b c).mp hbc with above | ⟨kind, -⟩
    · have self := Std.TransCmp.lt_trans below above
      rw [same, Std.ReflOrd.compare_self] at self
      cases self
    · exact same.trans kind.symm
  · exact kind

variable (steps : order.hasSteps = true)
include steps

theorem lineUp_eq_gt_of_lt {a b : Value} (h : order.compare a b = some .lt) : lineUp field b a = .gt := by
  have alike := ((ValueOrder.isSome_compare steps a b).mp (by rw [h]; rfl)).1
  rw [lineUp, Field.compare, ordered, Option.bind_some, order.partialComparison.swap a b, h, alike,
    Std.ReflOrd.compare_self]
  rfl

theorem lineUp_trans {a b c : Value} (hab : lineUp field a b ≠ .gt) (hbc : lineUp field b c ≠ .gt) :
    lineUp field a c ≠ .gt := by
  have laws := order.partialComparison
  rw [lineUp_ne_gt_iff ordered] at hab hbc ⊢
  rcases hab with below | ⟨kindB, hab⟩
  · rcases hbc with above | ⟨kindC, -⟩
    · exact .inl (Std.TransCmp.lt_trans below above)
    · exact .inl (kindC ▸ below)
  · rcases hbc with above | ⟨kindC, hbc⟩
    · exact .inl (kindB ▸ above)
    · refine .inr ⟨kindB.trans kindC, fun above => ?_⟩
      have compares := ((ValueOrder.isSome_compare steps a c).mp (by rw [above]; rfl)).2
      have first := ValueOrder.lt_or_eq_of_ne_gt steps kindB compares hab
      have second := ValueOrder.lt_or_eq_of_ne_gt steps kindC (kindB ▸ compares) hbc
      have both : order.compare a c = some .lt ∨ order.compare a c = some .eq := by
        rcases first with first | first <;> rcases second with second | second
        · exact .inl (laws.lt_trans _ _ _ first second)
        · exact .inl (laws.lt_of_lt_of_eq first second)
        · exact .inl (laws.lt_of_eq_of_lt first second)
        · exact .inr (laws.eq_trans first second)
      rw [above] at both
      simp at both

theorem standsBefore_trans (p q r : Placed) (hpq : standsBefore field p q = true)
    (hqr : standsBefore field q r = true) : standsBefore field p r = true := by
  rw [standsBefore, bne_iff_ne] at hpq hqr ⊢
  exact lineUp_trans ordered steps hpq hqr

omit steps in
theorem standsBefore_total (p q : Placed) : (standsBefore field p q || standsBefore field q p) = true := by
  rw [Bool.or_eq_true, standsBefore, standsBefore, bne_iff_ne, bne_iff_ne]
  exact lineUp_total ordered p.single.value q.single.value

theorem pairwise_standsBefore_linedUp (values : List Single) :
    (linedUp field values).Pairwise fun p q => standsBefore field p q = true :=
  List.pairwise_mergeSort (standsBefore_trans ordered steps) (standsBefore_total ordered) _

/-- Lining values up sorts them. -/
theorem pairwise_linedUp (values : List Single) :
    (linedUp field values).Pairwise fun p q => lineUp field p.single.value q.single.value ≠ .gt :=
  (pairwise_standsBefore_linedUp ordered steps values).imp fun before => bne_iff_ne.mp before

end Order

/-! ## Clusters -/

theorem sublist_clustersFrom (field : Field) (first : Placed) (others rest : List Placed) :
    ((clustersFrom field first others rest).map Cluster.first).Sublist (first :: rest) := by
  induction rest generalizing first others with
  | nil => exact List.Sublist.refl _
  | cons next rest ih =>
      rw [clustersFrom]
      split
      · exact (ih first (next :: others)).trans ((List.sublist_cons_self next rest).cons_cons first)
      · exact (ih next []).cons_cons first

theorem sublist_clusters (field : Field) (values : List Placed) :
    ((clusters field values).map Cluster.first).Sublist values := by
  cases values with
  | nil => exact List.Sublist.refl _
  | cons first rest => exact sublist_clustersFrom field first [] rest

theorem exists_clustersFrom (field : Field) (first : Placed) (others rest : List Placed) :
    ∃ c cs, clustersFrom field first others rest = c :: cs ∧ c.first = first := by
  induction rest generalizing others with
  | nil => exact ⟨_, _, rfl, rfl⟩
  | cons next rest ih =>
      rw [clustersFrom]
      split
      · exact ih (next :: others)
      · exact ⟨_, _, rfl, rfl⟩

/-- Of two clusters next to each other the values are not equal. -/
theorem isChain_clusters (field : Field) (values : List Placed) :
    (clusters field values).IsChain fun c d => field.isEqual c.value d.value = false := by
  cases values with
  | nil => exact .nil
  | cons first rest =>
      change (clustersFrom field first [] rest).IsChain _
      generalize [] = others
      induction rest generalizing first others with
      | nil => exact .singleton _
      | cons next rest ih =>
          rw [clustersFrom]
          split
          · exact ih first (next :: others)
          · rename_i differs
            have later := ih next []
            obtain ⟨c, cs, found, same⟩ := exists_clustersFrom field next [] rest
            rw [found] at later ⊢
            refine List.isChain_cons_cons.mpr ⟨?_, later⟩
            rw [Cluster.value, Cluster.value, same]
            exact Bool.eq_false_iff.mpr differs

/-- A list without equal neighbours has a cluster for each of its values. -/
theorem clusters_eq_map {field : Field} {values : List Placed}
    (apart : values.IsChain fun p q => field.isEqual p.single.value q.single.value = false) :
    clusters field values = values.map fun p => ⟨p, []⟩ := by
  cases values with
  | nil => rfl
  | cons first rest =>
      rw [clusters]
      induction rest generalizing first with
      | nil => rfl
      | cons next rest ih =>
          obtain ⟨differs, apart⟩ := List.isChain_cons_cons.mp apart
          rw [clustersFrom, differs, if_neg Bool.false_ne_true, ih next apart]
          rfl

/-! ## Runs -/

section Runs

variable {α : Type} {follows : α → α → Bool}

/-- An element in front joins the first run or is a run for itself. -/
theorem splitRuns_cons_cons (follows : α → α → Bool) (x y : α) (xs : List α) :
    ∃ run runs, splitRuns follows (y :: xs) = (y :: run) :: runs ∧
      splitRuns follows (x :: y :: xs) =
        if follows x y then (x :: y :: run) :: runs else [x] :: (y :: run) :: runs := by
  obtain ⟨run, runs, found⟩ : ∃ run runs, splitRuns follows (y :: xs) = (y :: run) :: runs := by
    rw [splitRuns]
    split
    · split
      · exact ⟨_, _, rfl⟩
      · exact ⟨_, _, rfl⟩
    · exact ⟨_, _, rfl⟩
  refine ⟨run, runs, found, ?_⟩
  rw [splitRuns, found]

theorem ne_nil_of_mem_splitRuns {xs run : List α} (mem : run ∈ splitRuns follows xs) : run ≠ [] := by
  induction xs with
  | nil => cases mem
  | cons x xs ih =>
      cases xs with
      | nil =>
          rw [List.mem_singleton.mp mem]
          exact List.cons_ne_nil x []
      | cons y xs =>
          obtain ⟨first, runs, found, split⟩ := splitRuns_cons_cons follows x y xs
          rw [split] at mem
          rw [found] at ih
          split at mem
          · rcases List.mem_cons.mp mem with rfl | mem
            · exact List.cons_ne_nil x _
            · exact ih (List.mem_cons_of_mem _ mem)
          · rcases List.mem_cons.mp mem with rfl | mem
            · exact List.cons_ne_nil x _
            · exact ih mem

/-- A run is followed by one whose first element does not follow from its last. -/
theorem isChain_splitRuns (follows : α → α → Bool) (xs : List α) :
    (splitRuns follows xs).IsChain fun run next => ∀ x ∈ run.getLast?, ∀ y ∈ next.head?, follows x y = false := by
  induction xs with
  | nil => exact .nil
  | cons x xs ih =>
      cases xs with
      | nil => exact .singleton _
      | cons y xs =>
          obtain ⟨first, runs, found, split⟩ := splitRuns_cons_cons follows x y xs
          rw [found] at ih
          rw [split]
          split
          · refine ih.imp_head fun last => ?_
            rwa [List.getLast?_cons_cons]
          · rename_i differs
            refine List.isChain_cons_cons.mpr ⟨?_, ih⟩
            simpa using differs

/-- What comes behind a run does not follow from its last element. -/
theorem exists_split_of_mem_splitRuns {xs run : List α} (mem : run ∈ splitRuns follows xs) :
    ∃ before after, xs = before ++ run ++ after ∧ ∀ x ∈ run.getLast?, ∀ y ∈ after.head?, follows x y = false := by
  have chain := isChain_splitRuns follows xs
  have whole := flatten_splitRuns follows xs
  obtain ⟨before, after, split⟩ := List.append_of_mem mem
  have filled (next : List α) (hnext : next ∈ after) : next ≠ [] :=
    ne_nil_of_mem_splitRuns (split ▸ List.mem_append_right _ (List.mem_cons_of_mem _ hnext))
  rw [split] at chain whole
  refine ⟨before.flatten, after.flatten, ?_, ?_⟩
  · rw [← whole, List.flatten_append, List.flatten_cons, List.append_assoc]
  · cases after with
    | nil => exact fun _ _ _ none => nomatch none
    | cons next after =>
        obtain ⟨last, -⟩ := List.isChain_cons_cons.mp (List.isChain_append.mp chain).2.1
        obtain ⟨y, ys, rfl⟩ := List.exists_cons_of_ne_nil (filled next List.mem_cons_self)
        exact last

/-- Where nothing follows from anything every run has one element. -/
theorem splitRuns_eq_map {xs : List α} (apart : ∀ x ∈ xs, ∀ y ∈ xs, follows x y = false) :
    splitRuns follows xs = xs.map fun x => [x] := by
  induction xs with
  | nil => rfl
  | cons x xs ih =>
      have later := ih fun y hy z hz => apart y (List.mem_cons_of_mem x hy) z (List.mem_cons_of_mem x hz)
      cases xs with
      | nil => rfl
      | cons y xs =>
          obtain ⟨first, runs, found, split⟩ := splitRuns_cons_cons follows x y xs
          rw [split, apart x List.mem_cons_self y (List.mem_cons_of_mem x List.mem_cons_self),
            if_neg Bool.false_ne_true, ← found, later]
          rfl

end Runs

/-! ## Values that stay single -/

theorem mem_clusters_of_mem_run {field : Field} {values : List Single} {run : List Cluster}
    (hrun : run ∈ runsOf field values) {c : Cluster} (hc : c ∈ run) : c ∈ clusters field (linedUp field values) := by
  rw [← flatten_splitRuns (fun a b => isStep field a.first.single.value b.first.single.value)
    (clusters field (linedUp field values))]
  exact List.mem_flatten.mpr ⟨run, hrun, hc⟩

/-- The value that a run leaves single, if it does. -/
def aloneOfRun : List Cluster → List Placed
  | [c] => [c.first]
  | _ => []

/-- The values that a run makes superfluous. -/
def restOfRun : List Cluster → List Placed
  | [] => []
  | [c] => c.others
  | cs => cs.flatMap Cluster.members

theorem aloneOfRun_append_restOfRun (run : List Cluster) :
    aloneOfRun run ++ restOfRun run = run.flatMap Cluster.members := by
  match run with
  | [] => rfl
  | [c] => rw [List.flatMap_singleton]; rfl
  | c :: d :: rest => rfl

theorem droppedOfRun_eq_map (run : List Cluster) : droppedOfRun run = (restOfRun run).map Placed.place := by
  match run with
  | [] => rfl
  | [c] => rfl
  | c :: d :: rest =>
      change _ = ((c :: d :: rest).flatMap Cluster.members).map Placed.place
      rw [List.map_flatMap]
      rfl

/-- The values with their places are those that runs leave single and those that they make superfluous. -/
theorem placed_perm (field : Field) (values : List Single) :
    (values.zipIdx.map fun entry => (⟨entry.1, entry.2⟩ : Placed)).Perm
      ((runsOf field values).flatMap aloneOfRun ++ (runsOf field values).flatMap restOfRun) := by
  have members := runsOf_perm field values
  rw [List.flatten_eq_flatMap, List.flatMap_assoc] at members
  simp only [id_eq, ← aloneOfRun_append_restOfRun] at members
  exact ((List.flatMap_append_perm _ _ _).trans members).symm

section Places

variable {field : Field} {values : List Single} {p : Placed}

theorem not_dropped_of_mem_alone (mem : p ∈ (runsOf field values).flatMap aloneOfRun) :
    p.place ∉ (runsOf field values).flatMap droppedOfRun := by
  obtain ⟨run, hrun, hp⟩ := List.mem_flatMap.mp mem
  rcases run with _ | ⟨c, _ | ⟨d, others⟩⟩
  · cases hp
  · obtain rfl := List.mem_singleton.mp hp
    exact not_dropped_of_mem hrun
  · cases hp

theorem dropped_of_mem_rest (mem : p ∈ (runsOf field values).flatMap restOfRun) :
    p.place ∈ (runsOf field values).flatMap droppedOfRun := by
  obtain ⟨run, hrun, hp⟩ := List.mem_flatMap.mp mem
  refine List.mem_flatMap.mpr ⟨run, hrun, ?_⟩
  rw [droppedOfRun_eq_map]
  exact List.mem_map_of_mem hp

end Places

/-- What stays single is what the runs leave single. -/
theorem singlesOf_perm (field : Field) (values : List Single) :
    (singlesOf field values).Perm (((runsOf field values).flatMap aloneOfRun).map Placed.single) := by
  let stays (p : Placed) : Bool := !((runsOf field values).flatMap droppedOfRun).contains p.place
  have alone : ((runsOf field values).flatMap aloneOfRun).filter stays = (runsOf field values).flatMap aloneOfRun := by
    refine List.filter_eq_self.mpr fun p mem => ?_
    rw [Bool.not_eq_true', Bool.eq_false_iff, ne_eq, List.contains_iff_mem]
    exact not_dropped_of_mem_alone mem
  have rest : ((runsOf field values).flatMap restOfRun).filter stays = [] := by
    refine List.filter_eq_nil_iff.mpr fun p mem => ?_
    rw [Bool.not_eq_true', Bool.eq_false_iff, ne_eq, List.contains_iff_mem, not_not]
    exact dropped_of_mem_rest mem
  have kept := ((placed_perm field values).filter stays).map Placed.single
  rw [List.filter_append, alone, rest, List.append_nil, List.filter_map, List.map_map] at kept
  exact kept

/-- A list is what stays single and what runs make superfluous. -/
theorem perm_singlesOf_append (field : Field) (values : List Single) :
    values.Perm (singlesOf field values ++ ((runsOf field values).flatMap restOfRun).map Placed.single) := by
  have parts := (placed_perm field values).map Placed.single
  rw [List.map_append, List.map_map] at parts
  have whole : values.Perm (values.zipIdx.map Prod.fst) := .of_eq (List.zipIdx_map_fst 0 values).symm
  exact (whole.trans parts).trans ((singlesOf_perm field values).symm.append_right _)

/-- What stays single is a run for itself. -/
theorem exists_run_of_mem_singlesOf {field : Field} {values : List Single} {s : Single}
    (mem : s ∈ singlesOf field values) : ∃ c, [c] ∈ runsOf field values ∧ c.first.single = s := by
  obtain ⟨p, alone, rfl⟩ := List.mem_map.mp ((singlesOf_perm field values).mem_iff.mp mem)
  obtain ⟨run, hrun, hp⟩ := List.mem_flatMap.mp alone
  rcases run with _ | ⟨c, _ | ⟨d, rest⟩⟩
  · cases hp
  · obtain rfl := List.mem_singleton.mp hp
    exact ⟨c, hrun, rfl⟩
  · cases hp

section Alone

variable {field : Field} {order : ValueOrder} (ordered : field.order = some order)
include ordered

theorem isStep_congr {a b c : Value} (equal : field.isEqual b c = true) : isStep field a b = isStep field a c := by
  have laws := order.partialComparison
  rw [Field.isEqual, ordered, order.isEqual_iff] at equal
  rw [isStep, isStep]
  congr 1
  funext next
  rw [Field.isEqual, Field.isEqual, ordered, Bool.eq_iff_iff, order.isEqual_iff, order.isEqual_iff,
    laws.congr_right next equal]

/-- No step leads from the end of a run to a value of the list, unless the run is about date-times. -/
theorem not_isStep_of_last (steps : order.hasSteps = true) {values : List Single} {run : List Cluster}
    (mem : run ∈ runsOf field values) {c : Cluster} (ends : run.getLast? = some c) (plain : c.value.kind ≠ .moment)
    {s : Single} (listed : s ∈ values) : isStep field c.value s.value = false := by
  have laws := order.partialComparison
  rw [Bool.eq_false_iff]
  intro step
  -- The value equals the first one of its cluster, so that the step leads there.
  obtain ⟨d, hd, step⟩ : ∃ d ∈ clusters field (linedUp field values), isStep field c.value d.value = true := by
    obtain ⟨run, hrun, d, hd, p, hp, rfl⟩ := exists_run_of_mem field listed
    have cluster : d ∈ clusters field (linedUp field values) := mem_clusters_of_mem_run hrun hd
    refine ⟨d, cluster, ?_⟩
    rcases isEqual_of_mem_clusters cluster hp with rfl | equal
    · exact step
    · rwa [isStep_congr ordered equal]
  obtain ⟨before, after, split, last⟩ := exists_split_of_mem_splitRuns mem
  have next := isNext_of_isStep ordered step
  have sorted : (clusters field (linedUp field values)).Pairwise fun a b => lineUp field a.value b.value ≠ .gt :=
    List.pairwise_map.mp ((pairwise_linedUp ordered steps values).sublist (sublist_clusters field _))
  have apart := isChain_clusters field (linedUp field values)
  obtain ⟨front, rfl⟩ := List.getLast?_eq_some_iff.mp ends
  rw [split, ← List.append_assoc, List.append_assoc, List.singleton_append] at hd sorted apart
  obtain ⟨-, sortedFrom, sortedBefore⟩ := List.pairwise_append.mp sorted
  obtain ⟨fromHere, sortedAfter⟩ := List.pairwise_cons.mp sortedFrom
  rcases List.mem_append.mp hd with behind | ahead
  · exact sortedBefore d behind c List.mem_cons_self (lineUp_eq_gt_of_lt ordered steps next.above)
  rcases List.mem_cons.mp ahead with rfl | ahead
  · exact laws.not_lt_self _ next.above
  obtain ⟨first, rest, rfl⟩ := List.exists_cons_of_ne_nil (List.ne_nil_of_mem ahead)
  have noStep : isStep field c.value first.value = false := last c ends first rfl
  rcases List.mem_cons.mp ahead with rfl | later
  · rw [noStep] at step
    cases step
  -- The next cluster lies between the two, so that its value is the next one as well.
  have notAbove := fromHere first List.mem_cons_self
  have notBelow := (List.pairwise_cons.mp sortedAfter).1 d later
  obtain ⟨alike, compares⟩ := (ValueOrder.isSome_compare steps c.value d.value).mp (by rw [next.above]; rfl)
  have kind := kind_eq_of_between ordered notAbove notBelow alike
  have differs : order.compare c.value first.value ≠ some .eq := by
    have apart := (List.isChain_cons_cons.mp (List.isChain_append.mp apart).2.1).1
    rw [Field.isEqual, ordered] at apart
    rw [ne_eq, ← order.isEqual_iff, Bool.not_eq_true]
    exact apart
  have above : order.compare c.value first.value = some .lt := by
    rcases (lineUp_ne_gt_iff ordered _ _).mp notAbove with below | ⟨-, notAbove⟩
    · rw [kind, Std.ReflOrd.compare_self] at below
      cases below
    · exact (ValueOrder.lt_or_eq_of_ne_gt steps kind compares notAbove).resolve_right differs
  rcases next.least plain first.value above with less | equal
  · exact notBelow (lineUp_eq_gt_of_lt ordered steps less)
  · rw [← order.isEqual_iff] at equal
    rw [isStep_congr ordered (by rw [Field.isEqual, ordered]; exact equal), noStep] at step
    cases step

/-- No step leads from the end of a run to a value of the list, unless it is one between date-times. -/
theorem not_isStep_of_getLast? (steps : order.hasSteps = true) {values : List Single}
    (plain : order = .date → FreeOfMoments values) {run : List Cluster} (mem : run ∈ runsOf field values)
    {c : Cluster} (ends : run.getLast? = some c) {s : Single} (listed : s ∈ values) :
    isStep field c.value s.value = false := by
  by_cases moment : c.value.kind = .moment
  · by_cases dates : order = .date
    · exact absurd moment (plain dates _ (first_mem_of_mem_run mem (List.mem_of_getLast? ends)))
    · rw [isStep, ordered, Option.bind_some, ValueOrder.next?_moment dates moment]
      rfl
  · exact not_isStep_of_last ordered steps mem ends moment listed

/-- No step leads from what stays single to a value of the list, unless it is one between date-times. -/
theorem not_isStep_of_alone (steps : order.hasSteps = true) {values : List Single}
    (plain : order = .date → FreeOfMoments values) {c : Cluster} (mem : [c] ∈ runsOf field values) {s : Single}
    (listed : s ∈ values) : isStep field c.value s.value = false :=
  not_isStep_of_getLast? ordered steps plain mem rfl listed

end Alone

/-- No two values of a list are equal or a step apart. -/
structure Scattered (field : Field) (values : List Single) : Prop where
  apart : values.Pairwise fun a b => field.isEqual a.value b.value = false ∧ field.isEqual b.value a.value = false
  stepless : ∀ a ∈ values, ∀ b ∈ values, isStep field a.value b.value = false

theorem Scattered.sublist {field : Field} {values others : List Single} (h : Scattered field values)
    (sublist : others.Sublist values) : Scattered field others where
  apart := h.apart.sublist sublist
  stepless a ha b hb := h.stepless a (sublist.subset ha) b (sublist.subset hb)

/-- Lining values up only puts them into another order. -/
theorem map_single_linedUp_perm (field : Field) (values : List Single) :
    ((linedUp field values).map Placed.single).Perm values := by
  have singles : (values.zipIdx.map fun entry => (⟨entry.1, entry.2⟩ : Placed)).map Placed.single = values := by
    rw [List.map_map]
    exact List.zipIdx_map_fst 0 values
  exact ((List.mergeSort_perm _ _).map Placed.single).trans (.of_eq singles)

/-- Values none of which are equal have a cluster each. -/
theorem clusters_linedUp {field : Field} {values : List Single}
    (apart : values.Pairwise fun a b => field.isEqual a.value b.value = false ∧ field.isEqual b.value a.value = false) :
    clusters field (linedUp field values) = (linedUp field values).map fun p => ⟨p, []⟩ := by
  have separate := ((map_single_linedUp_perm field values).pairwise_iff fun h => ⟨h.2, h.1⟩).mpr apart
  exact clusters_eq_map ((List.pairwise_map.mp separate).isChain.imp fun _ _ => And.left)

/-- Every value of a scattered list is a run for itself. -/
theorem Scattered.runsOf_eq {field : Field} {values : List Single} (h : Scattered field values) :
    runsOf field values = (linedUp field values).map fun p => [⟨p, []⟩] := by
  have member {p : Placed} (hp : p ∈ linedUp field values) : p.single ∈ values :=
    (map_single_linedUp_perm field values).mem_iff.mp (List.mem_map_of_mem hp)
  rw [runsOf, runs, clusters_linedUp h.apart, splitRuns_eq_map, List.map_map]
  · rfl
  · simp only [List.forall_mem_map]
    exact fun p hp q hq => h.stepless _ (member hp) _ (member hq)

/-- There is nothing to fold in a scattered list. -/
theorem Scattered.unfolded {field : Field} {values : List Single} (h : Scattered field values) :
    singlesOf field values = values ∧ rangesOf field values = [] := by
  have dropped : (runsOf field values).flatMap droppedOfRun = [] := by
    rw [h.runsOf_eq, List.flatMap_map]
    exact List.flatMap_eq_nil_iff.mpr fun _ _ => rfl
  have ranges : rangesOf field values = [] := by
    rw [rangesOf, h.runsOf_eq, List.filterMap_map]
    exact List.filterMap_eq_nil_iff.mpr fun _ _ => rfl
  have all : (values.zipIdx.filter fun entry => !([] : List Nat).contains entry.2) = values.zipIdx :=
    List.filter_eq_self.mpr fun _ _ => rfl
  rw [singlesOf, dropped, all, List.zipIdx_map_fst]
  exact ⟨rfl, ranges⟩

theorem Scattered.fold_eq {field : Field} {values : List Single} (h : Scattered field values) :
    fold field values = (values, []) := by
  obtain ⟨singles, ranges⟩ := h.unfolded
  rcases fold_cases field values with same | found
  · exact same
  · rw [found, singles, ranges]

end Refine

end Criteria
