import Criteria.Proofs.Row
import Criteria.Refine.Containment
import Mathlib.Data.List.Basic

/-!
# Dropping what ranges contain keeps the meaning

A value lies in a range exactly if the range contains the range of that value alone, so what lies in a range
lies in every range that contains it.  A range is dropped only for one that outdoes it.  Outdoing is transitive
and nothing outdoes itself, so some range that outdoes the dropped one is itself not outdone, and stays.
-/

namespace Criteria.Refine

section Order

variable {field : Field} {order : ValueOrder}

theorem contains_iff (ordered : field.order = some order) (outer inner : Range) :
    contains field outer inner = true ↔
      (order.compare outer.lower inner.lower = some .lt ∨
        order.compare outer.lower inner.lower = some .eq ∧
          (inner.includesLower = true → outer.includesLower = true)) ∧
      (order.compare inner.upper outer.upper = some .lt ∨
        order.compare inner.upper outer.upper = some .eq ∧
          (inner.includesUpper = true → outer.includesUpper = true)) := by
  have included (a b : Bool) : (a || !b) = true ↔ (b = true → a = true) := by
    cases a <;> cases b <;> simp
  simp only [contains, Field.compare, ordered, Option.bind_some, Bool.and_eq_true]
  refine and_congr ?_ ?_
  · cases order.compare outer.lower inner.lower with
    | none => simp
    | some answer => cases answer <;> simp [included]
  · cases order.compare inner.upper outer.upper with
    | none => simp
    | some answer => cases answer <;> simp [included]

theorem contains_trans (ordered : field.order = some order) {a b c : Range}
    (hab : contains field a b = true) (hbc : contains field b c = true) :
    contains field a c = true := by
  have laws := order.partialComparison
  rw [contains_iff ordered] at hab hbc ⊢
  refine ⟨?_, ?_⟩
  · rcases hab.1 with hab | ⟨hab, kept⟩
    · rcases hbc.1 with hbc | ⟨hbc, -⟩
      · exact .inl (laws.lt_trans _ _ _ hab hbc)
      · exact .inl (laws.lt_of_lt_of_eq hab hbc)
    · rcases hbc.1 with hbc | ⟨hbc, keptBelow⟩
      · exact .inl (laws.lt_of_eq_of_lt hab hbc)
      · exact .inr ⟨laws.eq_trans hab hbc, kept ∘ keptBelow⟩
  · rcases hab.2 with hab | ⟨hab, kept⟩
    · rcases hbc.2 with hbc | ⟨hbc, -⟩
      · exact .inl (laws.lt_trans _ _ _ hbc hab)
      · exact .inl (laws.lt_of_eq_of_lt hbc hab)
    · rcases hbc.2 with hbc | ⟨hbc, keptBelow⟩
      · exact .inl (laws.lt_of_lt_of_eq hbc hab)
      · exact .inr ⟨laws.eq_trans hbc hab, kept ∘ keptBelow⟩

/-- The range of one value alone. -/
def point (v : Value) : Range :=
  .inclusive ⟨v, ""⟩ ⟨v, ""⟩

theorem contains_point (ordered : field.order = some order) (r : Range) (x : Value) :
    contains field r (point x) = order.within x r := by
  rw [Bool.eq_iff_iff, contains_iff ordered, order.within_iff]
  simp only [point, Range.inclusive, forall_const, and_comm]

/-- What lies in a range lies in every range that contains it. -/
theorem within_of_contains (ordered : field.order = some order) {outer inner : Range} {x : Value}
    (h : contains field outer inner = true) (lies : order.within x inner = true) :
    order.within x outer = true := by
  rw [← contains_point ordered] at lies ⊢
  exact contains_trans ordered h lies

theorem covers_eq_within (ordered : field.order = some order) (r : Range) (v : Value) :
    covers field r v = order.within v r := by
  rw [covers, Field.compare, Field.compare, ordered, Option.bind_some, Option.bind_some,
    ValueOrder.within]
  cases order.compare r.lower v with
  | none => simp
  | some below =>
      cases order.compare v r.upper with
      | none => cases below <;> simp
      | some above => cases below <;> cases above <;> simp

/-! ## Ranges that stay -/

/-- Below a transitive relation that relates nothing to itself every element of a list has a top one. -/
theorem exists_top {α : Type} {above : α → α → Bool} {xs : List α}
    (irrefl : ∀ a ∈ xs, above a a = false)
    (trans : ∀ a ∈ xs, ∀ b ∈ xs, ∀ c ∈ xs, above a b = true → above b c = true → above a c = true)
    {x : α} (mem : x ∈ xs) :
    ∃ y ∈ xs, (y = x ∨ above y x = true) ∧ xs.any (fun z => above z y) = false := by
  induction size : (xs.filter fun z => above z x).length using Nat.strong_induction_on generalizing x with
  | h n ih =>
      cases found : xs.any fun z => above z x with
      | false => exact ⟨x, mem, .inl rfl, found⟩
      | true =>
          obtain ⟨z, hz, hzx⟩ := List.any_eq_true.mp found
          have nested : (xs.filter fun w => above w z) =
              (xs.filter fun w => above w x).filter fun w => above w z := by
            rw [List.filter_filter]
            refine List.filter_congr fun w hw => ?_
            cases hwz : above w z with
            | false => rfl
            | true => rw [trans w hw z hz x mem hwz hzx, Bool.true_and]
          have fewer : (xs.filter fun w => above w z).length < n := by
            rw [nested, ← size, List.length_filter_lt_length_iff_exists]
            exact ⟨z, List.mem_filter.mpr ⟨hz, hzx⟩, by simp [irrefl z hz]⟩
          obtain ⟨y, hy, reached, top⟩ := ih _ fewer hz rfl
          refine ⟨y, hy, .inr ?_, top⟩
          rcases reached with rfl | hyz
          · exact hzx
          · exact trans y hy z hz x mem hyz hzx

theorem outdoes_iff (a b : Range × Nat) :
    outdoes field a b = true ↔
      b.2 ≠ a.2 ∧ contains field a.1 b.1 = true ∧ (contains field b.1 a.1 = true → a.2 < b.2) := by
  simp only [outdoes, Bool.and_eq_true, bne_iff_ne, Bool.or_eq_true, Bool.not_eq_true',
    decide_eq_true_eq, and_assoc]
  cases contains field b.1 a.1 <;> simp

theorem outdoes_trans (ordered : field.order = some order) {a b c : Range × Nat}
    (same : a.2 = c.2 → a.1 = c.1) (hab : outdoes field a b = true) (hbc : outdoes field b c = true) :
    outdoes field a c = true := by
  rw [outdoes_iff] at hab hbc ⊢
  rcases hab with ⟨-, containsAB, placeAB⟩
  rcases hbc with ⟨-, containsBC, placeBC⟩
  -- If the last range contains the first, all three contain each other and the places decide.
  have places (containsCA : contains field c.1 a.1 = true) : a.2 < c.2 :=
    Nat.lt_trans (placeAB (contains_trans ordered containsBC containsCA))
      (placeBC (contains_trans ordered containsCA containsAB))
  have containsAC := contains_trans ordered containsAB containsBC
  refine ⟨fun place => ?_, containsAC, places⟩
  have below := places (by rwa [← same place.symm] at containsAC ⊢)
  omega

theorem dropContained_sublist (ranges : List Range) : (dropContained field ranges).Sublist ranges := by
  have kept := (List.filter_sublist (l := ranges.zipIdx)
    (p := fun range => !ranges.zipIdx.any fun other => outdoes field other range)).map Prod.fst
  rwa [List.zipIdx_map_fst] at kept

/-- A range that is dropped lies in one that stays. -/
theorem exists_dropContained (ordered : field.order = some order) {ranges : List Range} {r : Range}
    (mem : r ∈ ranges) :
    ∃ k ∈ dropContained field ranges, k = r ∨ contains field k r = true := by
  have same (a b : Range × Nat) (ha : a ∈ ranges.zipIdx) (hb : b ∈ ranges.zipIdx) (place : a.2 = b.2) :
      a.1 = b.1 := by
    rw [List.mem_zipIdx_iff_getElem?] at ha hb
    rw [place, hb] at ha
    exact (Option.some.inj ha).symm
  obtain ⟨place, hplace, rfl⟩ := List.getElem_of_mem mem
  have placed : (ranges[place], place) ∈ ranges.zipIdx := by
    rw [List.mem_zipIdx_iff_getElem?]
    exact List.getElem?_eq_getElem hplace
  obtain ⟨top, htop, reached, unbeaten⟩ := exists_top
    (fun a _ => by rw [Bool.eq_false_iff, ne_eq, outdoes_iff]; exact fun h => h.1 rfl)
    (fun a ha b _ c hc hab hbc => outdoes_trans ordered (same a c ha hc) hab hbc) placed
  refine ⟨top.1, List.mem_map.mpr ⟨top, List.mem_filter.mpr ⟨htop, ?_⟩, rfl⟩, ?_⟩
  · rw [unbeaten]
    rfl
  · rcases reached with rfl | beats
    · exact .inl rfl
    · exact .inr ((outdoes_iff _ _).mp beats).2.1

theorem dropContained_eq_nil_iff (ordered : field.order = some order) (ranges : List Range) :
    dropContained field ranges = [] ↔ ranges = [] := by
  constructor
  · intro empty
    refine List.eq_nil_iff_forall_not_mem.mpr fun r mem => ?_
    obtain ⟨k, hk, -⟩ := exists_dropContained ordered mem
    rw [empty] at hk
    cases hk
  · rintro rfl
    rfl

theorem any_dropContained (ordered : field.order = some order) (x : Value) (ranges : List Range) :
    (dropContained field ranges).any (order.within x) = ranges.any (order.within x) := by
  rw [Bool.eq_iff_iff, List.any_eq_true, List.any_eq_true]
  constructor
  · rintro ⟨r, mem, lies⟩
    exact ⟨r, (dropContained_sublist ranges).subset mem, lies⟩
  · rintro ⟨r, mem, lies⟩
    obtain ⟨k, hk, rfl | holds⟩ := exists_dropContained ordered mem
    · exact ⟨k, hk, lies⟩
    · exact ⟨k, hk, within_of_contains ordered holds lies⟩

theorem dropCovered_nil (values : List Single) : dropCovered field [] values = values :=
  List.filter_eq_self.mpr fun _ _ => rfl

theorem any_dropCovered (ordered : field.order = some order) (x : Value) (ranges : List Range)
    (values : List Single) :
    ((dropCovered field ranges values).any (fun s => order.isEqual s.value x) ||
        ranges.any (order.within x)) =
      (values.any (fun s => order.isEqual s.value x) || ranges.any (order.within x)) := by
  cases lies : ranges.any (order.within x) with
  | true => rw [Bool.or_true, Bool.or_true]
  | false =>
      rw [Bool.or_false, Bool.or_false, dropCovered, List.any_filter]
      refine List.any_congr rfl fun s => ?_
      cases equal : order.isEqual s.value x with
      | false => rw [Bool.and_false]
      | true =>
          have alike (r : Range) : covers field r s.value = order.within x r := by
            rw [order.isEqual_iff] at equal
            have laws := order.partialComparison
            rw [covers_eq_within ordered, ValueOrder.within, laws.congr_right r.lower equal,
              laws.congr_left s.value x r.upper equal, ← ValueOrder.within]
          simp only [alike, lies, Bool.not_false, Bool.and_true]

/-- Values and ranges come out alike without what the ranges contain. -/
theorem alike_tighten (ordered : field.order = some order) {t : Tests} {x : Value}
    (equals : t.equals = fun v => order.isEqual v x) (within : t.within = order.within x)
    (values : List Single) (ranges : List Range) :
    t.Alike (dropCovered field (dropContained field ranges) values) (dropContained field ranges)
      values ranges := by
  constructor
  · rw [dropContained_eq_nil_iff ordered]
    refine and_congr_left fun empty => ?_
    rw [(dropContained_eq_nil_iff ordered ranges).mpr empty, dropCovered_nil]
  · rw [equals, within, any_dropCovered ordered, any_dropContained ordered]

end Order

/-- A bag without the entries that its ranges contain says the same. -/
theorem agree_tightenBag (row : Row) {schema : Schema} {name : String} {field : Field}
    (found : schema.field? name = some field) (bag : Bag) :
    (row.tests schema name).Agree (tightenBag field bag) bag := by
  cases ordered : field.order with
  | none =>
      rw [tightenBag, ordered]
      exact Tests.Agree.refl _ _
  | some order =>
      have tests := row.tests_of_order found ordered
      rw [tightenBag, ordered]
      exact Bag.agree_of_alike (alike_tighten ordered (by rw [tests]) (by rw [tests]) _ _)
        (alike_tighten ordered (by rw [tests]) (by rw [tests]) _ _) rfl rfl

end Criteria.Refine
