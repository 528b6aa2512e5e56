import Criteria.Proofs.ValueOrder

/-!
# The next value

The next value of an integer or a date is the one right above it: nothing lies between the two, and the greatest
value has none.  A date-time is different, since the same time on the next day is far above it.
-/

namespace Criteria

namespace Date

theorem compare_eq_lt_iff (a b : Date) :
    a.compare b = .lt ↔
      a.year < b.year ∨
        a.year = b.year ∧ (a.month < b.month ∨ a.month = b.month ∧ a.day < b.day) := by
  simp only [compare, Ordering.then_eq_lt, Int.compare_eq_lt, Int.compare_eq_eq, Nat.compare_eq_lt,
    Nat.compare_eq_eq]

theorem compare_eq_eq_iff (a b : Date) :
    a.compare b = .eq ↔ a.year = b.year ∧ a.month = b.month ∧ a.day = b.day := by
  simp only [compare, Ordering.then_eq_eq, Int.compare_eq_eq, Nat.compare_eq_eq]

theorem eq_of_compare_eq {a b : Date} (h : a.compare b = .eq) : a = b := by
  rw [mk.injEq]
  exact (compare_eq_eq_iff a b).mp h

theorem of?_eq_some_iff {year : Int} {month day : Nat} {d : Date} :
    of? year month day = some d ↔ d.year = year ∧ d.month = month ∧ d.day = day := by
  unfold of?
  split
  · rename_i valid
    constructor
    · intro h
      cases h
      exact ⟨rfl, rfl, rfl⟩
    · rintro ⟨rfl, rfl, rfl⟩
      rfl
  · rename_i invalid
    constructor
    · intro h
      cases h
    · rintro ⟨rfl, rfl, rfl⟩
      exact absurd d.valid invalid

theorem of?_eq_none_iff {year : Int} {month day : Nat} :
    of? year month day = none ↔ ¬ Calendar.Valid year month day := by
  unfold of?
  split <;> simp_all

theorem daysInMonth_le_of_of?_eq_none {d : Date} (lastDay : of? d.year d.month (d.day + 1) = none) :
    Calendar.daysInMonth d.year d.month ≤ d.day := by
  obtain ⟨hyear, hmonth, hday⟩ := d.valid
  rw [of?_eq_none_iff] at lastDay
  by_contra fits
  exact lastDay ⟨hyear, hmonth, by omega⟩

theorem month_eq_of_of?_eq_none {d : Date} (lastMonth : of? d.year (d.month + 1) 1 = none) : d.month = 12 := by
  obtain ⟨hyear, hmonth, hday⟩ := d.valid
  rw [of?_eq_none_iff] at lastMonth
  by_contra earlier
  refine lastMonth ⟨hyear, by omega, by omega, ?_⟩
  unfold Calendar.daysInMonth
  split
  · split <;> omega
  all_goals omega

theorem year_eq_of_of?_eq_none {d : Date} (lastYear : of? (d.year + 1) 1 1 = none) : d.year = Calendar.maxYear := by
  obtain ⟨hyear, -, -⟩ := d.valid
  rw [of?_eq_none_iff] at lastYear
  by_contra earlier
  exact lastYear ⟨by omega, by decide, by decide, by simp [Calendar.daysInMonth]⟩

/-- The three ways to the next day: within the month, within the year, and into the next year. -/
theorem next?_cases {d e : Date} (h : d.next? = some e) :
    (e.year = d.year ∧ e.month = d.month ∧ e.day = d.day + 1) ∨
      (Calendar.daysInMonth d.year d.month ≤ d.day ∧
        e.year = d.year ∧ e.month = d.month + 1 ∧ e.day = 1) ∨
      (Calendar.daysInMonth d.year d.month ≤ d.day ∧ d.month = 12 ∧
        e.year = d.year + 1 ∧ e.month = 1 ∧ e.day = 1) := by
  unfold next? at h
  split at h
  · rename_i date found
    cases h
    exact .inl (of?_eq_some_iff.mp found)
  · rename_i lastDay
    have last := daysInMonth_le_of_of?_eq_none lastDay
    split at h
    · rename_i date found
      cases h
      exact .inr (.inl ⟨last, of?_eq_some_iff.mp found⟩)
    · rename_i lastMonth
      exact .inr (.inr ⟨last, month_eq_of_of?_eq_none lastMonth, of?_eq_some_iff.mp h⟩)

/-- The date without a next one is the last day of the last year. -/
theorem last_of_next?_eq_none {d : Date} (h : d.next? = none) :
    Calendar.daysInMonth d.year d.month ≤ d.day ∧ d.month = 12 ∧ d.year = Calendar.maxYear := by
  unfold next? at h
  split at h
  · cases h
  · rename_i lastDay
    split at h
    · cases h
    · rename_i lastMonth
      exact ⟨daysInMonth_le_of_of?_eq_none lastDay, month_eq_of_of?_eq_none lastMonth, year_eq_of_of?_eq_none h⟩

theorem not_lt_of_next?_eq_none {d : Date} (h : d.next? = none) (e : Date) : d.compare e ≠ .lt := by
  obtain ⟨last, december, lastYear⟩ := last_of_next?_eq_none h
  obtain ⟨hyear, hmonth, hday⟩ := e.valid
  rw [ne_eq, compare_eq_lt_iff]
  by_cases same : e.year = d.year ∧ e.month = d.month
  · rw [same.1, same.2] at hday
    omega
  · omega

theorem lt_next? {d e : Date} (h : d.next? = some e) : d.compare e = .lt := by
  rw [compare_eq_lt_iff]
  have cases := next?_cases h
  omega

/-- Every later date is the next day or later than it. -/
theorem next?_le {d e f : Date} (h : d.next? = some e) (later : d.compare f = .lt) :
    e.compare f = .lt ∨ e.compare f = .eq := by
  rw [compare_eq_lt_iff] at later
  rw [compare_eq_lt_iff, compare_eq_eq_iff]
  obtain ⟨-, hmonth, hday⟩ := f.valid
  rcases next?_cases h with hcase | ⟨last, hcase⟩ | ⟨last, december, hcase⟩
  · omega
  · -- in the same month the later date would be beyond the last day
    by_cases same : f.year = d.year ∧ f.month = d.month
    · rw [same.1, same.2] at hday
      omega
    · omega
  · by_cases same : f.year = d.year ∧ f.month = d.month
    · rw [same.1, same.2] at hday
      omega
    · omega

end Date

namespace ValueOrder

theorem toInt_of_nextInteger? {n : Int64} {s : Value} (h : nextInteger? n = some s) :
    ∃ m : Int64, s = .integer m ∧ m.toInt = n.toInt + 1 := by
  unfold nextInteger? at h
  split at h
  · cases h
  · rename_i below
    cases h
    refine ⟨n + 1, rfl, ?_⟩
    have bound : n.toInt ≠ 2 ^ 63 - 1 := fun h =>
      below (Int64.toInt_inj.mp (h.trans Int64.toInt_maxValue.symm))
    have upper := n.toInt_lt
    have lower := n.le_toInt
    rw [Int64.toInt_add, Int64.toInt_one, Int.bmod_eq_of_le] <;> omega

/-- The next value is above the value, and whatever else is above the value is above the next one too, unless
the value is a date-time. -/
structure IsNext (order : ValueOrder) (v s : Value) : Prop where
  above : order.compare v s = some .lt
  least : v.kind ≠ .moment → ∀ w, order.compare v w = some .lt →
    order.compare s w = some .lt ∨ order.compare s w = some .eq

theorem isNext_integer {order : ValueOrder} {n : Int64} {s : Value}
    (integers : ∀ a w, order.compare (.integer a) w =
      w.integer?.map fun b => Ord.compare a.toInt b.toInt)
    (h : nextInteger? n = some s) : IsNext order (.integer n) s := by
  obtain ⟨m, rfl, step⟩ := toInt_of_nextInteger? h
  refine ⟨?_, fun _ w above => ?_⟩
  · rw [integers]
    simp only [Value.integer?, Option.map_some, Option.some.injEq, Int.compare_eq_lt]
    omega
  · rw [integers] at above ⊢
    cases found : w.integer? with
    | none => simp [found] at above
    | some b =>
        simp only [found, Option.map_some, Option.some.injEq, Int.compare_eq_lt,
          Int.compare_eq_eq] at above ⊢
        omega

theorem isNext_date {order : ValueOrder} {d : Date} {s : Value}
    (dates : ∀ a w, order.compare (.date a) w = w.date?.map fun b => a.compare b)
    (h : d.next?.map .date = some s) : IsNext order (.date d) s := by
  obtain ⟨e, found, rfl⟩ := Option.map_eq_some_iff.mp h
  refine ⟨?_, fun _ w above => ?_⟩
  · rw [dates]
    exact congrArg some (Date.lt_next? found)
  · rw [dates] at above ⊢
    cases date : w.date? with
    | none => simp [date] at above
    | some f =>
        simp only [date, Option.map_some, Option.some.injEq] at above ⊢
        exact Date.next?_le found above

theorem isNext_moment {m : Moment} {s : Value} (h : m.nextDay?.map .moment = some s) :
    IsNext .date (.moment m) s := by
  obtain ⟨n, found, rfl⟩ := Option.map_eq_some_iff.mp h
  obtain ⟨e, next, rfl⟩ := Option.map_eq_some_iff.mp found
  refine ⟨?_, fun plain => absurd rfl plain⟩
  exact congrArg some (Ordering.then_eq_lt.mpr (.inl (Date.lt_next? next)))

/-- What an order gives as the next value is the next one. -/
theorem isNext_of_next? {order : ValueOrder} {v s : Value} (h : order.next? v = some s) :
    IsNext order v s := by
  cases order with
  | integer =>
      cases v with
      | integer n => exact isNext_integer (fun a w => by cases w <;> rfl) h
      | _ => cases h
  | date =>
      cases v with
      | date d => exact isNext_date (fun a w => by cases w <;> rfl) h
      | moment m => exact isNext_moment h
      | _ => cases h
  | birthday =>
      cases v with
      | integer n => exact isNext_integer (fun a w => by cases w <;> rfl) h
      | date d => exact isNext_date (fun a w => by cases w <;> rfl) h
      | _ => cases h
  | _ => cases h

end ValueOrder

/-! ## Immediate successors -/

namespace TimeOfDay

theorem compare_eq_lt_iff (a b : TimeOfDay) :
    a.compare b = .lt ↔
      a.hour < b.hour ∨ a.hour = b.hour ∧ (a.minute < b.minute ∨ a.minute = b.minute ∧
        (a.second < b.second ∨ a.second = b.second ∧ a.nanosecond < b.nanosecond)) := by
  simp only [compare, Ordering.then_eq_lt, Nat.compare_eq_lt, Nat.compare_eq_eq]

/-- The first nanosecond of the day. -/
def afterMidnight : TimeOfDay :=
  ⟨0, 0, 0, 1, by decide⟩

/-- A time of day is after the beginning of the day, or before its first nanosecond. -/
theorem midnight_lt_or_lt_afterMidnight (t : TimeOfDay) :
    midnight.compare t = .lt ∨ t.compare afterMidnight = .lt := by
  simp only [compare_eq_lt_iff, midnight, afterMidnight]
  omega

end TimeOfDay

/-- Between a date-time and the same time on the next day there are others. -/
theorem Moment.exists_between {m n : Moment} (h : m.nextDay? = some n) :
    ∃ between, m.compare between = .lt ∧ between.compare n = .lt := by
  obtain ⟨date, next, rfl⟩ := Option.map_eq_some_iff.mp h
  have later := Date.lt_next? next
  have today : m.date.compare m.date = .eq := (Date.compare_eq_eq_iff _ _).mpr ⟨rfl, rfl, rfl⟩
  have tomorrow : date.compare date = .eq := (Date.compare_eq_eq_iff _ _).mpr ⟨rfl, rfl, rfl⟩
  rcases m.time.midnight_lt_or_lt_afterMidnight with started | notStarted
  · exact ⟨⟨date, .midnight⟩, Ordering.then_eq_lt.mpr (.inl later), Ordering.then_eq_lt.mpr (.inr ⟨tomorrow, started⟩)⟩
  · exact ⟨⟨m.date, .afterMidnight⟩, Ordering.then_eq_lt.mpr (.inr ⟨today, notStarted⟩),
      Ordering.then_eq_lt.mpr (.inl later)⟩

namespace ValueOrder

/-- A value is above another one, with nothing between the two. -/
structure IsSuccessor (order : ValueOrder) (v s : Value) : Prop where
  above : order.compare v s = some .lt
  noneBetween : ∀ w, order.compare v w = some .lt → order.compare w s ≠ some .lt

/-- Nothing is above a value. -/
def IsGreatest (order : ValueOrder) (v : Value) : Prop :=
  ∀ w, order.compare v w ≠ some .lt

theorem isSuccessor_of_next? {order : ValueOrder} {v s : Value} (plain : v.kind ≠ .moment)
    (h : order.next? v = some s) : IsSuccessor order v s := by
  have laws := order.partialComparison
  have next := isNext_of_next? h
  refine ⟨next.above, fun w above below => ?_⟩
  rcases next.least plain w above with least | same
  · exact laws.not_lt_self w (laws.lt_trans w s w below least)
  · exact laws.not_lt_self w (laws.lt_of_lt_of_eq below same)

theorem isGreatest_of_nextInteger?_eq_none {order : ValueOrder} {n : Int64}
    (integers : ∀ a w, order.compare (.integer a) w =
      w.integer?.map fun b => Ord.compare a.toInt b.toInt)
    (h : nextInteger? n = none) : IsGreatest order (.integer n) := by
  have greatest : n = Int64.maxValue := by
    unfold nextInteger? at h
    split at h
    · assumption
    · cases h
  intro w
  rw [integers]
  cases w.integer? with
  | none => exact fun h => nomatch h
  | some b =>
      have bound := b.toInt_lt
      rw [Option.map_some, ne_eq, Option.some.injEq, Int.compare_eq_lt, greatest, Int64.toInt_maxValue]
      omega

theorem isGreatest_of_next?_eq_none_of_date {order : ValueOrder} {d : Date}
    (dates : ∀ a w, order.compare (.date a) w = w.date?.map fun b => a.compare b)
    (h : d.next?.map Value.date = none) : IsGreatest order (.date d) := by
  intro w
  rw [dates]
  cases w.date? with
  | none => exact fun h => nomatch h
  | some e =>
      rw [Option.map_some, ne_eq, Option.some.injEq]
      exact Date.not_lt_of_next?_eq_none (Option.map_eq_none_iff.mp h) e

/-- A value without a next one is the greatest, if it is not a date-time. -/
theorem isGreatest_of_next?_eq_none {order : ValueOrder} {v : Value} (steps : order.hasSteps = true)
    (plain : v.kind ≠ .moment) (h : order.next? v = none) : IsGreatest order v := by
  cases order with
  | integer =>
      cases v with
      | integer n => exact isGreatest_of_nextInteger?_eq_none (fun a w => by cases w <;> rfl) h
      | _ => exact fun w => nofun
  | date =>
      cases v with
      | date d => exact isGreatest_of_next?_eq_none_of_date (fun a w => by cases w <;> rfl) h
      | moment m => exact absurd rfl plain
      | _ => exact fun w => nofun
  | birthday =>
      cases v with
      | integer n => exact isGreatest_of_nextInteger?_eq_none (fun a w => by cases w <;> rfl) h
      | date d => exact isGreatest_of_next?_eq_none_of_date (fun a w => by cases w <;> rfl) h
      | _ => exact fun w => nofun
  | number => cases steps
  | text => cases steps

/-- The next value of a date-time is not its immediate successor. -/
theorem not_isSuccessor_moment {m : Moment} {s : Value} (h : ValueOrder.date.next? (.moment m) = some s) :
    ¬ IsSuccessor .date (.moment m) s := by
  obtain ⟨n, found, rfl⟩ := Option.map_eq_some_iff.mp h
  obtain ⟨between, above, below⟩ := Moment.exists_between found
  intro successor
  exact successor.noneBetween (.moment between) (congrArg some above) (congrArg some below)

/-- Orders other than that of dates leave date-times alone. -/
theorem unordered_moment {order : ValueOrder} (other : order ≠ .date) (m : Moment) :
    order.next? (.moment m) = none ∧ IsGreatest order (.moment m) := by
  cases order with
  | date => exact absurd rfl other
  | _ => exact ⟨rfl, fun w => nofun⟩

/-- An order made of steps gives a value its immediate successor, or nothing if the value is the greatest, except
that among dates it fails all date-times but the greatest. -/
theorem next?_immediate_iff {order : ValueOrder} (steps : order.hasSteps = true) (v : Value) :
    ((∀ s, order.next? v = some s → IsSuccessor order v s) ∧ (order.next? v = none → IsGreatest order v)) ↔
      (order = .date → v.kind = .moment → IsGreatest order v) := by
  by_cases plain : v.kind = .moment
  · cases v with
    | moment m =>
        by_cases dates : order = .date
        · subst dates
          constructor
          · rintro ⟨successor, greatest⟩ - -
            cases next : ValueOrder.date.next? (.moment m) with
            | none => exact greatest next
            | some s => exact absurd (successor s next) (not_isSuccessor_moment next)
          · intro greatest
            have last := greatest rfl rfl
            refine ⟨fun s next => ?_, fun _ => last⟩
            exact absurd (isNext_of_next? next).above (last s)
        · obtain ⟨none, greatest⟩ := unordered_moment dates m
          refine ⟨fun _ date => absurd date dates, fun _ => ⟨fun s next => ?_, fun _ => greatest⟩⟩
          rw [none] at next
          cases next
    | _ => cases plain
  · exact ⟨fun _ _ moment => absurd moment plain,
      fun _ => ⟨fun s => isSuccessor_of_next? plain, isGreatest_of_next?_eq_none steps plain⟩⟩

theorem next?_immediate_iff_leapDay :
    ValueOrder.date.hasSteps = true ∧
      IsSuccessor .date (.date ⟨2024, 2, 28, by decide⟩) (.date ⟨2024, 2, 29, by decide⟩) := by
  have law := (@next?_immediate_iff .date rfl (.date ⟨2024, 2, 28, by decide⟩)).mpr fun _ other => nomatch other
  exact ⟨rfl, law.1 _ (by decide)⟩

/-- A date-time is given the same time on the next day, though midnight lies between the two. -/
theorem moment_step_passes_midnight :
    ValueOrder.date.next? (.moment ⟨⟨2013, 9, 21, by decide⟩, ⟨12, 46, 0, 0, by decide⟩⟩) =
        some (.moment ⟨⟨2013, 9, 22, by decide⟩, ⟨12, 46, 0, 0, by decide⟩⟩) ∧
      ValueOrder.date.compare (.moment ⟨⟨2013, 9, 21, by decide⟩, ⟨12, 46, 0, 0, by decide⟩⟩)
        (.moment ⟨⟨2013, 9, 22, by decide⟩, .midnight⟩) = some .lt ∧
      ValueOrder.date.compare (.moment ⟨⟨2013, 9, 22, by decide⟩, .midnight⟩)
        (.moment ⟨⟨2013, 9, 22, by decide⟩, ⟨12, 46, 0, 0, by decide⟩⟩) = some .lt :=
  ⟨by decide, by decide, by decide⟩

end ValueOrder

end Criteria
