import Criteria.Proofs.Calendar.TextOrder
import Criteria.Proofs.Successor
import Criteria.Sql.Binding
import Criteria.Sql.Converter

/-!
# Dates bound as texts

A converter and the binding of parameters write the same text for a date.  Different dates have different texts, and the
order of the texts is that of the dates wherever it is that of their years.  The text of a date-time ends with the second
that is shown of it, so the same holds of what date-times show, and of nothing finer.
-/

namespace Criteria

open Calendar Text

/-! ## Shown date-times -/

/-- What the text of a date-time shows of it: the date, and the time to the second. -/
structure Shown where
  date : Date
  hour : Nat
  minute : Nat
  second : Nat
  deriving DecidableEq

/-- What is shown is ordered by date, hour, minute and second. -/
def Shown.compare (a b : Shown) : Ordering :=
  (a.date.compare b.date).then ((Ord.compare a.hour b.hour).then
    ((Ord.compare a.minute b.minute).then (Ord.compare a.second b.second)))

/-- What is shown of a date-time. -/
def Moment.shown (m : Moment) : Shown :=
  ⟨m.date, m.time.hour, m.time.minute, m.time.shownSecond⟩

theorem Shown.eq_of_compare_eq {a b : Shown} (h : a.compare b = .eq) : a = b := by
  rw [compare, Ordering.then_eq_eq, Ordering.then_eq_eq, Ordering.then_eq_eq, Nat.compare_eq_eq, Nat.compare_eq_eq,
    Nat.compare_eq_eq] at h
  rw [mk.injEq]
  exact ⟨Date.eq_of_compare_eq h.1, h.2⟩

/-- A leap second is shown as the second that follows, and no later date-time is shown before that. -/
theorem Moment.compare_shown_ne_gt {a b : Moment} (h : a.compare b = .lt) : a.shown.compare b.shown ≠ .gt := by
  intro greater
  rw [compare, Ordering.then_eq_lt, TimeOfDay.compare_eq_lt_iff] at h
  rw [Shown.compare, Ordering.then_eq_gt, Ordering.then_eq_gt, Ordering.then_eq_gt, Nat.compare_eq_gt, Nat.compare_eq_gt,
    Nat.compare_eq_gt, Nat.compare_eq_eq, Nat.compare_eq_eq] at greater
  simp only [shown, TimeOfDay.shownSecond] at greater
  rcases h with earlier | ⟨sameDay, earlier⟩
  · rcases greater with later | ⟨sameDay, -⟩
    · cases earlier.symm.trans later
    · cases earlier.symm.trans sameDay
  · rcases greater with later | ⟨-, later⟩
    · cases sameDay.symm.trans later
    · obtain ⟨-, -, -, nanosecond⟩ := a.time.valid
      omega

theorem Moment.compare_shown_of_whole {a b : Moment} (first : a.time.nanosecond = 0) (second : b.time.nanosecond = 0) :
    a.shown.compare b.shown = a.compare b := by
  rw [Shown.compare, shown, shown, compare, TimeOfDay.compare, TimeOfDay.shownSecond, TimeOfDay.shownSecond, first, second,
    Nat.zero_div, Nat.add_zero, Nat.add_zero, Nat.compare_eq_eq.mpr rfl, Ordering.then_eq]

namespace Sql

/-! ## Values and their texts -/

/-- A value is bound as a text, by the converter of dates and without one. -/
structure BoundAs (v : Value) (text : String) : Prop where
  converted : ∀ hints, dateAsText.convert v hints = .ok (.string text)
  bound : Cell.ofValue v = .text text

theorem boundAs_date (d : Date) : BoundAs (.date d) (isoDateText d) :=
  ⟨fun _ => rfl, rfl⟩

theorem boundAs_moment (m : Moment) : BoundAs (.moment m) (isoMomentText m) :=
  ⟨fun _ => rfl, rfl⟩

/-- Two texts are the same exactly if something is so, and stand in an order exactly if they begin with years that stand
as their texts do. -/
structure OrderedAs (same : Prop) (order : Ordering) (y z : Int) (s t : String) : Prop where
  same_iff : s = t ↔ same
  order_iff : byteOrder s t = order ↔ yearOrder y z = Ord.compare y z

/-- It is enough that the texts are ordered behind the years as they should be. -/
theorem OrderedAs.of_years {same : Prop} {order rest : Ordering} {y z : Int} {s t : String}
    (ordered : order = (Ord.compare y z).then rest) (texts : byteOrder s t = (yearOrder y z).then rest)
    (apart : order = .eq → same) (written : same → s = t) : OrderedAs same order y z s t where
  same_iff := by
    refine ⟨fun alike => apart ?_, written⟩
    have equal : byteOrder s t = .eq := by
      rw [alike]
      exact Std.compare_eq_iff_eq.mpr rfl
    rw [texts, Ordering.then_eq_eq, yearOrder_eq_eq_iff] at equal
    rw [ordered, equal.1, equal.2, Int.compare_eq_eq.mpr rfl]
    rfl
  order_iff := by rw [ordered, texts, eq_comm, yearOrder_then_eq_iff]

theorem orderedAs_date (a b : Date) :
    OrderedAs (a = b) (a.compare b) a.year b.year (isoDateText a) (isoDateText b) :=
  .of_years rfl (byteOrder_isoDateText a b) Date.eq_of_compare_eq (congrArg isoDateText)

theorem orderedAs_moment (a b : Moment) :
    OrderedAs (a.shown = b.shown) (a.shown.compare b.shown) a.date.year b.date.year (isoMomentText a)
      (isoMomentText b) := by
  refine .of_years ?_ (byteOrder_isoMomentText a b) Shown.eq_of_compare_eq ?_
  · rw [Shown.compare, Moment.shown, Moment.shown, Date.compare, Ordering.then_assoc, Ordering.then_assoc]
  · intro same
    obtain ⟨date, hour, minute, second⟩ := Shown.mk.inj same
    rw [isoMomentText_eq, isoMomentText_eq, date, hour, minute, second]

/-- The order of what is shown of two date-times is never the reverse of theirs, and is theirs if they are whole seconds.
-/
structure ShownInOrder (a b : Moment) : Prop where
  not_reversed : ValueOrder.date.compare (.moment a) (.moment b) = some .lt → a.shown.compare b.shown ≠ .gt
  whole : a.time.nanosecond = 0 → b.time.nanosecond = 0 →
    ValueOrder.date.compare (.moment a) (.moment b) = some (a.shown.compare b.shown)

theorem shownInOrder (a b : Moment) : ShownInOrder a b where
  not_reversed earlier := Moment.compare_shown_ne_gt (Option.some.inj earlier)
  whole first second := congrArg some (Moment.compare_shown_of_whole first second).symm

/-- Dates are bound as texts that keep them apart, and that stand in the order of the dates exactly if their years do as
texts, which years do if none is after 9999 and they are not two years before the year zero.  Date-times are bound as
texts that do the same for what is shown of them, the date and the time to the second. -/
theorem bound_texts_ordered :
    (∀ a b : Date, ∃ s t order, BoundAs (.date a) s ∧ BoundAs (.date b) t ∧
      ValueOrder.date.compare (.date a) (.date b) = some order ∧ OrderedAs (a = b) order a.year b.year s t) ∧
    (∀ a b : Moment, ∃ s t, BoundAs (.moment a) s ∧ BoundAs (.moment b) t ∧
      OrderedAs (a.shown = b.shown) (a.shown.compare b.shown) a.date.year b.date.year s t ∧ ShownInOrder a b) ∧
    ∀ y z, YearsInOrder y z → yearOrder y z = Ord.compare y z :=
  ⟨fun a b => ⟨_, _, _, boundAs_date a, boundAs_date b, rfl, orderedAs_date a b⟩,
    fun a b => ⟨_, _, boundAs_moment a, boundAs_moment b, orderedAs_moment a b, shownInOrder a b⟩,
    fun _ _ => yearOrder_eq⟩

/-- The last day before the year zero and the first day of it are ordered as their texts. -/
theorem bound_texts_ordered_yearZero :
    YearsInOrder (-1) 0 ∧
      ∃ s t, BoundAs (.date ⟨-1, 12, 31, by decide⟩) s ∧ BoundAs (.date ⟨0, 1, 1, by decide⟩) t ∧
        byteOrder s t = .lt := by
  have ordered : YearsInOrder (-1) 0 := by decide
  obtain ⟨s, t, order, first, second, compared, texts⟩ :=
    bound_texts_ordered.1 ⟨-1, 12, 31, by decide⟩ ⟨0, 1, 1, by decide⟩
  have same := texts.order_iff.mpr (bound_texts_ordered.2.2 _ _ ordered)
  cases compared
  exact ⟨ordered, s, t, first, second, same⟩

/-- The text of the first day of the year 10000 stands before that of the day before, and two date-times half a second
apart have one text. -/
theorem bound_texts_disordered :
    (¬∀ (a b : Date) (s t : String), BoundAs (.date a) s → BoundAs (.date b) t →
      ((ValueOrder.date.compare (.date a) (.date b) = some .lt ↔ byteOrder s t = .lt) ∧ (a = b ↔ s = t))) ∧
    ¬∀ (a b : Moment) (s t : String), BoundAs (.moment a) s → BoundAs (.moment b) t →
      ((ValueOrder.date.compare (.moment a) (.moment b) = some .lt ↔ byteOrder s t = .lt) ∧ (a = b ↔ s = t)) := by
  constructor
  · intro all
    have order := (all ⟨9999, 12, 31, by decide⟩ ⟨10000, 1, 1, by decide⟩ _ _ (boundAs_date _) (boundAs_date _)).1.mp
      (by decide)
    rw [byteOrder_isoDateText] at order
    exact absurd order (by decide)
  · intro all
    have same := (all ⟨⟨2013, 9, 21, by decide⟩, ⟨12, 46, 0, 0, by decide⟩⟩
      ⟨⟨2013, 9, 21, by decide⟩, ⟨12, 46, 0, 500000000, by decide⟩⟩ _ _ (boundAs_moment _) (boundAs_moment _)).2.mpr
      (by rw [isoMomentText_eq, isoMomentText_eq]; rfl)
    exact absurd same (by decide)

end Sql

end Criteria
