import Criteria.Calendar.Date

/-!
# Times of day and date-times

A time of day has a resolution of a nanosecond.  Any second may last for two: the leap second behind it is
written with a thousand million nanoseconds or more, and shown as the second that follows.
-/

namespace Criteria

/-- The parts of a time of day are in range; a second with a leap second behind it has twice the nanoseconds. -/
def Calendar.ValidTime (hour minute second nanosecond : Nat) : Prop :=
  hour < 24 ∧ minute < 60 ∧ second < 60 ∧ nanosecond < 2000000000

instance (hour minute second nanosecond : Nat) :
    Decidable (Calendar.ValidTime hour minute second nanosecond) := by
  unfold Calendar.ValidTime
  infer_instance

/-- A time of day. -/
structure TimeOfDay where
  hour : Nat
  minute : Nat
  second : Nat
  nanosecond : Nat
  valid : Calendar.ValidTime hour minute second nanosecond
  deriving DecidableEq

namespace TimeOfDay

/-- The time of day with the given parts, if there is one. -/
def of? (hour minute second nanosecond : Nat) : Option TimeOfDay :=
  if h : Calendar.ValidTime hour minute second nanosecond then
    some ⟨hour, minute, second, nanosecond, h⟩
  else none

/-- The beginning of the day. -/
def midnight : TimeOfDay :=
  ⟨0, 0, 0, 0, by decide⟩

/-- Times are ordered by hour, minute, second and nanosecond. -/
def compare (a b : TimeOfDay) : Ordering :=
  (Ord.compare a.hour b.hour).then ((Ord.compare a.minute b.minute).then
    ((Ord.compare a.second b.second).then (Ord.compare a.nanosecond b.nanosecond)))

/-- The second as it is shown: a leap second is the one after that which it lengthens, at most the sixtieth. -/
def shownSecond (t : TimeOfDay) : Nat :=
  t.second + t.nanosecond / 1000000000

/-- The whole seconds since midnight; a leap second counts as the one before it. -/
def seconds (t : TimeOfDay) : Nat :=
  (t.hour * 60 + t.minute) * 60 + t.second

/-- The time of day a number of seconds after midnight. -/
def ofSeconds? (n : Nat) : Option TimeOfDay :=
  of? (n / 3600) (n / 60 % 60) (n % 60) 0

end TimeOfDay

/-- A time of day on a date. -/
structure Moment where
  date : Date
  time : TimeOfDay
  deriving DecidableEq

namespace Moment

/-- Date-times are ordered by date, then time of day. -/
def compare (a b : Moment) : Ordering :=
  (a.date.compare b.date).then (a.time.compare b.time)

/-- The seconds from the beginning of 1970 to a date-time. -/
def timestamp (m : Moment) : Int :=
  (m.date.dayNumber - Date.epoch.dayNumber) * 86400 + m.time.seconds

/-- The date-time a number of seconds from the beginning of 1970, if the calendar reaches so far. -/
def ofTimestamp? (n : Int) : Option Moment := do
  let date ← Date.ofDayNumber? (n / 86400 + Date.epoch.dayNumber)
  let time ← TimeOfDay.ofSeconds? (n % 86400).toNat
  return ⟨date, time⟩

/-- The same time on the following day, unless that is beyond the calendar. -/
def nextDay? (m : Moment) : Option Moment :=
  m.date.next?.map fun date => ⟨date, m.time⟩

end Moment

end Criteria
