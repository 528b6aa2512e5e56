import Criteria.Calendar.Date

/-!
# Weeks

The weeks of a year are counted from its first Sunday or its first Monday, and the days before are in week zero.  The
weeks of the ISO calendar begin on Monday and belong to the year that holds their Thursday, so the first days of a year
may be in the last week of the year before, and the last ones in the first week of the next.  Days of the week are
counted from zero for Monday.
-/

namespace Criteria

namespace Calendar

/-- The days that have gone by on a day of the week since a given one. -/
def daysSince (start weekday : Nat) : Nat :=
  (weekday + 7 - start) % 7

/-- The day number of the Monday that the first ISO week of a year begins with, which holds the fourth of January. -/
def weekOneStart (year : Int) : Int :=
  let fourth := daysBeforeYear year + 3
  fourth - fourth % 7

end Calendar

namespace Date

open Calendar

/-- The quarter of the year, from one. -/
def quarter (d : Date) : Nat :=
  (d.month - 1) / 3 + 1

/-- The number of the week within the year, where weeks begin on a given day. -/
def weekOfYear (start : Nat) (d : Date) : Nat :=
  (d.dayOfYear + 6 - daysSince start d.weekday) / 7

/-- The date on a day of a week of a year, where weeks begin on a given day, if the year has it. -/
def ofWeek? (year : Int) (start week weekday : Nat) : Option Date := do
  let first ← of? year 1 1
  let weekOne := 1 + daysSince first.weekday start
  let day : Int := weekOne + 7 * ((week : Int) - 1) + daysSince start weekday
  ofYearDay? year day.toNat

/-- The year that the ISO week of a date belongs to. -/
def isoYear (d : Date) : Int :=
  if d.dayNumber < weekOneStart d.year then d.year - 1
  else if d.dayNumber < weekOneStart (d.year + 1) then d.year
  else d.year + 1

/-- The number of the ISO week of a date, from one. -/
def isoWeek (d : Date) : Nat :=
  ((d.dayNumber - weekOneStart d.isoYear) / 7 + 1).toNat

/-- The date on a day of an ISO week, if its year has the week and the calendar reaches so far. -/
def ofIsoWeek? (year : Int) (week weekday : Nat) : Option Date :=
  let monday := weekOneStart year + 7 * ((week : Int) - 1)
  if weekOneStart year ≤ monday ∧ monday < weekOneStart (year + 1) then ofDayNumber? (monday + weekday) else none

end Date

end Criteria
