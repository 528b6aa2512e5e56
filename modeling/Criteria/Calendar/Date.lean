/-!
# Dates

Days of the proleptic Gregorian calendar, which has a year zero, from the year -262143 to the year 262142.
A date is its year, month and day of the month; the day number counts days from the first of January of the
year one, and the day of the week follows from it.
-/

namespace Criteria

namespace Calendar

/-- The first year that has dates. -/
def minYear : Int := -262143

/-- The last year that has dates. -/
def maxYear : Int := 262142

/-- Decides whether a year has a 29th of February. -/
def isLeap (year : Int) : Bool :=
  year % 4 == 0 && (year % 100 != 0 || year % 400 == 0)

/-- The number of days of a month of a year. -/
def daysInMonth (year : Int) (month : Nat) : Nat :=
  match month with
  | 2 => if isLeap year then 29 else 28
  | 4 | 6 | 9 | 11 => 30
  | _ => 31

/-- The number of days of a year. -/
def daysInYear (year : Int) : Nat :=
  if isLeap year then 366 else 365

/-- The days of the year before a month begins. -/
def daysBeforeMonth (year : Int) (month : Nat) : Nat :=
  ((List.range (month - 1)).map fun m => daysInMonth year (m + 1)).foldr (· + ·) 0

/-- The days from the beginning of the year one to the beginning of a year. -/
def daysBeforeYear (year : Int) : Int :=
  365 * (year - 1) + (year - 1) / 4 - (year - 1) / 100 + (year - 1) / 400

/-- A year, month and day that the calendar has. -/
def Valid (year : Int) (month day : Nat) : Prop :=
  (minYear ≤ year ∧ year ≤ maxYear) ∧ (1 ≤ month ∧ month ≤ 12) ∧
    (1 ≤ day ∧ day ≤ daysInMonth year month)

instance (year : Int) (month day : Nat) : Decidable (Valid year month day) := by
  unfold Valid
  infer_instance

end Calendar

/-- A day of the calendar. -/
structure Date where
  year : Int
  month : Nat
  day : Nat
  valid : Calendar.Valid year month day
  deriving DecidableEq

namespace Date

open Calendar

/-- The date with the given year, month and day, if there is one. -/
def of? (year : Int) (month day : Nat) : Option Date :=
  if h : Valid year month day then some ⟨year, month, day, h⟩ else none

/-- The first of January 1970. -/
def epoch : Date :=
  ⟨1970, 1, 1, by decide⟩

instance : Inhabited Date := ⟨epoch⟩

/-- Dates are ordered by year, then month, then day. -/
def compare (a b : Date) : Ordering :=
  (Ord.compare a.year b.year).then ((Ord.compare a.month b.month).then (Ord.compare a.day b.day))

/-- The number of a date within its year, from one. -/
def dayOfYear (d : Date) : Nat :=
  daysBeforeMonth d.year d.month + d.day

/-- Walks through the months of a year to the one that holds the given day of the year. -/
def ofYearDayFrom (year : Int) : Nat → Nat → Nat → Option Date
  | 0, _, _ => none
  | fuel + 1, month, day =>
      if day ≤ daysInMonth year month then of? year month day
      else ofYearDayFrom year fuel (month + 1) (day - daysInMonth year month)

/-- The date with the given number within its year, if there is one. -/
def ofYearDay? (year : Int) (day : Nat) : Option Date :=
  if day ≤ daysInYear year then ofYearDayFrom year 12 1 day else none

/-- The days from the first of January of the year one to a date. -/
def dayNumber (d : Date) : Int :=
  daysBeforeYear d.year + d.dayOfYear - 1

/-- The date with the given day number, if the calendar reaches so far. -/
def ofDayNumber? (n : Int) : Option Date :=
  let guess := n * 400 / 146097 + 1
  let holds (year : Int) : Bool := daysBeforeYear year ≤ n && n < daysBeforeYear (year + 1)
  ([guess - 1, guess, guess + 1].find? holds).bind fun year =>
    ofYearDay? year (n - daysBeforeYear year + 1).toNat

/-- The day of the week, from zero for Monday. -/
def weekday (d : Date) : Nat :=
  (d.dayNumber % 7).toNat

/-- The following day, unless the date is the last of the calendar. -/
def next? (d : Date) : Option Date :=
  match of? d.year d.month (d.day + 1) with
  | some date => some date
  | none =>
      match of? d.year (d.month + 1) 1 with
      | some date => some date
      | none => of? (d.year + 1) 1 1

end Date

end Criteria
