import Criteria.Calendar.Moment
import Criteria.Calendar.Pattern
import Criteria.Calendar.Week
import Criteria.Number.Decimal

/-!
# Printing dates by a pattern

A pattern that holds an unknown item, or asks for a time where there is only a date or for a time zone, prints nothing
at all.
-/

namespace Criteria.Calendar

open Number

/-- Fills a number up to a width. -/
def Padding.fill (padding : Padding) (width : Nat) (text : List Char) : List Char :=
  match padding with
  | .none => text
  | .zero => padZeros width text
  | .space => List.replicate (width - text.length) ' ' ++ text

/-- Fills a number with a sign up to a width: zeros go behind the sign, blanks in front of it. -/
def Padding.fillSigned (padding : Padding) (width : Nat) (sign text : List Char) : List Char :=
  match padding with
  | .none => sign ++ text
  | .zero => sign ++ padZeros (width - sign.length) text
  | .space => List.replicate (width - (sign ++ text).length) ' ' ++ (sign ++ text)

/-- A year has at least four digits; one that is negative or has more carries its sign. -/
def yearText (padding : Padding) (year : Int) : List Char :=
  let size := digits year.natAbs
  if 0 ≤ year ∧ year ≤ 9999 then padding.fill 4 size
  else padding.fillSigned 5 [if year < 0 then '-' else '+'] size

/-- A century is kept in a byte, and its tens are one character: those behind the digits stand for ten and more. -/
def centuryText (padding : Padding) (year : Int) : List Char :=
  let century := (year / 100 % 256).toNat
  if century < 100 then padding.fill 2 (digits century)
  else [Char.ofNat ('0'.toNat + century / 10), Char.ofNat ('0'.toNat + century % 10)]

/-- A number of the date itself. -/
def NumberPart.ofDate? (part : NumberPart) (padding : Padding) (date : Date) : Option (List Char) :=
  match part with
  | .year => some (yearText padding date.year)
  | .century => some (centuryText padding date.year)
  | .yearOfCentury => some (padding.fill 2 (digits (date.year % 100).toNat))
  | .isoYear => some (yearText padding date.isoYear)
  | .isoYearOfCentury => some (padding.fill 2 (digits (date.isoYear % 100).toNat))
  | .quarter => some (digits date.quarter)
  | .month => some (padding.fill 2 (digits date.month))
  | .day => some (padding.fill 2 (digits date.day))
  | .dayOfYear => some (padding.fill 3 (digits date.dayOfYear))
  | .weekFromSunday => some (padding.fill 2 (digits (date.weekOfYear 6)))
  | .weekFromMonday => some (padding.fill 2 (digits (date.weekOfYear 0)))
  | .isoWeek => some (padding.fill 2 (digits date.isoWeek))
  | .weekdayFromSunday => some (digits (daysSince 6 date.weekday))
  | .weekdayFromMonday => some (digits (date.weekday + 1))
  | _ => none

/-- A number of the time of day. -/
def NumberPart.ofMoment? (part : NumberPart) (padding : Padding) (m : Moment) : Option (List Char) :=
  let time := m.time
  match part with
  | .hour => some (padding.fill 2 (digits time.hour))
  | .hourOfHalfDay => some (padding.fill 2 (digits (if time.hour % 12 = 0 then 12 else time.hour % 12)))
  | .minute => some (padding.fill 2 (digits time.minute))
  | .second => some (padding.fill 2 (digits time.shownSecond))
  | .nanosecond => some (padding.fill 9 (digits (time.nanosecond % 1000000000)))
  | .timestamp => some (padding.fillSigned 9 (if m.timestamp < 0 then ['-'] else []) (digits m.timestamp.natAbs))
  | _ => part.ofDate? padding m.date

/-- The first digits of the fraction of a second, at most nine. -/
def fractionDigitsText (width : Nat) (time : TimeOfDay) : List Char :=
  padZeros width (digits (time.nanosecond % 1000000000 / Nat.pow 10 (9 - width)))

/-- The fraction of a second: a point and three, six or nine digits, the fewest that hold it; nothing if it
is zero. -/
def fractionText (time : TimeOfDay) : List Char :=
  let nanos := time.nanosecond % 1000000000
  if nanos = 0 then []
  else if nanos % 1000000 = 0 then '.' :: fractionDigitsText 3 time
  else if nanos % 1000 = 0 then '.' :: fractionDigitsText 6 time
  else '.' :: fractionDigitsText 9 time

/-- The name of the half of the day. -/
def halfDayText (upper : Bool) (time : TimeOfDay) : List Char :=
  match upper with
  | true => if time.hour < 12 then ['A', 'M'] else ['P', 'M']
  | false => if time.hour < 12 then ['a', 'm'] else ['p', 'm']

/-- A name of a list, whole or cut to three letters. -/
def nameText (names : List String) (index : Nat) (long : Bool) : List Char :=
  let name := (names.getD index "").toList
  if long then name else name.take 3

/-- One item of a date, with the time of day if there is one. -/
def PatternItem.print? (item : PatternItem) (date : Date) (time : Option TimeOfDay) : Option (List Char) :=
  match item, time with
  | .literal text, _ => some text
  | .blank text, _ => some text
  | .number part padding, none => part.ofDate? padding date
  | .number part padding, some time => part.ofMoment? padding ⟨date, time⟩
  | .monthName long, _ => some (nameText monthNames (date.month - 1) long)
  | .weekdayName long, _ => some (nameText weekdayNames date.weekday long)
  | .halfDay upper, some time => some (halfDayText upper time)
  | .fraction none, some time => some (fractionText time)
  | .fraction (some width), some time => some ('.' :: fractionDigitsText width time)
  | .fractionDigits width, some time => some (fractionDigitsText width time)
  | _, _ => none

/-- The items of a date one after another. -/
def printItems? (items : List PatternItem) (date : Date) (time : Option TimeOfDay) :
    Option (List Char) :=
  (items.mapM fun (item : PatternItem) => item.print? date time).map List.flatten

/-- The text of a date by a pattern. -/
def Pattern.printDate? (pattern : Pattern) (date : Date) : Option String :=
  (printItems? pattern.items date none).map String.ofList

/-- The text of a date-time by a pattern. -/
def Pattern.printMoment? (pattern : Pattern) (m : Moment) : Option String :=
  (printItems? pattern.items m.date (some m.time)).map String.ofList

/-- The machine form of a date. -/
def isoDateText (date : Date) : String :=
  (Pattern.isoDate.printDate? date).getD ""

/-- The machine form of a date-time without the fraction of its second. -/
def isoMomentText (m : Moment) : String :=
  (Pattern.isoMoment.printMoment? m).getD ""

/-- The machine form of a date-time with the fraction of its second. -/
def isoExactMomentText (m : Moment) : String :=
  (Pattern.isoExactMoment.printMoment? m).getD ""

end Criteria.Calendar
