import Criteria.Text.Blank

/-!
# Date patterns

A date pattern is a text in which `%` and a letter stand for a part of a date or time, such as `%Y-%m-%d`.  Between the
two a mark may say how a number is filled up.  Here such a text is cut into items; printing and reading dates go by the
items.
-/

namespace Criteria.Calendar

/-- The parts of a date-time that are written as numbers. -/
inductive NumberPart where
  | year
  | century
  | yearOfCentury
  | isoYear
  | isoYearOfCentury
  | quarter
  | month
  | day
  | dayOfYear
  | weekFromSunday
  | weekFromMonday
  | isoWeek
  | weekdayFromSunday
  | weekdayFromMonday
  | hour
  | hourOfHalfDay
  | minute
  | second
  | nanosecond
  | timestamp
  deriving DecidableEq

/-- What fills a number up to its usual width. -/
inductive Padding where
  | none
  | zero
  | space
  deriving DecidableEq

/-- How an offset from universal time is written: with hours and minutes, where minutes may be missing and `Z` stands
for none, or where the names of universal time stand for none. -/
inductive OffsetForm where
  | full
  | lenient
  | named
  deriving DecidableEq

/-- One item of a date pattern.  A fraction of a second has a point in front, and as many digits as it needs or a fixed
number of them; there are fixed numbers of digits without a point, too.  Items of time zones can be read, but dates
and date-times have none that could be printed. -/
inductive PatternItem where
  | literal (text : List Char)
  | blank (text : List Char)
  | number (part : NumberPart) (padding : Padding)
  | monthName (long : Bool)
  | weekdayName (long : Bool)
  | halfDay (upper : Bool)
  | fraction (width : Option Nat)
  | fractionDigits (width : Nat)
  | zoneName
  | zoneOffset (form : OffsetForm)
  | timeMark
  | unknown
  deriving DecidableEq

namespace PatternItem

/-- A month, a day and the last two digits of a year, between strokes. -/
def strokedDate : List PatternItem :=
  [.number .month .zero, .literal ['/'], .number .day .zero, .literal ['/'], .number .yearOfCentury .zero]

/-- An hour of the day or of half a day, a minute and a second. -/
def clock (hours : NumberPart) : List PatternItem :=
  [.number hours .zero, .literal [':'], .number .minute .zero, .literal [':'], .number .second .zero]

/-- The items of a date in machine form, with blanks allowed before each dash. -/
def looseDate : List PatternItem :=
  [.number .year .zero, .blank [], .literal ['-'], .number .month .zero, .blank [], .literal ['-'], .number .day .zero]

/-- The items of a time of day in machine form, with blanks allowed before each colon and at the end. -/
def looseTime : List PatternItem :=
  [.number .hour .zero, .blank [], .literal [':'], .number .minute .zero, .blank [], .literal [':'],
    .number .second .zero, .fraction none, .blank []]

/-- The items a letter after `%` stands for. -/
def ofLetter (letter : Char) : List PatternItem :=
  match letter with
  | 'Y' => [.number .year .zero]
  | 'C' => [.number .century .zero]
  | 'y' => [.number .yearOfCentury .zero]
  | 'G' => [.number .isoYear .zero]
  | 'g' => [.number .isoYearOfCentury .zero]
  | 'q' => [.number .quarter .none]
  | 'm' => [.number .month .zero]
  | 'd' => [.number .day .zero]
  | 'e' => [.number .day .space]
  | 'j' => [.number .dayOfYear .zero]
  | 'U' => [.number .weekFromSunday .zero]
  | 'W' => [.number .weekFromMonday .zero]
  | 'V' => [.number .isoWeek .zero]
  | 'w' => [.number .weekdayFromSunday .none]
  | 'u' => [.number .weekdayFromMonday .none]
  | 'b' => [.monthName false]
  | 'h' => [.monthName false]
  | 'B' => [.monthName true]
  | 'a' => [.weekdayName false]
  | 'A' => [.weekdayName true]
  | 'F' => [.number .year .zero, .literal ['-'], .number .month .zero, .literal ['-'],
      .number .day .zero]
  | 'D' => strokedDate
  | 'x' => strokedDate
  | 'v' => [.number .day .space, .literal ['-'], .monthName false, .literal ['-'], .number .year .zero]
  | 'H' => [.number .hour .zero]
  | 'k' => [.number .hour .space]
  | 'I' => [.number .hourOfHalfDay .zero]
  | 'l' => [.number .hourOfHalfDay .space]
  | 'M' => [.number .minute .zero]
  | 'S' => [.number .second .zero]
  | 'f' => [.number .nanosecond .zero]
  | 'p' => [.halfDay true]
  | 'P' => [.halfDay false]
  | 'R' => [.number .hour .zero, .literal [':'], .number .minute .zero]
  | 'T' => clock .hour
  | 'X' => clock .hour
  | 'r' => clock .hourOfHalfDay ++ [.blank [' '], .halfDay true]
  | 'c' => [.weekdayName false, .blank [' '], .monthName false, .blank [' '], .number .day .space, .blank [' ']] ++
      clock .hour ++ [.blank [' '], .number .year .zero]
  | 's' => [.number .timestamp .none]
  | 'Z' => [.zoneName]
  | 'z' => [.zoneOffset .full]
  | '+' => looseDate ++ [.timeMark] ++ looseTime ++ [.zoneOffset .named]
  | 't' => [.blank ['\t']]
  | 'n' => [.blank ['\n']]
  | '%' => [.literal ['%']]
  | _ => [.unknown]

/-- The item of a letter with a mark for its padding, which only single numbers can have. -/
def padded (padding : Padding) (letter : Char) : List PatternItem :=
  match ofLetter letter with
  | [.number part _] => [.number part padding]
  | _ => [.unknown]

/-- The items that the characters after `%` stand for. -/
def ofSpecifier (specifier : List Char) : List PatternItem :=
  match specifier with
  | [letter] => ofLetter letter
  | ['-', letter] => padded .none letter
  | ['0', letter] => padded .zero letter
  | ['_', letter] => padded .space letter
  | ['.', 'f'] => [.fraction none]
  | ['.', '3', 'f'] => [.fraction (some 3)]
  | ['.', '6', 'f'] => [.fraction (some 6)]
  | ['.', '9', 'f'] => [.fraction (some 9)]
  | ['3', 'f'] => [.fractionDigits 3]
  | ['6', 'f'] => [.fractionDigits 6]
  | ['9', 'f'] => [.fractionDigits 9]
  | [':', 'z'] => [.zoneOffset .full]
  | [':', ':', 'z'] => [.zoneOffset .full]
  | [':', ':', ':', 'z'] => [.zoneOffset .full]
  | ['#', 'z'] => [.zoneOffset .lenient]
  | _ => [.unknown]

/-- Whether characters after `%` are only the beginning of what they stand for. -/
def isUnfinished (specifier : List Char) : Bool :=
  specifier ∈ [['-'], ['0'], ['_'], ['#'], ['.'], ['.', '3'], ['.', '6'], ['.', '9'], ['3'], ['6'], ['9'], [':'],
    [':', ':'], [':', ':', ':']]

/-- Puts an ordinary character in front of a pattern.  It joins the run of literal characters that follows;
an escaped percent sign is a run of its own. -/
def consLiteral (c : Char) (items : List PatternItem) : List PatternItem :=
  match items with
  | .literal text :: rest => if text = ['%'] then .literal [c] :: items else .literal (c :: text) :: rest
  | _ => .literal [c] :: items

/-- Puts a blank in front of a pattern, where it joins the run of blanks that follows. -/
def consBlank (c : Char) (items : List PatternItem) : List PatternItem :=
  match items with
  | .blank text :: rest => .blank (c :: text) :: rest
  | _ => .blank [c] :: items

/-- The items of the rest of a pattern text.  Within an item the characters since its `%` are given. -/
def itemsFrom : Option (List Char) → List Char → List PatternItem
  | none, [] => []
  | some _, [] => [.unknown]
  | none, c :: rest =>
      if c = '%' then itemsFrom (some []) rest
      else if Text.isBlank c then consBlank c (itemsFrom none rest)
      else consLiteral c (itemsFrom none rest)
  | some begun, c :: rest =>
      let specifier := begun ++ [c]
      if isUnfinished specifier then itemsFrom (some specifier) rest
      else ofSpecifier specifier ++ itemsFrom none rest

/-- The items of a pattern text. -/
def ofText (text : List Char) : List PatternItem :=
  itemsFrom none text

end PatternItem

/-- A date pattern: its text, which messages show, and with it its items. -/
structure Pattern where
  text : String
  deriving DecidableEq

namespace Pattern

/-- The items of a pattern. -/
def items (pattern : Pattern) : List PatternItem :=
  PatternItem.ofText pattern.text.toList

/-- The machine form of a date, `2010-03-05`. -/
def isoDate : Pattern :=
  ⟨"%Y-%m-%d"⟩

/-- The machine form of a date-time without the fraction of its second, `2013-09-21T12:46:00`. -/
def isoMoment : Pattern :=
  ⟨"%Y-%m-%dT%H:%M:%S"⟩

/-- The machine form of a date-time with the fraction of its second, if it has one. -/
def isoExactMoment : Pattern :=
  ⟨"%Y-%m-%dT%H:%M:%S%.f"⟩

end Pattern

/-- The English names of the months. -/
def monthNames : List String :=
  ["January", "February", "March", "April", "May", "June", "July", "August", "September", "October",
    "November", "December"]

/-- The English names of the days of the week. -/
def weekdayNames : List String :=
  ["Monday", "Tuesday", "Wednesday", "Thursday", "Friday", "Saturday", "Sunday"]

end Criteria.Calendar
