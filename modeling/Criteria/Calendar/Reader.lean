import Criteria.Calendar.Moment
import Criteria.Calendar.Pattern
import Criteria.Calendar.Week
import Criteria.Number.Decimal

/-!
# Reading dates by a pattern

Reading has two stages.  The items of the pattern take the text apart from left to right and note the parts
they find; two items that find different values for one part contradict each other.  Then the parts
must determine a date, and a time where one is wanted, and agree with it.
-/

namespace Criteria.Calendar

open Number Text

/-- Why a text is no date by a pattern. -/
inductive ReadFailure where
  | badPattern
  | tooShort
  | invalid
  | tooLong
  | outOfRange
  | impossible
  | notEnough
  deriving DecidableEq

/-- The wording of a failure. -/
def ReadFailure.message : ReadFailure → String
  | .badPattern => "bad or unsupported format string"
  | .tooShort => "premature end of input"
  | .invalid => "input contains invalid characters"
  | .tooLong => "trailing input"
  | .outOfRange => "input is out of range"
  | .impossible => "no possible date and time matching input"
  | .notEnough => "input is not enough for unique date and time"

/-- The parts of a date-time found in a text. -/
structure Findings where
  year : Option Int := none
  century : Option Int := none
  yearOfCentury : Option Int := none
  isoYear : Option Int := none
  isoYearOfCentury : Option Int := none
  quarter : Option Int := none
  month : Option Int := none
  day : Option Int := none
  dayOfYear : Option Int := none
  weekFromSunday : Option Int := none
  weekFromMonday : Option Int := none
  isoWeek : Option Int := none
  weekday : Option Int := none
  half : Option Int := none
  hourOfHalf : Option Int := none
  minute : Option Int := none
  second : Option Int := none
  nanosecond : Option Int := none
  timestamp : Option Int := none
  offset : Option Int := none
  deriving DecidableEq

/-- Notes a value for a part, unless the part has another one already. -/
def note (old : Option Int) (value : Int) : Except ReadFailure (Option Int) :=
  match old with
  | none => .ok (some value)
  | some known => if known = value then .ok (some value) else .error .impossible

/-- Notes a value for a part that must lie within bounds. -/
def noteWithin (low high : Int) (old : Option Int) (value : Int) : Except ReadFailure (Option Int) :=
  if low ≤ value ∧ value ≤ high then note old value else .error .outOfRange

namespace Findings

/-- Notes an hour of the day as its half of the day and the hour of that half. -/
def noteHour (f : Findings) (value : Int) : Except ReadFailure Findings := do
  if value < 0 ∨ 23 < value then throw .outOfRange
  let half ← note f.half (value / 12)
  let hourOfHalf ← note f.hourOfHalf (value % 12)
  return { f with half, hourOfHalf }

/-- Notes the value a number in the text has for a part. -/
def noteNumber (f : Findings) (part : NumberPart) (value : Int) : Except ReadFailure Findings :=
  match part with
  | .year => do
      return { f with year := ← noteWithin (-2147483648) 2147483647 f.year value }
  | .century => do return { f with century := ← noteWithin 0 2147483647 f.century value }
  | .yearOfCentury => do return { f with yearOfCentury := ← noteWithin 0 99 f.yearOfCentury value }
  | .isoYear => do
      return { f with isoYear := ← noteWithin (-2147483648) 2147483647 f.isoYear value }
  | .isoYearOfCentury => do return { f with isoYearOfCentury := ← noteWithin 0 99 f.isoYearOfCentury value }
  | .quarter => do return { f with quarter := ← noteWithin 1 4 f.quarter value }
  | .month => do return { f with month := ← noteWithin 1 12 f.month value }
  | .day => do return { f with day := ← noteWithin 1 31 f.day value }
  | .dayOfYear => do return { f with dayOfYear := ← noteWithin 1 366 f.dayOfYear value }
  | .weekFromSunday => do return { f with weekFromSunday := ← noteWithin 0 53 f.weekFromSunday value }
  | .weekFromMonday => do return { f with weekFromMonday := ← noteWithin 0 53 f.weekFromMonday value }
  | .isoWeek => do return { f with isoWeek := ← noteWithin 1 53 f.isoWeek value }
  | .weekdayFromSunday => do
      if value < 0 ∨ 6 < value then throw .outOfRange
      return { f with weekday := ← note f.weekday ((value + 6) % 7) }
  | .weekdayFromMonday => do
      if value < 1 ∨ 7 < value then throw .outOfRange
      return { f with weekday := ← note f.weekday (value - 1) }
  | .hour => f.noteHour value
  | .hourOfHalfDay => do
      if value < 1 ∨ 12 < value then throw .outOfRange
      return { f with hourOfHalf := ← note f.hourOfHalf (value % 12) }
  | .minute => do return { f with minute := ← noteWithin 0 59 f.minute value }
  | .second => do return { f with second := ← noteWithin 0 60 f.second value }
  | .nanosecond => do return { f with nanosecond := ← noteWithin 0 999999999 f.nanosecond value }
  | .timestamp => do return { f with timestamp := ← note f.timestamp value }

end Findings

/-! ## Taking the text apart -/

/-- The most digits a number may have; the first digits count, further ones are left in the text. -/
def NumberPart.width : NumberPart → Option Nat
  | .year => some 4
  | .isoYear => some 4
  | .quarter => some 1
  | .dayOfYear => some 3
  | .weekdayFromSunday => some 1
  | .weekdayFromMonday => some 1
  | .nanosecond => some 9
  | .timestamp => none
  | _ => some 2

/-- Reads a number of at least one digit and at most the given number of digits. -/
def scanNumber (width : Option Nat) (text : List Char) : Except ReadFailure (Int × List Char) :=
  let run := text.takeWhile Char.isDigit
  let run := match width with
    | some width => run.take width
    | none => run
  if text.isEmpty then .error .tooShort
  else if run.isEmpty then .error .invalid
  else if Nat.pow 2 63 ≤ readDigits run then .error .outOfRange
  else .ok (readDigits run, text.drop run.length)

/-- Whether a number may have a sign. -/
def NumberPart.isSigned : NumberPart → Bool
  | .year => true
  | .isoYear => true
  | _ => false

/-- Reads the number of a part after any blanks; only a year may have a sign, and then any number of
digits. -/
def scanPart (part : NumberPart) (text : List Char) : Except ReadFailure (Int × List Char) :=
  match part.isSigned, trimStart text with
  | true, '-' :: rest => (scanNumber none rest).map fun (value, rest) => (-value, rest)
  | true, '+' :: rest => scanNumber none rest
  | _, text => scanNumber part.width text

/-- Removes a text from the front of another, without regard to the case of its letters. -/
def stripName? : List Char → List Char → Option (List Char)
  | [], text => some text
  | _ :: _, [] => none
  | c :: name, d :: text => if c.toLower = d.toLower then stripName? name text else none

/-- Reads a name of a list by its first three letters and, where long names count, the rest of it if it is
there; gives the position of the name. -/
def scanName (names : List String) (long : Bool) (text : List Char) :
    Except ReadFailure (Nat × List Char) :=
  if byteLength text < 3 then .error .tooShort
  else
    let attempt (entry : String × Nat) : Option (Nat × List Char) := do
      let name := entry.1.toList
      let rest ← stripName? (name.take 3) text
      let rest := if long then (stripName? (name.drop 3) rest).getD rest else rest
      return (entry.2, rest)
    match names.zipIdx.findSome? attempt with
    | some found => .ok found
    | none => .error .invalid

/-- Reads the half of the day. -/
def scanHalf (text : List Char) : Except ReadFailure (Int × List Char) :=
  if byteLength text < 2 then .error .tooShort
  else
    match stripName? ['a', 'm'] text, stripName? ['p', 'm'] text with
    | some rest, _ => .ok (0, rest)
    | none, some rest => .ok (1, rest)
    | none, none => .error .invalid

/-- Reads the digits of a fraction of a second; digits after the ninth are passed over. -/
def scanFraction (text : List Char) : Except ReadFailure (Int × List Char) := do
  let (value, rest) ← scanNumber (some 9) text
  let count := text.length - rest.length
  return (value * Nat.pow 10 (9 - count), rest.dropWhile Char.isDigit)

/-- Reads the first digits of a fraction of a second, a given number of them. -/
def scanFractionDigits (width : Nat) (text : List Char) : Except ReadFailure (Int × List Char) := do
  if byteLength text < width then throw .tooShort
  if !(text.take width).all Char.isDigit then throw .invalid
  return (readDigits (text.take width) * Nat.pow 10 (9 - width), text.drop width)

/-- Reads two digits. -/
def scanTwoDigits (text : List Char) : Except ReadFailure (Int × List Char) :=
  match text with
  | tens :: ones :: rest =>
      if tens.isDigit && ones.isDigit then .ok (readDigits [tens, ones], rest) else .error .invalid
  | _ => if byteLength text < 2 then .error .tooShort else .error .invalid

/-- Reads the minutes of an offset, which may be missing where that is allowed. -/
def scanOffsetMinutes (lenient : Bool) (text : List Char) : Except ReadFailure (Int × List Char) :=
  if byteLength text < 2 then if lenient && text.isEmpty then .ok (0, []) else .error .tooShort
  else do
    let (minutes, rest) ← scanTwoDigits text
    if 60 ≤ minutes then throw .outOfRange
    return (minutes, rest)

/-- Reads the hours and minutes of an offset, with colons and blanks between the two, as seconds. -/
def scanOffsetSize (lenient : Bool) (text : List Char) : Except ReadFailure (Int × List Char) := do
  let (hours, rest) ← scanTwoDigits text
  let (minutes, rest) ← scanOffsetMinutes lenient (rest.dropWhile fun c => c = ':' || isBlank c)
  return (hours * 3600 + minutes * 60, rest)

/-- Reads an offset from universal time in seconds. -/
def scanOffset (form : OffsetForm) (text : List Char) : Except ReadFailure (Int × List Char) :=
  match text with
  | [] => .error .tooShort
  | c :: rest =>
      if form ≠ .full ∧ (c = 'Z' ∨ c = 'z') then .ok (0, rest)
      else if c = '+' then scanOffsetSize (form = .lenient) rest
      else if c = '-' ∨ c = '\u2212' then
        (scanOffsetSize (form = .lenient) rest).map fun (size, rest) => (-size, rest)
      else
        match form, stripName? ['u', 't', 'c'] text with
        | .named, some rest => .ok (0, rest)
        | _, _ => .error .invalid

/-- Takes one item of a pattern from the front of a text. -/
def scanItem (item : PatternItem) (f : Findings) (text : List Char) :
    Except ReadFailure (Findings × List Char) :=
  match item with
  | .literal expected =>
      if byteLength text < byteLength expected then .error .tooShort
      else if text.take expected.length = expected then .ok (f, text.drop expected.length)
      else .error .invalid
  | .blank _ => .ok (f, trimStart text)
  | .number part _ => do
      let (value, rest) ← scanPart part text
      return (← f.noteNumber part value, rest)
  | .monthName long => do
      let (index, rest) ← scanName monthNames long text
      return ({ f with month := ← note f.month (index + 1) }, rest)
  | .weekdayName long => do
      let (index, rest) ← scanName weekdayNames long text
      return ({ f with weekday := ← note f.weekday index }, rest)
  | .halfDay _ => do
      let (half, rest) ← scanHalf text
      return ({ f with half := ← note f.half half }, rest)
  | .fraction _ =>
      match text with
      | '.' :: rest => do
          let (value, rest) ← scanFraction rest
          return ({ f with nanosecond := ← note f.nanosecond value }, rest)
      | _ => .ok (f, text)
  | .fractionDigits width => do
      let (value, rest) ← scanFractionDigits width text
      return ({ f with nanosecond := ← note f.nanosecond value }, rest)
  | .zoneName => .ok (f, text.dropWhile fun c => !isBlank c)
  | .zoneOffset form => do
      let (value, rest) ← scanOffset form (trimStart text)
      return ({ f with offset := ← note f.offset value }, rest)
  | .timeMark =>
      match text with
      | [] => .error .tooShort
      | c :: rest => if c = 'T' ∨ c = 't' ∨ c = ' ' then .ok (f, rest) else .error .invalid
  | .unknown => .error .badPattern

/-- Takes the items of a pattern from the front of a text, from left to right. -/
def scanItems (items : List PatternItem) (f : Findings) (text : List Char) :
    Except ReadFailure (Findings × List Char) :=
  match items with
  | [] => .ok (f, text)
  | item :: items => do
      let (f, rest) ← scanItem item f text
      scanItems items f rest

/-- The parts that the items find in a text they take up entirely. -/
def scanAll (items : List PatternItem) (text : List Char) : Except ReadFailure Findings := do
  let (f, rest) ← scanItems items {} text
  if rest.isEmpty then return f else throw .tooLong

/-! ## From parts to dates -/

namespace Findings

/-- Whether a part that was found, if it was, has the given value. -/
def agrees (found : Option Int) (value : Int) : Bool :=
  found.all (· == value)

/-- The year, given in full, by its century and its last two digits, or only by the latter, which belong to the years from
1970 to 2069; all that is given must agree. -/
def resolveYear (year century rest : Option Int) : Except ReadFailure (Option Int) :=
  match year, century, rest with
  | year, none, none => .ok year
  | some year, century, rest =>
      if year < 0 then .error .impossible
      else if agrees century (year / 100) && agrees rest (year % 100) then .ok (some year)
      else .error .impossible
  | none, some century, some rest => .ok (some (century * 100 + rest))
  | none, none, some rest => .ok (some (if rest < 70 then 2000 + rest else 1900 + rest))
  | none, some _, none => .error .notEnough

/-- Whether a year has the century and the last two digits that were found; a negative one has none. -/
def agreesInCentury (century rest : Option Int) (year : Int) : Bool :=
  century.all (fun century => 0 ≤ year && year / 100 == century) &&
    rest.all (fun rest => 0 ≤ year && year % 100 == rest)

/-- Whether a date has the year, month and day that were found. -/
def agreesOnDay (f : Findings) (date : Date) : Bool :=
  agrees f.year date.year && agreesInCentury f.century f.yearOfCentury date.year && agrees f.month date.month &&
    agrees f.day date.day

/-- Whether a date has the ISO year, ISO week and day of the week that were found. -/
def agreesOnIsoWeek (f : Findings) (date : Date) : Bool :=
  agrees f.isoYear date.isoYear && agreesInCentury none f.isoYearOfCentury date.isoYear &&
    agrees f.isoWeek date.isoWeek && agrees f.weekday date.weekday

/-- Whether a date has the day of the year and the weeks that were found. -/
def agreesOnDayOfYear (f : Findings) (date : Date) : Bool :=
  agrees f.dayOfYear date.dayOfYear && agrees f.weekFromSunday (date.weekOfYear 6) &&
    agrees f.weekFromMonday (date.weekOfYear 0)

/-- A date that was made of some parts, if it agrees with those that were not needed. -/
def confirm (date : Option Date) (missing : ReadFailure) (agreement : Date → Bool) : Except ReadFailure Date :=
  match date with
  | none => .error missing
  | some date => if agreement date then .ok date else .error .impossible

/-- The date on a day of a week of a year, where weeks begin on a given day. -/
def toDateOfWeek (f : Findings) (year : Int) (start : Nat) (week weekday : Int) : Except ReadFailure Date :=
  if (Date.of? year 1 1).isNone then .error .outOfRange
  else
    confirm (Date.ofWeek? year start week.toNat weekday.toNat) .impossible fun date =>
      f.agreesOnDay date && f.agreesOnIsoWeek date && f.agreesOnDayOfYear date

/-- The date that the first parts determine that are enough for one. -/
def chooseDate (f : Findings) (year isoYear : Option Int) : Except ReadFailure Date :=
  if let (some year, some month, some day) := (year, f.month, f.day) then
    confirm (Date.of? year month.toNat day.toNat) .outOfRange fun date =>
      f.agreesOnIsoWeek date && f.agreesOnDayOfYear date
  else if let (some year, some day) := (year, f.dayOfYear) then
    confirm (Date.ofYearDay? year day.toNat) .outOfRange fun date =>
      f.agreesOnDay date && f.agreesOnIsoWeek date && f.agreesOnDayOfYear date
  else if let (some year, some week, some weekday) := (year, f.weekFromSunday, f.weekday) then
    f.toDateOfWeek year 6 week weekday
  else if let (some year, some week, some weekday) := (year, f.weekFromMonday, f.weekday) then
    f.toDateOfWeek year 0 week weekday
  else if let (some year, some week, some weekday) := (isoYear, f.isoWeek, f.weekday) then
    confirm (Date.ofIsoWeek? year week.toNat weekday.toNat) .outOfRange fun date =>
      f.agreesOnDay date && f.agreesOnDayOfYear date
  else .error .notEnough

/-- The date that the parts determine. -/
def toDate (f : Findings) : Except ReadFailure Date := do
  let year ← resolveYear f.year f.century f.yearOfCentury
  let isoYear ← resolveYear f.isoYear none f.isoYearOfCentury
  let date ← f.chooseDate year isoYear
  if agrees f.quarter date.quarter then return date else throw .impossible

/-- The time of day that the parts determine; seconds and their fraction may be missing. -/
def toTime (f : Findings) : Except ReadFailure TimeOfDay := do
  let some half := f.half | throw .notEnough
  let some hourOfHalf := f.hourOfHalf | throw .notEnough
  let some minute := f.minute | throw .notEnough
  let second := f.second.getD 0
  let (second, leap) : Int × Int := if second = 60 then (59, 1000000000) else (second, 0)
  let fraction ← match f.nanosecond, f.second with
    | none, _ => pure 0
    | some fraction, some _ => pure fraction
    | some _, none => throw .notEnough
  match TimeOfDay.of? (half * 12 + hourOfHalf).toNat minute.toNat second.toNat
      (leap + fraction).toNat with
  | some time => return time
  | none => throw .outOfRange

/-- Completes the parts with those of the date-time a timestamp stands for. -/
def completeFrom (f : Findings) (timestamp : Int) : Except ReadFailure Moment := do
  let some start := Moment.ofTimestamp? timestamp | throw .outOfRange
  let (moment, f) ←
    if f.second = some 60 then
      match start.time.second with
      | 59 => pure (start, f)
      | 0 =>
          match Moment.ofTimestamp? (timestamp - 1) with
          | some earlier => pure (earlier, f)
          | none => throw .outOfRange
      | _ => throw .impossible
    else do
      let f ← f.noteNumber .second start.time.second
      pure (start, f)
  let f ← f.noteNumber .year moment.date.year
  let f ← f.noteNumber .dayOfYear moment.date.dayOfYear
  let f ← f.noteNumber .hour moment.time.hour
  let f ← f.noteNumber .minute moment.time.minute
  return ⟨← f.toDate, ← f.toTime⟩

/-- The date-time that the parts determine; a timestamp among them must agree with the rest, or stands for all
that is missing. -/
def toMoment (f : Findings) : Except ReadFailure Moment :=
  match f.toDate, f.toTime, f.timestamp with
  | .ok date, .ok time, timestamp =>
      let moment : Moment := ⟨date, time⟩
      let leap := 1000000000 ≤ time.nanosecond
      let fits (given : Int) : Bool :=
        given == moment.timestamp || (leap && given == moment.timestamp + 1)
      if timestamp.all fits then .ok moment else .error .impossible
  | .error failure, _, none => .error failure
  | .ok _, .error failure, none => .error failure
  | date, time, some timestamp =>
      let failed (failure : ReadFailure) : Bool :=
        (match date with | .error e => e == failure | .ok _ => false) ||
          (match time with | .error e => e == failure | .ok _ => false)
      if failed .outOfRange then .error .outOfRange
      else if failed .impossible then .error .impossible
      else f.completeFrom timestamp

end Findings

/-! ## Reading by a pattern -/

/-- The date a text denotes by a pattern. -/
def Pattern.readDate (pattern : Pattern) (text : List Char) : Except ReadFailure Date := do
  (← scanAll pattern.items text).toDate

/-- The date-time a text denotes by a pattern. -/
def Pattern.readMoment (pattern : Pattern) (text : List Char) : Except ReadFailure Moment := do
  (← scanAll pattern.items text).toMoment

/-- The items of a machine-readable date, with blanks allowed before each dash and at the end. -/
def isoDateItems : List PatternItem :=
  PatternItem.looseDate ++ [.blank []]

/-- The items of a machine-readable date-time. -/
def isoMomentItems : List PatternItem :=
  isoDateItems ++ [.literal ['T']] ++ PatternItem.looseTime

/-- The date a machine-readable text denotes. -/
def isoDate? (text : List Char) : Option Date :=
  (scanAll isoDateItems text >>= Findings.toDate).toOption

/-- The date-time a machine-readable text denotes. -/
def isoMoment? (text : List Char) : Option Moment :=
  (scanAll isoMomentItems text >>= Findings.toMoment).toOption

end Criteria.Calendar
