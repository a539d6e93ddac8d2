import Audience.Reading

/-!
# Timestamps

A calendar day, a time of day to the microsecond and, unless the timestamp is
local, an offset from UTC in minutes.  Timestamps are read from ISO 8601 text,
from a bare date, and from unix times in seconds or milliseconds; they are
written in one form.
-/

namespace Audience

/-- A point in time as it is written: offset `none` is local time. -/
structure Timestamp where
  year : Nat
  month : Nat
  day : Nat
  hour : Nat
  minute : Nat
  second : Nat
  microsecond : Nat
  offset : Option Int
  deriving DecidableEq, Repr, Inhabited

namespace Timestamp

/-- A year with a twenty-ninth of February. -/
def isLeap (year : Nat) : Bool :=
  (year % 4 == 0 && year % 100 != 0) || year % 400 == 0

/-- The number of days in a month. -/
def daysInMonth (year month : Nat) : Nat :=
  match month with
  | 2 => if isLeap year then 29 else 28
  | 4 | 6 | 9 | 11 => 30
  | _ => 31

/-- The calendar has this day, in a year from 1 to 9999. -/
def isDay (year month day : Nat) : Bool :=
  1 ≤ year && year ≤ 9999 && 1 ≤ month && month ≤ 12 && 1 ≤ day &&
    day ≤ daysInMonth year month

/-- The number written by exactly two digits. -/
def two? : List Char → Option (Nat × List Char)
  | a :: b :: rest => do
      let tens ← Decimal.digitValue? a
      let ones ← Decimal.digitValue? b
      return (10 * tens + ones, rest)
  | _ => none

/-- Drop one expected character. -/
def expect? (expected : Char) : List Char → Option (List Char)
  | char :: rest => if char == expected then some rest else none
  | [] => none

/-- Read a date `YYYY-MM-DD` at the front. -/
def date? (chars : List Char) : Option ((Nat × Nat × Nat) × List Char) := do
  let (century, rest) ← two? chars
  let (yearOfCentury, rest) ← two? rest
  let rest ← expect? '-' rest
  let (month, rest) ← two? rest
  let rest ← expect? '-' rest
  let (day, rest) ← two? rest
  let year := 100 * century + yearOfCentury
  if isDay year month day then some ((year, month, day), rest) else none

/-- The microseconds written by the digits after a point; digits past the
sixth are dropped. -/
def microseconds (digits : List Char) : Nat :=
  let kept := digits.take 6
  Decimal.valueFrom 0 kept * Nat.pow 10 (6 - kept.length)

/-- Read the optional seconds and their optional fraction. -/
def seconds? : List Char → Option ((Nat × Nat) × List Char)
  | ':' :: rest => do
      let (second, rest) ← two? rest
      match rest with
      | [] => some ((second, 0), rest)
      | mark :: after =>
          if mark == '.' || mark == ',' then
            let digits := after.takeWhile Decimal.isDigit
            if digits.isEmpty then none
            else
              some ((second, microseconds digits),
                after.dropWhile Decimal.isDigit)
          else some ((second, 0), rest)
  | rest => some ((0, 0), rest)

/-- A hyphen or the minus sign proper. -/
def isMinus (char : Char) : Bool :=
  char == '-' || char == '\u2212'

/-- Read the optional zone at the end: nothing, `Z`, or an offset with or
without a colon. -/
def zone? : List Char → Option (Option Int)
  | [] => some none
  | ['Z'] => some (some 0)
  | ['z'] => some (some 0)
  | sign :: rest => do
      if sign == '+' || isMinus sign then
        let (hours, rest) ← two? rest
        let rest := match rest with
          | ':' :: after => after
          | _ => rest
        let (minutes, rest) ← two? rest
        if rest.isEmpty && hours ≤ 23 && minutes ≤ 59 then
          let total : Int := 60 * hours + minutes
          some (some (if isMinus sign then -total else total))
        else none
      else none

/-- The characters that may stand between date and time. -/
def isSeparator (char : Char) : Bool :=
  char == 'T' || char == 't' || char == ' ' || char == '_'

/-- Read ISO 8601 text: a date, alone or with a time of day. -/
def ofText? (chars : List Char) : Option Timestamp := do
  let ((year, month, day), rest) ← date? chars
  match rest with
  | [] =>
      some { year, month, day, hour := 0, minute := 0, second := 0,
             microsecond := 0, offset := none }
  | separator :: rest =>
      if !isSeparator separator then none
      else
        let (hour, rest) ← two? rest
        let rest ← expect? ':' rest
        let (minute, rest) ← two? rest
        let ((second, microsecond), rest) ← seconds? rest
        let offset ← zone? rest
        if hour ≤ 23 && minute ≤ 59 && second ≤ 59 then
          some { year, month, day, hour, minute, second, microsecond, offset }
        else none

/-- The calendar day that is a number of days after the first of January
1970.  Years are counted from March, in cycles of 400 years. -/
def dayOfEpoch (days : Int) : Nat × Nat × Nat :=
  let shifted := days + 719468
  let cycle := shifted.fdiv 146097
  let dayOfCycle := (shifted - cycle * 146097).toNat
  let yearOfCycle :=
    (dayOfCycle - dayOfCycle / 1460 + dayOfCycle / 36524 -
      dayOfCycle / 146096) / 365
  let dayOfYear :=
    dayOfCycle - (365 * yearOfCycle + yearOfCycle / 4 - yearOfCycle / 100)
  let shiftedMonth := (5 * dayOfYear + 2) / 153
  let day := dayOfYear - (153 * shiftedMonth + 2) / 5 + 1
  let month := if shiftedMonth < 10 then shiftedMonth + 3 else shiftedMonth - 9
  let year := (yearOfCycle + cycle * 400).toNat + if month ≤ 2 then 1 else 0
  (year, month, day)

/-- The first second of the year 1. -/
def earliestSecond : Int := -62135596800

/-- The last second of the year 9999. -/
def latestSecond : Int := 253402300799

/-- Unix times of larger magnitude are in milliseconds. -/
def secondsLimit : Int := 20000000000

/-- The timestamp of a number of microseconds since 1970. -/
def ofMicroseconds? (time : Int) : Option Timestamp :=
  let seconds := time.fdiv 1000000
  if seconds < earliestSecond ∨ latestSecond < seconds then none
  else
    let days := seconds.fdiv 86400
    let rest := (seconds - days * 86400).toNat
    let (year, month, day) := dayOfEpoch days
    some
      { year, month, day
        hour := rest / 3600
        minute := rest % 3600 / 60
        second := rest % 60
        microsecond := (time.fmod 1000000).toNat
        offset := some 0 }

/-- The timestamp of a whole unix time. -/
def ofUnix? (time : Int) : Option Timestamp :=
  if (time.natAbs : Int) ≤ secondsLimit then ofMicroseconds? (time * 1000000)
  else ofMicroseconds? (time * 1000)

/-- A double counts as seconds. -/
def inSeconds (time : Double) : Bool :=
  time.compare (Double.ofInt secondsLimit) != some .gt &&
    time.compare (Double.ofInt (-secondsLimit)) != some .lt

/-- The timestamp of a unix time with a fraction.  What the time has above its
floor is rounded to microseconds. -/
def ofDouble? (time : Double) : Option Timestamp :=
  if !time.isFinite then none
  else
    let factor := if inSeconds time then 1000000 else 1000
    ofMicroseconds?
      (time.floor * factor + time.aboveFloor.roundedMultiple factor)

/-- A unix time in text: digits with an optional sign, or a decimal number in
whose front a point comes after nothing but digits. -/
def ofNumericText? (chars : List Char) : Option Timestamp :=
  let (negative, body) := Decimal.splitSign chars
  match body.takeWhile Decimal.isDigit, body.dropWhile Decimal.isDigit with
  | [], [] => none
  | digits, [] =>
      ofUnix? (Double.signed negative (Decimal.valueFrom 0 digits))
  | _, '.' :: _ => (Decimal.double? chars).bind ofDouble?
  | _, _ => none

/-- Read a timestamp from text. -/
def ofAnyText (chars : List Char) : Except Flaw Timestamp :=
  match ofText? chars, ofNumericText? chars with
  | some timestamp, _ => .ok timestamp
  | none, some timestamp => .ok timestamp
  | none, none => .error .notTimestamp

/-- An optional timestamp, the flaw when there is none. -/
def orFlaw : Option Timestamp → Reading Timestamp
  | some timestamp => .value timestamp
  | none => Reading.fail .notTimestamp

/-- Read a timestamp. -/
def read : Reader Timestamp
  | .str text => Reading.ofText ofAnyText text
  | .int time => orFlaw (ofUnix? time)
  | .double time => orFlaw (ofDouble? time)
  | _ => Reading.fail .notTimestamp

/-- A number padded with zeros to a width. -/
def padded (width value : Nat) : String :=
  let digits := Nat.toDigits 10 value
  String.ofList (List.replicate (width - digits.length) '0' ++ digits)

/-- The zone at the end of a written timestamp. -/
def zoneText : Option Int → String
  | none => ""
  | some 0 => "Z"
  | some minutes =>
      (if minutes < 0 then "-" else "+") ++ padded 2 (minutes.natAbs / 60) ++
        ":" ++ padded 2 (minutes.natAbs % 60)

/-- The fraction of a second, always with six digits. -/
def fractionText (microsecond : Nat) : String :=
  "." ++ padded 6 microsecond

/-- Date and time of day up to the seconds. -/
def secondsText (time : Timestamp) : String :=
  padded 4 time.year ++ "-" ++ padded 2 time.month ++ "-" ++
    padded 2 time.day ++ "T" ++ padded 2 time.hour ++ ":" ++
    padded 2 time.minute ++ ":" ++ padded 2 time.second

/-- The written form; a zero fraction is left out. -/
def text (time : Timestamp) : String :=
  time.secondsText ++
    (if time.microsecond = 0 then "" else fractionText time.microsecond) ++
    zoneText time.offset

/-- The written form that always has a fraction. -/
def fullText (time : Timestamp) : String :=
  time.secondsText ++ fractionText time.microsecond ++ zoneText time.offset

/-- The written form as a JSON value. -/
def toJson (time : Timestamp) : Json :=
  .str time.text

end Timestamp
end Audience
