/-!
Dates, times of day and timestamps without a time zone.
-/

namespace SqlEngine

/-! ### Dates

Calendar dates of the proleptic Gregorian calendar, held as the number of days since 1970-01-01.

`Date.civil` and `Date.dayNumber` convert between day numbers and year, month and day; both count
from the first of March of the year zero, so that a leap day is the last day of its year.
-/

/-- A date, as the number of days since 1970-01-01. -/
structure Date where
  day : Int
deriving DecidableEq, Repr, Inhabited

/-- Year, month and day of the month, the last two counted from one. -/
structure CivilDay where
  year : Int
  month : Nat
  day : Nat
deriving DecidableEq, Repr, Inhabited

namespace Date

def isLeapYear (year : Int) : Bool :=
  year % 4 == 0 && (year % 100 != 0 || year % 400 == 0)

def daysInMonth (year : Int) (month : Nat) : Nat :=
  if month == 2 then if isLeapYear year then 29 else 28
  else if month == 4 || month == 6 || month == 9 || month == 11 then 30
  else 31

/-- The first and last years that dates may have. -/
def minYear : Int := -262143

def maxYear : Int := 262142

/-- Days from 0000-03-01 to 1970-01-01. -/
def epochOffset : Int := 719468

/-- Day number of a year, month and day. -/
def dayNumber (c : CivilDay) : Int :=
  let year := if c.month ≤ 2 then c.year - 1 else c.year
  let era := year / 400
  let yearOfEra := year % 400
  let monthFromMarch := (c.month + 9) % 12
  let dayOfYear : Int := ((153 * monthFromMarch + 2) / 5 + c.day - 1 : Nat)
  era * 146097 + yearOfEra * 365 + yearOfEra / 4 - yearOfEra / 100 + dayOfYear - epochOffset

/-- The year, month and day of a date. -/
def civil (d : Date) : CivilDay :=
  let days := d.day + epochOffset
  let era := days / 146097
  let dayOfEra := (days % 146097).toNat
  let yearOfEra := (dayOfEra - dayOfEra / 1460 + dayOfEra / 36524 - dayOfEra / 146096) / 365
  let dayOfYear := dayOfEra - (365 * yearOfEra + yearOfEra / 4 - yearOfEra / 100)
  let monthFromMarch := (5 * dayOfYear + 2) / 153
  let month := if monthFromMarch < 10 then monthFromMarch + 3 else monthFromMarch - 9
  { year := yearOfEra + era * 400 + if month ≤ 2 then 1 else 0
    month
    day := dayOfYear - (153 * monthFromMarch + 2) / 5 + 1 }

/-- The date of a year, month and day, if there is such a day. -/
def ofCivil? (c : CivilDay) : Option Date :=
  if minYear ≤ c.year && c.year ≤ maxYear && 1 ≤ c.month && c.month ≤ 12 && 1 ≤ c.day
      && c.day ≤ daysInMonth c.year c.month then
    some ⟨dayNumber c⟩
  else none

def first : Date := ⟨dayNumber ⟨minYear, 1, 1⟩⟩

def last : Date := ⟨dayNumber ⟨maxYear, 12, 31⟩⟩

/-- Decimal digits of a natural, filled with zeros to a width. -/
def padded (width n : Nat) : List Char :=
  let digits := Nat.toDigits 10 n
  List.replicate (width - digits.length) '0' ++ digits

/-- Year with four digits; years outside 0 to 9999 carry a sign. -/
def yearText (year : Int) : List Char :=
  if 0 ≤ year && year ≤ 9999 then padded 4 year.toNat
  else (if year < 0 then '-' else '+') :: padded 4 year.natAbs

def text (d : Date) : List Char :=
  let c := d.civil
  yearText c.year ++ '-' :: padded 2 c.month ++ '-' :: padded 2 c.day

end Date

/-! ### Times and timestamps

Times of day and timestamps without a time zone.

A leap second is the second 59 with a fraction of one second or more: it sorts after its
predecessor and before the next minute, and is written as the second 60.
-/

/-- Seconds since midnight and nanoseconds; the latter reach two seconds in a leap second. -/
structure TimeOfDay where
  second : Nat
  nanosecond : Nat
deriving DecidableEq, Repr, Inhabited

structure Timestamp where
  date : Date
  time : TimeOfDay
deriving DecidableEq, Repr, Inhabited

namespace TimeOfDay

def nanosecondsPerSecond : Nat := 1000000000

def midnight : TimeOfDay := ⟨0, 0⟩

/-- The time of an hour, minute, second and fraction; the second may be 60. -/
def ofClock? (hour minute second nanosecond : Nat) : Option TimeOfDay :=
  if hour < 24 && minute < 60 && second ≤ 60 && nanosecond < nanosecondsPerSecond then
    let base := hour * 3600 + minute * 60
    some <| if second == 60 then ⟨base + 59, nanosecondsPerSecond + nanosecond⟩
      else ⟨base + second, nanosecond⟩
  else none

/-- Without the fraction; a leap second becomes the second before it. -/
def wholeSeconds (t : TimeOfDay) : TimeOfDay := ⟨t.second, 0⟩

def compare (a b : TimeOfDay) : Ordering :=
  (Ord.compare a.second b.second).then (Ord.compare a.nanosecond b.nanosecond)

/-- Hours, minutes and seconds; a leap second shows as 60. -/
def clockText (t : TimeOfDay) : List Char :=
  Date.padded 2 (t.second / 3600) ++ ':' :: Date.padded 2 (t.second / 60 % 60)
    ++ ':' :: Date.padded 2 (t.second % 60 + t.nanosecond / nanosecondsPerSecond)

/-- A point and the first `places` digits of the fraction, cut off. -/
def fractionText (places : Nat) (t : TimeOfDay) : List Char :=
  '.' :: Date.padded places (t.nanosecond % nanosecondsPerSecond / Nat.pow 10 (9 - places))

/-- Text with the fewest groups of three digits that lose nothing. -/
def diagnosticText (t : TimeOfDay) : List Char :=
  let fraction := t.nanosecond % nanosecondsPerSecond
  t.clockText ++
    if fraction == 0 then []
    else if fraction % 1000000 == 0 then t.fractionText 3
    else if fraction % 1000 == 0 then t.fractionText 6
    else t.fractionText 9

end TimeOfDay

namespace Timestamp

def compare (a b : Timestamp) : Ordering :=
  (Ord.compare a.date.day b.date.day).then (a.time.compare b.time)

/-- Date and time with a blank between; six digits of fraction unless it is zero. -/
def text (ts : Timestamp) : List Char :=
  ts.date.text ++ ' ' :: ts.time.clockText
    ++ if ts.time.nanosecond == 0 then [] else ts.time.fractionText 6

def diagnosticText (ts : Timestamp) : List Char :=
  ts.date.text ++ 'T' :: ts.time.diagnosticText

/-- The timestamp a number of seconds earlier, if its date is still in range. The fraction, and
with it a leap second, stays as it is. -/
def earlier? (ts : Timestamp) (seconds : Int) : Option Timestamp :=
  let total := ts.date.day * 86400 + ts.time.second - seconds
  let day := total / 86400
  if Date.first.day ≤ day && day ≤ Date.last.day then
    some ⟨⟨day⟩, ⟨(total % 86400).toNat, ts.time.nanosecond⟩⟩
  else none

end Timestamp

end SqlEngine
