import SqlEngine.Calendar.Timestamp
import SqlEngine.Number.Reading
import SqlEngine.Text.Blank

/-!
Dates, times and timestamps read from text, by small scanners over its characters: each step takes
something off the front or fails.

Blanks may stand before every number. Years without a sign have at most four digits. Offsets from
universal time are applied, so a timestamp read with one is in universal time.
-/

namespace SqlEngine

/-! ### Scanners -/

/-- A step that reads from the front of the remaining characters, or fails. -/
abbrev Scanner := StateT (List Char) Option

namespace Scanner

def rest : Scanner (List Char) := get

/-- Exactly the given character. -/
def char (c : Char) : Scanner Unit := do
  match ← get with
  | d :: rest => if d == c then set rest else failure
  | [] => failure

/-- The character if it comes next. -/
def char? (c : Char) : Scanner Bool := do
  match ← get with
  | d :: rest => if d == c then set rest; return true else return false
  | [] => return false

/-- Drops the longest run of characters that satisfy `p`. -/
def skip (p : Char → Bool) : Scanner Unit := modify (·.dropWhile p)

def blanks : Scanner Unit := skip Text.isBlank

/-- A decimal number of at least one and at most `most` digits. -/
def number (most : Nat) : Scanner Nat := do
  let digits := ((← get).take most).takeWhile Numeral.isDigit
  modify (·.drop digits.length)
  Numeral.natural? digits

/-- A decimal number of exactly `size` digits. -/
def fixedNumber (size : Nat) : Scanner Nat := do
  let digits := ((← get).take size).takeWhile Numeral.isDigit
  if digits.length == size then
    modify (·.drop size)
    Numeral.natural? digits
  else failure

/-- The result of a scanner that has to read the whole text. -/
def whole? {α : Type} (scanner : Scanner α) (cs : List Char) : Option α :=
  match scanner.run cs with
  | some (a, []) => some a
  | _ => none

end Scanner

/-! ### Dates and times -/

namespace Calendar

open Scanner

/-- A number with at most two digits, after blanks. -/
def twoDigits : Scanner Nat := do
  blanks
  number 2

/-- A year: at most four digits, or a sign and any number of digits. -/
def year : Scanner Int := do
  blanks
  if ← char? '-' then return -(← number (← rest).length)
  else if ← char? '+' then return ← number (← rest).length
  else return ← number 4

/-- Year, month and day with hyphens between. -/
def date : Scanner Date := do
  let year ← year
  char '-'
  let month ← twoDigits
  char '-'
  let day ← twoDigits
  Date.ofCivil? ⟨year, month, day⟩

/-- A point and digits, the first nine of which count; zero when there is no point. -/
def fraction : Scanner Nat := do
  if ← char? '.' then
    let before := (← rest).length
    let digits ← number 9
    let places := before - (← rest).length
    skip Numeral.isDigit
    return digits * Nat.pow 10 (9 - places)
  else return 0

def minuteClock : Scanner TimeOfDay := do
  let hour ← twoDigits
  char ':'
  let minute ← twoDigits
  TimeOfDay.ofClock? hour minute 0 0

def secondClock : Scanner TimeOfDay := do
  let hour ← twoDigits
  char ':'
  let minute ← twoDigits
  char ':'
  let second ← twoDigits
  TimeOfDay.ofClock? hour minute second (← fraction)

/-- A date and a time, with the letter T or any number of blanks between. -/
def timestamp (separator : Scanner Unit) (clock : Scanner TimeOfDay) : Scanner Timestamp := do
  let date ← date
  separator
  return ⟨date, ← clock⟩

def sign : Scanner Bool := do
  if ← char? '+' then return false
  else if ← char? '-' then return true
  else
    char '\u2212'
    return true

/-- Hours and minutes of an offset in seconds; the text may stop before the minutes if `short`. -/
def offsetAmount (separator : Scanner Unit) (short : Bool) : Scanner Int := do
  let negative ← sign
  let hours ← fixedNumber 2
  separator
  let minutes ← if short && (← rest).isEmpty then pure 0 else fixedNumber 2
  if 59 < minutes || 23 < hours then failure
  let seconds : Int := hours * 3600 + minutes * 60
  return if negative then -seconds else seconds

/-- An offset from universal time in seconds; the letter Z stands for none. -/
def offset (separator : Scanner Unit) (short : Bool) : Scanner Int := do
  if ← char? 'Z' then return 0
  else if ← char? 'z' then return 0
  else offsetAmount separator short

/-- A timestamp with an offset, brought to universal time. -/
def universal (clock : Scanner Timestamp) (offset : Scanner Int) : Scanner Timestamp := do
  let ts ← clock
  ts.earlier? (← offset)

/-- The interchange form: every field with its full width, a colon inside the offset. -/
def interchange : Scanner Timestamp := do
  let year ← fixedNumber 4
  char '-'
  let month ← fixedNumber 2
  char '-'
  let day ← fixedNumber 2
  let date ← Date.ofCivil? ⟨year, month, day⟩
  char 'T' <|> char 't' <|> char ' '
  let hour ← fixedNumber 2
  char ':'
  let minute ← fixedNumber 2
  char ':'
  let second ← fixedNumber 2
  let time ← TimeOfDay.ofClock? hour minute second (← fraction)
  return ⟨date, time⟩

/-- Colons and blanks between the hours and the minutes of an offset. -/
def looseColon : Scanner Unit := skip fun c => c == ':' || Text.isBlank c

def looseOffset : Scanner Int := do
  blanks
  offset looseColon true

/-- The accepted forms of a timestamp with a time, in the order in which they are tried. -/
def timestampForms : List (Scanner Timestamp) :=
  [ timestamp blanks secondClock
  , timestamp (char 'T') secondClock
  , timestamp blanks minuteClock
  , timestamp (char 'T') minuteClock
  , universal interchange (offset (char ':') false)
  , universal (timestamp blanks secondClock) looseOffset
  , universal (timestamp (char 'T') secondClock) looseOffset ]

def dateTime? (cs : List Char) : Option Timestamp :=
  timestampForms.findSome? (·.whole? cs)

end Calendar

/-- A timestamp; a date alone means its midnight. -/
def Timestamp.ofText? (text : String) : Option Timestamp :=
  let cs := Text.trim text.toList
  Calendar.dateTime? cs <|> (Calendar.date.whole? cs).map (⟨·, .midnight⟩)

/-- A date; a time behind it is dropped. -/
def Date.ofText? (text : String) : Option Date :=
  let cs := Text.trim text.toList
  Calendar.date.whole? cs <|> (Calendar.dateTime? cs).map (·.date)

/-- A time of day in whole seconds; a date before it is dropped. -/
def TimeOfDay.ofText? (text : String) : Option TimeOfDay :=
  let cs := Text.trim text.toList
  let clock := Calendar.secondClock.whole? cs <|> Calendar.minuteClock.whole? cs
  (clock <|> (Timestamp.ofText? text).map (·.time)).map (·.wholeSeconds)

end SqlEngine
