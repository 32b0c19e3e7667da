import SqlEngine.Number.Double

/-!
Numbers read from text: signed decimal integers, and floats with an optional fraction, an optional
exponent, and the words for infinity and not-a-number.
-/

namespace SqlEngine

namespace Numeral

def digit? (c : Char) : Option Nat :=
  if '0' ≤ c && c ≤ '9' then some (c.toNat - '0'.toNat) else none

def isDigit (c : Char) : Bool := '0' ≤ c && c ≤ '9'

/-- The value of a digit in base sixteen, either case. -/
def hexDigit? (c : Char) : Option Nat :=
  if '0' ≤ c && c ≤ '9' then some (c.toNat - '0'.toNat)
  else if 'a' ≤ c && c ≤ 'f' then some (c.toNat - 'a'.toNat + 10)
  else if 'A' ≤ c && c ≤ 'F' then some (c.toNat - 'A'.toNat + 10)
  else none

/-- The value of a non-empty run of digits. -/
def natural? (cs : List Char) : Option Nat :=
  if cs.isEmpty then none
  else cs.foldlM (fun n c => (digit? c).map (10 * n + ·)) 0

/-- An optional sign and the rest. -/
def splitSign : List Char → Bool × List Char
  | '-' :: rest => (true, rest)
  | '+' :: rest => (false, rest)
  | rest => (false, rest)

/-- A decimal integer with an optional sign, of any size. -/
def integer? (cs : List Char) : Option Int :=
  let (negative, rest) := splitSign cs
  (natural? rest).map fun n => if negative then -n else n

def inRange (low high i : Int) : Option Int := if low ≤ i && i ≤ high then some i else none

/-- The bounds of 64-bit signed integers. -/
def minInt64 : Int := -(Nat.pow 2 63)

def maxInt64 : Int := Nat.pow 2 63 - 1

def fitsInt64 (i : Int) : Bool := minInt64 ≤ i && i ≤ maxInt64

/-- A 64-bit signed integer. -/
def int64? (s : String) : Option Int := (integer? s.toList).bind (inRange minInt64 maxInt64)

/-- An unsigned integer below `2 ^ 32`; a plus sign is allowed, a minus sign is not. -/
def nat32? (s : String) : Option Nat :=
  let digits := match s.toList with
    | '+' :: rest => rest
    | cs => cs
  (natural? digits).bind fun n => if n < Nat.pow 2 32 then some n else none

def lowerAscii (c : Char) : Char :=
  if 'A' ≤ c && c ≤ 'Z' then Char.ofNat (c.toNat + 32) else c

def upperAscii (c : Char) : Char :=
  if 'a' ≤ c && c ≤ 'z' then Char.ofNat (c.toNat - 32) else c

/-- The exponent part of a float: nothing, or `e` with an optional sign and digits. -/
def exponentPart? : List Char → Option Int
  | [] => some 0
  | c :: rest => if lowerAscii c == 'e' then integer? rest else none

/-- An unsigned float in digits: whole part, fraction, exponent. One of the first two must hold a
digit. -/
def unsignedFloat? (negative : Bool) (cs : List Char) : Option Double :=
  let whole := cs.takeWhile isDigit
  let (fraction, rest) := match cs.dropWhile isDigit with
    | '.' :: more => (more.takeWhile isDigit, more.dropWhile isDigit)
    | more => ([], more)
  if whole.isEmpty && fraction.isEmpty then none
  else do
    let exponent ← exponentPart? rest
    let digits ← natural? (whole ++ fraction)
    return Double.ofDecimal negative digits (exponent - fraction.length)

/-- A float as written by people or programs; no blanks around it. -/
def double? (s : String) : Option Double :=
  let (negative, rest) := splitSign s.toList
  let word := String.ofList (rest.map lowerAscii)
  if word == "inf" || word == "infinity" then some (Double.infinity negative)
  else if word == "nan" then some (if negative then Double.nan.neg else Double.nan)
  else unsignedFloat? negative rest

end Numeral

end SqlEngine
