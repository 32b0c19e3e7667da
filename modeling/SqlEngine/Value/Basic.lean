import SqlEngine.Calendar.Timestamp
import SqlEngine.Json.Basic
import SqlEngine.Number.Reading
import SqlEngine.Text.Blank

/-!
Runtime values.

A value does not carry its type: citext and enum values are text, and the type of the expression
that yields a value decides how it is compared. Identifiers (UUIDs) are 128 bits, written as 32
hexadecimal digits in five groups.
-/

namespace SqlEngine

/-! ### Universally unique identifiers -/

structure Uuid where
  bits : BitVec 128
deriving DecidableEq, Repr, Inhabited

namespace Uuid

/-- The sizes of the five groups of digits. -/
def groups : List Nat := [8, 4, 4, 4, 12]

def hexDigits (u : Uuid) : List Char :=
  (List.range 32).map fun i => Nat.digitChar (u.bits.toNat / Nat.pow 16 (31 - i) % 16)

/-- Cuts digits into groups with a hyphen between. -/
def hyphenated : List Nat → List Char → List Char
  | [], _ => []
  | [size], digits => digits.take size
  | size :: rest, digits => digits.take size ++ '-' :: hyphenated rest (digits.drop size)

def text (u : Uuid) : List Char := hyphenated groups u.hexDigits

/-- The digits of text written in groups. -/
def ungroup? : List Nat → List Char → Option (List Char)
  | [], _ => some []
  | [size], cs => if cs.length == size then some cs else none
  | size :: rest, cs =>
    if cs[size]? == some '-' then (ungroup? rest (cs.drop (size + 1))).map (cs.take size ++ ·)
    else none

def ofHexDigits? (digits : List Char) : Option Uuid := do
  let value ← digits.foldlM (fun n c => (Numeral.hexDigit? c).map (16 * n + ·)) 0
  if digits.length == 32 then some ⟨BitVec.ofNat 128 value⟩ else none

/-- The text inside braces or behind the name space of identifiers, if it has either. -/
def unwrapped (cs : List Char) : List Char :=
  let space := "urn:uuid:".toList
  if space.isPrefixOf cs then cs.drop space.length
  else match cs.head?, cs.getLast? with
    | some '\x7b', some '\x7d' => cs.tail.dropLast
    | _, _ => cs

/-- Accepts 32 digits in a row, and grouped digits plain, in braces or with a name space. -/
def ofText? (s : String) : Option Uuid :=
  let cs := Text.trim s.toList
  if cs.length == 32 then ofHexDigits? cs
  else (ungroup? groups (unwrapped cs)).bind ofHexDigits?

end Uuid

/-! ### Values -/

structure Point where
  x : Double
  y : Double
deriving DecidableEq, Repr, Inhabited

structure Segment where
  a : Point
  b : Point
deriving DecidableEq, Repr, Inhabited

/-- A box, held by its upper right and lower left corners. -/
structure Rectangle where
  high : Point
  low : Point
deriving DecidableEq, Repr, Inhabited

structure Circle where
  center : Point
  radius : Double
deriving DecidableEq, Repr, Inhabited

/-- A handle on a type or a relation: its number or its name. -/
inductive Handle where
  | id (id : Nat)
  | name (name : String)
deriving DecidableEq, Repr, Inhabited

inductive Value where
  | null
  | bool (b : Bool)
  | int (i : Int)
  | float (x : Double)
  | text (s : String)
  | bytea (bytes : List UInt8)
  | timestamp (ts : Timestamp)
  | date (d : Date)
  | time (t : TimeOfDay)
  | uuid (u : Uuid)
  | json (j : Json)
  | array (items : List Value)
  | point (p : Point)
  | segment (s : Segment)
  | rectangle (r : Rectangle)
  | circle (c : Circle)
  | handle (h : Handle)
deriving Repr, Inhabited

/-- One value for each column. -/
abbrev Row := List Value

namespace Value

def isNull : Value → Bool
  | null => true
  | _ => false

def bool? : Value → Option Bool
  | bool b => some b
  | _ => none

/-- The integer; floats are not cut off. -/
def int? : Value → Option Int
  | int i => some i
  | _ => none

/-- A number of either kind as a float. -/
def float? : Value → Option Double
  | int i => some (Double.ofInt i)
  | float x => some x
  | _ => none

def text? : Value → Option String
  | text s => some s
  | _ => none

end Value

end SqlEngine
