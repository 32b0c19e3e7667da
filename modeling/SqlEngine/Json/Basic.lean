import SqlEngine.Number.Shortest

/-!
JSON documents. Whole numbers are kept apart from numbers with a fraction or an exponent, and the
members of an object stand in the order of their names, each name once.
-/

namespace SqlEngine

inductive Json where
  | null
  | bool (b : Bool)
  | integer (i : Int)
  | float (x : Double)
  | string (s : String)
  | array (items : List Json)
  | object (members : List (String × Json))
deriving Repr, Inhabited

namespace Json

/-- Puts a member at its place among ordered members; one of the same name gives way. -/
def insertMember (name : String) (value : Json) :
    List (String × Json) → List (String × Json)
  | [] => [(name, value)]
  | (other, held) :: rest =>
    match compare name other with
    | .lt => (name, value) :: (other, held) :: rest
    | .eq => (name, value) :: rest
    | .gt => (other, held) :: insertMember name value rest

/-- The object with the given members; of several with one name the last counts. -/
def ofMembers (members : List (String × Json)) : Json :=
  .object (members.foldl (fun held m => insertMember m.1 m.2 held) [])

/-- The value of a number. -/
def number? : Json → Option Double
  | .integer i => some (Double.ofInt i)
  | .float x => some x
  | _ => none

/-- Bounds of whole numbers; larger ones are read as floats. -/
def minInteger : Int := -(Nat.pow 2 63)

def maxInteger : Int := Nat.pow 2 64 - 1

mutual

/-- Equality of documents: a whole number never equals a float, the two zeros are equal. -/
def same : Json → Json → Bool
  | .null, .null => true
  | .bool a, .bool b => a == b
  | .integer a, .integer b => a == b
  | .float a, .float b => a.numEq b
  | .string a, .string b => a == b
  | .array a, .array b => sameItems a b
  | .object a, .object b => sameMembers a b
  | _, _ => false

def sameItems : List Json → List Json → Bool
  | [], [] => true
  | a :: as, b :: bs => same a b && sameItems as bs
  | _, _ => false

def sameMembers : List (String × Json) → List (String × Json) → Bool
  | [], [] => true
  | (m, a) :: as, (n, b) :: bs => m == n && same a b && sameMembers as bs
  | _, _ => false

end

end Json

/-! ### Text

Compact text of JSON documents: no blanks, members in the order of their names.
-/

namespace Json

/-- A control character as an escape of four hexadecimal digits. -/
def controlEscape (c : Char) : List Char :=
  ['\\', 'u', '0', '0', Nat.digitChar (c.toNat / 16), Nat.digitChar (c.toNat % 16)]

/-- Only the quote, the backslash and the control characters are escaped. -/
def escaped (c : Char) : List Char :=
  if c == '"' then ['\\', '"']
  else if c == '\\' then ['\\', '\\']
  else if c == '\n' then ['\\', 'n']
  else if c == '\t' then ['\\', 't']
  else if c == '\r' then ['\\', 'r']
  else if c.toNat == 8 then ['\\', 'b']
  else if c.toNat == 12 then ['\\', 'f']
  else if c.toNat < 32 then controlEscape c
  else [c]

def quoted (s : String) : List Char := '"' :: s.toList.flatMap escaped ++ ['"']

mutual

def chars : Json → List Char
  | .null => "null".toList
  | .bool b => (if b then "true" else "false").toList
  | .integer i => (toString i).toList
  | .float x => x.jsonText.toList
  | .string s => quoted s
  | .array [] => ['[', ']']
  | .array (item :: rest) => '[' :: item.chars ++ itemChars rest
  | .object [] => ['\x7b', '\x7d']
  | .object ((name, value) :: rest) =>
    '\x7b' :: quoted name ++ ':' :: value.chars ++ memberChars rest

/-- The items after the first, and the closing bracket. -/
def itemChars : List Json → List Char
  | [] => [']']
  | item :: rest => ',' :: item.chars ++ itemChars rest

/-- The members after the first, and the closing brace. -/
def memberChars : List (String × Json) → List Char
  | [] => ['\x7d']
  | (name, value) :: rest => ',' :: quoted name ++ ':' :: value.chars ++ memberChars rest

end

def text (j : Json) : String := String.ofList j.chars

end Json

end SqlEngine
