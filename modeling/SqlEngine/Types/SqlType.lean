/-!
The types of SQL expressions.

Every value in the engine has a type built from a closed set of kinds; bounded text, user enums and
arrays carry a parameter. An array type of one dimension also holds nested arrays.
-/

namespace SqlEngine

/-- What a type is, without its parameters. -/
inductive TypeKind where
  | null
  | bool
  | integer
  | float
  | text
  | citext
  | bytea
  | timestamp
  | date
  | time
  | uuid
  | json
  | jsonb
  | regtype
  | regclass
  | point
  | lseg
  | box
  | circle
  | enum
  | array
deriving DecidableEq, Repr, Inhabited

/-- The name of a kind in messages and in SQL. -/
def TypeKind.name : TypeKind → String
  | null => "null"
  | bool => "bool"
  | integer => "integer"
  | float => "float"
  | text => "text"
  | citext => "citext"
  | bytea => "bytea"
  | timestamp => "timestamp"
  | date => "date"
  | time => "time"
  | uuid => "uuid"
  | json => "json"
  | jsonb => "jsonb"
  | regtype => "regtype"
  | regclass => "regclass"
  | point => "point"
  | lseg => "lseg"
  | box => "box"
  | circle => "circle"
  | enum => "enum"
  | array => "array"

def TypeKind.isNumeric (k : TypeKind) : Bool := k == .integer || k == .float

/-- An enum declared by the user; its values are ordered as its labels are. -/
structure EnumDef where
  oid : Nat
  name : String
  labels : List String
deriving DecidableEq, Repr, Inhabited

def EnumDef.position? (e : EnumDef) (label : String) : Option Nat :=
  e.labels.findIdx? (· == label)

/-- A type. `text` may bound the number of characters; `citext` ignores case. -/
inductive SqlType where
  | null
  | bool
  | integer
  | float
  | text (limit : Option Nat)
  | citext
  | bytea
  | timestamp
  | date
  | time
  | uuid
  | json
  | jsonb
  | regtype
  | regclass
  | point
  | lseg
  | box
  | circle
  | enum (declared : EnumDef)
  | array (element : SqlType)
deriving DecidableEq, Repr, Inhabited

namespace SqlType

def kind : SqlType → TypeKind
  | null => .null
  | bool => .bool
  | integer => .integer
  | float => .float
  | text _ => .text
  | citext => .citext
  | bytea => .bytea
  | timestamp => .timestamp
  | date => .date
  | time => .time
  | uuid => .uuid
  | json => .json
  | jsonb => .jsonb
  | regtype => .regtype
  | regclass => .regclass
  | point => .point
  | lseg => .lseg
  | box => .box
  | circle => .circle
  | enum _ => .enum
  | array _ => .array

def element? : SqlType → Option SqlType
  | array element => some element
  | _ => none

/-- The bound of bounded text. -/
def textLimit? : SqlType → Option Nat
  | text limit => limit
  | _ => none

def enum? : SqlType → Option EnumDef
  | enum declared => some declared
  | _ => none

def isNull : SqlType → Bool
  | null => true
  | _ => false

def isNumeric : SqlType → Bool
  | integer | float => true
  | _ => false

def isText : SqlType → Bool
  | text _ | citext => true
  | _ => false

/-- The name shown in column descriptions and messages. -/
def name : SqlType → String
  | text (some limit) => s!"character varying({limit})"
  | array element => element.name ++ "[]"
  | enum declared => declared.name
  | type => type.kind.name

/-- Numeric identifier of the array type over an element type. -/
def arrayOid? : SqlType → Option Nat
  | json => some 199
  | bool => some 1000
  | bytea => some 1001
  | integer => some 1007
  | text none => some 1009
  | text (some _) => some 1015
  | float => some 1022
  | timestamp => some 1115
  | date => some 1182
  | time => some 1183
  | uuid => some 2951
  | jsonb => some 3807
  | _ => none

/-- Numeric identifier; case-insensitive text and some array types have none. -/
def oid? : SqlType → Option Nat
  | null => some 705
  | bool => some 16
  | bytea => some 17
  | integer => some 23
  | text none => some 25
  | json => some 114
  | point => some 600
  | lseg => some 601
  | box => some 603
  | float => some 701
  | circle => some 718
  | text (some _) => some 1043
  | date => some 1082
  | time => some 1083
  | timestamp => some 1114
  | regclass => some 2205
  | regtype => some 2206
  | uuid => some 2950
  | jsonb => some 3802
  | enum declared => some declared.oid
  | citext => none
  | array element => element.arrayOid?

/-- An array type of some dimensions. -/
def nested (element : SqlType) : Nat → SqlType
  | 0 => element
  | dims + 1 => (nested element dims).array

def builtinScalars : List SqlType :=
  [bool, integer, float, text none, bytea, timestamp, date, time, uuid, json, jsonb, regtype,
    regclass, point, lseg, box, circle]

/-- The types that every catalog knows: scalars, then the arrays over them with an identifier. -/
def builtins : List SqlType :=
  builtinScalars ++ (builtinScalars.map array).filter (·.oid?.isSome)

end SqlType

end SqlEngine
