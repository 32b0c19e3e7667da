import SqlEngine.Json.Basic
import SqlEngine.Text.Blank
import SqlEngine.Value.Basic

/-!
Text of values as results show it, and values as JSON documents.
-/

namespace SqlEngine

def Point.text (p : Point) : String := s!"({p.x.text},{p.y.text})"

def Handle.text : Handle → String
  | .id n => toString n
  | .name n => n

/-- Two lowercase hexadecimal digits. -/
def hexByte (b : UInt8) : List Char := [Nat.digitChar (b.toNat / 16), Nat.digitChar (b.toNat % 16)]

namespace Value

/-- Must a text be quoted inside an array literal? -/
def needsQuotes (cs : List Char) : Bool :=
  cs.isEmpty || cs.map Numeral.lowerAscii == ['n', 'u', 'l', 'l']
    || cs.any fun c => c == '\x7b' || c == '\x7d' || c == ',' || c == '"' || c == '\\'
        || Text.isBlank c

/-- A backslash before quotes and backslashes. -/
def escapeItem (c : Char) : List Char := if c == '\\' || c == '"' then ['\\', c] else [c]

/-- A text as an item of an array literal, in quotes if it needs them. -/
def quotedItem (cs : List Char) : List Char :=
  if needsQuotes cs then '"' :: cs.flatMap escapeItem ++ ['"'] else cs

/-- The text of a value that is no array. -/
def scalarChars : Value → List Char
  | null => "NULL".toList
  | bool b => (if b then "true" else "false").toList
  | int i => (toString i).toList
  | float x => x.text.toList
  | text s => s.toList
  | bytea bytes => '\\' :: 'x' :: bytes.flatMap hexByte
  | timestamp ts => ts.text
  | date d => d.text
  | time t => t.clockText
  | uuid u => u.text
  | json j => j.chars
  | array _ => []
  | point p => p.text.toList
  | segment s => s!"[{s.a.text},{s.b.text}]".toList
  | rectangle r => s!"{r.high.text},{r.low.text}".toList
  | circle c => s!"<{c.center.text},{c.radius.text}>".toList
  | handle h => h.text.toList

mutual

/-- A value as an item of an array literal: NULL and arrays stand bare. -/
def itemChars : Value → List Char
  | null => "NULL".toList
  | array [] => ['\x7b', '\x7d']
  | array (item :: rest) => '\x7b' :: item.itemChars ++ restChars rest
  | v => quotedItem v.scalarChars

/-- The items of an array after the first, and the closing brace. -/
def restChars : List Value → List Char
  | [] => ['\x7d']
  | item :: rest => ',' :: item.itemChars ++ restChars rest

end

def chars : Value → List Char
  | array items => itemChars (array items)
  | v => v.scalarChars

/-- The text of a value. -/
def render (v : Value) : String := String.ofList v.chars

/-- A float as a JSON number; JSON has none for infinity and not-a-number. -/
def jsonOfFloat (x : Double) : Json := if x.isFinite then .float x else .null

mutual

/-- A value as a JSON document; what has no counterpart becomes a string. -/
def toJson : Value → Json
  | null => .null
  | bool b => .bool b
  | int i => .integer i
  | float x => jsonOfFloat x
  | json j => j
  | array items => .array (toJsonItems items)
  | point p => Json.ofMembers [("x", jsonOfFloat p.x), ("y", jsonOfFloat p.y)]
  | handle (.id id) => .integer id
  | v => .string v.render

def toJsonItems : List Value → List Json
  | [] => []
  | v :: rest => toJson v :: toJsonItems rest

end

end Value

end SqlEngine
