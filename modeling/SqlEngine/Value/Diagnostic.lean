import SqlEngine.Json.Basic
import SqlEngine.Text.Category
import SqlEngine.Value.Text

/-!
Values in diagnostics: the kind of a value with its content, as messages about broken invariants
show it.
-/

namespace SqlEngine

namespace Diagnostic

def hexText (n : Nat) : String := String.ofList (Nat.toDigits 16 n)

/-- A character of a quoted text. One that has no glyph, or that would join the character in front
of it, is shown by its number. -/
def escaped (c : Char) : String :=
  if c == '"' then "\\\""
  else if c == '\\' then "\\\\"
  else if c == '\n' then "\\n"
  else if c == '\r' then "\\r"
  else if c == '\t' then "\\t"
  else if c.toNat == 0 then "\\0"
  else if Text.isGraphemeExtend c || !Text.isPrintable c then
    "\\u\x7b" ++ hexText c.toNat ++ "\x7d"
  else String.singleton c

def quoted (s : String) : String := "\"" ++ String.join (s.toList.map escaped) ++ "\""

/-- A byte of a quoted byte string. -/
def escapedByte (b : UInt8) : String :=
  if b == 0 then "\\0"
  else if b == 9 then "\\t"
  else if b == 10 then "\\n"
  else if b == 13 then "\\r"
  else if b == 34 then "\\\""
  else if b == 92 then "\\\\"
  else if 32 ≤ b && b < 127 then String.singleton (Char.ofNat b.toNat)
  else "\\x" ++ String.ofList (hexByte b)

def commas (parts : List String) : String := ", ".intercalate parts

def pair (left right : String) : String := "\x7b " ++ left ++ ", " ++ right ++ " \x7d"

def point (p : Point) : String :=
  "Point " ++ pair s!"x: {p.x.diagnosticText}" s!"y: {p.y.diagnosticText}"

mutual

def json : Json → String
  | .null => "Null"
  | .bool b => s!"Bool({b})"
  | .integer i => s!"Number({i})"
  | .float x => s!"Number({x.jsonText})"
  | .string s => s!"String({quoted s})"
  | .array items => s!"Array [{commas (jsonItems items)}]"
  | .object members => "Object \x7b" ++ commas (jsonMembers members) ++ "\x7d"

def jsonItems : List Json → List String
  | [] => []
  | item :: rest => json item :: jsonItems rest

def jsonMembers : List (String × Json) → List String
  | [] => []
  | (name, value) :: rest => (quoted name ++ ": " ++ json value) :: jsonMembers rest

end

mutual

def value : Value → String
  | .null => "Null"
  | .bool b => s!"Bool({b})"
  | .int i => s!"Int({i})"
  | .float x => s!"Float({x.diagnosticText})"
  | .text s => s!"Text({quoted s})"
  | .bytea bytes => "Bytea(b\"" ++ String.join (bytes.map escapedByte) ++ "\")"
  | .timestamp ts => s!"Timestamp({String.ofList ts.diagnosticText})"
  | .date d => s!"Date({String.ofList d.text})"
  | .time t => s!"Time({String.ofList t.diagnosticText})"
  | .uuid u => s!"Uuid({String.ofList u.text})"
  | .json j => s!"Json({json j})"
  | .array items => s!"Array([{commas (values items)}])"
  | .point p => s!"Point({point p})"
  | .segment s => "Lseg(Lseg " ++ pair s!"a: {point s.a}" s!"b: {point s.b}" ++ ")"
  | .rectangle r => "Box(GeoBox " ++ pair s!"high: {point r.high}" s!"low: {point r.low}" ++ ")"
  | .circle c =>
    "Circle(Circle " ++ pair s!"center: {point c.center}" s!"radius: {c.radius.diagnosticText}"
      ++ ")"
  | .handle (.id id) => s!"Reg(Id({id}))"
  | .handle (.name name) => s!"Reg(Name({quoted name}))"

def values : List Value → List String
  | [] => []
  | v :: rest => value v :: values rest

end

end Diagnostic

end SqlEngine
