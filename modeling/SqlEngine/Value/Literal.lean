import SqlEngine.Number.Reading
import SqlEngine.Text.Blank
import SqlEngine.Value.Basic

/-!
Values read from text: booleans, byte arrays, geometric shapes and arrays.
-/

namespace SqlEngine

namespace Literal

/-- A boolean: `on`, `off`, a digit, or any beginning of `true`, `false`, `yes` and `no`. -/
def bool? (text : String) : Option Bool :=
  let word := (Text.trim text.toList).map Numeral.lowerAscii
  if word.isEmpty then none
  else if word == ['o', 'n'] || word == ['1'] then some true
  else if word == ['o', 'f', 'f'] || word == ['0'] then some false
  else if word.isPrefixOf "true".toList || word.isPrefixOf "yes".toList then some true
  else if word.isPrefixOf "false".toList || word.isPrefixOf "no".toList then some false
  else none

/-- A byte in two characters: two hexadecimal digits, or a plus sign and one. -/
def byte? (high low : Char) : Option UInt8 :=
  if high == '+' then (Numeral.hexDigit? low).map UInt8.ofNat
  else do
    let h ← Numeral.hexDigit? high
    let l ← Numeral.hexDigit? low
    return UInt8.ofNat (16 * h + l)

def bytePairs? : List Char → Option (List UInt8)
  | [] => some []
  | [_] => none
  | high :: low :: rest => do
    let b ← byte? high low
    return b :: (← bytePairs? rest)

/-- A byte array: pairs of digits behind `\x`, else the text itself in UTF-8. -/
def bytea? (text : String) : Option (List UInt8) :=
  match text.toList with
  | '\\' :: 'x' :: rest => bytePairs? rest
  | _ => some text.toUTF8.toList

def isPunctuation (c : Char) : Bool :=
  c == '(' || c == ')' || c == '[' || c == ']' || c == '<' || c == '>' || c == ','

/-- All numbers of a text, whatever brackets and commas stand between them. -/
def numbers? (text : String) : Option (List Double) :=
  let fields := (text.toList.splitOnP isPunctuation).map Text.trim
  (fields.filter (!·.isEmpty)).mapM fun f => Numeral.double? (String.ofList f)

def point? (text : String) : Option Point := do
  match ← numbers? text with
  | [x, y] => return ⟨x, y⟩
  | _ => none

def segment? (text : String) : Option Segment := do
  match ← numbers? text with
  | [x1, y1, x2, y2] => return ⟨⟨x1, y1⟩, ⟨x2, y2⟩⟩
  | _ => none

/-- A box from any two opposite corners. -/
def rectangle? (text : String) : Option Rectangle := do
  let s ← segment? text
  return { high := ⟨s.a.x.larger s.b.x, s.a.y.larger s.b.y⟩
           low := ⟨s.a.x.smaller s.b.x, s.a.y.smaller s.b.y⟩ }

/-- A circle; its radius is not negative. -/
def circle? (text : String) : Option Circle := do
  match ← numbers? text with
  | [x, y, r] => if Double.zero.numLe r then some ⟨⟨x, y⟩, r⟩ else none
  | _ => none

end Literal

/-! ### Arrays

Array literals such as `{a,"b c",NULL,{1,2}}`, read into nested items.

An item is a nested literal, a quoted text with backslash escapes, or the characters up to the next
comma or closing brace without the blanks around them; the bare word NULL stands for no value.
-/

inductive ArrayItem where
  | null
  | text (s : String)
  | nested (items : List ArrayItem)
deriving Repr, Inhabited

namespace ArrayItem

/-- The text up to the closing quote, and the rest behind it. -/
def quoted? : List Char → Option (List Char × List Char)
  | [] => none
  | '"' :: rest => some ([], rest)
  | '\\' :: c :: rest => (quoted? rest).map fun (s, rest) => (c :: s, rest)
  | ['\\'] => none
  | c :: rest => (quoted? rest).map fun (s, rest) => (c :: s, rest)

def isEnd (c : Char) : Bool := c == ',' || c == '\x7d'

/-- An item without quotes or braces. -/
def ofBare (cs : List Char) : ArrayItem :=
  let word := Text.trim cs
  if word.map Numeral.lowerAscii == ['n', 'u', 'l', 'l'] then .null
  else .text (String.ofList word)

/-- One item, and the text behind it; `body` reads what stands behind an opening brace. -/
def item? (body : List Char → Option (List ArrayItem × List Char)) (cs : List Char) :
    Option (ArrayItem × List Char) :=
  match Text.dropBlanks cs with
  | [] => none
  | '\x7b' :: rest => (body rest).map fun (items, rest) => (nested items, rest)
  | '"' :: rest => (quoted? rest).map fun (s, rest) => (text (String.ofList s), rest)
  | cs => some (ofBare (cs.takeWhile (!isEnd ·)), cs.dropWhile (!isEnd ·))

mutual

/-- The items behind an opening brace, up to and with the closing one; `fuel` bounds the number of
items at all levels. -/
def body? : (fuel : Nat) → List Char → Option (List ArrayItem × List Char)
  | 0, _ => none
  | fuel + 1, cs =>
    match cs with
    | '\x7d' :: rest => some ([], rest)
    | cs => items? fuel cs

/-- One item and all that follow it. -/
def items? : (fuel : Nat) → List Char → Option (List ArrayItem × List Char)
  | 0, _ => none
  | fuel + 1, cs => do
    let (item, rest) ← item? (body? fuel) cs
    match Text.dropBlanks rest with
    | ',' :: rest => (items? fuel rest).map fun (items, rest) => (item :: items, rest)
    | '\x7d' :: rest => some ([item], rest)
    | _ => none

end

/-- The items of an array literal that takes up the whole text, blanks around it apart. -/
def ofText? (text : String) : Option (List ArrayItem) :=
  match Text.trim text.toList with
  | '\x7b' :: rest =>
    match body? (2 * rest.length + 2) rest with
    | some (items, []) => some items
    | _ => none
  | _ => none

end ArrayItem

end SqlEngine
