import SqlEngine.Json.Basic
import SqlEngine.Number.Reading

/-!
JSON documents read from text, with the cause and the place of the first error.

A number keeps as many leading digits as fit an unsigned 64-bit word; it is then scaled by one
multiplication or division with a rounded power of ten, so its last bit may differ from the nearest
number.
-/

namespace SqlEngine

namespace Json

inductive ReadCause where
  | eofInValue
  | eofInList
  | eofInObject
  | eofInString
  | expectedColon
  | expectedCommaOrBracket
  | expectedCommaOrBrace
  | expectedIdent
  | expectedValue
  | invalidEscape
  | invalidNumber
  | numberOutOfRange
  | loneSurrogate
  | endOfHexEscape
  | controlCharacter
  | keyNotString
  | trailingComma
  | trailingCharacters
  | recursionLimit
deriving DecidableEq, Repr

def ReadCause.message : ReadCause → String
  | eofInValue => "EOF while parsing a value"
  | eofInList => "EOF while parsing a list"
  | eofInObject => "EOF while parsing an object"
  | eofInString => "EOF while parsing a string"
  | expectedColon => "expected `:`"
  | expectedCommaOrBracket => "expected `,` or `]`"
  | expectedCommaOrBrace => "expected `,` or `\x7d`"
  | expectedIdent => "expected ident"
  | expectedValue => "expected value"
  | invalidEscape => "invalid escape"
  | invalidNumber => "invalid number"
  | numberOutOfRange => "number out of range"
  | loneSurrogate => "lone leading surrogate in hex escape"
  | endOfHexEscape => "unexpected end of hex escape"
  | controlCharacter => "control character (\\u0000-\\u001F) found while parsing a string"
  | keyNotString => "key must be a string"
  | trailingComma => "trailing comma"
  | trailingCharacters => "trailing characters"
  | recursionLimit => "recursion limit exceeded"

/-- A cause, the characters that were left, and the number of bytes of them that count as read. -/
structure ReadFault where
  cause : ReadCause
  rest : List Char
  skipped : Nat

abbrev Reader := StateT (List Char) (Except ReadFault)

namespace Reader

/-- Fails at the current place. -/
def failHere {α : Type} (cause : ReadCause) : Reader α := do throw ⟨cause, ← get, 0⟩

/-- Fails at the next byte, or at the end of the text. -/
def failNext {α : Type} (cause : ReadCause) : Reader α := do throw ⟨cause, ← get, 1⟩

def peek : Reader (Option Char) := return (← get).head?

def advance : Reader Unit := modify List.tail

def isBlank (c : Char) : Bool := c == ' ' || c == '\n' || c == '\t' || c == '\r'

/-- The next character that is not blank, which stays in place. -/
def peekToken : Reader (Option Char) := do
  modify (·.dropWhile isBlank)
  peek

/-- The characters of a word whose first letter has been read. -/
def word : List Char → Reader Unit
  | [] => return ()
  | c :: rest => do
    match ← peek with
    | none => failHere .eofInValue
    | some d => if d == c then advance; word rest else failNext .expectedIdent

/-- Reads digits into a natural as long as it fits 64 bits; gives their number too. -/
def absorb : Nat → List Char → Nat × Nat
  | value, [] => (value, 0)
  | value, c :: rest =>
    match Numeral.digit? c with
    | none => (value, 0)
    | some d =>
      if 10 * value + d < Nat.pow 2 64 then
        let (value, count) := absorb (10 * value + d) rest
        (value, count + 1)
      else (value, 0)

/-- Drops a run of digits and gives its length. -/
def digitRun : Reader Nat := do
  let size := ((← get).takeWhile Numeral.isDigit).length
  modify (·.drop size)
  return size

/-- Divides by a power of ten in steps that the range of floats allows. -/
def scaleDown : Nat → Double → Int → Double
  | 0, f, _ => f
  | steps + 1, f, down =>
    if down ≤ 308 then f.div (Double.ofDecimal false 1 down)
    else if f.isZero then f
    else scaleDown steps (f.div (Double.ofDecimal false 1 308)) (down - 308)

/-- The number `significand * 10 ^ exponent`, unless that is too large. -/
def ofParts? (significand : Nat) (exponent : Int) : Option Double :=
  let f := Double.ofInt significand
  if 308 < exponent then if f.isZero then some f else none
  else if 0 ≤ exponent then
    let product := f.mul (Double.ofDecimal false 1 exponent)
    if product.isInfinite then none else some product
  else some (scaleDown 8 f (-exponent))

def signed (negative : Bool) (f : Double) : Double := if negative then f.neg else f

def floatOfParts (negative : Bool) (significand : Nat) (exponent : Int) : Reader Json := do
  match ofParts? significand exponent with
  | some f => return .float (signed negative f)
  | none => failHere .numberOutOfRange

/-- The digits of an exponent; `none` once it exceeds 31 bits. -/
def exponentDigits : Nat → List Char → Option Nat × List Char
  | value, [] => (some value, [])
  | value, c :: rest =>
    match Numeral.digit? c with
    | none => (some value, c :: rest)
    | some d =>
      if 10 * value + d < Nat.pow 2 31 then exponentDigits (10 * value + d) rest else (none, rest)

/-- The part of a number from the letter `e` on. -/
def exponentPart (negative : Bool) (significand : Nat) (scale : Int) : Reader Json := do
  advance
  let down := (← peek) == some '-'
  if down || (← peek) == some '+' then advance
  match ← peek with
  | none => failHere .eofInValue
  | some c =>
    if !Numeral.isDigit c then failNext .invalidNumber
    else
      let (size, rest) := exponentDigits 0 (← get)
      set rest
      match size with
      | some size =>
        floatOfParts negative significand (if down then scale - size else scale + size)
      | none =>
        if significand != 0 && !down then failHere .numberOutOfRange
        else
          let _ ← digitRun
          return .float (signed negative .zero)

def isExponentMark (c : Option Char) : Bool := c == some 'e' || c == some 'E'

/-- The part of a number from the point on. -/
def fractionPart (negative : Bool) (significand : Nat) (scale : Int) : Reader Json := do
  advance
  let (value, count) := absorb significand (← get)
  if (← digitRun) == 0 then
    if (← get).isEmpty then failNext .eofInValue else failNext .invalidNumber
  else if isExponentMark (← peek) then exponentPart negative value (scale - count)
  else floatOfParts negative value (scale - count)

/-- A whole number; zero with a sign and numbers out of range become floats. -/
def wholeNumber (negative : Bool) (value : Nat) : Json :=
  if !negative then .integer value
  else if value == 0 || Nat.pow 2 63 < value then .float (Double.ofInt value).neg
  else .integer (-value)

/-- A number whose sign has been read. -/
def number (negative : Bool) : Reader Json := do
  match ← get with
  | [] => failHere .eofInValue
  | c :: rest =>
    if !Numeral.isDigit c then failNext .invalidNumber
    else if c == '0' && (rest.head?.map Numeral.isDigit).getD false then
      advance
      failNext .invalidNumber
    else
      let (value, count) := absorb 0 (c :: rest)
      let scale : Int := (← digitRun) - count
      let next ← peek
      if next == some '.' then fractionPart negative value scale
      else if isExponentMark next then exponentPart negative value scale
      else if scale == 0 then return wholeNumber negative value
      else floatOfParts negative value scale

/-- Four hexadecimal digits; they are counted in bytes. -/
def hexEscape : Reader Nat := do
  let cs ← get
  if (String.ofList (cs.take 4)).utf8ByteSize < 4 then
    set ([] : List Char)
    failHere .eofInString
  else
    match (cs.take 4).foldlM (fun n c => (Numeral.hexDigit? c).map (16 * n + ·)) 0 with
    | some n =>
      set (cs.drop 4)
      return n
    | none => throw ⟨.invalidEscape, cs, 4⟩

/-- A character that has to come next inside a surrogate pair. -/
def pairMark (c : Char) : Reader Unit := do
  match ← peek with
  | none => failHere .eofInString
  | some d => if d == c then advance else failNext .endOfHexEscape

/-- The character of a `u` escape; two escapes make one character outside the basic plane. -/
def unicodeEscape : Reader Char := do
  let high ← hexEscape
  if 0xDC00 ≤ high && high ≤ 0xDFFF then failHere .loneSurrogate
  else if high < 0xD800 || 0xDBFF < high then return Char.ofNat high
  else
    pairMark '\\'
    pairMark 'u'
    let low ← hexEscape
    if low < 0xDC00 || 0xDFFF < low then failHere .loneSurrogate
    else return Char.ofNat ((high - 0xD800) * 1024 + (low - 0xDC00) + 0x10000)

def escape : Reader Char := do
  match ← peek with
  | none => failHere .eofInString
  | some c =>
    let simple? : Option Char :=
      if c == '"' || c == '\\' || c == '/' then some c
      else if c == 'b' then some '\x08'
      else if c == 'f' then some '\x0c'
      else if c == 'n' then some '\n'
      else if c == 'r' then some '\r'
      else if c == 't' then some '\t'
      else none
    match simple? with
    | some d =>
      advance
      return d
    | none =>
      if c == 'u' then
        advance
        unicodeEscape
      else failNext .invalidEscape

/-- The characters of a string up to its closing quote; `fuel` bounds their number. -/
def stringChars : Nat → Reader (List Char)
  | 0 => failHere .eofInString
  | fuel + 1 => do
    match ← peek with
    | none => failHere .eofInString
    | some c =>
      if c == '"' then
        advance
        return []
      else if c == '\\' then
        advance
        let d ← escape
        return d :: (← stringChars fuel)
      else if c.toNat < 32 then failNext .controlCharacter
      else
        advance
        return c :: (← stringChars fuel)

/-- A string whose opening quote comes next. -/
def string : Reader String := do
  advance
  return String.ofList (← stringChars ((← get).length + 1))

/-- The items of a list up to its closing bracket; `fuel` bounds their number. -/
def items (item : Reader Json) : (fuel : Nat) → (first : Bool) → Reader (List Json)
  | 0, _ => failNext .eofInList
  | fuel + 1, first => do
    match ← peekToken with
    | none => failNext .eofInList
    | some ']' =>
      advance
      return []
    | some c =>
      if !first then
        if c != ',' then failNext .expectedCommaOrBracket
        advance
        match ← peekToken with
        | none => failNext .eofInValue
        | some ']' => failNext .trailingComma
        | some _ => pure ()
      let value ← item
      return value :: (← items item fuel false)

def colon : Reader Unit := do
  match ← peekToken with
  | none => failNext .eofInObject
  | some ':' => advance
  | some _ => failNext .expectedColon

/-- The members of an object up to its closing brace; `fuel` bounds their number. -/
def members (item : Reader Json) : (fuel : Nat) → (first : Bool) → Reader (List (String × Json))
  | 0, _ => failNext .eofInObject
  | fuel + 1, first => do
    match ← peekToken with
    | none => failNext .eofInObject
    | some '\x7d' =>
      advance
      return []
    | some c =>
      if !first then
        if c != ',' then failNext .expectedCommaOrBrace
        advance
        match ← peekToken with
        | none => failNext .eofInValue
        | some '\x7d' => failNext .trailingComma
        | some _ => pure ()
      if (← peek) != some '"' then failNext .keyNotString
      let name ← string
      colon
      let value ← item
      return (name, value) :: (← members item fuel false)

/-- A document whose inner documents are read by `inner?`, which is missing at the deepest level. -/
def documentOver (inner? : Option (Reader Json)) : Reader Json := do
  match ← peekToken with
  | none => failNext .eofInValue
  | some c =>
    if c == 'n' then
      advance
      word ['u', 'l', 'l']
      return .null
    else if c == 't' then
      advance
      word ['r', 'u', 'e']
      return .bool true
    else if c == 'f' then
      advance
      word ['a', 'l', 's', 'e']
      return .bool false
    else if c == '-' then
      advance
      number true
    else if Numeral.isDigit c then number false
    else if c == '"' then return .string (← string)
    else if c == '[' || c == '\x7b' then
      match inner? with
      | none => failNext .recursionLimit
      | some inner =>
        advance
        let fuel := (← get).length + 1
        if c == '[' then return .array (← items inner fuel true)
        else return Json.ofMembers (← members inner fuel true)
    else failNext .expectedValue

/-- A document with at most `depth` levels of lists and objects. -/
def document : (depth : Nat) → Reader Json
  | 0 => documentOver none
  | depth + 1 => documentOver (some (document depth))

def maxDepth : Nat := 127

/-- A document that takes up the whole text. -/
def wholeText : Reader Json := do
  let value ← document maxDepth
  if (← peekToken).isSome then failNext .trailingCharacters
  return value

end Reader

/-- An error of reading: its cause and its place, the column counted in bytes. -/
structure ReadError where
  cause : ReadCause
  line : Nat
  column : Nat
deriving DecidableEq, Repr

def ReadError.message (e : ReadError) : String :=
  s!"{e.cause.message} at line {e.line} column {e.column}"

/-- Line and column behind some bytes. -/
def placeAfter (bytes : List UInt8) : Nat × Nat :=
  ( 1 + (bytes.filter (· == 10)).length
  , (bytes.reverse.takeWhile (· != 10)).length )

def ReadFault.locate (fault : ReadFault) (text : String) : ReadError :=
  let offset := text.utf8ByteSize - (String.ofList fault.rest).utf8ByteSize + fault.skipped
  let (line, column) := placeAfter (text.toUTF8.toList.take offset)
  ⟨fault.cause, line, column⟩

def ofText (text : String) : Except ReadError Json :=
  match Reader.wholeText.run text.toList with
  | .ok (value, _) => .ok value
  | .error fault => .error (fault.locate text)

end Json

end SqlEngine
