import SqlEngine.Calendar.Reading
import SqlEngine.Error
import SqlEngine.Types.SqlType
import SqlEngine.Value.Literal
import SqlEngine.Value.Diagnostic
import SqlEngine.Value.Text

/-!
Conversions between types.

`Conversion.plan?` decides whether a conversion exists, `Conversion.apply` carries it out. Implicit
conversions lead from text to bool, uuid and bytea, between integers and floats, and from integers
to handles; the explicit ones add reading every type from text, writing every type as text, and the
parts of a timestamp.
-/

namespace SqlEngine

/-- What conversions of handles have to know about the catalog. -/
structure Registry where
  typeByName : String → Except SqlError SqlType
  typeByOid? : Nat → Option SqlType
  typeOid? : SqlType → Option Nat
  /-- Number and name of a relation. -/
  relationById? : Nat → Option (Nat × String)
  relationByName : String → Except SqlError (Nat × String)

/-- The geometric kinds. -/
inductive Shape where
  | point
  | lseg
  | box
  | circle
deriving DecidableEq, Repr, Inhabited

def Shape.kind : Shape → TypeKind
  | point => .point
  | lseg => .lseg
  | box => .box
  | circle => .circle

/-- Reads a shape from text. -/
def Shape.read? : Shape → String → Option Value
  | point, s => (Literal.point? s).map .point
  | lseg, s => (Literal.segment? s).map .segment
  | box, s => (Literal.rectangle? s).map .rectangle
  | circle, s => (Literal.circle? s).map .circle

inductive Conversion where
  /-- The value stays as it is. -/
  | retag
  | intToFloat
  /-- Rounds to the nearest integer, halves away from zero. -/
  | floatToInt
  | boolToInt
  | intToBool
  /-- Checks the number of characters. -/
  | boundText (limit : Nat)
  | toText
  | textToBool
  | textToInt
  | textToFloat
  | textToUuid
  | textToBytea
  | textToTimestamp
  | textToDate
  | textToTime
  | textToJson
  | textToRegType
  | textToRegClass
  | textToEnum (declared : EnumDef)
  | textToShape (shape : Shape)
  /-- Reads an array literal whose items have the given type. -/
  | textToArray (element : SqlType)
  | timestampToDate
  | timestampToTime
  | dateToTimestamp
  | intToRegType
  | intToRegClass
  | regTypeToInt
  | regClassToInt
  /-- Converts every item of an array, at any depth. -/
  | elements (item : Conversion)
  | andThen (first second : Conversion)
deriving DecidableEq, Repr, Inhabited

namespace Conversion

def isRetag : Conversion → Bool
  | retag => true
  | _ => false

/-- Converts items, unless nothing has to be done. -/
def overItems : Conversion → Conversion
  | retag => retag
  | item => elements item

def planBound (source target : Option Nat) : Conversion :=
  match source, target with
  | _, none => retag
  | some a, some b => if a ≤ b then retag else boundText b
  | none, some b => boundText b

/-- The conversions that happen without being asked for. -/
def implicit? : SqlType → SqlType → Option Conversion
  | .text a, .text b => some (planBound a b)
  | .citext, .text b => some (planBound none b)
  | .enum _, .text b => some (planBound none b)
  | .text _, .citext => some retag
  | .text _, .bool => some textToBool
  | .citext, .bool => some textToBool
  | .text _, .uuid => some textToUuid
  | .citext, .uuid => some textToUuid
  | .text _, .bytea => some textToBytea
  | .citext, .bytea => some textToBytea
  | .integer, .float => some intToFloat
  | .float, .integer => some floatToInt
  | .integer, .regtype => some intToRegType
  | .integer, .regclass => some intToRegClass
  | .array a, .array b =>
    if a = b || a.isNull then some retag else (implicit? a b).map overItems
  | _, _ => none

/-- The conversion from text to a type, beyond the implicit ones. -/
def fromText? : SqlType → Option Conversion
  | .integer => some textToInt
  | .float => some textToFloat
  | .timestamp => some textToTimestamp
  | .date => some textToDate
  | .time => some textToTime
  | .json => some textToJson
  | .jsonb => some textToJson
  | .regtype => some textToRegType
  | .regclass => some textToRegClass
  | .enum declared => some (textToEnum declared)
  | .point => some (textToShape .point)
  | .lseg => some (textToShape .lseg)
  | .box => some (textToShape .box)
  | .circle => some (textToShape .circle)
  | .array element =>
    if (implicit? (.text none) element).isSome || (fromText? element).isSome then
      some (textToArray element)
    else none
  | _ => none

/-- The conversions that have to be asked for. -/
def explicit? : SqlType → SqlType → Option Conversion
  | .text _, target => fromText? target
  | .citext, target => fromText? target
  | _, .text (some limit) => some (andThen toText (boundText limit))
  | _, .text none => some toText
  | _, .citext => some toText
  | .timestamp, .date => some timestampToDate
  | .timestamp, .time => some timestampToTime
  | .date, .timestamp => some dateToTimestamp
  | .json, .jsonb => some retag
  | .jsonb, .json => some retag
  | .regtype, .integer => some regTypeToInt
  | .regclass, .integer => some regClassToInt
  | .bool, .integer => some boolToInt
  | .integer, .bool => some intToBool
  | .array a, .array b =>
    let item := if a = b || a.isNull then some retag else implicit? a b <|> explicit? a b
    item.map overItems
  | _, _ => none

/-- The conversion from one type to another, if there is one. -/
def plan? (source target : SqlType) (explicit : Bool) : Option Conversion :=
  if source = target || source.isNull then some retag
  else implicit? source target <|> if explicit then explicit? source target else none

/-- The kind that a conversion yields, for messages. -/
def targetKind : Conversion → TypeKind
  | retag | elements _ | andThen _ _ => .null
  | intToFloat | textToFloat => .float
  | floatToInt | boolToInt | textToInt | regTypeToInt | regClassToInt => .integer
  | intToBool | textToBool => .bool
  | boundText _ | toText => .text
  | textToUuid => .uuid
  | textToBytea => .bytea
  | textToTimestamp | dateToTimestamp => .timestamp
  | textToDate | timestampToDate => .date
  | textToTime | timestampToTime => .time
  | textToJson => .json
  | textToRegType | intToRegType => .regtype
  | textToRegClass | intToRegClass => .regclass
  | textToEnum _ => .enum
  | textToShape shape => shape.kind
  | textToArray _ => .array

/-- The nearest 64-bit integer; zero for not-a-number, the bound for what is too large. -/
def roundToInt (x : Double) : Int :=
  if x.isNaN then 0
  else match x.roundToInt? with
    | some i => max Numeral.minInt64 (min Numeral.maxInt64 i)
    | none => if x.isNegative then Numeral.minInt64 else Numeral.maxInt64

/-- A text that the target kind cannot read. -/
def badLiteral (target : TypeKind) (s : String) : SqlError :=
  .cast .text target (some s!"string: \"{s}\"")

def orFail {α : Type} (error : SqlError) (a? : Option α) : Except SqlError α :=
  match a? with
  | some a => .ok a
  | none => .error error

def oid? (i : Int) : Option Nat := if 0 ≤ i && i < Nat.pow 2 32 then some i.toNat else none

/-- Reads a relation handle: a number, or the name of a relation that has to exist. -/
def readRegClass (registry : Registry) (s : String) : Except SqlError Value := do
  match Numeral.nat32? s with
  | some id =>
    match registry.relationById? id with
    | some (_, name) => return .handle (.name name)
    | none => return .handle (.id id)
  | none => return .handle (.name (← registry.relationByName s).2)

/-- The schema that type names may carry in front. -/
def typeSchema : List Char := "pg_catalog.".toList

def readRegType (registry : Registry) (s : String) : Except SqlError Value := do
  let cs := s.toList
  let name := if typeSchema.isPrefixOf cs then cs.drop typeSchema.length else cs
  return .handle (.name (← registry.typeByName (String.ofList name)).name)

/-- The number of a type handle. -/
def regTypeNumber (registry : Registry) : Handle → Except SqlError Value
  | .id id => .ok (.int id)
  | .name name => do
    let type ← registry.typeByName name
    return .int (← orFail (.cast .regtype .integer none) (registry.typeOid? type))

/-- The number of a relation handle. -/
def regClassNumber (registry : Registry) : Handle → Except SqlError Value
  | .id id => .ok (.int (((registry.relationById? id).map (·.1)).getD id : Nat))
  | .name name => do return .int (← registry.relationByName name).1

/-- A conversion of a text. -/
def applyToText (registry : Registry) (c : Conversion) (s : String) : Except SqlError Value :=
  match c with
  | retag | toText => .ok (.text s)
  | boundText limit =>
    if limit < s.toList.length then .error (.query (.valueTooLong limit)) else .ok (.text s)
  | textToBool => (orFail (badLiteral .bool s) (Literal.bool? s)).map .bool
  | textToInt =>
    (orFail (.query (.invalidInteger s)) (Numeral.int64? (Text.trimmed s))).map .int
  | textToFloat =>
    (orFail (.query (.invalidFloat s)) (Numeral.double? (Text.trimmed s))).map .float
  | textToUuid => (orFail (badLiteral .uuid s) (Uuid.ofText? s)).map .uuid
  | textToBytea => (orFail (badLiteral .bytea s) (Literal.bytea? s)).map .bytea
  | textToTimestamp => (orFail (.query (.invalidTimestamp s)) (Timestamp.ofText? s)).map .timestamp
  | textToDate => (orFail (.query (.invalidDate s)) (Date.ofText? s)).map .date
  | textToTime => (orFail (.query (.invalidTime s)) (TimeOfDay.ofText? s)).map .time
  | textToJson => ((Json.ofText s).mapError (.query <| .invalidJson ·)).map .json
  | textToEnum declared =>
    if (declared.position? s).isSome then .ok (.text s)
    else .error (.query (.invalidEnumLabel declared.name s))
  | textToShape shape => orFail (badLiteral shape.kind s) (shape.read? s)
  | textToRegType => readRegType registry (Text.trimmed s)
  | textToRegClass => readRegClass registry (Text.trimmed s)
  | c => .error (.internal s!"cannot convert {Diagnostic.value (.text s)} to {c.targetKind.name}")

/-- A conversion of a value that needs no look at items of arrays. -/
def applyScalar (registry : Registry) (c : Conversion) (v : Value) : Except SqlError Value :=
  match c, v with
  | c, .text s => applyToText registry c s
  | retag, v => .ok v
  | toText, v => .ok (.text v.render)
  | intToFloat, .int i => .ok (.float (Double.ofInt i))
  | floatToInt, .float x => .ok (.int (roundToInt x))
  | floatToInt, .int i => .ok (.int i)
  | boolToInt, .bool b => .ok (.int (if b then 1 else 0))
  | intToBool, .int i => .ok (.bool (i != 0))
  | timestampToDate, .timestamp ts => .ok (.date ts.date)
  | timestampToTime, .timestamp ts => .ok (.time ts.time.wholeSeconds)
  | dateToTimestamp, .date d => .ok (.timestamp ⟨d, .midnight⟩)
  | intToRegType, .int i =>
    match (oid? i).bind registry.typeByOid? with
    | some type => .ok (.handle (.name type.name))
    | none => .error (.cast .integer .regtype none)
  | intToRegClass, .int i =>
    match oid? i with
    | some id => .ok (.handle (.id id))
    | none => .error (.cast .integer .regclass none)
  | regTypeToInt, .handle h => regTypeNumber registry h
  | regClassToInt, .handle h => regClassNumber registry h
  | c, v => .error (.internal s!"cannot convert {Diagnostic.value v} to {c.targetKind.name}")

/-- Reads a text item of an array literal as a value of the element type. -/
def readScalar (registry : Registry) (element : SqlType) (s : String) : Except SqlError Value := do
  match element with
  | .array _ => throw (.query (.malformedArray s))
  | element =>
    let c ← orFail (.cast .text element.kind none) (plan? (.text none) element true)
    c.applyScalar registry (.text s)

mutual

/-- Reads an item of an array literal. A nested literal is an array of the element type, or one
more dimension of the same type when the element type is no array. -/
def readItem (registry : Registry) : ArrayItem → SqlType → Except SqlError Value
  | .null, _ => .ok .null
  | .text s, element => readScalar registry element s
  | .nested items, .array element => (readItems registry items element).map .array
  | .nested items, element => (readItems registry items element).map .array

def readItems (registry : Registry) : List ArrayItem → SqlType → Except SqlError (List Value)
  | [], _ => .ok []
  | item :: rest, element => do
    let v ← readItem registry item element
    return v :: (← readItems registry rest element)

end

mutual

/-- Applies `f` to the items of an array at any depth. -/
def mapLeaves (f : Value → Except SqlError Value) : Value → Except SqlError Value
  | .array items => (mapLeafItems f items).map .array
  | v => f v

def mapLeafItems (f : Value → Except SqlError Value) :
    List Value → Except SqlError (List Value)
  | [] => .ok []
  | v :: rest => do
    let w ← mapLeaves f v
    return w :: (← mapLeafItems f rest)

end

/-- A conversion that keeps NULL as it is. -/
def strict (f : Value → Except SqlError Value) (v : Value) : Except SqlError Value :=
  if v.isNull then .ok .null else f v

/-- Converts a value; NULL stays NULL. -/
def apply (registry : Registry) : Conversion → Value → Except SqlError Value
  | andThen first second => strict fun v => do
    apply registry second (← apply registry first v)
  | elements (elements item) => strict fun
    | .array items => (items.mapM (apply registry (elements item))).map .array
    | v => applyScalar registry (elements (elements item)) v
  | elements item => strict fun
    | .array items => (mapLeafItems (apply registry item) items).map .array
    | v => applyScalar registry (elements item) v
  | textToArray element => strict fun
    | .text s => do
      let items ← orFail (.query (.malformedArray s)) (ArrayItem.ofText? s)
      return .array (← readItems registry items element)
    | v => applyScalar registry (textToArray element) v
  | c => strict (applyScalar registry c)

end Conversion

end SqlEngine
