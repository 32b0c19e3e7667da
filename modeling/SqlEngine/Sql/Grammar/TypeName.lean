import SqlEngine.Sql.Grammar.Basic

/-!
The names of types: those of the standard, which may take a length or a precision, and any other
name, which may take whatever stands in parentheses.
-/

namespace SqlEngine

namespace Sql

namespace Grammar

open SqlEngine.Sql.Parser

/-- A part of a type, written out behind its name. -/
structure TypePart where
  text : String
  outline : String

/-- A number in parentheses, if there is one. -/
def precision? : Parser (Option Nat) := do
  if ← symbol? "(" then
    let n ← natural
    symbol ")"
    return some n
  else return none

/-- A number in parentheses, if there is one, as a part of a type. -/
def precision : Parser TypePart := do
  let n ← precision?
  return ⟨(n.map fun n => s!"({n})").getD "", Outline.number? n⟩

/-- One or two numbers in parentheses, if there are any. -/
def precisionAndScale : Parser TypePart := do
  if ← symbol? "(" then
    let n ← natural
    let scale? ← if ← symbol? "," then pure (some (← natural)) else pure none
    symbol ")"
    match scale? with
    | some scale =>
      return ⟨s!"({n},{scale})", Outline.tuple "PrecisionAndScale" [toString n, toString scale]⟩
    | none => return ⟨s!"({n})", Outline.form "Precision" (toString n)⟩
  else return ⟨"", "None"⟩

/-- A length of a text type, if there is one. -/
def characterLength : Parser TypePart := do
  if ← symbol? "(" then
    let length ← do
      if ← keyword? "MAX" then pure ⟨"MAX", "Max"⟩
      else
        let n ← natural
        let unit ← oneOf? ["CHARACTERS", "OCTETS"]
        pure (TypePart.mk (toString n ++ (unit.map (" " ++ ·)).getD "")
          (Outline.fields "IntegerLength"
            [("length", toString n), ("unit", Outline.option (unit.map Outline.capitalized))]))
    symbol ")"
    return ⟨"(" ++ length.text ++ ")", Outline.form "Some" length.outline⟩
  else return ⟨"", "None"⟩

def timeZone : Parser TypePart := do
  if ← keyword? "WITH" then
    keywords ["TIME", "ZONE"]
    return ⟨" WITH TIME ZONE", "WithTimeZone"⟩
  else if ← keyword? "WITHOUT" then
    keywords ["TIME", "ZONE"]
    return ⟨" WITHOUT TIME ZONE", "WithoutTimeZone"⟩
  else return ⟨"", "None"⟩

/-- A type that a key word names by itself. -/
def plainType (name outline : String) : Parser Phrase := return ⟨name, outline⟩

/-- A type name and a part that belongs to it. -/
def typeWith (name outline : String) (part : Parser TypePart) : Parser Phrase := do
  let part ← part
  return ⟨name ++ part.text, Outline.form outline part.outline⟩

def integerType (name outline : String) : Parser Phrase := do
  let size ← precision
  if ← keyword? "UNSIGNED" then
    return ⟨name ++ size.text ++ " UNSIGNED", Outline.form ("Unsigned" ++ outline) size.outline⟩
  else return ⟨name ++ size.text, Outline.form outline size.outline⟩

def characterType (name outline : String) : Parser Phrase := do
  if ← keyword? "VARYING" then
    typeWith (name ++ " VARYING") (outline ++ "Varying") characterLength
  else if ← keywords? ["LARGE", "OBJECT"] then
    typeWith (name ++ " LARGE OBJECT") (outline ++ "LargeObject") precision
  else typeWith name outline characterLength

/-- A type of moments: its precision and whether it knows the time zone. -/
def timeType (name outline : String) : Parser Phrase := do
  let size ← precision
  let zone ← timeZone
  return ⟨name ++ size.text ++ zone.text, Outline.tuple outline [size.outline, zone.outline]⟩

/-- The type of moments in a time zone, by its short name. -/
def zonedType (name outline : String) : Parser Phrase := do
  let size ← precision
  return ⟨name ++ size.text, Outline.tuple outline [size.outline, "Tz"]⟩

/-- The texts of an enumeration that is a type by itself. -/
def textValues : Parser TypePart := do
  let values ← parenthesized <| commaSeparated do
    match ← next with
    | .string text => return text
    | _ => failure
  return ⟨"(" ++ commas (values.map (Quoted.within '\'')) ++ ")", Outline.texts values⟩

/-- The modifiers of a type that the grammar knows nothing of, of which there are at most `most`. -/
def modifiersUpTo : Nat → Parser (List String)
  | 0 => failure
  | most + 1 => do
    match ← next with
    | .symbol ")" => return []
    | .symbol "," => modifiersUpTo most
    | .word id => return (Token.word id).text :: (← modifiersUpTo most)
    | .number digits _ => return digits :: (← modifiersUpTo most)
    | .string text => return text :: (← modifiersUpTo most)
    | _ => failure

def customType : Parser Phrase := do
  let name ← dotted
  let modifiers ← if ← symbol? "(" then modifiersUpTo ((← get).length + 1) else pure []
  return ⟨dottedText name ++ (if modifiers.isEmpty then "" else "(" ++ commas modifiers ++ ")"),
    Outline.tuple "Custom" [dottedOutline name, Outline.texts modifiers]⟩

/-- The types that their key word names completely, with their structure. -/
def plainTypes : List (String × String) :=
  [("BOOLEAN", "Boolean"), ("BOOL", "Bool"), ("REAL", "Real"), ("FLOAT4", "Float4"),
    ("FLOAT64", "Float64"), ("FLOAT8", "Float8"), ("UUID", "Uuid"), ("DATE", "Date"),
    ("JSON", "JSON"), ("REGCLASS", "Regclass"), ("TEXT", "Text"), ("BYTEA", "Bytea"),
    ("INT64", "Int64")]

def integerTypes : List (String × String) :=
  [("TINYINT", "TinyInt"), ("INT2", "Int2"), ("SMALLINT", "SmallInt"), ("MEDIUMINT", "MediumInt"),
    ("INT", "Int"), ("INT4", "Int4"), ("INTEGER", "Integer"), ("BIGINT", "BigInt"),
    ("INT8", "Int8")]

/-- The types that may take a length. -/
def sizedTypes : List (String × String) :=
  [("FLOAT", "Float"), ("NVARCHAR", "Nvarchar"), ("CLOB", "Clob"), ("BINARY", "Binary"),
    ("VARBINARY", "Varbinary"), ("BLOB", "Blob"), ("BYTES", "Bytes"), ("DATETIME", "Datetime"),
    ("STRING", "String")]

/-- The types that may take a precision and a scale. -/
def exactTypes : List (String × String) :=
  [("NUMERIC", "Numeric"), ("DECIMAL", "Decimal"), ("DEC", "Dec"), ("BIGNUMERIC", "BigNumeric"),
    ("BIGDECIMAL", "BigDecimal")]

/-- The standard type that the given key word begins, if it begins one that has no type inside. -/
def standardType? (word : String) : Option (Parser Phrase) :=
  match plainTypes.lookup word, integerTypes.lookup word, sizedTypes.lookup word,
    exactTypes.lookup word with
  | some outline, _, _, _ => some (plainType word outline)
  | _, some outline, _, _ => some (integerType word outline)
  | _, _, some outline, _ => some (typeWith word outline precision)
  | _, _, _, some outline => some (typeWith word outline precisionAndScale)
  | _, _, _, _ =>
    match word with
    | "CHARACTER" => some (characterType word "Character")
    | "CHAR" => some (characterType word "Char")
    | "VARCHAR" => some (typeWith word "Varchar" characterLength)
    | "TIMESTAMP" => some (timeType word "Timestamp")
    | "TIME" => some (timeType word "Time")
    | "TIMESTAMPTZ" => some (zonedType word "Timestamp")
    | "TIMETZ" => some (zonedType word "Time")
    | "ENUM" => some (typeWith word "Enum" textValues)
    | "SET" => some (typeWith word "Set" textValues)
    | "DOUBLE" => some do
      if ← keyword? "PRECISION" then return ⟨"DOUBLE PRECISION", "DoublePrecision"⟩
      else return ⟨"DOUBLE", "Double"⟩
    | _ => none

/-- The closing angle bracket of a type, unless a type inside took it along. Two brackets written
together also close the type around this one, which is what the result tells. -/
def closingBracket (closed : Bool) : Parser Bool := do
  if closed then return false
  else if ← symbol? ">" then return false
  else
    symbol ">>"
    return true

/-- A type of arrays behind its key word. -/
def arrayType (g : Grammar) : Parser (Phrase × Bool) := do
  symbol "<"
  let (element, closed) ← g.innerType
  let outer ← closingBracket closed
  return (⟨"ARRAY<" ++ element.text ++ ">",
    Outline.form "Array" (Outline.form "AngleBracket" element.phrase.outline)⟩, outer)

/-- A type with the brackets behind it that make it a type of arrays, at most `most` pairs. -/
def bracketedUpTo (type : TypeTerm) : Nat → Parser TypeTerm
  | 0 => failure
  | most + 1 => do
    if ← symbol? "[" then
      symbol "]"
      let array : Phrase := ⟨type.text ++ "[]",
        Outline.form "Array" (Outline.form "SquareBracket" type.phrase.outline)⟩
      bracketedUpTo ⟨array, .standard⟩ most
    else return type

/-- The name of a type, and whether the closing bracket of a type around it was taken along. -/
def typeTermOver (g : Grammar) : Parser (TypeTerm × Bool) := do
  let (type, outer) ← do
    match (← peek).bind Token.keyword? with
    | some "INTERVAL" =>
      let _ ← next
      pure (TypeTerm.mk ⟨"INTERVAL", "Interval"⟩ .interval, false)
    | some "ARRAY" =>
      let _ ← next
      let (phrase, outer) ← arrayType g
      pure (⟨phrase, .standard⟩, outer)
    | some word =>
      match standardType? word with
      | some rest =>
        let _ ← next
        pure (⟨← rest, .standard⟩, false)
      | none => pure (⟨← customType, .custom⟩, false)
    | none =>
      match ← peek with
      | some (.word _) => pure (⟨← customType, .custom⟩, false)
      | _ => failure
  return (← bracketedUpTo type ((← get).length + 1), outer)

/-- A type all of whose brackets are its own. -/
def completeType (type : Parser (TypeTerm × Bool)) : Parser TypeTerm := do
  let (type, outer) ← type
  if outer then failure else return type

end Grammar

end Sql

end SqlEngine
