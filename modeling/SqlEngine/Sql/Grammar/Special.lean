import SqlEngine.Sql.Grammar.Call
import SqlEngine.Sql.Grammar.TypeName
import SqlEngine.Sql.Keyword

/-!
Terms that a key word begins: the call forms with words between their arguments, conditional
terms and casts. What the engine has no meaning for is kept as a phrase.
-/

namespace SqlEngine

namespace Sql

namespace Grammar

open SqlEngine.Sql.Parser

/-- A text where only a text can stand. A word that is no key word can stand for itself. -/
def literalText : Parser String := do
  match ← next with
  | .word ⟨value, none⟩ => if Keyword.isKnown (Text.upper value) then failure else return value
  | .word ⟨value, some _⟩ => return value
  | .string text => return text
  | .escaped text => return text
  | _ => failure

/-- The name of a placeholder behind its mark. -/
def placeholderName : Parser String := do
  match ← next with
  | .word id => return id.value
  | .number digits false => return digits
  | _ => failure

/-- A constant. A word that is none must be quoted. -/
def constant : Parser Constant := do
  match ← next with
  | .word ⟨value, some quote⟩ => if quote == '"' then return .quotedWord value else failure
  | .number digits long => return .number digits long
  | .string text => return .string text
  | .escaped text => return .escaped text
  | .national text => return .national text
  | .hex digits => return .hex digits
  | .dollar text tag => return .dollar text tag
  | .placeholder text => return .placeholder text
  | .symbol spelling =>
    if spelling == ":" || spelling == "@" then return .placeholder (spelling ++ (← placeholderName))
    else failure
  | token =>
    match token.keyword? with
    | some "TRUE" => return .boolean true
    | some "FALSE" => return .boolean false
    | some "NULL" => return .null
    | _ => failure

/-- A number, or a placeholder for one. -/
def numberValue : Parser Constant := do
  match ← constant with
  | .number digits long => return .number digits long
  | .placeholder text => return .placeholder text
  | _ => failure

/-- How many rows a limit leaves; `ALL` stands for no limit. -/
def limitCount (g : Grammar) : Parser (Option Term) := do
  if ← keyword? "ALL" then return none else return some (← g.term)

/-- The units of a length of time, with their structure. -/
def timeUnits : List (String × String) :=
  [("YEAR", "Year"), ("MONTH", "Month"), ("WEEK", "Week"), ("DAY", "Day"), ("HOUR", "Hour"),
    ("MINUTE", "Minute"), ("SECOND", "Second"), ("CENTURY", "Century"), ("DECADE", "Decade"),
    ("DOW", "Dow"), ("DOY", "Doy"), ("EPOCH", "Epoch"), ("ISODOW", "Isodow"),
    ("ISOYEAR", "Isoyear"), ("JULIAN", "Julian"), ("MICROSECOND", "Microsecond"),
    ("MICROSECONDS", "Microseconds"), ("MILLENIUM", "Millenium"), ("MILLENNIUM", "Millennium"),
    ("MILLISECOND", "Millisecond"), ("MILLISECONDS", "Milliseconds"),
    ("NANOSECOND", "Nanosecond"), ("NANOSECONDS", "Nanoseconds"), ("QUARTER", "Quarter"),
    ("TIMEZONE", "Timezone"), ("TIMEZONE_HOUR", "TimezoneHour"),
    ("TIMEZONE_MINUTE", "TimezoneMinute")]

/-- The parts of a moment that have a name. -/
def timeFields : List (String × String) :=
  timeUnits ++ [("DATE", "Date"), ("DAYOFWEEK", "DayOfWeek"), ("DAYOFYEAR", "DayOfYear"),
    ("ISOWEEK", "IsoWeek"), ("TIME", "Time")]

/-- The name of a part of a moment. -/
def timeField : Parser Phrase := do
  let word ← oneOf (timeFields.map (·.1))
  return ⟨word, (timeFields.lookup word).getD word⟩

/-- The end of a length of time, which may tell how precise its seconds are. -/
def lastField : Parser (Phrase × Option Nat) := do
  let field ← timeField
  return (field, ← if field.text == "SECOND" then precision? else pure none)

/-- What a length of time consists of, apart from its amount. -/
structure IntervalParts where
  unit : Option Phrase
  precision : Option Nat
  last : Option Phrase
  fraction : Option Nat

namespace IntervalParts

def text (p : IntervalParts) : String :=
  let number (n : Option Nat) : String := (n.map fun n => s!" ({n})").getD ""
  match p.unit.map Phrase.text, p.precision, p.fraction with
  | some "SECOND", some whole, some fraction => s!" SECOND ({whole}, {fraction})"
  | _, _, _ =>
    clauseText " " p.unit ++ number p.precision ++ clauseText " TO " p.last ++ number p.fraction

end IntervalParts

/-- The units of a length of time behind its amount, and how precise they are. -/
def intervalParts : Parser IntervalParts := do
  let unit? ← oneOf? (timeUnits.map (·.1))
  let unit := unit?.map fun word => Phrase.mk word ((timeUnits.lookup word).getD word)
  if unit? == some "SECOND" then
    if ← symbol? "(" then
      let whole ← natural
      let fraction ← if ← symbol? "," then pure (some (← natural)) else pure none
      symbol ")"
      return ⟨unit, some whole, none, fraction⟩
    else return ⟨unit, none, none, none⟩
  else
    let precision ← precision?
    match ← after? ["TO"] lastField with
    | some (last, fraction) => return ⟨unit, precision, some last, fraction⟩
    | none => return ⟨unit, precision, none, none⟩

/-- A length of time behind its key word. -/
def interval (g : Grammar) : Parser Term := do
  let amount ← g.amount
  let p ← intervalParts
  return .unsupported ⟨"INTERVAL " ++ amount.text ++ p.text,
    Outline.form "Interval" (Outline.fields "Interval"
      [("value", amount.outline), ("leading_field", Outline.phrase? p.unit),
        ("leading_precision", Outline.number? p.precision), ("last_field", Outline.phrase? p.last),
        ("fractional_seconds_precision", Outline.number? p.fraction)])⟩

/-- How far away the end of a window is. -/
def frameAmount (g : Grammar) : Parser Term := do
  match ← peek with
  | some (.string _) => interval g
  | _ => g.term

/-- The branches of a conditional term behind its first `WHEN`, of which there are at most
`most`. -/
def branchesUpTo (g : Grammar) : Nat → Parser (List (Term × Term))
  | 0 => failure
  | most + 1 => do
    let condition ← g.term
    keyword "THEN"
    let result ← g.term
    if ← keyword? "WHEN" then return (condition, result) :: (← branchesUpTo g most)
    else return [(condition, result)]

def case (g : Grammar) : Parser Term := do
  let operand ←
    if ← keyword? "WHEN" then pure none
    else
      let operand ← g.term
      keyword "WHEN"
      pure (some operand)
  let branches ← branchesUpTo g ((← get).length + 1)
  let otherwise ← after? ["ELSE"] g.term
  keyword "END"
  return .case operand branches otherwise

/-- The format of a cast, if there is one. -/
def castFormat : Parser (Option Phrase) := do
  if ← keyword? "FORMAT" then
    let format ← constant
    if ← keywords? ["AT", "TIME", "ZONE"] then
      let zone ← constant
      return some ⟨format.text ++ " AT TIME ZONE " ++ zone.text,
        Outline.tuple "ValueAtTimeZone" [format.outline, zone.outline]⟩
    else return some ⟨format.text, Outline.form "Value" format.outline⟩
  else return none

/-- A cast as a call. -/
def cast (g : Grammar) : Parser Term := parenthesized do
  let term ← g.term
  keyword "AS"
  let type ← g.typeTerm
  return .cast term type.phrase (← castFormat)

/-- A cast that gives null for what cannot be cast. -/
def lenientCast (g : Grammar) (name outline : String) : Parser Term := do
  let term ← cast g
  return .unsupported
    ⟨name ++ (term.text.drop 4).toString, outline ++ (term.outline.drop 4).toString⟩

def convert (g : Grammar) : Parser Term := parenthesized do
  let term ← g.term
  let outline (type charset : Option String) : String :=
    Outline.fields "Convert"
      [("expr", term.outline), ("data_type", Outline.option type),
        ("charset", Outline.option charset)]
  if ← keyword? "USING" then
    let charset ← dotted
    return .unsupported ⟨"CONVERT(" ++ term.text ++ " USING " ++ dottedText charset ++ ")",
      outline none (some (dottedOutline charset))⟩
  else
    symbol ","
    let type ← g.typeTerm
    let charset ← after? ["CHARACTER", "SET"] dotted
    return .unsupported ⟨"CONVERT(" ++ term.text ++ ", " ++ type.text
      ++ (charset.map fun name => " CHARACTER SET " ++ dottedText name).getD "" ++ ")",
      outline (some type.phrase.outline) (charset.map dottedOutline)⟩

def existence (g : Grammar) (negated : Bool) : Parser Term := do
  return .exists (← parenthesized g.query) negated

def extract (g : Grammar) : Parser Term := parenthesized do
  let field ← timeField
  keyword "FROM"
  let term ← g.term
  return .unsupported ⟨"EXTRACT(" ++ field.text ++ " FROM " ++ term.text ++ ")",
    Outline.fields "Extract" [("field", field.outline), ("expr", term.outline)]⟩

/-- The next whole number above or below. -/
def rounding (g : Grammar) (name : String) : Parser Term := parenthesized do
  let term ← g.term
  let field ← after? ["TO"] timeField
  return .unsupported ⟨name ++ "(" ++ term.text ++ clauseText " TO " field ++ ")",
    Outline.fields (Outline.capitalized name)
      [("expr", term.outline), ("field", (field.map Phrase.outline).getD "NoDateTime")]⟩

def position (g : Grammar) : Parser Term := parenthesized do
  let part ← g.operand 20
  keyword "IN"
  let term ← g.term
  return .unsupported ⟨"POSITION(" ++ part.text ++ " IN " ++ term.text ++ ")",
    Outline.fields "Position" [("expr", part.outline), ("in", term.outline)]⟩

/-- A term behind a comma or the given key word, if either comes next. -/
def afterComma? (g : Grammar) (word : String) : Parser (Option Term) := do
  if ← symbol? "," then return some (← g.term) else after? [word] g.term

def substring (g : Grammar) : Parser Term := parenthesized do
  let term ← g.term
  let start ← afterComma? g "FROM"
  let length ← afterComma? g "FOR"
  return .unsupported ⟨"SUBSTRING(" ++ term.text ++ Term.prefixedText " FROM " start
      ++ Term.prefixedText " FOR " length ++ ")",
    Outline.fields "Substring"
      [("expr", term.outline), ("substring_from", Term.outline? start),
        ("substring_for", Term.outline? length), ("special", "false")]⟩

def overlay (g : Grammar) : Parser Term := parenthesized do
  let term ← g.term
  keyword "PLACING"
  let patch ← g.term
  keyword "FROM"
  let start ← g.term
  let length ← after? ["FOR"] g.term
  return .unsupported ⟨"OVERLAY(" ++ term.text ++ " PLACING " ++ patch.text ++ " FROM "
      ++ start.text ++ Term.prefixedText " FOR " length ++ ")",
    Outline.fields "Overlay"
      [("expr", term.outline), ("overlay_what", patch.outline), ("overlay_from", start.outline),
        ("overlay_for", Term.outline? length)]⟩

/-- A text without some characters at its ends: which end, which characters, and the text. -/
def trimmed (side : Option String) (what : Option Term) (term : Term) : Term :=
  .unsupported ⟨"TRIM(" ++ (side.map (· ++ " ")).getD "" ++ (match what with
      | some what => what.text ++ " FROM "
      | none => "") ++ term.text ++ ")",
    Outline.fields "Trim"
      [("expr", term.outline), ("trim_where", Outline.option (side.map Outline.capitalized)),
        ("trim_what", Term.outline? what), ("trim_characters", "None")]⟩

def trim (g : Grammar) : Parser Term := parenthesized do
  let side ← oneOf? ["BOTH", "LEADING", "TRAILING"]
  let term ← g.term
  if ← keyword? "FROM" then return trimmed side (some term) (← g.term)
  else
    let _ ← symbol? ","
    return trimmed side none term

/-- What a list does when it grows too long. -/
def overflow (g : Grammar) : Parser (Option Phrase) := do
  if ← keywords? ["ON", "OVERFLOW"] then
    if ← keyword? "ERROR" then return some ⟨" ON OVERFLOW ERROR", "Error"⟩
    else
      keyword "TRUNCATE"
      let filler ← match ← peek with
        | some (.string _) | some (.escaped _) | some (.national _) | some (.hex _) =>
          pure (some (← g.term))
        | _ => pure none
      let count ← oneOf ["WITH", "WITHOUT"]
      keyword "COUNT"
      return some ⟨" ON OVERFLOW TRUNCATE" ++ Term.prefixedText " " filler ++ " " ++ count
          ++ " COUNT",
        Outline.fields "Truncate"
          [("filler", Term.outline? filler), ("with_count", toString (count == "WITH"))]⟩
  else return none

def listAggregate (g : Grammar) : Parser Term := do
  let (distinct, term, separator, overflow) ← parenthesized do
    let distinct ← distinctness g
    let term ← g.term
    let separator ← if ← symbol? "," then pure (some (← g.term)) else pure none
    return (distinct.isSome, term, separator, ← overflow g)
  let keys ←
    if ← keywords? ["WITHIN", "GROUP"] then
      parenthesized do
        keywords ["ORDER", "BY"]
        commaSeparated (orderTerm g)
    else pure []
  return .unsupported ⟨"LISTAGG(" ++ (if distinct then "DISTINCT " else "") ++ term.text
      ++ Term.prefixedText ", " separator ++ clauseText "" overflow ++ ")"
      ++ (if keys.isEmpty then ""
        else " WITHIN GROUP (ORDER BY " ++ commas (OrderTerm.texts keys) ++ ")"),
    Outline.form "ListAgg" (Outline.fields "ListAgg"
      [("distinct", toString distinct), ("expr", term.outline),
        ("separator", Term.outline? separator), ("on_overflow", Outline.phrase? overflow),
        ("within_group", Outline.list (OrderTerm.outlines keys))])⟩

def arrayAggregate (g : Grammar) : Parser Term := parenthesized do
  let distinct ← keyword? "DISTINCT"
  let term ← g.term
  let keys ← orderBy g
  return .arrayAgg distinct term keys (← after? ["LIMIT"] (limitCount g)).join

/-- The items of an array behind the opening bracket. -/
def arrayItems (g : Grammar) (named : Bool) : Parser Term := do
  if ← symbol? "]" then return .array [] named
  else
    let items ← commaSeparated g.term
    symbol "]"
    return .array items named

def negation (g : Grammar) : Parser Term := do
  if ← keyword? "EXISTS" then existence g true
  else return .unary .negation (← g.operand 15)

/-- A function that tells the time, which may do without parentheses. -/
def clock (g : Grammar) (name : Ident) : Parser Term := do
  if ← symbol? "(" then
    let (args, keys) ← orderedArguments g
    return .call ⟨[name], false, false, none, none⟩ args keys none
  else return .call ⟨[name], false, true, none, none⟩ [] [] none

/-- The term that the given key word begins, if it begins one that differs from a mere name. -/
def keywordTerm? (g : Grammar) (id : Ident) (word : String) (following : Option Token) :
    Option (Parser Term) :=
  match word with
  | "TRUE" => some (return .constant (.boolean true))
  | "FALSE" => some (return .constant (.boolean false))
  | "NULL" => some (return .constant .null)
  | "CASE" => some (case g)
  | "CONVERT" => some (convert g)
  | "CAST" => some (cast g)
  | "TRY_CAST" => some (lenientCast g word "TryCast")
  | "SAFE_CAST" => some (lenientCast g word "SafeCast")
  | "EXISTS" => some (existence g false)
  | "EXTRACT" => some (extract g)
  | "CEIL" | "FLOOR" => some (rounding g word)
  | "SUBSTRING" => some (substring g)
  | "OVERLAY" => some (overlay g)
  | "TRIM" => some (trim g)
  | "INTERVAL" => some (interval g)
  | "LISTAGG" => some (listAggregate g)
  | "ARRAY_AGG" => some (arrayAggregate g)
  | "NOT" => some (negation g)
  | "POSITION" => if following == some (.symbol "(") then some (position g) else none
  | "ARRAY" =>
    if following == some (.symbol "[") then some do
      symbol "["
      arrayItems g true
    else if following == some (.symbol "(") then some do
      let query ← parenthesized g.query
      return .unsupported
        ⟨"ARRAY(" ++ query.text ++ ")", Outline.form "ArraySubquery" query.outline⟩
    else none
  | _ =>
    if ["CURRENT_CATALOG", "CURRENT_USER", "SESSION_USER", "USER"].contains word then
      some (return .call ⟨[id], false, true, none, none⟩ [] [] none)
    else if ["CURRENT_TIMESTAMP", "CURRENT_TIME", "CURRENT_DATE", "LOCALTIME",
        "LOCALTIMESTAMP"].contains word then some (clock g id)
    else none

end Grammar

end Sql

end SqlEngine
