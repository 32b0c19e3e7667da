import SqlEngine.Sql.Grammar.Special

/-!
The clauses at the end of a query: limits, locks on the rows, and the form in which the rows are
wanted. Only the limits have a meaning for the engine.
-/

namespace SqlEngine

namespace Sql

namespace Grammar

open SqlEngine.Sql.Parser

/-- How many rows are kept and how many are left out. -/
structure Limits where
  limit : Option Term
  offset : Option Term
  unit : OffsetUnit

def offsetUnit : Parser OffsetUnit := do
  match ← oneOf? ["ROW", "ROWS"] with
  | some "ROW" => return .row
  | some _ => return .rows
  | none => return .absent

/-- A limit and an offset in either order, each at most once; `LIMIT ALL` counts as none. -/
def limitsFrom (g : Grammar) (l : Limits) : Nat → Parser Limits
  | 0 => return l
  | turns + 1 => do
    let limit ←
      if l.limit.isNone then pure (← after? ["LIMIT"] (limitCount g)).join else pure l.limit
    let offset ← if l.offset.isNone then after? ["OFFSET"] g.term else pure none
    match offset with
    | some count => limitsFrom g ⟨limit, some count, ← offsetUnit⟩ turns
    | none => limitsFrom g { l with limit } turns

def limits (g : Grammar) : Parser Limits := limitsFrom g ⟨none, none, .absent⟩ 2

/-- A `FETCH` clause. -/
def fetch? : Parser (Option Phrase) := do
  if ← keyword? "FETCH" then
    let _ ← oneOf ["FIRST", "NEXT"]
    let counted := (← oneOf? ["ROW", "ROWS"]).isNone
    let quantity ← if counted then pure (some (← constant)) else pure none
    let percent ← if counted then keyword? "PERCENT" else pure false
    if counted then let _ ← oneOf ["ROW", "ROWS"]
    let ties := !(← keyword? "ONLY")
    if ties then keywords ["WITH", "TIES"]
    let text := (quantity.map fun quantity => " " ++ quantity.text).getD ""
      ++ (if percent then " PERCENT" else "")
    return some ⟨"FETCH FIRST" ++ text ++ (if ties then " ROWS WITH TIES" else " ROWS ONLY"),
      Outline.fields "Fetch"
        [("with_ties", toString ties), ("percent", toString percent),
          ("quantity", Outline.option (quantity.map fun c => Outline.form "Value" c.outline))]⟩
  else return none

/-- A lock on the rows behind its first word. -/
def lock : Parser Phrase := do
  let kind ← oneOf ["UPDATE", "SHARE"]
  let table ← after? ["OF"] dotted
  let waiting : Option Phrase ←
    if ← keyword? "NOWAIT" then pure (some ⟨"NOWAIT", "Nowait"⟩)
    else
      let skipped ← keywords? ["SKIP", "LOCKED"]
      pure (if skipped then some ⟨"SKIP LOCKED", "SkipLocked"⟩ else none)
  return ⟨"FOR " ++ kind ++ (table.map fun name => " OF " ++ dottedText name).getD ""
      ++ clauseText " " waiting,
    Outline.fields "LockClause"
      [("lock_type", Outline.capitalized kind), ("of", Outline.option (table.map dottedOutline)),
        ("nonblock", Outline.phrase? waiting)]⟩

/-- A text in parentheses. -/
def nameInParentheses : Parser String := parenthesized literalText

def nameInParentheses? : Parser (Option String) := do
  if (← peek) == some (.symbol "(") then return some (← nameInParentheses) else return none

/-- What is asked of rows that are wanted as a document: an outermost name, and switches. -/
structure DocumentOptions where
  root : Option String
  switches : List String

namespace DocumentOptions

def rootText (o : DocumentOptions) : String :=
  (o.root.map fun name => ", ROOT('" ++ name ++ "')").getD ""

def rootOutline (o : DocumentOptions) : String := Outline.option (o.root.map Diagnostic.quoted)

/-- A switch written out, if it is on. -/
def switchText (o : DocumentOptions) (name : String) : String :=
  if o.switches.contains name then ", " ++ name else ""

def switchOutline (o : DocumentOptions) (name : String) : String :=
  toString (o.switches.contains name)

end DocumentOptions

/-- One option behind a comma; a comma may also stand by itself. -/
def documentOption (switches : List (List String)) (o : DocumentOptions) :
    Parser DocumentOptions := do
  if ← keyword? "ROOT" then return { o with root := some (← nameInParentheses) }
  else
    match ← oneOf? (switches.filterMap List.head?) with
    | some first =>
      let words := (switches.find? (·.head? == some first)).getD [first]
      keywords (words.drop 1)
      return { o with switches := " ".intercalate words :: o.switches }
    | none => return o

/-- The options of a document, of which there are at most `most`. -/
def documentOptionsUpTo (switches : List (List String)) (o : DocumentOptions) :
    Nat → Parser DocumentOptions
  | 0 => failure
  | most + 1 => do
    if ← symbol? "," then documentOptionsUpTo switches (← documentOption switches o) most
    else return o

def documentOptions (switches : List (List String)) : Parser DocumentOptions := do
  documentOptionsUpTo switches ⟨none, []⟩ ((← get).length + 1)

/-- A kind of document that may name its elements. -/
def elementKind (word : String) : Parser Phrase := do
  let name ← nameInParentheses?
  return ⟨word ++ (name.map fun name => "('" ++ name ++ "')").getD "",
    Outline.form (Outline.capitalized word) (Outline.option (name.map Diagnostic.quoted))⟩

/-- Rows that are wanted in XML. -/
def xmlOutput : Parser Phrase := do
  let word ← oneOf ["RAW", "AUTO", "EXPLICIT", "PATH"]
  let kind ← if word == "RAW" || word == "PATH" then elementKind word
    else pure ⟨word, Outline.capitalized word⟩
  let o ← documentOptions [["ELEMENTS"], ["BINARY", "BASE64"], ["TYPE"]]
  return ⟨"FOR XML " ++ kind.text ++ o.switchText "BINARY BASE64" ++ o.switchText "TYPE"
      ++ o.rootText ++ o.switchText "ELEMENTS",
    Outline.fields "Xml"
      [("for_xml", kind.outline), ("elements", o.switchOutline "ELEMENTS"),
        ("binary_base64", o.switchOutline "BINARY BASE64"), ("root", o.rootOutline),
        ("type", o.switchOutline "TYPE")]⟩

/-- Rows that are wanted in JSON. -/
def jsonOutput : Parser Phrase := do
  let word ← oneOf ["AUTO", "PATH"]
  let o ← documentOptions [["INCLUDE_NULL_VALUES"], ["WITHOUT_ARRAY_WRAPPER"]]
  return ⟨"FOR JSON " ++ word ++ o.rootText ++ o.switchText "INCLUDE_NULL_VALUES"
      ++ o.switchText "WITHOUT_ARRAY_WRAPPER",
    Outline.fields "Json"
      [("for_json", Outline.capitalized word), ("root", o.rootOutline),
        ("include_null_values", o.switchOutline "INCLUDE_NULL_VALUES"),
        ("without_array_wrapper", o.switchOutline "WITHOUT_ARRAY_WRAPPER")]⟩

/-- The locks on the rows and the form in which they are wanted, which ends the clauses; there are
at most `most` of them. -/
def outputUpTo : Nat → Parser (List Phrase × Option Phrase)
  | 0 => failure
  | most + 1 => do
    if ← keyword? "FOR" then
      match ← oneOf? ["XML", "JSON", "BROWSE"] with
      | some "XML" => return ([], some (← xmlOutput))
      | some "JSON" => return ([], some (← jsonOutput))
      | some _ => return ([], some ⟨"FOR BROWSE", "Browse"⟩)
      | none =>
        let first ← lock
        let (later, output) ← outputUpTo most
        return (first :: later, output)
    else return ([], none)

/-- What a query has behind its order and its limits. -/
def queryTail : Parser QueryTail := do
  let fetch ← fetch?
  let (locks, output) ← outputUpTo ((← get).length + 1)
  return ⟨fetch, locks, output⟩

end Grammar

end Sql

end SqlEngine
