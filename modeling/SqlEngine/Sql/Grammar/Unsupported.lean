import SqlEngine.Sql.Grammar.Role
import SqlEngine.Sql.Grammar.Routine
import SqlEngine.Sql.Grammar.Transfer

/-!
Other statements that the grammar accepts and the engine has no meaning for. Of each only the
beginning of its text is kept, which is what an error names it by.
-/

namespace SqlEngine

namespace Sql

namespace Grammar

open SqlEngine.Sql.Parser

/-- A view behind the words for its kind. -/
def createView (g : Grammar) (front : String) : Parser String := do
  let name ← dotted
  let _ ← columnList?
  options "WITH"
  if ← keyword? "CLUSTER" then
    keyword "BY"
    let _ ← columnList?
  keyword "AS"
  let _ ← g.query
  return front ++ "VIEW " ++ dottedText name ++ " AS"

/-- The attributes of a composite type up to the closing parenthesis, at most `most` of them. -/
def attributesUpTo (g : Grammar) : Nat → Parser Unit
  | 0 => failure
  | most + 1 => do
    let _ ← identifier
    let _ ← g.typeTerm
    let _ ← after? ["COLLATE"] dotted
    let comma ← symbol? ","
    if ← symbol? ")" then return ()
    else if comma then attributesUpTo g most
    else failure

def createType (g : Grammar) : Parser String := do
  let name ← dotted
  keyword "AS"
  if ← symbol? "(" then
    if ← symbol? ")" then pure () else attributesUpTo g ((← get).length + 1)
  return "CREATE TYPE " ++ dottedText name ++ " AS"

/-- Where the files of a database are kept, in at most `most` clauses. -/
def databaseClausesUpTo : Nat → Parser Unit
  | 0 => failure
  | most + 1 => do
    if (← oneOf? ["LOCATION", "MANAGEDLOCATION"]).isSome then
      let _ ← literalText
      databaseClausesUpTo most
    else return ()

def createDatabase : Parser String := do
  let guarded := if ← ifNotExists then "IF NOT EXISTS " else ""
  let name ← dotted
  databaseClausesUpTo ((← get).length + 1)
  return "CREATE DATABASE " ++ guarded ++ dottedText name

/-- A sequence with the options of the standard. -/
def createSequence (g : Grammar) (temporary : String) : Parser String := do
  let guarded := if ← ifNotExists then "IF NOT EXISTS " else ""
  let name ← dotted
  let type ← after? ["AS"] g.typeTerm
  let options ← sequenceOptions
  if ← keywords? ["OWNED", "BY"] then
    if ← keyword? "NONE" then pure () else let _ ← dotted
  return "CREATE " ++ temporary ++ "SEQUENCE " ++ guarded ++ dottedText name
    ++ (type.map fun type => " AS " ++ type.text).getD "" ++ options

/-- The parameters of a procedure up to the closing parenthesis, at most `most` of them. Nothing
may stand in the place of one. -/
def parametersUpTo (g : Grammar) : Nat → Parser Unit
  | 0 => failure
  | most + 1 => do
    match ← peek with
    | some (.word _) =>
      let _ ← identifier
      let _ ← g.typeTerm
    | _ => pure ()
    let comma ← symbol? ","
    if ← symbol? ")" then return ()
    else if comma then parametersUpTo g most
    else failure

/-- A procedure around a single statement, which `body` reads. -/
def createProcedure (g : Grammar) (altered : String) (body : Parser Unit) : Parser String := do
  let name ← dotted
  if ← symbol? "(" then
    if ← symbol? ")" then pure () else parametersUpTo g ((← get).length + 1)
  keywords ["AS", "BEGIN"]
  body
  keyword "END"
  return "CREATE " ++ altered ++ "PROCEDURE " ++ dottedText name

def alterView (g : Grammar) : Parser String := do
  let name ← dotted
  let columns ← columnList?
  options "WITH"
  keyword "AS"
  let _ ← g.query
  return "ALTER VIEW " ++ dottedText name ++ (if columns.isEmpty then " AS" else " ()")

def alterIndex : Parser String := do
  let name ← dotted
  keywords ["RENAME", "TO"]
  let _ ← dotted
  return "ALTER INDEX " ++ dottedText name

def savepoint : Parser String := do return "SAVEPOINT " ++ (← identifier).text

def release : Parser String := do
  let _ ← keyword? "SAVEPOINT"
  return "RELEASE SAVEPOINT " ++ (← identifier).text

def scrolling : Parser String := do
  if ← keyword? "SCROLL" then return "SCROLL "
  else if ← keywords? ["NO", "SCROLL"] then return "NO SCROLL "
  else return ""

def declareCursor (g : Grammar) : Parser String := do
  let name ← identifier
  let binary := if ← keyword? "BINARY" then "BINARY " else ""
  let sensitive := ((← oneOf? ["INSENSITIVE", "ASENSITIVE"]).map (· ++ " ")).getD ""
  let scroll ← scrolling
  keyword "CURSOR"
  if (← oneOf? ["WITH", "WITHOUT"]).isSome then keyword "HOLD"
  keyword "FOR"
  let _ ← g.query
  return "DECLARE " ++ name.text ++ " " ++ binary ++ sensitive ++ scroll ++ "CURSOR"

/-- Which rows a cursor moves over, written out. -/
def fetchDirection : Parser String := do
  match ← oneOf? ["NEXT", "PRIOR", "FIRST", "LAST", "ABSOLUTE", "RELATIVE", "FORWARD", "BACKWARD",
      "ALL"] with
  | some word =>
    let farther := word == "FORWARD" || word == "BACKWARD"
    if ← if farther then keyword? "ALL" else pure false then return word ++ " ALL"
    else if farther || word == "ABSOLUTE" || word == "RELATIVE" then
      return word ++ " " ++ (← numberValue).text
    else return word
  | none => return (← numberValue).text

def fetchRows : Parser String := do
  let direction ← fetchDirection
  let _ ← oneOf ["FROM", "IN"]
  let name ← identifier
  let _ ← after? ["INTO"] dotted
  return "FETCH " ++ direction ++ " IN " ++ name.text

def close : Parser String := do
  if ← keyword? "ALL" then return "CLOSE ALL" else return "CLOSE " ++ (← identifier).text

def discard : Parser String := do
  match ← oneOf ["ALL", "PLANS", "SEQUENCES", "TEMP", "TEMPORARY"] with
  | "TEMPORARY" => return "DISCARD TEMP"
  | word => return "DISCARD " ++ word

def use : Parser String := do return "USE " ++ (← identifier).text

def assert (g : Grammar) : Parser String := do
  let condition ← g.term
  let message ← after? ["AS"] g.term
  return "ASSERT " ++ condition.text ++ Term.prefixedText " AS " message

def comment : Parser String := do
  let guarded := if ← ifExists then "IF EXISTS " else ""
  keyword "ON"
  let kind ← oneOf ["COLUMN", "TABLE"]
  let _ ← dotted
  keyword "IS"
  if ← keyword? "NULL" then pure () else let _ ← literalText
  return "COMMENT " ++ guarded ++ "ON " ++ kind

/-- What is found out about a table, in at most `most` clauses. -/
def analysisClausesUpTo (g : Grammar) : Nat → Parser Unit
  | 0 => failure
  | most + 1 => do
    match ← oneOf? ["PARTITION", "NOSCAN", "FOR", "CACHE", "COMPUTE"] with
    | some word =>
      match word with
      | "PARTITION" => let _ ← parenthesized (commaSeparated g.term)
      | "FOR" =>
        keyword "COLUMNS"
        let _ ← attempt (commaSeparated identifier)
      | "CACHE" => keyword "METADATA"
      | "COMPUTE" => keyword "STATISTICS"
      | _ => pure ()
      analysisClausesUpTo g most
    | none => return ()

def analyze (g : Grammar) : Parser String := do
  keyword "TABLE"
  let name ← dotted
  analysisClausesUpTo g ((← get).length + 1)
  return "ANALYZE TABLE " ++ dottedText name

/-- Partitions of a table that are looked for again. -/
def repair : Parser String := do
  let word := if ← keyword? "REPAIR" then "REPAIR " else ""
  keyword "TABLE"
  let name ← dotted
  let _ ← attempt do
    let _ ← oneOf? ["ADD", "DROP", "SYNC"]
    keyword "PARTITIONS"
  return "MSCK " ++ word ++ "TABLE " ++ dottedText name

/-- The end of a connection or of what it runs. -/
def kill : Parser String := do
  let kind := ((← oneOf? ["CONNECTION", "QUERY"]).map (· ++ " ")).getD ""
  let connection ← natural
  return s!"KILL {kind}{connection}"

/-- A setting of the store, and perhaps its value. -/
def pragma : Parser String := do
  let name ← dotted
  if ← symbol? "(" then
    let _ ← numberValue
    symbol ")"
    return "PRAGMA " ++ dottedText name ++ "()"
  else if ← symbol? "=" then
    let _ ← numberValue
    return "PRAGMA " ++ dottedText name ++ " ="
  else return "PRAGMA " ++ dottedText name

def attachDatabase (g : Grammar) : Parser String := do
  let word := if ← keyword? "DATABASE" then "DATABASE " else ""
  let file ← g.term
  keyword "AS"
  let _ ← identifier
  return "ATTACH " ++ word ++ file.text ++ " AS"

/-- A table, or the rows of a query, that is kept at hand. -/
def cacheTable (g : Grammar) : Parser String := do
  let flag ←
    if ← keyword? "TABLE" then pure ""
    else
      let flag ← dotted
      keyword "TABLE"
      pure (dottedText flag ++ " ")
  let name ← dotted
  options "OPTIONS"
  match ← peek with
  | none => pure ()
  | some (.word _) =>
    let _ ← keyword? "AS"
    let _ ← g.query
  | some _ => failure
  return "CACHE " ++ flag ++ "TABLE " ++ dottedText name

def uncacheTable : Parser String := do
  keyword "TABLE"
  let guarded := if ← ifExists then "IF EXISTS " else ""
  let name ← dotted
  if (← get).isEmpty then return "UNCACHE TABLE " ++ guarded ++ dottedText name else failure

/-- A table whose rows a module hands out. -/
def createVirtualTable : Parser String := do
  keyword "TABLE"
  let _ ← ifNotExists
  let name ← dotted
  keyword "USING"
  let _ ← identifier
  let _ ← columnList?
  return "CREATE VIRTUAL TABLE " ++ dottedText name

end Grammar

end Sql

end SqlEngine
