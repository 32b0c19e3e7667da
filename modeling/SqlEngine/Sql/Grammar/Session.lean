import SqlEngine.Sql.Grammar.Change
import SqlEngine.Sql.Grammar.Special
import SqlEngine.Sql.Statement

/-!
The grammar of statements about transactions and settings.
-/

namespace SqlEngine

namespace Sql

namespace Grammar

open SqlEngine.Sql.Parser

/-- One mode of a transaction, written out, if one comes next. -/
def transactionMode? : Parser (Option String) := do
  if ← keywords? ["ISOLATION", "LEVEL"] then
    if ← keywords? ["READ", "UNCOMMITTED"] then return some "ISOLATION LEVEL READ UNCOMMITTED"
    else if ← keywords? ["READ", "COMMITTED"] then return some "ISOLATION LEVEL READ COMMITTED"
    else if ← keywords? ["REPEATABLE", "READ"] then return some "ISOLATION LEVEL REPEATABLE READ"
    else
      keyword "SERIALIZABLE"
      return some "ISOLATION LEVEL SERIALIZABLE"
  else if ← keywords? ["READ", "ONLY"] then return some "READ ONLY"
  else if ← keywords? ["READ", "WRITE"] then return some "READ WRITE"
  else return none

/-- The modes of a transaction, of which there are at most `most`; one must follow a comma. -/
def transactionModesUpTo (required : Bool) : Nat → Parser (List String)
  | 0 => failure
  | most + 1 => do
    match ← transactionMode? with
    | some mode =>
      let comma ← symbol? ","
      return mode :: (← transactionModesUpTo comma most)
    | none => if required then failure else return []

def transactionModes : Parser (List String) := do
  transactionModesUpTo false ((← get).length + 1)

/-- What may follow the word that ends a transaction; tells whether another one begins. -/
def chain : Parser Bool := do
  let _ ← oneOf? ["TRANSACTION", "WORK"]
  if ← keyword? "AND" then
    let negated ← keyword? "NO"
    keyword "CHAIN"
    return !negated
  else return false

def commit : Parser Statement := do return .commit (← chain)

/-- The end of a transaction; a savepoint to go back to makes no difference. -/
def rollback : Parser Statement := do
  let chained ← chain
  if ← keyword? "TO" then
    let _ ← keyword? "SAVEPOINT"
    return .rollback chained (some (← identifier))
  else return .rollback chained none

def startTransaction : Parser Statement := do
  keyword "TRANSACTION"
  let _ ← transactionModes
  return .startTransaction "START"

def begin : Parser Statement := do
  let _ ← oneOf? ["TRANSACTION", "WORK"]
  let _ ← transactionModes
  return .startTransaction "BEGIN"

/-- The modes of coming transactions, written out behind the given text. -/
def transactionSettings (front : String) : Parser Statement := do
  let modes ← transactionModes
  return .unsupported (if modes.isEmpty then front else front ++ " " ++ commas modes)

/-- The role that is taken on; the scope stands in front of the word. -/
def role (scope : Option String) : Parser Statement := do
  keyword "ROLE"
  let name ← if ← keyword? "NONE" then pure "NONE" else pure (← identifier).text
  return .unsupported ("SET" ++ (scope.map (" " ++ ·)).getD "" ++ " ROLE " ++ name)

/-- A setting other than a role. -/
def setting (g : Grammar) (scope : Option String) : Parser Statement := do
  let scopeText := ([("LOCAL", "LOCAL "), ("HIVEVAR", "HIVEVAR:")].lookup (scope.getD "")).getD ""
  let name ← if ← keywords? ["TIME", "ZONE"] then pure [Ident.bare "TIMEZONE"] else dotted
  let equals ← symbol? "="
  let marked ← if equals then pure true else keyword? "TO"
  if marked then
    return .setVariable scopeText name (← commaSeparated g.term)
  else if (dottedText name).map Char.toUpper == "TIMEZONE" then
    let _ ← g.term
    return .setTimeZone scopeText
  else if dottedText name == "CHARACTERISTICS" then
    keywords ["AS", "TRANSACTION"]
    transactionSettings "SET SESSION CHARACTERISTICS AS TRANSACTION"
  else if dottedText name == "TRANSACTION" && scope.isNone then
    if ← keyword? "SNAPSHOT" then
      let _ ← constant
      return .unsupported "SET TRANSACTION SNAPSHOT"
    else transactionSettings "SET TRANSACTION"
  else failure

/-- A setting behind its key word. -/
def setVariable (g : Grammar) : Parser Statement := do
  let scope ← oneOf? ["SESSION", "LOCAL", "HIVEVAR"]
  if scope == some "HIVEVAR" then
    symbol ":"
    setting g scope
  else
    match ← attempt (role scope) with
    | some statement => return statement
    | none => setting g scope

/-- A filter of what is shown, written out behind a blank. -/
def showFilter (g : Grammar) : Parser String := do
  match ← oneOf? ["LIKE", "ILIKE", "WHERE"] with
  | some "WHERE" => return " WHERE " ++ (← g.term).text
  | some word => return " " ++ word ++ " " ++ Quoted.within '\'' (← literalText)
  | none => return ""

/-- The database whose tables are shown, behind a blank. -/
def shownDatabase : Parser String := do
  if (← oneOf? ["FROM", "IN"]).isSome then return " FROM " ++ (← identifier).text else return ""

/-- What is shown, behind the key word. -/
def showVariable (g : Grammar) : Parser Statement := do
  let extended ← keyword? "EXTENDED"
  let full ← keyword? "FULL"
  let _ ← keyword? "SESSION"
  let _ ← keyword? "GLOBAL"
  let front := (if extended then "EXTENDED " else "") ++ (if full then "FULL " else "")
  if (← oneOf? ["COLUMNS", "FIELDS"]).isSome then
    let _ ← oneOf ["FROM", "IN"]
    let table ← dotted
    let _ ← shownDatabase
    let _ ← showFilter g
    return .unsupported ("SHOW " ++ front ++ "COLUMNS FROM " ++ dottedText table)
  else if ← keyword? "TABLES" then
    let database ← shownDatabase
    return .unsupported ("SHOW " ++ front ++ "TABLES" ++ database ++ (← showFilter g))
  else if ← keyword? "FUNCTIONS" then
    return .unsupported ("SHOW FUNCTIONS" ++ (← showFilter g))
  else if extended || full then failure
  else if ← keyword? "CREATE" then
    let kind ← oneOf ["TABLE", "TRIGGER", "FUNCTION", "PROCEDURE", "EVENT", "VIEW"]
    let _ ← dotted
    return .unsupported ("SHOW CREATE " ++ kind)
  else if ← keyword? "COLLATION" then
    return .unsupported ("SHOW COLLATION" ++ (← showFilter g))
  else
    let _ ← keyword? "VARIABLES"
    let (words, rest) := assignedColumn (← get)
    set rest
    return .showVariable words

end Grammar

end Sql

end SqlEngine
