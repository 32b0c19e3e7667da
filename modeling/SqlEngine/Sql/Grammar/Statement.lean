import SqlEngine.Sql.Grammar.Query
import SqlEngine.Sql.Grammar.Session
import SqlEngine.Sql.Grammar.Term
import SqlEngine.Sql.Grammar.Unsupported

/-!
The grammar of statements, told apart by their first words.
-/

namespace SqlEngine

/-! ### The knot of the grammar

The knot of the grammar. Each level reads its parts with the level below, and every step down
either takes a token or is one of the few in a row that take none, so a text of some length is
read in full by a level that grows with the length.
-/

namespace Sql

namespace Grammar

open SqlEngine.Sql.Parser

def level : Nat → Grammar
  | 0 => empty
  | n + 1 =>
    let below := level n
    { term := nested (operandOver below 0)
      operand := operandOver below
      amount := amountOver below
      query := nested (queryOver below)
      body := bodyOver below
      tables := tablesOver below
      typeTerm := completeType (typeTermOver below)
      innerType := typeTermOver below }

/-- The grammar for a text of the given number of tokens. -/
def forLength (tokens : Nat) : Grammar := level (8 * (tokens + 2))

/-! ### Statements -/

/-- A change behind the queries in front of it, which are dropped. -/
def boundChange (g : Grammar) : Parser Change := nested do
  let _ ← bindings g
  match ← change? g with
  | some change => return change
  | none => failure

/-- What stands in the parentheses of a query in front of a statement. -/
def bindingSource (g : Grammar) : Parser Source := do
  match ← attempt (boundChange g) with
  | some change => return .change change
  | none => return .query (← g.query)

def statementBinding (g : Grammar) : Parser (TableAlias × Source) := do
  let knownAs ← bindingHead
  let source ← parenthesized (bindingSource g)
  let _ ← bindingSource?
  return (knownAs, source)

/-- A query as a statement. -/
def queryStatement (g : Grammar) : Parser QueryStatement := nested do
  let (recursive, named) ←
    if ← keyword? "WITH" then
      let recursive ← keyword? "RECURSIVE"
      pure (recursive, ← commaSeparated (statementBinding g))
    else pure (false, [])
  match ← change? g with
  | some change => return ⟨recursive, named, .change change⟩
  | none => return ⟨recursive, named, .query (← rows g false [])⟩

/-- A schema behind `CREATE SCHEMA`. One that is told an owner is named for it. -/
def createSchema : Parser Statement := do
  let guarded ← ifNotExists
  if ← keyword? "AUTHORIZATION" then
    let _ ← identifier
    return .createSchema none guarded
  else
    let name ← dotted
    let owner ← after? ["AUTHORIZATION"] identifier
    return .createSchema (if owner.isSome then none else some name) guarded

/-- Takes a key word if it comes next, and writes it out with a blank behind it. -/
def wordText (word : String) : Parser String := do
  return if ← keyword? word then word ++ " " else ""

/-- A statement behind `CREATE`; `body` reads the statement in a procedure. -/
def create (g : Grammar) (body : Parser Unit) : Parser Statement := do
  let replace ← keywords? ["OR", "REPLACE"]
  let alter ← keywords? ["OR", "ALTER"]
  let isLocal ← wordText "LOCAL"
  let isGlobal ← wordText "GLOBAL"
  let transient ← wordText "TRANSIENT"
  let temporary := if (← oneOf? ["TEMP", "TEMPORARY"]).isSome then "TEMPORARY " else ""
  let replaced := if replace then "OR REPLACE " else ""
  match ← oneOf? ["TABLE", "EXTERNAL", "FUNCTION", "VIEW", "MATERIALIZED"] with
  | some "TABLE" =>
    let scope := if isGlobal.isEmpty then isLocal else isGlobal
    return .createTable (← createTable g (replaced ++ scope ++ temporary ++ transient))
  | some "EXTERNAL" =>
    keyword "TABLE"
    return .createTable (← createExternalTable g (replaced ++ "EXTERNAL "))
  | some "FUNCTION" =>
    return .unsupported (← createFunction g ("CREATE " ++ replaced ++ temporary))
  | some word =>
    if word == "MATERIALIZED" then keyword "VIEW"
    let materialized := if word == "MATERIALIZED" then "MATERIALIZED " else ""
    return .unsupported (← createView g ("CREATE " ++ replaced ++ materialized ++ temporary))
  | none =>
    if replace then failure
    match ← oneOf ["INDEX", "UNIQUE", "VIRTUAL", "SCHEMA", "DATABASE", "ROLE", "SEQUENCE", "TYPE",
        "PROCEDURE"] with
    | "INDEX" => return .createIndex (← createIndex g false)
    | "UNIQUE" =>
      keyword "INDEX"
      return .createIndex (← createIndex g true)
    | "VIRTUAL" => return .unsupported (← createVirtualTable)
    | "SCHEMA" => createSchema
    | "DATABASE" => return .unsupported (← createDatabase)
    | "ROLE" => return .unsupported (← createRole)
    | "SEQUENCE" => return .unsupported (← createSequence g temporary)
    | "TYPE" => return .unsupported (← createType g)
    | _ => return .unsupported (← createProcedure g (if alter then "OR ALTER " else "") body)

/-- A statement behind `ALTER`. -/
def alter (g : Grammar) : Parser Statement := do
  match ← oneOf ["VIEW", "TABLE", "INDEX", "ROLE"] with
  | "TABLE" => return .alterTable (← alterTable g)
  | "VIEW" => return .unsupported (← alterView g)
  | "INDEX" => return .unsupported (← alterIndex)
  | _ => return .unsupported (← alterRole g)

/-- A statement behind `DROP`. -/
def drop (g : Grammar) : Parser Statement := do
  match ← oneOf ["TABLE", "VIEW", "INDEX", "ROLE", "SCHEMA", "SEQUENCE", "STAGE", "FUNCTION"] with
  | "TABLE" => return .drop (← dropOf .table)
  | "INDEX" => return .drop (← dropOf .index)
  | "SEQUENCE" => return .drop (← dropOf .sequence)
  | "FUNCTION" => return .unsupported (← dropFunction g)
  | word => return .drop (← dropOf (.unsupported word))

def truncate (g : Grammar) : Parser Statement := do
  let marked ← keyword? "TABLE"
  let name ← dotted
  let _ ← partitionTerms g
  return .truncate name marked

/-- The statement that a key word begins, behind it, unless it is a query or holds another
statement. -/
def statementOf? (g : Grammar) (word : String) : Option (Parser Statement) :=
  let unsupported (text : Parser String) : Option (Parser Statement) :=
    some do return .unsupported (← text)
  match word with
  | "ALTER" => some (alter g)
  | "DROP" => some (drop g)
  | "TRUNCATE" => some (truncate g)
  | "INSERT" => some do return .change (← insert g)
  | "UPDATE" => some do return .change (.update (← update g))
  | "DELETE" => some do return .change (.delete (← delete g))
  | "START" => some startTransaction
  | "BEGIN" => some begin
  | "COMMIT" | "END" => some commit
  | "ROLLBACK" => some rollback
  | "SET" => some (setVariable g)
  | "SHOW" => some (showVariable g)
  | "SAVEPOINT" => unsupported savepoint
  | "RELEASE" => unsupported release
  | "GRANT" => unsupported grant
  | "REVOKE" => unsupported revoke
  | "DECLARE" => unsupported (declareCursor g)
  | "FETCH" => unsupported fetchRows
  | "CLOSE" => unsupported close
  | "DISCARD" => unsupported discard
  | "CALL" => unsupported (callProcedure g)
  | "EXECUTE" => unsupported (execute g)
  | "DEALLOCATE" => unsupported deallocate
  | "USE" => unsupported use
  | "ASSERT" => unsupported (assert g)
  | "COMMENT" => unsupported comment
  | "ANALYZE" => unsupported (analyze g)
  | "COPY" => unsupported (copy g)
  | "MERGE" => unsupported (merge g)
  | "KILL" => unsupported kill
  | "PRAGMA" => unsupported pragma
  | "ATTACH" => unsupported (attachDatabase g)
  | "MSCK" => unsupported repair
  | "CACHE" => unsupported (cacheTable g)
  | "UNCACHE" => unsupported uncacheTable
  | _ => none

/-- A statement, or a table, that is explained. What explains something is not explained. The other
statement is read by `inner`, together with whether it explains something. -/
def explain (inner : Parser (Statement × Bool)) (word : String) : Parser String := do
  let analyze ← wordText "ANALYZE"
  let verbose ← wordText "VERBOSE"
  let format ←
    if ← keyword? "FORMAT" then
      pure ("FORMAT " ++ (← oneOf ["TEXT", "GRAPHVIZ", "JSON"]) ++ " ")
    else pure ""
  match ← attempt inner with
  | some (_, true) => failure
  | some (statement, false) =>
    return word ++ " " ++ analyze ++ verbose ++ format ++ statement.opening
  | none => return word ++ " " ++ dottedText (← dotted)

/-- A statement with a name, for later. -/
def prepare (g : Grammar) (inner : Parser Unit) : Parser String := do
  let name ← identifier
  let types ←
    if (← peek) == some (.symbol "(") then parenthesized (commaSeparated g.typeTerm)
    else pure []
  keyword "AS"
  inner
  return "PREPARE " ++ name.text ++ (if types.isEmpty then " AS" else " ()")

/-- A complete statement with statements inside one another, of which there are at most `most`, and
whether it explains something. -/
def statementUpTo (g : Grammar) : Nat → Parser (Statement × Bool)
  | 0 => failure
  | most + 1 => nested do
    let inner := statementUpTo g most
    match ← peek with
    | some (.symbol "(") => return (.query (← queryStatement g), false)
    | some token =>
      match token.keyword? with
      | some "SELECT" | some "WITH" | some "VALUES" =>
        return (.query (← queryStatement g), false)
      | some word =>
        let _ ← next
        match statementOf? g word, word with
        | some statement, _ => return (← statement, false)
        | none, "CREATE" => return (← create g do let _ ← inner, false)
        | none, "PREPARE" => return (.unsupported (← prepare g do let _ ← inner), false)
        | none, "EXPLAIN" | none, "DESCRIBE" => return (.unsupported (← explain inner word), true)
        | none, _ => failure
      | none => failure
    | none => failure

/-- A complete statement. -/
def statement (g : Grammar) : Parser Statement := do
  return (← statementUpTo g ((← get).length + 1)).1

end Grammar

end Sql

end SqlEngine
