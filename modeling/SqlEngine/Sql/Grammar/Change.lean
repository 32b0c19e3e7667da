import SqlEngine.Sql.Grammar.Tables

/-!
Statements that change rows, and the list of items that they and queries hand back.
-/

namespace SqlEngine

namespace Sql

namespace Grammar

open SqlEngine.Sql.Parser

/-- A filter behind an aggregate that is a select item. -/
def filteredTerm (g : Grammar) (term : Term) : Parser Term := do
  match ← attempt (do keyword "FILTER"; symbol "("; keyword "WHERE") with
  | some () =>
    let condition ← g.term
    symbol ")"
    return .unsupported ⟨term.text ++ " FILTER (WHERE " ++ condition.text ++ ")",
      Outline.fields "AggregateExpressionWithFilter"
        [("expr", term.outline), ("filter", condition.outline)]⟩
  | none => return term

def selectItem (g : Grammar) : Parser SelectItem := do
  match ← termOrStar g none with
  | .term _ term =>
    let term ← filteredTerm g term
    return .term term (← newName? Keyword.endItem)
  | .star _ => return .star
  | .tableStar _ table => return .tableStar table

def returning? (g : Grammar) : Parser (Option (List SelectItem)) :=
  after? ["RETURNING"] (commaSeparated (selectItem g))

/-- The words up to the next equals sign; other tokens before it are skipped. -/
def assignedColumn : List Lexeme → List Ident × List Lexeme
  | [] => ([], [])
  | first :: rest =>
    match first.token with
    | .symbol "=" => ([], first :: rest)
    | .word id =>
      let (ids, later) := assignedColumn rest
      (id :: ids, later)
    | _ => assignedColumn rest

def assignment (g : Grammar) : Parser Assignment := do
  let (column, rest) := assignedColumn (← get)
  set rest
  symbol "="
  return ⟨column, ← g.term⟩

def assignments (g : Grammar) : Parser (List Assignment) := commaSeparated (assignment g)

def conflictTarget? : Parser (Option ConflictTarget) := do
  if ← keywords? ["ON", "CONSTRAINT"] then return some (.constraint (← dotted))
  else if (← peek) == some (.symbol "(") then return some (.columns (← columnList))
  else return none

def conflictAction (g : Grammar) : Parser ConflictAction := do
  keyword "DO"
  if ← keyword? "NOTHING" then return .nothing
  else
    keywords ["UPDATE", "SET"]
    let assignments ← assignments g
    return .update assignments (← after? ["WHERE"] g.term)

def conflictClause (g : Grammar) : Parser ConflictClause := do
  if ← keyword? "ON" then
    if ← keyword? "CONFLICT" then
      let target ← conflictTarget?
      return .onConflict target (← conflictAction g)
    else
      keywords ["DUPLICATE", "KEY", "UPDATE"]
      return .duplicateKey (← assignments g)
  else return .absent

/-- The terms in parentheses that tell a partition, if one is told. -/
def partitionTerms (g : Grammar) : Parser (List Term) :=
  listAfter ["PARTITION"] (parenthesized (commaSeparated g.term))

/-- The formats of files. -/
def fileFormats : List String :=
  ["AVRO", "JSONFILE", "ORC", "PARQUET", "RCFILE", "SEQUENCEFILE", "TEXTFILE"]

/-- Rows that are written to the files of a directory, behind its key word. -/
def directoryText (g : Grammar) (front : String) : Parser String := do
  let path ← literalText
  let format ← after? ["STORED", "AS"] (oneOf fileFormats)
  let query ← g.query
  return front ++ " DIRECTORY '" ++ path ++ "'"
    ++ (format.map (" STORED AS " ++ ·)).getD "" ++ " " ++ query.text

/-- The rows of an insertion behind its table. -/
def insertRows (g : Grammar) (words : String) (table : List Ident) : Parser Insert := do
  let insert : Insert ←
    if ← keywords? ["DEFAULT", "VALUES"] then pure ⟨words, table, [], [], [], none, .absent, none⟩
    else
      let columns ← columnList?
      let partition ← partitionTerms g
      let later ← columnList?
      let query ← g.query
      pure ⟨words, table, columns, partition, later, some query, .absent, none⟩
  let conflict ← conflictClause g
  return { insert with conflict, returning := ← returning? g }

/-- An insertion behind its key word. -/
def insert (g : Grammar) : Parser Change := do
  let way ← oneOf? ["INTO", "OVERWRITE"]
  let isLocal ← keyword? "LOCAL"
  if ← keyword? "DIRECTORY" then
    let front := "INSERT" ++ (if way == some "OVERWRITE" then " OVERWRITE" else "")
      ++ (if isLocal then " LOCAL" else "")
    return .unsupported (← directoryText g front)
  else
    let marked ← keyword? "TABLE"
    let words := (way.map (" " ++ ·)).getD "" ++ (if marked then " TABLE" else "")
    return .insert (← insertRows g words (← dotted))

/-- An update behind its key word. -/
def update (g : Grammar) : Parser Update := do
  let target ← g.tables
  keyword "SET"
  let assignments ← assignments g
  let source ← after? ["FROM"] g.tables
  let condition ← after? ["WHERE"] g.term
  return ⟨target, assignments, source, condition, ← returning? g⟩

/-- A deletion behind its key word. -/
def delete (g : Grammar) : Parser Delete := do
  let tables ←
    if ← keyword? "FROM" then pure []
    else
      let tables ← commaSeparated dotted
      keyword "FROM"
      pure tables
  let targets ← commaSeparated g.tables
  let others ← listAfter ["USING"] (commaSeparated g.tables)
  let condition ← after? ["WHERE"] g.term
  let returning ← returning? g
  let keys ← orderBy g
  let limit ← after? ["LIMIT"] (limitCount g)
  return ⟨tables, targets, others, condition, returning, keys, limit.join⟩

end Grammar

end Sql

end SqlEngine
