import SqlEngine.Sql.Definition
import SqlEngine.Sql.Grammar.Change

/-!
The grammar of definitions: columns, constraints, tables and indexes, and the statements that
change and drop them.
-/

namespace SqlEngine

namespace Sql

namespace Grammar

open SqlEngine.Sql.Parser

def ifNotExists : Parser Bool := keywords? ["IF", "NOT", "EXISTS"]

def ifExists : Parser Bool := keywords? ["IF", "EXISTS"]

/-- What happens to rows that refer to a row that goes, written out. -/
def referentialAction : Parser String := do
  match ← oneOf ["RESTRICT", "CASCADE", "SET", "NO"] with
  | "SET" => return "SET " ++ (← oneOf ["NULL", "DEFAULT"])
  | "NO" =>
    keyword "ACTION"
    return "NO ACTION"
  | word => return word

/-- What happens on deletions and on updates, each told at most once, in either order. -/
def referentialActions (deletion update : Option String) : Nat → Parser String
  | 0 =>
    return (deletion.map (" ON DELETE " ++ ·)).getD "" ++ (update.map (" ON UPDATE " ++ ·)).getD ""
  | turns + 1 => do
    let deletion ←
      if deletion.isNone then after? ["ON", "DELETE"] referentialAction else pure deletion
    let update ←
      if update.isNone then after? ["ON", "UPDATE"] referentialAction else pure update
    referentialActions deletion update turns

/-- A reference to columns of another table, behind its key word, written out. -/
def reference (columns : Parser (List Ident)) : Parser String := do
  let table ← dotted
  let columns ← columns
  let columnsText :=
    if columns.isEmpty then "" else " (" ++ commas (columns.map Ident.text) ++ ")"
  return "REFERENCES " ++ dottedText table ++ columnsText ++ (← referentialActions none none 2)

/-- An option of a sequence that hangs on a number, written out. -/
def numberOption (word : String) (filler : Option String) : Parser String := do
  if ← keyword? word then
    let filled ← match filler with
      | some filler => keyword? filler
      | none => pure false
    let value ← numberValue
    return " " ++ word ++ (if filled then " " ++ filler.getD "" else "") ++ " " ++ value.text
  else return ""

def boundOption (word : String) : Parser String := do
  if ← keywords? ["NO", word] then return " NO " ++ word else numberOption word none

/-- Whether a sequence starts again at its end. The mere word that negates it means nothing. -/
def cycleOption : Parser String := do
  if ← keyword? "NO" then return if ← keyword? "CYCLE" then " NO CYCLE" else ""
  else if ← keyword? "CYCLE" then return " CYCLE"
  else return ""

/-- The options of a sequence, written out. -/
def sequenceOptions : Parser String := do
  let increment ← numberOption "INCREMENT" (some "BY")
  let min ← boundOption "MINVALUE"
  let max ← boundOption "MAXVALUE"
  let start ← numberOption "START" (some "WITH")
  let cache ← numberOption "CACHE" none
  return increment ++ min ++ max ++ start ++ cache ++ (← cycleOption)

/-- The options of the sequence behind a column, written out. -/
def identityOptions : Parser String := do
  if (← peek) == some (.symbol "(") then return " (" ++ (← parenthesized sequenceOptions) ++ " )"
  else return ""

/-- What a generated column holds, behind the key word. -/
def generated? (g : Grammar) : Parser (Option ColumnRule) := do
  if ← keywords? ["ALWAYS", "AS", "IDENTITY"] then
    return some (.unsupported ("GENERATED ALWAYS AS IDENTITY" ++ (← identityOptions)))
  else if ← keywords? ["BY", "DEFAULT", "AS", "IDENTITY"] then
    return some (.unsupported ("GENERATED BY DEFAULT AS IDENTITY" ++ (← identityOptions)))
  else if ← keywords? ["ALWAYS", "AS"] then
    if (← peek) == some (.symbol "(") then
      let term ← parenthesized g.term
      keyword "STORED"
      return some (.unsupported ("GENERATED ALWAYS AS (" ++ term.text ++ ") STORED"))
    else return none
  else return none

/-- A rule of a column, if one comes next. Words of other dialects that begin one are dropped. -/
def columnRule? (g : Grammar) : Parser (Option ColumnRule) := do
  if ← keywords? ["CHARACTER", "SET"] then
    return some (.unsupported ("CHARACTER SET " ++ dottedText (← dotted)))
  else if ← keywords? ["NOT", "NULL"] then return some .notNull
  else if ← keyword? "COMMENT" then
    match ← next with
    | .string text => return some (.unsupported ("COMMENT " ++ Quoted.within '\'' text))
    | _ => failure
  else if ← keyword? "NULL" then return some .null
  else if ← keyword? "DEFAULT" then return some (.default (← g.term))
  else if ← keywords? ["PRIMARY", "KEY"] then return some (.unique true)
  else if ← keyword? "UNIQUE" then return some (.unique false)
  else if ← keyword? "REFERENCES" then return some (.foreignKey (← reference columnList?))
  else if ← keyword? "CHECK" then return some (.check (← parenthesized g.term))
  else
    let _ ← keyword? "AUTO_INCREMENT"
    let _ ← keyword? "AUTOINCREMENT"
    let _ ← keywords? ["ON", "UPDATE"]
    if ← keyword? "GENERATED" then generated? g
    else
      let _ ← keyword? "AS"
      return none

/-- The rules of a column, of which there are at most `most`. -/
def columnOptionsUpTo (g : Grammar) : Nat → Parser (List ColumnOption)
  | 0 => failure
  | most + 1 => do
    if ← keyword? "CONSTRAINT" then
      let name ← identifier
      match ← columnRule? g with
      | some rule => return ⟨some name, rule⟩ :: (← columnOptionsUpTo g most)
      | none => failure
    else
      match ← columnRule? g with
      | some rule => return ⟨none, rule⟩ :: (← columnOptionsUpTo g most)
      | none => return []

/-- The rules of a column without names, of which there are at most `most`. -/
def columnRulesUpTo (g : Grammar) : Nat → Parser (List ColumnRule)
  | 0 => failure
  | most + 1 => do
    match ← columnRule? g with
    | some rule => return rule :: (← columnRulesUpTo g most)
    | none => return []

def column (g : Grammar) : Parser ColumnTerm := do
  let name ← identifier
  let type ← g.typeTerm
  let _ ← after? ["COLLATE"] dotted
  return ⟨name, type.text, ← columnOptionsUpTo g ((← get).length + 1)⟩

/-- A constraint of a table, if one comes next. -/
def constraint? (g : Grammar) : Parser (Option Constraint) := do
  let name ← after? ["CONSTRAINT"] identifier
  match ← oneOf? ["PRIMARY", "UNIQUE", "FOREIGN", "CHECK"] with
  | some "FOREIGN" =>
    keyword "KEY"
    let _ ← columnList
    keyword "REFERENCES"
    let _ ← reference columnList
    return some .foreignKey
  | some "CHECK" => return some (.check name (← parenthesized g.term))
  | some word =>
    let _ ← keyword? "KEY"
    let inner ← attempt identifier
    return some (.unique (inner <|> name) (← columnList) (word == "PRIMARY"))
  | none => if name.isSome then failure else return none

/-- Columns and constraints up to the closing parenthesis, of which there are at most `most`. A
comma may stand behind the last one. -/
def elementsUpTo (g : Grammar) : Nat → Parser (List ColumnTerm × List Constraint)
  | 0 => failure
  | most + 1 => do
    let element ← match ← constraint? g with
      | some constraint => pure (Sum.inr constraint)
      | none =>
        match ← peek with
        | some (.word _) => pure (Sum.inl (← column g))
        | _ => failure
    let comma ← symbol? ","
    let (columns, constraints) ←
      if ← symbol? ")" then pure ([], [])
      else if comma then elementsUpTo g most
      else failure
    match element with
    | .inl column => return (column :: columns, constraints)
    | .inr constraint => return (columns, constraint :: constraints)

def elements (g : Grammar) : Parser (List ColumnTerm × List Constraint) := do
  if ← symbol? "(" then
    if ← symbol? ")" then return ([], []) else elementsUpTo g ((← get).length + 1)
  else return ([], [])

/-- Options behind a key word, which are dropped. -/
def options (word : String) : Parser Unit := do
  if ← keyword? word then
    let _ ← parenthesized (commaSeparated (do
      let _ ← identifier
      symbol "="
      constant))
  else return ()

/-- What happens to the rows of a temporary table at the end of a transaction, if it is told. -/
def onCommit : Parser Unit := do
  if ← keywords? ["ON", "COMMIT", "DELETE", "ROWS"] then return ()
  else if ← keywords? ["ON", "COMMIT", "PRESERVE", "ROWS"] then return ()
  else
    let _ ← keywords? ["ON", "COMMIT", "DROP"]

def word : Parser Unit := do
  match ← next with
  | .word _ => return ()
  | _ => failure

/-- A word behind an equals sign, for a setting with the given name. -/
def wordSetting (name : List String) : Parser Unit := do
  if ← keywords? name then
    symbol "="
    word
  else return ()

/-- The servers that hold a table. -/
def cluster : Parser Unit := do
  if ← keywords? ["ON", "CLUSTER"] then
    match ← next with
    | .word _ | .string _ => return ()
    | _ => failure
  else return ()

/-- What stands where a dotted name is wanted: as many parts of one as there are, and the token
that breaks it off. -/
def looseNameUpTo : Nat → Parser Unit
  | 0 => return ()
  | most + 1 => do
    match ← attempt next with
    | some (.word _) | some (.string _) =>
      if ← symbol? "." then looseNameUpTo most else return ()
    | _ => return ()

def looseName : Parser Unit := do looseNameUpTo ((← get).length + 1)

/-- How the rows of a table are kept in files: how they are told apart, in which format, and where.
There are at most `most` such clauses. -/
def fileClausesUpTo (g : Grammar) : Nat → Parser Unit
  | 0 => failure
  | most + 1 => do
    match ← oneOf? ["ROW", "STORED", "LOCATION"] with
    | some "ROW" =>
      keyword "FORMAT"
      match ← oneOf? ["SERDE", "DELIMITED"] with
      | some "SERDE" => let _ ← literalText
      | _ => pure ()
      fileClausesUpTo g most
    | some "STORED" =>
      keyword "AS"
      if ← keyword? "INPUTFORMAT" then
        let _ ← g.term
        keyword "OUTPUTFORMAT"
        let _ ← g.term
      else let _ ← oneOf fileFormats
      fileClausesUpTo g most
    | some _ =>
      let _ ← literalText
      fileClausesUpTo g most
    | none => return ()

/-- The columns that partition a table, and how its rows are kept in files. -/
def fileSettings (g : Grammar) : Parser Unit := do
  if ← keywords? ["PARTITIONED", "BY"] then
    let _ ← parenthesized (commaSeparated (column g))
  fileClausesUpTo g ((← get).length + 1)

/-- A number of 32 bits that new rows count from. -/
def firstCount : Parser Unit := do
  if ← keyword? "AUTO_INCREMENT" then
    let _ ← symbol? "="
    if (← natural) < Nat.pow 2 32 then return () else failure
  else return ()

/-- The columns that order the rows of a table. -/
def rowOrder : Parser Unit := do
  if ← keywords? ["ORDER", "BY"] then
    if ← symbol? "(" then
      if ← symbol? ")" then return ()
      else
        let _ ← commaSeparated identifier
        symbol ")"
    else let _ ← identifier

/-- A remark about a table. -/
def remark : Parser Unit := do
  if ← keyword? "COMMENT" then
    let _ ← symbol? "="
    match ← next with
    | .string _ => return ()
    | _ => failure
  else return ()

/-- A table behind `CREATE TABLE`. Settings of how other engines keep a table are dropped. -/
def createTable (g : Grammar) (words : String) : Parser CreateTable := do
  let ifNotExists ← ifNotExists
  let name ← dotted
  cluster
  if (← oneOf? ["LIKE", "ILIKE"]).isSome then looseName
  if ← keyword? "CLONE" then looseName
  let (columns, constraints) ← elements g
  let _ ← keywords? ["WITHOUT", "ROWID"]
  fileSettings g
  options "WITH"
  options "TBLPROPERTIES"
  wordSetting ["ENGINE"]
  firstCount
  rowOrder
  let query ← after? ["AS"] g.query
  wordSetting ["DEFAULT", "CHARSET"]
  wordSetting ["COLLATE"]
  onCommit
  let _ ← keyword? "STRICT"
  remark
  return ⟨name, columns, constraints, ifNotExists, query.isSome, words⟩

/-- A table behind `CREATE EXTERNAL TABLE`. -/
def createExternalTable (g : Grammar) (words : String) : Parser CreateTable := do
  let ifNotExists ← ifNotExists
  let name ← dotted
  let (columns, constraints) ← elements g
  fileSettings g
  options "TBLPROPERTIES"
  return ⟨name, columns, constraints, ifNotExists, false, words⟩

/-- The name of an index and the word behind it; the name may be missing unless it is required. -/
def indexName (required : Bool) : Parser (Option (List Ident)) := do
  let unnamed ← if required then pure false else keyword? "ON"
  if unnamed then return none
  else
    let name ← dotted
    keyword "ON"
    return some name

/-- An index behind `CREATE INDEX`. -/
def createIndex (g : Grammar) (unique : Bool) : Parser CreateIndex := do
  let _ ← keyword? "CONCURRENTLY"
  let ifNotExists ← ifNotExists
  let name ← indexName ifNotExists
  let table ← dotted
  let method ← after? ["USING"] identifier
  let keys ← parenthesized (commaSeparated (orderTerm g))
  let _ ← after? ["INCLUDE"] columnList
  if ← keyword? "NULLS" then
    let _ ← keyword? "NOT"
    keyword "DISTINCT"
  let _ ← after? ["WHERE"] g.term
  return ⟨name, table, method, keys, unique, ifNotExists⟩

/-- What happens to one column of a table. -/
def columnChange (g : Grammar) : Parser ColumnChange := do
  if ← keywords? ["SET", "NOT", "NULL"] then return .setNotNull
  else if ← keywords? ["DROP", "NOT", "NULL"] then return .dropNotNull
  else if ← keywords? ["SET", "DEFAULT"] then return .setDefault (← g.term)
  else if ← keywords? ["DROP", "DEFAULT"] then return .dropDefault
  else
    if ← keywords? ["SET", "DATA", "TYPE"] then pure () else keyword "TYPE"
    let type ← g.typeTerm
    let converted ← after? ["USING"] g.term
    return .unsupported ("SET DATA TYPE " ++ type.text ++ Term.prefixedText " USING " converted)

def renamed : Parser TableChange := do
  if ← keyword? "CONSTRAINT" then
    let before ← identifier
    keyword "TO"
    let after ← identifier
    return .unsupported ("RENAME CONSTRAINT " ++ before.text ++ " TO " ++ after.text)
  else if ← keyword? "TO" then return .rename (← dotted)
  else
    let _ ← keyword? "COLUMN"
    let before ← identifier
    keyword "TO"
    return .renameColumn before (← identifier)

/-- Terms that tell a partition of a table, written out. -/
def partition (g : Grammar) : Parser String := do
  return "PARTITION (" ++ commas (Term.texts (← parenthesized (commaSeparated g.term))) ++ ")"

/-- Partitions one after the other, of which there are at most `most`, written out. -/
def partitionsUpTo (g : Grammar) : Nat → Parser String
  | 0 => failure
  | most + 1 => do
    let first ← partition g
    if ← keyword? "PARTITION" then return first ++ " " ++ (← partitionsUpTo g most)
    else return first

def addition (g : Grammar) : Parser TableChange := do
  match ← constraint? g with
  | some constraint => return .addConstraint constraint
  | none =>
    let early ← ifNotExists
    if ← keyword? "PARTITION" then
      let partitions ← partitionsUpTo g ((← get).length + 1)
      return .unsupported ("ADD" ++ (if early then " IF NOT EXISTS " else " ") ++ partitions)
    else
      let _ ← keyword? "COLUMN"
      let late ← ifNotExists
      return .addColumn (← column g) (late || early)

def removal (g : Grammar) : Parser TableChange := do
  if ← keywords? ["IF", "EXISTS", "PARTITION"] then
    return .unsupported ("DROP IF EXISTS " ++ (← partition g))
  else if ← keyword? "PARTITION" then return .unsupported ("DROP " ++ (← partition g))
  else if ← keyword? "CONSTRAINT" then
    let ifExists ← ifExists
    let name ← identifier
    let _ ← keyword? "CASCADE"
    return .dropConstraint name ifExists
  else
    let _ ← keywords? ["PRIMARY", "KEY"]
    let _ ← keyword? "COLUMN"
    let ifExists ← ifExists
    let name ← identifier
    let _ ← keyword? "CASCADE"
    return .dropColumn name ifExists

/-- One change of a table. -/
def tableChange (g : Grammar) : Parser TableChange := do
  match ← oneOf ["ADD", "RENAME", "DROP", "PARTITION", "CHANGE", "ALTER", "SWAP"] with
  | "ADD" => addition g
  | "RENAME" => renamed
  | "DROP" => removal g
  | "PARTITION" =>
    let before ← partition g
    keywords ["RENAME", "TO", "PARTITION"]
    return .unsupported (before ++ " RENAME TO " ++ (← partition g))
  | "CHANGE" =>
    let _ ← keyword? "COLUMN"
    let before ← identifier
    let after ← identifier
    let type ← g.typeTerm
    let rules ← columnRulesUpTo g ((← get).length + 1)
    return .unsupported (" ".intercalate
      ("CHANGE COLUMN" :: before.text :: after.text :: type.text :: rules.map ColumnRule.text))
  | "ALTER" =>
    let _ ← keyword? "COLUMN"
    let name ← identifier
    return .changeColumn name (← columnChange g)
  | _ =>
    keyword "WITH"
    return .unsupported ("SWAP WITH " ++ dottedText (← dotted))

/-- A change of a table behind `ALTER TABLE`. -/
def alterTable (g : Grammar) : Parser AlterTable := do
  let ifExists ← ifExists
  let _ ← keyword? "ONLY"
  let name ← dotted
  return ⟨name, ifExists, ← commaSeparated (tableChange g)⟩

/-- What is dropped, behind the word for its kind. -/
def dropOf (kind : DropKind) : Parser Drop := do
  let ifExists ← ifExists
  let names ← commaSeparated dotted
  let cascade ← keyword? "CASCADE"
  let restrict ← keyword? "RESTRICT"
  let purge ← keyword? "PURGE"
  if cascade && restrict then failure
  else if kind == .unsupported "ROLE" && (cascade || restrict || purge) then failure
  else return ⟨kind, ifExists, names⟩

end Grammar

end Sql

end SqlEngine
