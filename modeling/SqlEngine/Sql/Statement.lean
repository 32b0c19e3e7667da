import SqlEngine.Catalog.Name
import SqlEngine.Sql.Change
import SqlEngine.Sql.Definition
import SqlEngine.Storage.Sequence
import SqlEngine.Text.Blank

/-!
Statements, and where they stand in the text that was submitted.
-/

namespace SqlEngine

namespace Sql

/-- Where the rows of a statement, or of a query in front of it, come from. -/
inductive Source where
  | query (query : Query)
  | change (change : Change)

/-- A query with the named ones in front of it, each of which may change rows, as may the query
itself. -/
structure QueryStatement where
  recursive : Bool
  bindings : List (TableAlias × Source)
  /-- The query without the bindings. -/
  body : Source

namespace Source

def text : Source → String
  | query q => q.text
  | change c => c.text

end Source

namespace QueryStatement

def text (q : QueryStatement) : String :=
  let bindings := q.bindings.map fun (knownAs, source) =>
    knownAs.text ++ " AS (" ++ source.text ++ ")"
  listText ("WITH " ++ if q.recursive then "RECURSIVE " else "") bindings
    ++ (if bindings.isEmpty then "" else " ") ++ q.body.text

end QueryStatement

inductive Statement where
  | query (statement : QueryStatement)
  | change (change : Change)
  | createTable (definition : CreateTable)
  | createIndex (definition : CreateIndex)
  /-- Without a name, the schema is named for its owner. -/
  | createSchema (name : Option (List Ident)) (ifNotExists : Bool)
  | alterTable (change : AlterTable)
  | drop (drop : Drop)
  /-- Rows that go, with or without the word for a table in front of its name. -/
  | truncate (table : List Ident) (marked : Bool)
  /-- A transaction that begins, by the verb that it begins with. -/
  | startTransaction (verb : String)
  | commit (chained : Bool)
  | rollback (chained : Bool) (savepoint : Option Ident)
  /-- A setting; what stands in front of its name tells how long it holds. -/
  | setVariable (scope : String) (name : List Ident) (values : List Term)
  | setTimeZone (scope : String)
  | showVariable (words : List Ident)
  | createExtension (name : String) (ifNotExists : Bool) (schema : Option String)
  | createSequence (name : QName) (ifNotExists : Bool) (clauses : List SequenceClause)
  | alterSequence (name : QName) (ifExists : Bool) (clauses : List SequenceClause)
  | createEnum (name : QName) (labels : List String)
  | alterOwner (table : QName)
  /-- A statement without a meaning here; the text begins with its first words. -/
  | unsupported (text : String)

/-- A short name for the kind of a statement. -/
def Statement.kind : Statement → String
  | query _ => "select"
  | change (.insert _) => "insert"
  | change (.update _) => "update"
  | change (.delete _) => "delete"
  | change (.unsupported _) => "other"
  | createTable _ => "create table"
  | createIndex _ => "create index"
  | createSchema .. => "create schema"
  | alterTable _ => "alter table"
  | drop _ => "drop"
  | truncate .. => "truncate"
  | startTransaction _ => "begin"
  | commit _ => "commit"
  | rollback .. => "rollback"
  | setVariable .. => "set"
  | setTimeZone _ => "set"
  | showVariable _ => "show"
  | createExtension .. => "create extension"
  | createSequence .. => "create sequence"
  | alterSequence .. => "alter sequence"
  | createEnum .. => "create enum"
  | alterOwner _ => "alter table"
  | unsupported _ => "other"

/-- How the text of a statement begins; its first two words are there, if it has them. -/
def Statement.opening : Statement → String
  | query q => q.text
  | change c => c.text
  | createTable definition => "CREATE " ++ definition.words ++ "TABLE"
  | createIndex definition => if definition.unique then "CREATE UNIQUE INDEX" else "CREATE INDEX"
  | createSchema .. => "CREATE SCHEMA"
  | alterTable _ => "ALTER TABLE"
  | drop d => "DROP " ++ d.kind.name
  | truncate table marked => "TRUNCATE " ++ (if marked then "TABLE " else "") ++ dottedText table
  | startTransaction verb => verb ++ " TRANSACTION"
  | commit chained => "COMMIT" ++ if chained then " AND CHAIN" else ""
  | rollback chained savepoint =>
    "ROLLBACK" ++ (if chained then " AND CHAIN" else "")
      ++ (savepoint.map fun name => " TO SAVEPOINT " ++ name.text).getD ""
  | setVariable scope name _ => "SET " ++ scope ++ dottedText name ++ " ="
  | setTimeZone scope => "SET " ++ scope ++ "TIME ZONE"
  | showVariable words => "SHOW " ++ " ".intercalate (words.map Ident.text)
  | createExtension .. => "CREATE EXTENSION"
  | createSequence .. => "CREATE SEQUENCE"
  | alterSequence .. => "ALTER SEQUENCE"
  | createEnum .. => "CREATE TYPE"
  | alterOwner _ => "ALTER TABLE"
  | unsupported text => text

/-- The first words of a text, three at most, by which a statement is named. A word that does not
consist of letters ends them. -/
def firstWords (text : String) : String :=
  let words := (Text.words text.toList).takeWhile (·.all Char.isAlpha)
  " ".intercalate ((words.take 3).map String.ofList)

/-- A statement with its place and its text. -/
structure LocatedStatement where
  statement : Statement
  place : Place
  text : String

end Sql

end SqlEngine
