import SqlEngine.Sql.Printer

/-!
Statements that define tables and indexes, change their definitions or drop them.
-/

namespace SqlEngine

namespace Sql

/-- A rule that a column definition lays down. -/
inductive ColumnRule where
  | null
  | notNull
  | default (value : Term)
  | unique (primary : Bool)
  | check (condition : Term)
  /-- A reference to another table, written out. -/
  | foreignKey (text : String)
  | unsupported (text : String)

def ColumnRule.text : ColumnRule → String
  | null => "NULL"
  | notNull => "NOT NULL"
  | default value => "DEFAULT " ++ value.text
  | unique primary => if primary then "PRIMARY KEY" else "UNIQUE"
  | check condition => "CHECK (" ++ condition.text ++ ")"
  | foreignKey text => text
  | unsupported text => text

structure ColumnOption where
  name : Option Ident
  rule : ColumnRule

/-- A column definition; the type is written out. -/
structure ColumnTerm where
  name : Ident
  type : String
  options : List ColumnOption

/-- A rule about the rows of a table. -/
inductive Constraint where
  | unique (name : Option Ident) (columns : List Ident) (primary : Bool)
  | check (name : Option Ident) (condition : Term)
  | foreignKey

structure CreateTable where
  name : List Ident
  columns : List ColumnTerm
  constraints : List Constraint
  ifNotExists : Bool
  /-- Whether a query fills the table. -/
  filled : Bool
  /-- The words between the verb and the noun, a blank behind each. -/
  words : String

structure CreateIndex where
  name : Option (List Ident)
  table : List Ident
  method : Option Ident
  keys : List OrderTerm
  unique : Bool
  ifNotExists : Bool

inductive ColumnChange where
  | setNotNull
  | dropNotNull
  | setDefault (value : Term)
  | dropDefault
  | unsupported (text : String)

inductive TableChange where
  | rename (name : List Ident)
  | addColumn (column : ColumnTerm) (ifNotExists : Bool)
  | dropColumn (name : Ident) (ifExists : Bool)
  | renameColumn (before after : Ident)
  | changeColumn (name : Ident) (change : ColumnChange)
  | addConstraint (constraint : Constraint)
  | dropConstraint (name : Ident) (ifExists : Bool)
  | unsupported (text : String)

structure AlterTable where
  name : List Ident
  ifExists : Bool
  changes : List TableChange

inductive DropKind where
  | table
  | index
  | sequence
  /-- Something that the engine does not keep. -/
  | unsupported (name : String)
deriving DecidableEq, Repr

def DropKind.name : DropKind → String
  | table => "TABLE"
  | index => "INDEX"
  | sequence => "SEQUENCE"
  | unsupported name => name

structure Drop where
  kind : DropKind
  ifExists : Bool
  names : List (List Ident)

end Sql

end SqlEngine
