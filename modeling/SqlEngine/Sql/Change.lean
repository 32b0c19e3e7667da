import SqlEngine.Sql.Outline

/-!
Statements that change the rows of a table.
-/

namespace SqlEngine

namespace Sql

structure Assignment where
  column : List Ident
  value : Term

/-- What an insertion looks for a conflict on. -/
inductive ConflictTarget where
  | columns (names : List Ident)
  | constraint (name : List Ident)

inductive ConflictAction where
  | nothing
  | update (assignments : List Assignment) (condition : Option Term)

/-- What an insertion does about rows that are there already. -/
inductive ConflictClause where
  | absent
  | onConflict (target : Option ConflictTarget) (action : ConflictAction)
  /-- The clause of another dialect. -/
  | duplicateKey (assignments : List Assignment)

structure Insert where
  /-- The words between the verb and the table, a blank in front of each. -/
  words : String
  table : List Ident
  columns : List Ident
  /-- What tells a partition of the table, and the columns behind it; both are of no account. -/
  partition : List Term
  laterColumns : List Ident
  /-- Where the rows come from; without it there is one row of defaults. -/
  source : Option Query
  conflict : ConflictClause
  returning : Option (List SelectItem)

structure Update where
  target : TableTerm
  assignments : List Assignment
  source : Option TableTerm
  condition : Option Term
  returning : Option (List SelectItem)

structure Delete where
  /-- Tables in front of the sources, which are of no account, as are the order and the limit. -/
  tables : List (List Ident)
  targets : List TableTerm
  /-- The tables of a `USING` clause. -/
  others : List TableTerm
  condition : Option Term
  returning : Option (List SelectItem)
  orderBy : List OrderTerm
  limit : Option Term

inductive Change where
  | insert (change : Insert)
  | update (change : Update)
  | delete (change : Delete)
  /-- Rows that are written to files, which the engine does not do. -/
  | unsupported (text : String)

def Assignment.text (a : Assignment) : String := dottedText a.column ++ " = " ++ a.value.text

def assignmentsText (assignments : List Assignment) : String :=
  commas (assignments.map Assignment.text)

def ConflictTarget.text : ConflictTarget → String
  | columns names => "(" ++ commas (names.map Ident.text) ++ ")"
  | constraint name => " ON CONSTRAINT " ++ dottedText name

def ConflictAction.text : ConflictAction → String
  | nothing => "DO NOTHING"
  | update assignments condition =>
    "DO UPDATE SET " ++ assignmentsText assignments ++ Term.prefixedText " WHERE " condition

def ConflictClause.text : ConflictClause → String
  | absent => ""
  | onConflict target action =>
    " ON CONFLICT" ++ (target.map ConflictTarget.text).getD "" ++ " " ++ action.text
  | duplicateKey assignments => " ON DUPLICATE KEY UPDATE " ++ assignmentsText assignments

def returningText : Option (List SelectItem) → String
  | some items => " RETURNING " ++ commas (SelectItem.texts items)
  | none => ""

def Insert.text (i : Insert) : String :=
  let columnsText (columns : List Ident) : String :=
    if columns.isEmpty then "" else "(" ++ commas (columns.map Ident.text) ++ ") "
  "INSERT" ++ i.words ++ " " ++ dottedText i.table ++ " " ++ columnsText i.columns
    ++ (if i.partition.isEmpty then ""
      else "PARTITION (" ++ commas (Term.texts i.partition) ++ ") ")
    ++ columnsText i.laterColumns
    ++ (match i.source with
      | some query => query.text
      | none => if i.columns.isEmpty then "DEFAULT VALUES" else "")
    ++ i.conflict.text ++ returningText i.returning

def Update.text (u : Update) : String :=
  "UPDATE " ++ u.target.text ++ " SET " ++ assignmentsText u.assignments
    ++ (match u.source with
      | some table => " FROM " ++ table.text
      | none => "")
    ++ Term.prefixedText " WHERE " u.condition ++ returningText u.returning

def Delete.text (d : Delete) : String :=
  "DELETE " ++ (if d.tables.isEmpty then "" else commas (d.tables.map dottedText) ++ " ")
    ++ "FROM " ++ commas (TableTerm.texts d.targets)
    ++ listText " USING " (TableTerm.texts d.others)
    ++ Term.prefixedText " WHERE " d.condition ++ returningText d.returning
    ++ listText " ORDER BY " (OrderTerm.texts d.orderBy) ++ Term.prefixedText " LIMIT " d.limit

def Change.text : Change → String
  | insert change => change.text
  | update change => change.text
  | delete change => change.text
  | unsupported text => text

end Sql

end SqlEngine
