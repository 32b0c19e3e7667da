import SqlEngine.Error
import SqlEngine.Sql.Term
import SqlEngine.Storage.Index

/-!
Tables: the definition, which the catalog holds, and the content, which transactions hold.

Every change of the content is given the definition that it has to honour. The content refuses rows
of the wrong width, missing values in columns that need one, and a second row with a key of a
unique index. Check constraints are kept by the statements, which can evaluate them.
-/

namespace SqlEngine

structure ColumnDef where
  name : String
  type : SqlType
  notNull : Bool
  /-- The term that gives the value of a new row that has none. -/
  default : Option Sql.Term
deriving Inhabited

structure CheckDef where
  name : String
  condition : Sql.Term
deriving Inhabited

structure TableDef where
  id : Nat
  schema : String
  name : String
  columns : List ColumnDef
  checks : List CheckDef
  indexes : List IndexDef
deriving Inhabited

namespace TableDef

/-- The position of a column. -/
def position? (d : TableDef) (column : String) : Option Nat :=
  d.columns.findIdx? (·.name == column)

/-- The position of a column that has to be there. -/
def position (d : TableDef) (column : String) : Except SqlError Nat :=
  match d.position? column with
  | some p => .ok p
  | none => .error (.query (.relationColumnMissing column d.name))

def index? (d : TableDef) (id : Nat) : Option IndexDef := d.indexes.find? (·.id == id)

def primaryKey? (d : TableDef) : Option IndexDef := d.indexes.find? (·.primary)

/-- A unique index on exactly these columns. -/
def uniqueIndexOn? (d : TableDef) (columns : List Nat) : Option IndexDef :=
  d.indexes.find? fun i => i.unique && i.covers columns

/-- The type of a column; positions come from the definition itself. -/
def typeAt (d : TableDef) (position : Nat) : SqlType :=
  match d.columns[position]? with
  | some c => c.type
  | none => .null

/-! ### Changed definitions -/

def addIndexes (d : TableDef) (indexes : List IndexDef) : TableDef :=
  { d with indexes := d.indexes ++ indexes }

def removeIndex (d : TableDef) (id : Nat) : TableDef :=
  { d with indexes := d.indexes.filter (·.id != id) }

/-- The definition without a column and the indexes on it; the checks stay. -/
def removeColumn (d : TableDef) (position : Nat) : TableDef :=
  { d with
    columns := d.columns.eraseIdx position
    indexes := (d.indexes.filter (!·.columns.contains position)).map (·.withoutPosition position) }

/-! ### Keys -/

/-- The canonical key made of the values of an index. -/
def keyFrom (d : TableDef) (index : IndexDef) (values : Row) : Row :=
  List.zipWith (fun column v => (d.typeAt column).canonical v) index.columns values

/-- The canonical key of a row. -/
def keyOf (d : TableDef) (index : IndexDef) (row : Row) : Row :=
  d.keyFrom index (index.columns.map (row.getD · .null))

end TableDef

/-- The rows of a table in the order of their numbers, and the content of its indexes. -/
structure TableData where
  rows : List (RowId × Row)
  /-- The number of the next row that is inserted. -/
  nextRowId : RowId
  indexes : List (Nat × IndexData)
deriving Inhabited

namespace TableData

def empty : TableData := ⟨[], 0, []⟩

def size (t : TableData) : Nat := t.rows.length

def get? (t : TableData) (id : RowId) : Option Row := t.rows.lookup id

/-- The first row with a number above the given one, or the first row of all. -/
def after? (t : TableData) (last : Option RowId) : Option (RowId × Row) :=
  t.rows.find? fun e => last.all (· < e.1)

/-- The content of an index; an index that was never written is empty. -/
def indexData (t : TableData) (id : Nat) : IndexData := (t.indexes.lookup id).getD []

/-- The rows whose key in an index begins with the given values. -/
def lookup (t : TableData) (d : TableDef) (index : Nat) (first : Row) : List RowId :=
  match d.index? index with
  | some i => (t.indexData index).withPrefix (d.keyFrom i first)
  | none => []

/-- Another row that holds the key of a row in a unique index. A key with a missing value is the
key of no other row. -/
def holder? (t : TableData) (d : TableDef) (index : IndexDef) (row : Row) (except : Option RowId) :
    Option RowId :=
  let key := d.keyOf index row
  if key.any Value.isNull then none
  else ((t.indexData index.id).get key).find? fun id => some id != except

/-- The first unique index in which another row holds the key of a row, and that row. -/
def conflict? (t : TableData) (d : TableDef) (row : Row) (except : Option RowId) :
    Option (IndexDef × RowId) :=
  (d.indexes.filter (·.unique)).findSome? fun i => (t.holder? d i row except).map (i, ·)

/-- The first column that needs a value and has none in a row. -/
def missing? (d : TableDef) (row : Row) : Option ColumnDef :=
  ((d.columns.zip row).find? fun (c, v) => c.notNull && v.isNull).map (·.1)

/-- May a row be stored, apart from the row that it replaces? -/
def check (t : TableData) (d : TableDef) (row : Row) (except : Option RowId) :
    Except SqlError Unit :=
  if row.length ≠ d.columns.length then
    .error <| .internal
      s!"row of {row.length} values for {d.columns.length} columns of \"{d.name}\""
  else match missing? d row, t.conflict? d row except with
    | some c, _ => .error (.query (.notNullViolated c.name))
    | none, some (i, _) => .error (.query (.uniqueViolated i.name))
    | none, none => .ok ()

/-- Adds a row to the content of one index. -/
def addKey (d : TableDef) (id : RowId) (row : Row) (indexes : List (Nat × IndexData))
    (index : IndexDef) : List (Nat × IndexData) :=
  Sorted.alter compare index.id (fun data => some ((data.getD []).add (d.keyOf index row) id))
    indexes

/-- Takes a row out of the content of one index. -/
def removeKey (d : TableDef) (id : RowId) (row : Row) (indexes : List (Nat × IndexData))
    (index : IndexDef) : List (Nat × IndexData) :=
  Sorted.alter compare index.id (·.map (·.remove (d.keyOf index row) id)) indexes

/-- Adds a row to every index. -/
def addKeys (t : TableData) (d : TableDef) (id : RowId) (row : Row) : TableData :=
  { t with indexes := d.indexes.foldl (addKey d id row) t.indexes }

/-- Takes a row out of every index. -/
def removeKeys (t : TableData) (d : TableDef) (id : RowId) (row : Row) : TableData :=
  { t with indexes := d.indexes.foldl (removeKey d id row) t.indexes }

/-- Puts a row behind the others, under a number that is greater than theirs. -/
def appendRow (t : TableData) (id : RowId) (row : Row) : TableData :=
  { t with rows := t.rows ++ [(id, row)] }

/-- Puts a row in the place of the one with a number. -/
def replaceRow (t : TableData) (id : RowId) (row : Row) : TableData :=
  { t with rows := t.rows.map fun e => if e.1 == id then (id, row) else e }

/-- Deletes a row and gives it. -/
def delete (t : TableData) (d : TableDef) (id : RowId) : Option (Row × TableData) :=
  (t.get? id).map fun row =>
    (row, { t.removeKeys d id row with rows := t.rows.filter (·.1 != id) })

/-- Deletes all rows; their numbers are not used again. -/
def truncate (t : TableData) : TableData :=
  { t with rows := [], indexes := t.indexes.map fun (id, _) => (id, []) }

/-- Adds a row to the content of a new index. -/
def buildKey (d : TableDef) (index : IndexDef) (data : IndexData) (e : RowId × Row) :
    Except SqlError IndexData :=
  let key := d.keyOf index e.2
  if index.unique && !key.any Value.isNull && !(data.get key).isEmpty then
    .error (.query (.uniqueIndexFailed index.name))
  else .ok (data.add key e.1)

/-- The content of a new index; a unique one refuses rows with the same key. -/
def buildIndex (t : TableData) (d : TableDef) (index : IndexDef) : Except SqlError IndexData :=
  t.rows.foldlM (buildKey d index) []

def putIndex (t : TableData) (id : Nat) (data : IndexData) : TableData :=
  { t with indexes := Sorted.insert compare id data t.indexes }

def dropIndex (t : TableData) (id : Nat) : TableData :=
  { t with indexes := Sorted.erase compare id t.indexes }

/-- Gives every row one more value. -/
def addColumn (t : TableData) (v : Value) : TableData :=
  { t with rows := t.rows.map fun (id, row) => (id, row ++ [v]) }

/-- Builds the indexes of a definition from the rows. -/
def reindex (t : TableData) (d : TableDef) : TableData :=
  let bare := d.indexes.foldl (fun held i => Sorted.insert compare i.id [] held) []
  t.rows.foldl (fun built e => built.addKeys d e.1 e.2) { t with indexes := bare }

/-- Takes a value out of every row; the definition is the one without the column. -/
def dropColumn (t : TableData) (d : TableDef) (position : Nat) : TableData :=
  let rows := t.rows.map fun (id, row) => (id, row.eraseIdx position)
  { t with rows }.reindex d

end TableData

/-- A change of the content of a table. A change that fails leaves behind what it did before. -/
abbrev ContentChange := ExceptT SqlError (StateM TableData)

namespace ContentChange

/-- Inserts a row and gives it the next number. -/
def insert (d : TableDef) (row : Row) : ContentChange RowId := do
  (← get).check d row none
  let id := (← get).nextRowId
  modify fun t => { t with nextRowId := id + 1 }
  modify fun t => t.addKeys d id row
  modify fun t => t.appendRow id row
  return id

/-- Replaces a row and gives the one that was there. -/
def update (d : TableDef) (id : RowId) (row : Row) : ContentChange Row := do
  let some previous := (← get).get? id
    | throw (.internal s!"row {id} of \"{d.name}\" is gone")
  (← get).check d row (some id)
  modify fun t => t.removeKeys d id previous
  modify fun t => t.addKeys d id row
  modify fun t => t.replaceRow id row
  return previous

/-- Fills a new index. -/
def createIndex (d : TableDef) (index : IndexDef) : ContentChange Unit := do
  let data ← (← get).buildIndex d index
  modify fun t => t.putIndex index.id data

/-- The result of a change and the content after it, if it succeeds. -/
def result {α : Type} (m : ContentChange α) (t : TableData) : Except SqlError (α × TableData) :=
  let (result, t) := m.run t
  result.map (·, t)

end ContentChange

namespace TableData

def insert (t : TableData) (d : TableDef) (row : Row) : Except SqlError (RowId × TableData) :=
  (ContentChange.insert d row).result t

def update (t : TableData) (d : TableDef) (id : RowId) (row : Row) :
    Except SqlError (Row × TableData) :=
  (ContentChange.update d id row).result t

def createIndex (t : TableData) (d : TableDef) (index : IndexDef) : Except SqlError TableData :=
  ((ContentChange.createIndex d index).result t).map (·.2)

end TableData

end SqlEngine
