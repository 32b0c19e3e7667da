import SqlEngine.Database.Definition
import SqlEngine.Text.Category

/-!
Changes of tables: columns and constraints that come, go or change while the table holds rows.
-/

namespace SqlEngine

namespace Define

/-- Does any row miss the value at a position? -/
def holdsNull (content : TableData) (position : Nat) : Bool :=
  content.rows.any fun e => (e.2.getD position .null).isNull

def nullsFound (d : TableDef) (column : String) : SqlError :=
  .query (.columnHoldsNull column d.name)

/-- The table with another definition of one column. -/
def changeColumn (d : TableDef) (position : Nat) (f : ColumnDef → ColumnDef) : TableDef :=
  { d with columns := d.columns.modify position f }

/-! ### Columns that come -/

/-- The value that the rows of a table get for a new column: its default, unless a sequence fills
the column. -/
def newValue (now : Timestamp) (l : Layout) (column : ColumnDef) (hasRows : Bool) :
    Define Value := do
  match column.default with
  | some t =>
    if l.serials.isEmpty && hasRows then
      let n := Names.ofCatalog (← catalog)
      let e ← (← t.build n .empty).coerce n.registry column.type
      evaluate now fun env => e.eval env [] []
    else return .null
  | none => return .null

def addColumn (now : Timestamp) (d : TableDef) (t : Sql.ColumnTerm) : Define Unit := do
  let c ← catalog
  let l ← Layout.addColumn c d.schema { Layout.empty d.name with columns := d.columns } t
  l.validate d.indexes
  c.ensureFree d.schema [] l.relationNames
  let position := d.columns.length
  let hasRows := !(← content d.id).rows.isEmpty
  if let some column := l.columns[position]? then
    let value ← newValue now l column hasRows
    if column.notNull && hasRows && value.isNull then throw (nullsFound d column.name)
    let indexes ← allocateIndexes l.keys
    let d := { d with
      columns := l.columns, checks := d.checks ++ l.checks, indexes := d.indexes ++ indexes }
    putContent d.id ((← content d.id).addColumn value)
    fillIndexes d indexes
    registerParts d l indexes
    changeCatalog (·.replaceTable d)

/-! ### Columns that go -/

/-- Is a character part of a word? -/
def isWordChar (c : Char) : Bool := Text.isAlphabetic c || Text.isNumeric c || c == '_'

/-- The words of a text, with an empty one between two neighbouring separators. -/
def words : List Char → List (List Char)
  | [] => [[]]
  | c :: rest =>
    match words rest with
    | word :: later => if isWordChar c then (c :: word) :: later else [] :: word :: later
    | [] => []

/-- Does a name occur as a word in a term as it is written, in whatever case? -/
def mentions (t : Sql.Term) (name : String) : Bool :=
  (words t.text.toList).any fun word =>
    word.map Numeral.lowerAscii == name.toList.map Numeral.lowerAscii

/-- Drops a column with the indexes on it, the checks that mention it and the sequence that fills
it. -/
def dropColumn (d : TableDef) (position : Nat) (column : String) : Define Unit := do
  let gone := d.indexes.filter (·.columns.contains position)
  let checks := d.checks.filter fun check => !mentions check.condition column
  let owner := d.name ++ "." ++ column
  let sequences := ((← catalog).ownedSequences d).filter (·.options.ownedBy == some owner)
  let d := { d.removeColumn position with checks }
  putContent d.id ((← content d.id).dropColumn d position)
  (gone.map (·.id) ++ sequences.map (·.id)).forM discard
  changeCatalog (·.replaceTable d)

/-! ### Constraints -/

/-- Evaluates new checks for all rows, one check after the other. -/
def checkRows (now : Timestamp) (d : TableDef) (checks : List CheckDef) : Define Unit := do
  let n := Names.ofCatalog (← catalog)
  let scope := Scope.ofColumns (TypedPlan.scan d none).columns
  let compiled ← checks.mapM fun check => do
    return (check.name, ← check.condition.condition n scope)
  let rows := (← content d.id).rows.map (·.2)
  evaluate now fun env =>
    compiled.forM fun (name, condition) =>
      rows.forM fun row => do
        if (← condition.eval env [] row).bool? == some false then
          throw (.query (.checkViolatedByRow name d.name))

/-- The first column that a new definition demands values for and that misses one. -/
def missing? (d : TableDef) (columns : List ColumnDef) (content : TableData) : Option ColumnDef :=
  ((columns.zip d.columns).zipIdx.find? fun ((new, old), position) =>
    new.notNull && !old.notNull && holdsNull content position).map (·.1.1)

def addConstraint (now : Timestamp) (d : TableDef) (constraint : Sql.Constraint) :
    Define Unit := do
  let l ← Layout.addConstraint
    { Layout.empty d.name with columns := d.columns, checks := d.checks } constraint
  l.validate d.indexes
  (← catalog).ensureFree d.schema [] (l.keys.map (·.name))
  checkRows now d (l.checks.drop d.checks.length)
  if let some column := missing? d l.columns (← content d.id) then throw (nullsFound d column.name)
  let indexes ← allocateIndexes l.keys
  let d := { d with columns := l.columns, checks := l.checks, indexes := d.indexes ++ indexes }
  fillIndexes d indexes
  registerParts d l indexes
  changeCatalog (·.replaceTable d)

/-- Drops an index or, if there is none of the name, a check. -/
def dropConstraint (d : TableDef) (name : String) (ifExists : Bool) : Define Unit := do
  match d.indexes.find? (·.name == name), d.checks.findIdx? (·.name == name) with
  | some index, _ =>
    dropIndex d.id index.id
    changeCatalog (·.replaceTable { d with indexes := d.indexes.eraseP (·.name == name) })
  | none, some position =>
    changeCatalog (·.replaceTable { d with checks := d.checks.eraseIdx position })
  | none, none =>
    if !ifExists then throw (.query (.constraintMissing name d.name))

/-! ### The statement -/

/-- A column as a change leaves it. -/
def changedColumn (d : TableDef) (position : Nat) (content : TableData) (column : String) :
    Sql.ColumnChange → Except SqlError TableDef
  | .setNotNull =>
    if holdsNull content position then .error (nullsFound d column)
    else .ok (changeColumn d position fun c => { c with notNull := true })
  | .dropNotNull =>
    if d.primaryKey?.any (·.columns.contains position) then
      .error (.query (.primaryKeyColumn column))
    else .ok (changeColumn d position fun c => { c with notNull := false })
  | .setDefault value => .ok (changeColumn d position fun c => { c with default := some value })
  | .dropDefault => .ok (changeColumn d position fun c => { c with default := none })
  | .unsupported text => .error (.notSupported ("ALTER COLUMN " ++ text))

def columnExists (d : TableDef) (column : String) : SqlError :=
  .query (.relationColumnExists column d.name)

/-- One change of the table with a number. -/
def alterOne (now : Timestamp) (id : Nat) (change : Sql.TableChange) : Define Unit := do
  let d ← (← catalog).tableById id
  match change with
  | .rename name => changeCatalog (·.rename id (Sql.lastName name))
  | .addColumn t ifNotExists =>
    if (d.position? t.name.name).isNone then addColumn now d t
    else if !ifNotExists then throw (columnExists d t.name.name)
  | .dropColumn name ifExists =>
    match d.position? name.name with
    | some position => dropColumn d position name.name
    | none => if !ifExists then let _ ← d.position name.name
  | .renameColumn before after =>
    let position ← d.position before.name
    if (d.position? after.name).isSome then throw (columnExists d after.name)
    let renamed := changeColumn d position fun c => { c with name := after.name }
    changeCatalog (·.replaceTable renamed)
  | .changeColumn name change =>
    let position ← d.position name.name
    let changed ← changedColumn d position (← content id) name.name change
    changeCatalog (·.replaceTable changed)
  | .addConstraint constraint => addConstraint now d constraint
  | .dropConstraint name ifExists => dropConstraint d name.name ifExists
  | .unsupported text => throw (.notSupported ("ALTER TABLE " ++ text))

def alterTable (now : Timestamp) (t : Sql.AlterTable) : Define Outcome := do
  match (← catalog).table (← QName.ofParts t.name), t.ifExists with
  | .error (.relationNotFound _), true => return .skipped "ALTER TABLE"
  | .error e, _ => throw e
  | .ok d, _ =>
    t.changes.forM (alterOne now d.id)
    return .done "ALTER TABLE"

end Define

end SqlEngine
