import SqlEngine.Database.Draft
import SqlEngine.Database.Layout
import SqlEngine.Query.Compile
import SqlEngine.Sql.Statement

/-!
Statements that define relations: tables, indexes, sequences, enumerations and schemas.
-/

namespace SqlEngine

namespace Define

/-! ### The parts of a table -/

/-- The indexes of keys, under new numbers. -/
def allocateIndexes (keys : List Key) : Define (List IndexDef) :=
  keys.mapM fun k => do return ⟨← allocate, k.name, k.columns, true, k.primary⟩

def registerIndex (d : TableDef) (i : IndexDef) : Define Unit :=
  changeCatalog (·.register d.schema i.id (.index d.id i.name))

/-- The sequence that belongs to a column. -/
def registerSerial (d : TableDef) (s : SerialColumn) : Define Unit := do
  let options ← SequenceOptions.create [.ownedBy (some (d.name ++ "." ++ s.column))]
  changeCatalog (·.registerNext d.schema fun id => .sequence ⟨id, d.schema, s.sequence, options⟩)

/-- Registers the indexes and the sequences that a layout defines for a table. -/
def registerParts (d : TableDef) (l : Layout) (indexes : List IndexDef) : Define Unit := do
  indexes.forM (registerIndex d)
  l.serials.forM (registerSerial d)

/-- Fills the new indexes of a table. -/
def fillIndexes (d : TableDef) (indexes : List IndexDef) : Define Unit :=
  indexes.forM fun i => changeContent d.id (.createIndex d i)

/-! ### Statements -/

/-- The layout of a new table. -/
def layoutOf (c : Catalog) (schema name : String) (t : Sql.CreateTable) :
    Except SqlError Layout := do
  let l ← t.columns.foldlM (Layout.addColumn c schema) (.empty name)
  let l ← t.constraints.foldlM Layout.addConstraint l
  l.validate []
  return l

def createTable (t : Sql.CreateTable) : Define Outcome := do
  if t.filled then throw (.notSupported "CREATE TABLE ... AS")
  let c ← catalog
  let name ← QName.ofParts t.name
  let schema := c.targetSchema name
  if !c.isFree schema name.name then
    if t.ifNotExists then return .skipped "CREATE TABLE"
    throw (.query (.relationExists name.name))
  let l ← layoutOf c schema name.name t
  c.ensureFree schema [] (name.name :: l.relationNames)
  let id ← allocate
  let indexes ← allocateIndexes l.keys
  let d : TableDef := ⟨id, schema, name.name, l.columns, l.checks, indexes⟩
  changeCatalog (·.register schema id (.table d))
  registerParts d l indexes
  putContent id .empty
  return .done "CREATE TABLE"

/-- The column that a key of an index names. -/
def indexedColumn : Sql.OrderTerm → Except SqlError String
  | .mk (.name id) _ => .ok id.name
  | .mk (.path parts) _ => .ok (Sql.lastName parts)
  | .mk t _ => .error (.notSupported ("index on expression " ++ t.text))

/-- The name and the position of each indexed column. -/
def indexedColumns (d : TableDef) (keys : List Sql.OrderTerm) :
    Except SqlError (List (String × Nat)) :=
  keys.mapM fun k => do
    let name ← indexedColumn k
    return (name, ← d.position name)

/-- Defines an index. Methods other than `btree` are either passed over or refused. -/
def createIndex (o : DbOptions) (t : Sql.CreateIndex) : Define Outcome := do
  if let some method := t.method.map Sql.Ident.name then
    if method != "btree" then
      if o.ignoreUnsupportedIndices then return .skipped "CREATE INDEX"
      throw (.notSupported ("index method " ++ method))
  let c ← catalog
  let d ← c.table (← QName.ofParts t.table)
  let columns ← indexedColumns d t.keys
  let name := match t.name with
    | some parts => Sql.lastName parts
    | none => d.name ++ "_" ++ "_".intercalate (columns.map (·.1)) ++ "_idx"
  if !c.isFree d.schema name then
    if t.ifNotExists then return .skipped "CREATE INDEX"
    throw (.query (.relationExists name))
  let index : IndexDef := ⟨← allocate, name, columns.map (·.2), t.unique, false⟩
  let d := d.addIndexes [index]
  fillIndexes d [index]
  registerIndex d index
  changeCatalog (·.replaceTable d)
  return .done "CREATE INDEX"

def createSequence (name : QName) (ifNotExists : Bool) (clauses : List SequenceClause) :
    Define Outcome := do
  let c ← catalog
  let schema := c.targetSchema name
  if !c.isFree schema name.name then
    if ifNotExists then return .skipped "CREATE SEQUENCE"
    throw (.query (.relationExists name.name))
  let options ← SequenceOptions.create clauses
  changeCatalog (·.registerNext schema fun id => .sequence ⟨id, schema, name.name, options⟩)
  return .done "CREATE SEQUENCE"

/-- Changes the options of a sequence; its counter moves only if it is told to begin again. -/
def alterSequence (name : QName) (ifExists : Bool) (clauses : List SequenceClause) :
    Define Outcome := do
  match (← catalog).sequence name, ifExists with
  | .error (.relationNotFound _), true => return .skipped "ALTER SEQUENCE"
  | .error e, _ => throw e
  | .ok d, _ =>
    let (options, restart) ← d.options.alter clauses
    let d := { d with options }
    changeCatalog (·.replaceSequence d)
    if let some value := restart then
      changeStore fun s => s.putSequence d.id (d.restart (s.sequence d) value)
    return .done "ALTER SEQUENCE"

/-- The first text that occurred before. -/
def repeated? (seen : List String) : List String → Option String
  | [] => none
  | s :: rest => if seen.contains s then some s else repeated? (s :: seen) rest

def createEnum (name : QName) (labels : List String) : Define Outcome := do
  let c ← catalog
  let schema := c.targetSchema name
  if let some label := repeated? [] labels then throw (.query (.enumLabelRepeated label))
  if !c.isFree schema name.name then throw (.query (.typeExists name.name))
  let id ← allocate
  changeCatalog (·.register schema id (.type (.enum ⟨id, name.name, labels⟩)))
  return .done "CREATE TYPE"

def createSchema (name : Option (List Sql.Ident)) (ifNotExists : Bool) : Define Outcome := do
  let some parts := name | throw (.notSupported "CREATE SCHEMA ... AUTHORIZATION")
  let (created, catalog) ← (← catalog).createSchema (Sql.lastName parts) ifNotExists
  changeCatalog fun _ => .ok catalog
  return if created then .done "CREATE SCHEMA" else .skipped "CREATE SCHEMA"

/-- The owner of a table is not kept; the table has to be there. -/
def alterOwner (name : QName) : Define Outcome := do
  let _ ← (← catalog).table name
  return .skipped "ALTER TABLE"

end Define

end SqlEngine
