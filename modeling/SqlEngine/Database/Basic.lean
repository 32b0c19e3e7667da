import SqlEngine.Database.Draft

/-!
Databases: the catalog, the data in its transaction, and what is known about the session.

Between statements the transaction has at least one open level. Statements that read or change rows
run in a level of their own, which is kept if they succeed. Statements that define relations first
commit everything and then run on top of the root, so that no rollback can take them back; they
also close an open transaction.
-/

namespace SqlEngine

/-- What `CREATE EXTENSION` installs: functions, and statements to carry out. -/
structure Extension where
  functions : List (Signature × (List Value → Except SqlError Value))
  sql : Option String

structure Database where
  options : DbOptions
  catalog : Catalog
  store : Store
  /-- How many random identifiers were drawn. -/
  drawn : Nat
  /-- Whether `BEGIN` opened the newest level of the transaction. -/
  inTransaction : Bool
  /-- The time that statements see. -/
  now : Timestamp
  /-- The extensions that can be created. -/
  extensions : List (String × Extension)
  /-- The extensions that were created. -/
  installed : List String

namespace Database

/-- A database without relations. -/
def create (o : DbOptions) (now : Timestamp) : Except SqlError Database := do
  o.validate
  return {
    options := o
    catalog := .create o
    store := Transaction.empty.fork
    drawn := 0
    inTransaction := false
    now
    extensions := []
    installed := [] }

/-! ### Transactions -/

/-- Keeps everything that was done since the last time. -/
def commitAll (db : Database) : Database := { db with store := db.store.commitAll.fork }

/-- The data with a level above the root, which is opened if there is none. -/
def reopened (s : Store) : Store := if s.isChild then s else s.fork

def startTransaction (db : Database) : Outcome × Database :=
  if db.inTransaction then (.skipped "BEGIN", db)
  else (.done "BEGIN", { db with store := db.store.fork, inTransaction := true })

def commit (db : Database) : Outcome × Database :=
  if db.inTransaction then
    let store := match db.store.commit with
      | .ok parent => reopened parent
      | .error e => reopened e.transaction
    (.done "COMMIT", { db with store, inTransaction := false })
  else (.skipped "COMMIT", db)

def rollback (db : Database) : Outcome × Database :=
  if db.inTransaction then
    let store := match db.store.rollback with
      | .ok parent => reopened parent
      | .error e => reopened e.transaction
    (.done "ROLLBACK", { db with store, inTransaction := false })
  else (.skipped "ROLLBACK", db)

/-- Runs a statement in a level of its own, which is dropped if the statement fails. -/
def inSavepoint (db : Database) (statement : Env → Eval Outcome) :
    Except SqlError Outcome × Database :=
  let body (store : Store) : Except SqlError (Outcome × Nat) × Store :=
    match (statement ⟨db.catalog, db.now⟩).run ⟨store, db.drawn⟩ with
    | (.ok outcome, s) => (.ok (outcome, s.drawn), s.store)
    | (.error e, s) => (.error e, s.store)
  match db.store.savepoint body with
  | (.ok (outcome, drawn), store) => (.ok outcome, { db with store, drawn })
  | (.error e, store) => (.error e, { db with store })

/-- Runs a statement that defines relations. If it fails, the catalog is what it was before. -/
def define (db : Database) (statement : Define Outcome) : Except SqlError Outcome × Database :=
  let body (store : Store) : Except SqlError (Outcome × Catalog × Nat) × Store :=
    match statement.run ⟨db.catalog, ⟨store, db.drawn⟩⟩ with
    | (.ok outcome, d) => (.ok (outcome, d.catalog, d.data.drawn), d.data.store)
    | (.error e, d) => (.error e, d.data.store)
  let (result, store) := db.store.commitAll.savepoint body
  let db := { db with store := store.fork, inTransaction := false }
  match result with
  | .ok (outcome, catalog, drawn) => (.ok outcome, { db with catalog, drawn })
  | .error e => (.error e, db)

/-! ### The catalog -/

def setSearchPath (db : Database) (path : List String) : Database :=
  { db with catalog := db.catalog.setSearchPath path }

/-- Creates a schema; tells whether it was not there before. -/
def createSchema (db : Database) (name : String) (ifNotExists : Bool) :
    Except SqlError (Bool × Database) := do
  let (created, catalog) ← db.catalog.createSchema name ifNotExists
  return (created, { db with catalog })

def registerFunction (db : Database) (schema : Option String) (signature : Signature)
    (body : List Value → Except SqlError Value) : Except SqlError Database := do
  return { db with catalog := ← db.catalog.registerFunction schema signature body }

/-- Makes an extension available, in the place of one of the same name. -/
def registerExtension (db : Database) (name : String) (extension : Extension) : Database :=
  { db with extensions := (name, extension) :: db.extensions.filter (·.1 != name) }

end Database

end SqlEngine
