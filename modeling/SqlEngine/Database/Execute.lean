import SqlEngine.Database.Alteration
import SqlEngine.Database.Basic
import SqlEngine.Database.Change
import SqlEngine.Database.Removal
import SqlEngine.Database.Session
import SqlEngine.Sql.Batch

/-!
Carrying out statements and batches.

A batch goes from statement to statement and stops at the first that fails. What the statements
before it did stays, and is committed at the end of the batch unless a transaction is open.
-/

namespace SqlEngine

namespace Database

/-- What is left to do for an extension: carries out a text in a database. -/
abbrev Installer := Database → String → Except ExecError (List Result) × Database

/-! ### Extensions -/

/-- The schema of an extension, which has to be there. -/
def extensionSchema (db : Database) : Option String → Except SqlError String
  | none => .ok db.catalog.current
  | some s => if (db.catalog.schema? s).isSome then .ok s else .error (.query (.schemaMissing s))

/-- Registers functions one after the other, up to the first that is refused. -/
def registerAll (db : Database) (schema : String) :
    List (Signature × (List Value → Except SqlError Value)) → Except SqlError Unit × Database
  | [] => (.ok (), db)
  | (signature, body) :: rest =>
    match db.registerFunction (some schema) signature body with
    | .ok db => db.registerAll schema rest
    | .error e => (.error e, db)

/-- Installs an extension; what was done before a failure stays. -/
def install (run : Installer) (db : Database) (schema : String) (x : Extension) :
    Except SqlError Unit × Database :=
  match db.registerAll schema x.functions, x.sql with
  | (.ok (), db), some sql =>
    match run db sql with
    | (.ok _, db) => (.ok (), db)
    | (.error e, db) => (.error e.error, db)
  | result, _ => result

def createExtension (run : Installer) (db : Database) (name : String) (ifNotExists : Bool)
    (schema : Option String) : Except SqlError Outcome × Database :=
  match db.extensions.lookup name, db.extensionSchema schema with
  | none, _ => (.error (.query (.extensionMissing name)), db)
  | _, .error e => (.error e, db)
  | some x, .ok schema =>
    if db.installed.contains name then
      if ifNotExists then (.ok (.skipped "CREATE EXTENSION"), db)
      else (.error (.query .extensionExists), db)
    else
      match install run { db.commitAll with inTransaction := false } schema x with
      | (.ok (), db) =>
        let db := db.commitAll
        (.ok (.done "CREATE EXTENSION"), { db with installed := name :: db.installed })
      | (.error e, db) => (.error e, db)

/-! ### Statements -/

/-- Sets a setting; the search path is part of the catalog. -/
def setVariable (db : Database) (name : List Sql.Ident) (values : List Sql.Term) :
    Except SqlError Outcome × Database :=
  let name := Session.settingName name
  let values := values.map Session.settingText
  if name == "search_path" then (.ok (.done "SET"), db.setSearchPath values)
  else db.inSavepoint fun _ => Session.put name (", ".intercalate values)

/-- Carries out a statement. -/
def run (installer : Installer) (db : Database) :
    Sql.Statement → Except SqlError Outcome × Database
  | .query q => db.inSavepoint q.run
  | .change c => db.inSavepoint fun env => do
    return (← c.run env (.ofCatalog env.catalog)).outcome
  | .truncate table _ => db.inSavepoint (Session.truncate · table)
  | .showVariable words => db.inSavepoint (Session.shown · words)
  | .setVariable _ name values => db.setVariable name values
  | .setTimeZone _ => (.ok (.skipped "SET"), db)
  | .startTransaction _ => (.ok db.startTransaction.1, db.startTransaction.2)
  | .commit _ => (.ok db.commit.1, db.commit.2)
  | .rollback .. => (.ok db.rollback.1, db.rollback.2)
  | .createTable t => db.define (Define.createTable t)
  | .createIndex t => db.define (Define.createIndex db.options t)
  | .createSchema name ifNotExists => db.define (Define.createSchema name ifNotExists)
  | .alterTable t => db.define (Define.alterTable db.now t)
  | .drop t => db.define (Define.drop t)
  | .createSequence name ifNotExists clauses =>
    db.define (Define.createSequence name ifNotExists clauses)
  | .alterSequence name ifExists clauses => db.define (Define.alterSequence name ifExists clauses)
  | .createEnum name labels => db.define (Define.createEnum name labels)
  | .alterOwner table => db.define (Define.alterOwner table)
  | .createExtension name ifNotExists schema =>
    createExtension installer db name ifNotExists schema
  | .unsupported text => (.error (.notSupported (Sql.firstWords text)), db)

/-! ### Batches -/

/-- The end of a batch: everything is kept unless a transaction is open. -/
def endBatch (db : Database) : Database := if db.inTransaction then db else db.commitAll

/-- An error of a statement, with what is known about the statement. -/
def diagnosed (db : Database) (s : Sql.LocatedStatement) (e : SqlError) : ExecError :=
  ⟨e, some s.place, if db.options.errorDiagnostics then some s.text else none⟩

/-- Carries out statements one after the other, up to the first that fails. -/
def runAll (installer : Installer) (db : Database) :
    List Sql.LocatedStatement → Except ExecError (List Result) × Database
  | [] => (.ok [], db.endBatch)
  | s :: rest =>
    match db.run installer s.statement with
    | (.error e, db) => (.error (db.diagnosed s e), db.endBatch)
    | (.ok outcome, db) =>
      let (results, db) := runAll installer db rest
      (results.map (⟨outcome, s.place⟩ :: ·), db)

/-- Carries out a text; extensions may bring further texts, to a depth. -/
def executeWithin : Nat → Installer
  | 0, db, _ => (.error (.bare (.internal "extensions are nested too deeply")), db)
  | depth + 1, db, sql =>
    match Sql.Batch.ofText sql with
    | .error e => (.error (.bare e), db)
    | .ok batch => runAll (executeWithin depth) db batch

/-- Carries out a batch. An extension that is being created is not installed yet, so that nesting
ends if none of them creates itself. -/
def execute (db : Database) (sql : String) : Except ExecError (List Result) × Database :=
  executeWithin (db.extensions.length + 1) db sql

/-- Carries out a batch and gives the result of its last statement. -/
def query (db : Database) (sql : String) : Except ExecError Result × Database :=
  let (results, db) := db.execute sql
  (results.map fun results => results.getLast?.getD .nothing, db)

/-- The rows of the last statement of a batch. -/
def many (db : Database) (sql : String) : Except ExecError (List Row) × Database :=
  let (result, db) := db.query sql
  (result.map Result.rows, db)

/-- The first row of the last statement of a batch, which has to give one. -/
def one (db : Database) (sql : String) : Except ExecError Row × Database :=
  let (rows, db) := db.many sql
  let first (rows : List Row) : Except ExecError Row :=
    match rows with
    | row :: _ => .ok row
    | [] => .error (.bare (.query .noRows))
  (rows.bind first, db)

end Database

end SqlEngine
