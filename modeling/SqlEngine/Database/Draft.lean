import SqlEngine.Database.Result
import SqlEngine.Expr.Eval

/-!
What statements that define or change relations work on: the catalog together with the data.

A failing statement leaves both as they are by then; the database that runs it puts the catalog
back by hand and closes the level of the store that the statement wrote to.
-/

namespace SqlEngine

structure Draft where
  catalog : Catalog
  data : EvalState

abbrev Define := ExceptT SqlError (StateM Draft)

namespace Define

def catalog : Define Catalog := return (← get).catalog

def changeCatalog (f : Catalog → Except SqlError Catalog) : Define Unit := do
  let d ← get
  set { d with catalog := ← f d.catalog }

/-- Takes the next number for a relation. -/
def allocate : Define Nat := do
  let d ← get
  let (id, catalog) := d.catalog.allocate
  set { d with catalog }
  return id

def changeStore (f : Store → Store) : Define Unit :=
  modify fun d => { d with data := { d.data with store := f d.data.store } }

/-- The content of a table. -/
def content (table : Nat) : Define TableData := return (← get).data.store.table table

def putContent (table : Nat) (content : TableData) : Define Unit :=
  changeStore (·.putTable table content)

/-- Changes the content of a table. -/
def changeContent {α : Type} (table : Nat) (m : ContentChange α) : Define α := do
  let (result, content) := m.run (← content table)
  putContent table content
  result

/-- Evaluates with the catalog and the data as they are by now. -/
def evaluate {α : Type} (now : Timestamp) (m : Env → Eval α) : Define α := do
  let d ← get
  let (result, data) := (m ⟨d.catalog, now⟩).run d.data
  set { d with data }
  result

/-- Takes a relation away, with the counter if it is a sequence. -/
def discard (id : Nat) : Define Unit := do
  changeCatalog (·.drop id)
  changeStore (·.remove (.sequence id))

/-- Takes an index away; its table has to be given a definition without it. -/
def dropIndex (table index : Nat) : Define Unit := do
  putContent table ((← content table).dropIndex index)
  changeCatalog (·.drop index)

end Define

end SqlEngine
