import SqlEngine.Database.Draft
import SqlEngine.Sql.Definition

/-!
Statements that drop relations.

What depends on a table goes with it: its indexes, and the sequences that fill its columns.
-/

namespace SqlEngine

namespace Define

/-- The kind of the relations that a statement drops. -/
def droppedKind : Sql.DropKind → Except SqlError String
  | .table => .ok "table"
  | .index => .ok "index"
  | .sequence => .ok "sequence"
  | .unsupported name => .error (.notSupported ("DROP " ++ name))

/-- The relation to drop, if it is there. -/
def dropped? (c : Catalog) (kind : String) (ifExists : Bool) (parts : List Sql.Ident) :
    Except SqlError (Option (Nat × Relation)) := do
  let name ← QName.ofParts parts
  match c.find? name with
  | some (id, r) =>
    if r.kind == kind then return some (id, r)
    else throw (.query (.wrongRelationKind name.name kind r.kind))
  | none => if ifExists then return none else throw (.relationNotFound name.name)

def dropTable (c : Catalog) (d : TableDef) : Define Unit := do
  d.indexes.forM fun i => changeCatalog (·.drop i.id)
  (c.ownedSequences d).forM fun s => discard s.id
  changeCatalog (·.drop d.id)
  changeStore (·.remove (.table d.id))

def dropRelation (id : Nat) (r : Relation) : Define Unit := do
  let c ← catalog
  match r with
  | .table d => dropTable c d
  | .index table _ =>
    let d ← c.tableById table
    dropIndex table id
    changeCatalog (·.replaceTable (d.removeIndex id))
  | .sequence _ => discard id
  | .type _ => return ()

/-- Drops relations; all of them are looked up before the first one is dropped. -/
def drop (t : Sql.Drop) : Define Outcome := do
  let kind ← droppedKind t.kind
  let c ← catalog
  let found ← t.names.mapM fun name => liftM (dropped? c kind t.ifExists name)
  let found := found.filterMap id
  let command := "DROP " ++ t.kind.name
  if found.isEmpty then return .skipped command
  found.forM fun (id, r) => dropRelation id r
  return .done command

end Define

end SqlEngine
