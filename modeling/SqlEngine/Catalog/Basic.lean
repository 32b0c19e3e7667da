import SqlEngine.Catalog.Function
import SqlEngine.Catalog.Name
import SqlEngine.Catalog.Schema
import SqlEngine.Sql.Token
import SqlEngine.Text.Blank
import SqlEngine.Types.Conversion
import SqlEngine.Types.TypeName

/-!
The catalog: schemas, the rules by which names are resolved, and registered functions.

Numbers of relations come from one counter for the whole catalog, so that a number is looked up
without knowing the schema. Names without a schema are looked up along the search path and created
in the current schema. The options of a database say with which schema and path it begins.
-/

namespace SqlEngine

/-! ### Options -/

structure DbOptions where
  /-- The schema in which unqualified names are created. -/
  defaultSchema : String := "public"
  /-- The schemas in which unqualified names are looked up, in order. -/
  searchPath : List String := ["pg_catalog", "public"]
  /-- The number of parsed batches that are kept. -/
  parseCacheCapacity : Nat := 1000
  /-- Accept and ignore indexes of other methods than btree; they are refused otherwise. -/
  ignoreUnsupportedIndices : Bool := true
  /-- Attach the text of a failing statement to its error. -/
  errorDiagnostics : Bool := true
deriving DecidableEq, Repr, Inhabited

namespace DbOptions

def isBlank (s : String) : Bool := (Text.trim s.toList).isEmpty

/-- Options with a default schema, a search path without blank entries, and room for a batch. -/
def validate (o : DbOptions) : Except SqlError Unit :=
  if isBlank o.defaultSchema then .error (.query .emptyDefaultSchema)
  else if o.searchPath.any isBlank then .error (.query .emptySearchPathEntry)
  else if o.parseCacheCapacity == 0 then .error (.query .zeroCacheCapacity)
  else .ok ()

end DbOptions

/-! ### Names and schemas -/

/-- The parts of a dotted name as a name with an optional schema; the name of a database in front
is not looked at. -/
def QName.ofParts (parts : List Sql.Ident) : Except SqlError QName :=
  match parts with
  | [name] => .ok ⟨none, name.name⟩
  | [schema, name] => .ok ⟨some schema.name, name.name⟩
  | [_, schema, name] => .ok ⟨some schema.name, name.name⟩
  | parts => .error (.query (.tooManyDottedNames (Sql.dottedText parts)))

structure Catalog where
  /-- Schemas in the order of their names. -/
  schemas : List (String × Schema)
  searchPath : List String
  /-- The schema in which names without a schema are created. -/
  current : String
  nextId : Nat
  /-- Registered functions in the order of their registration. -/
  functions : List HostFunction

namespace Catalog

/-- The read-only schema of the system. -/
def systemSchema : String := "pg_catalog"

/-- The first number that is given to a relation of the user. -/
def firstUserId : Nat := 16384

/-- The schema that holds the built-in types under their object numbers. -/
def builtinSchema : Schema :=
  SqlType.builtins.foldl
    (fun s t => match t.oid? with
      | some oid => s.add oid (.type t)
      | none => s) { Schema.empty systemSchema with readOnly := true }

def create (o : DbOptions) : Catalog where
  schemas :=
    Sorted.insert compare o.defaultSchema (.empty o.defaultSchema) [(systemSchema, builtinSchema)]
  searchPath := o.searchPath
  current := o.defaultSchema
  nextId := firstUserId
  functions := []

def schema? (c : Catalog) (name : String) : Option Schema := c.schemas.lookup name

/-- Replaces the search path; its first schema that exists and is not the system's becomes the
current one. -/
def setSearchPath (c : Catalog) (path : List String) : Catalog :=
  let first := path.find? fun s => s != systemSchema && (c.schema? s).isSome
  { c with searchPath := path, current := first.getD c.current }

/-- Creates a schema; tells whether it was not there before. -/
def createSchema (c : Catalog) (name : String) (ifNotExists : Bool) :
    Except SqlError (Bool × Catalog) :=
  match c.schema? name, ifNotExists with
  | some _, true => .ok (false, c)
  | some _, false => .error (.query (.schemaExists name))
  | none, _ =>
    .ok (true, { c with schemas := Sorted.insert compare name (.empty name) c.schemas })

/-- A schema whose relations may change. -/
def writable (c : Catalog) (name : String) : Except SqlError Schema :=
  match c.schema? name with
  | none => .error (.query (.schemaMissing name))
  | some s => if s.readOnly then .error (.permissionDenied name) else .ok s

def putSchema (c : Catalog) (name : String) (s : Schema) : Catalog :=
  { c with schemas := Sorted.insert compare name s c.schemas }

/-- The schema in which a name is created. -/
def targetSchema (c : Catalog) (name : QName) : String := name.schema.getD c.current

/-! ### Looking up -/

/-- The schemas in which a name without a schema is looked up, in order. -/
def visibleSchemas (c : Catalog) : List String := c.searchPath ++ [c.current]

def find? (c : Catalog) (name : QName) : Option (Nat × Relation) :=
  match name.schema with
  | some schema => (c.schema? schema).bind (·.named? name.name)
  | none => c.visibleSchemas.findSome? fun s => (c.schema? s).bind (·.named? name.name)

/-- The relation with a number, and its schema. -/
def relation? (c : Catalog) (id : Nat) : Option (Schema × Relation) :=
  c.schemas.findSome? fun (_, s) => (s.get? id).map (s, ·)

/-- The relation of a name as a relation of some kind. -/
def findKind {α : Type} (c : Catalog) (name : QName) (kind : String)
    (part : Relation → Option α) : Except SqlError α :=
  match c.find? name with
  | none => .error (.relationNotFound name.name)
  | some (_, r) =>
    match part r with
    | some a => .ok a
    | none => .error (.query (.wrongRelationKind name.name kind r.kind))

def table (c : Catalog) (name : QName) : Except SqlError TableDef :=
  c.findKind name "table" Relation.table?

def sequence (c : Catalog) (name : QName) : Except SqlError SequenceDef :=
  c.findKind name "sequence" Relation.sequence?

def tableById (c : Catalog) (id : Nat) : Except SqlError TableDef :=
  match (c.relation? id).bind (·.2.table?) with
  | some d => .ok d
  | none => .error (.internal s!"table {id} is gone")

/-- The tables of all schemas. -/
def tables (c : Catalog) : List TableDef := c.schemas.flatMap (·.2.tables)

/-- The type that a name refers to: a built-in one, or one that the user declared. -/
def typeNamed (c : Catalog) (name : TypeName) : Except SqlError SqlType :=
  let builtin :=
    if name.schema.all (· == systemSchema) then name.builtin? else none
  match builtin with
  | some t => .ok t
  | none =>
    match c.find? ⟨name.schema, name.base⟩ with
    | some (_, .type t) => .ok (t.nested name.dims)
    | _ => .error (.typeNotFound name.base)

/-- The type that a text refers to. -/
def typeOfText (c : Catalog) (text : String) : Except SqlError SqlType :=
  c.typeNamed (TypeName.ofText text)

def typeByOid? (c : Catalog) (oid : Nat) : Option SqlType :=
  c.schemas.findSome? (·.2.typeByOid? oid)

/-- What conversions of handles know about the catalog. -/
def registry (c : Catalog) : Registry where
  typeByName := c.typeOfText
  typeByOid? := c.typeByOid?
  typeOid? := SqlType.oid?
  relationById? id := (c.relation? id).map fun (_, r) => (id, r.name)
  relationByName text :=
    match c.find? (QName.ofText text) with
    | some (id, r) => .ok (id, r.name)
    | none => .error (.relationNotFound (QName.ofText text).name)

/-- Is a name free in a schema? -/
def isFree (c : Catalog) (schema name : String) : Bool := (c.schema? schema).all (·.isFree name)

/-! ### Changing relations -/

/-- Takes the next number. -/
def allocate (c : Catalog) : Nat × Catalog := (c.nextId, { c with nextId := c.nextId + 1 })

/-- Adds a relation under a number that was taken before. -/
def register (c : Catalog) (schema : String) (id : Nat) (r : Relation) :
    Except SqlError Catalog := do
  let s ← (← c.writable schema).insert id r
  return c.putSchema schema s

/-- Takes the next number and adds a relation under it. -/
def registerNext (c : Catalog) (schema : String) (make : Nat → Relation) :
    Except SqlError Catalog := do
  let _ ← c.writable schema
  let (id, c) := c.allocate
  c.register schema id (make id)

/-- Replaces the definition of a table. -/
def replaceTable (c : Catalog) (d : TableDef) : Except SqlError Catalog := do
  let s ← c.writable d.schema
  match s.get? d.id with
  | some (.table _) => return c.putSchema d.schema (s.replace d.id (.table d))
  | _ => throw (.internal s!"table {d.id} is gone")

/-- Replaces the definition of a sequence. -/
def replaceSequence (c : Catalog) (d : SequenceDef) : Except SqlError Catalog := do
  let s ← c.writable d.schema
  match s.get? d.id with
  | some (.sequence _) => return c.putSchema d.schema (s.replace d.id (.sequence d))
  | _ => throw (.internal s!"sequence {d.id} is gone")

/-- A relation that has to be there, and its schema, which has to be writable. -/
def writableRelation (c : Catalog) (id : Nat) : Except SqlError (Schema × Relation) :=
  match c.relation? id with
  | none => .error (.internal s!"relation {id} is gone")
  | some (s, r) => do
    let _ ← c.writable s.name
    return (s, r)

def rename (c : Catalog) (id : Nat) (name : String) : Except SqlError Catalog := do
  let (s, r) ← c.writableRelation id
  let renamed ← (s.erase id).insert id (r.rename name)
  return c.putSchema s.name renamed

def drop (c : Catalog) (id : Nat) : Except SqlError Catalog := do
  let (s, _) ← c.writableRelation id
  return c.putSchema s.name (s.erase id)

/-- The sequences that belong to a column of a table. -/
def ownedSequences (c : Catalog) (d : TableDef) : List SequenceDef :=
  let first := d.name ++ "."
  let isOwned (s : SequenceDef) : Bool := s.options.ownedBy.any (first.isPrefixOf ·)
  match c.schema? d.schema with
  | some s => (s.relations.filterMap (·.2.sequence?)).filter isOwned
  | none => []

/-! ### Functions -/

/-- Registers a function in a schema, or in the current one. -/
def registerFunction (c : Catalog) (schema : Option String) (signature : Signature)
    (body : List Value → Except SqlError Value) : Except SqlError Catalog := do
  let schema := schema.getD c.current
  let _ ← c.writable schema
  return { c with functions := c.functions ++ [⟨c.functions.length, schema, signature, body⟩] }

/-- The functions of a name along the search path, in the order of their registration within a
schema. -/
def functionsNamed (c : Catalog) (name : QName) : List HostFunction :=
  let schemas := match name.schema with
    | some s => [s]
    | none => c.visibleSchemas.eraseDups
  schemas.flatMap fun s => c.functions.filter fun f =>
    f.schema == s && Text.lower f.signature.name == Text.lower name.name

end Catalog

end SqlEngine
