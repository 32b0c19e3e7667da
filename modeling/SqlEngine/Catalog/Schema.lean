import SqlEngine.Storage.Sequence
import SqlEngine.Storage.Table
import SqlEngine.Text.Case

/-!
Schemas: relations with their numbers and names. Within a schema two names that differ in case
only are the same.
-/

namespace SqlEngine

/-- What a name of a schema stands for. -/
inductive Relation where
  | table (definition : TableDef)
  /-- An index; its shape is part of the definition of its table. -/
  | index (table : Nat) (name : String)
  | sequence (definition : SequenceDef)
  | type (type : SqlType)

namespace Relation

def name : Relation → String
  | table d => d.name
  | index _ name => name
  | sequence d => d.name
  | type t => t.name

/-- The kind of a relation as messages call it. -/
def kind : Relation → String
  | table _ => "table"
  | index .. => "index"
  | sequence _ => "sequence"
  | type _ => "type"

/-- The relation under another name; types keep theirs. -/
def rename (new : String) : Relation → Relation
  | table d => .table { d with name := new }
  | index t _ => .index t new
  | sequence d => .sequence { d with name := new }
  | type t => .type t

def table? : Relation → Option TableDef
  | table d => some d
  | _ => none

def sequence? : Relation → Option SequenceDef
  | sequence d => some d
  | _ => none

def type? : Relation → Option SqlType
  | type t => some t
  | _ => none

end Relation

structure Schema where
  name : String
  /-- Whether its relations cannot be changed. -/
  readOnly : Bool
  /-- Numbers of relations in the order of their names. -/
  byName : List (String × Nat)
  /-- Numbers of relations in the order of their names in lower case. -/
  byLower : List (String × Nat)
  /-- Relations in the order of their numbers. -/
  relations : List (Nat × Relation)
  /-- Numbers of types in the order of their object numbers. -/
  byTypeOid : List (Nat × Nat)

namespace Schema

def empty (name : String) : Schema := ⟨name, false, [], [], [], []⟩

def get? (s : Schema) (id : Nat) : Option Relation := s.relations.lookup id

/-- The relation with exactly this name. -/
def named? (s : Schema) (name : String) : Option (Nat × Relation) :=
  (s.byName.lookup name).bind fun id => (s.get? id).map (id, ·)

/-- Is no relation called so, in whatever case? -/
def isFree (s : Schema) (name : String) : Bool := (s.byLower.lookup (Text.lower name)).isNone

/-- The type with an object number, which for types declared by the user is the number of the
relation. -/
def typeByOid? (s : Schema) (oid : Nat) : Option SqlType :=
  (s.byTypeOid.lookup oid).bind fun id => (s.get? id).bind Relation.type?

def tables (s : Schema) : List TableDef := s.relations.filterMap (·.2.table?)

/-- Adds a relation, whatever its name. -/
def add (s : Schema) (id : Nat) (r : Relation) : Schema :=
  { s with
    byName := Sorted.insert compare r.name id s.byName
    byLower := Sorted.insert compare (Text.lower r.name) id s.byLower
    relations := Sorted.insert compare id r s.relations
    byTypeOid :=
      match r.type?.bind SqlType.oid? with
      | some oid => Sorted.insert compare oid id s.byTypeOid
      | none => s.byTypeOid }

/-- Adds a relation whose name has to be free. -/
def insert (s : Schema) (id : Nat) (r : Relation) : Except SqlError Schema :=
  if s.isFree r.name then .ok (s.add id r) else .error (.query (.relationExists r.name))

def erase (s : Schema) (id : Nat) : Schema :=
  match s.get? id with
  | none => s
  | some r =>
    { s with
      byName := Sorted.erase compare r.name s.byName
      byLower := Sorted.erase compare (Text.lower r.name) s.byLower
      relations := Sorted.erase compare id s.relations
      byTypeOid := s.byTypeOid.filter (·.2 != id) }

/-- Puts another definition in the place of a relation, under the same name. -/
def replace (s : Schema) (id : Nat) (r : Relation) : Schema :=
  { s with relations := Sorted.insert compare id r s.relations }

end Schema

end SqlEngine
