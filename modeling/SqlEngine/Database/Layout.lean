import SqlEngine.Catalog.Basic
import SqlEngine.Sql.Definition

/-!
Layouts: the columns and constraints that a statement defines for a table.

A layout is put together from the definitions in the order in which they are written. Its keys are
indexes that have no numbers yet.
-/

namespace SqlEngine

/-- A unique key. -/
structure Key where
  name : String
  columns : List Nat
  primary : Bool
deriving DecidableEq, Repr, Inhabited

/-- A column that is filled from a sequence of its own. -/
structure SerialColumn where
  column : String
  sequence : String
deriving DecidableEq, Repr, Inhabited

structure Layout where
  table : String
  columns : List ColumnDef
  serials : List SerialColumn
  keys : List Key
  checks : List CheckDef

namespace Layout

def empty (table : String) : Layout := ⟨table, [], [], [], []⟩

/-- The key of some columns, under a given name or one made of the names of table and columns. -/
def key (l : Layout) (name : Option Sql.Ident) (columns : List Nat) (names : List String)
    (primary : Bool) : Key where
  name :=
    match name with
    | some id => id.name
    | none =>
      if primary then l.table ++ "_pkey" else l.table ++ "_" ++ "_".intercalate names ++ "_key"
  columns := columns
  primary := primary

def addKey (l : Layout) (k : Key) : Layout := { l with keys := l.keys ++ [k] }

def addCheck (l : Layout) (name : String) (condition : Sql.Term) : Layout :=
  { l with checks := l.checks ++ [⟨name, condition⟩] }

/-! ### Columns -/

/-- The call that draws the next number of a sequence, which is named with its schema. -/
def serialDefault (schema sequence : String) : Sql.Term :=
  .call ⟨[.bare "nextval"], false, false, none, none⟩
    [.term none (.constant (.string s!"\"{schema}\".\"{sequence}\""))] [] none

/-- A column without the rules that it may have, and the layout with the sequence that fills the
column if its type asks for one. -/
def startColumn (l : Layout) (c : Catalog) (schema : String) (t : Sql.ColumnTerm) :
    Except SqlError (ColumnDef × Layout) := do
  let name := t.name.name
  let type := TypeName.ofText t.type
  if type.isSerial then
    let sequence := l.table ++ "_" ++ name ++ "_seq"
    let column := ⟨name, .integer, true, some (serialDefault schema sequence)⟩
    return (column, { l with serials := l.serials ++ [⟨name, sequence⟩] })
  else return (⟨name, ← c.typeNamed type, false, none⟩, l)

/-- Applies a rule to the column at a position. -/
def addRule (position : Nat) (column : ColumnDef) (l : Layout) (o : Sql.ColumnOption) :
    Except SqlError (ColumnDef × Layout) :=
  match o.rule with
  | .null => .ok ({ column with notNull := false }, l)
  | .notNull => .ok ({ column with notNull := true }, l)
  | .default value => .ok ({ column with default := some value }, l)
  | .unique primary =>
    let key := l.key o.name [position] [column.name] primary
    .ok ({ column with notNull := column.notNull || primary }, l.addKey key)
  | .check condition =>
    let name := match o.name with
      | some id => id.name
      | none => l.table ++ "_" ++ column.name ++ "_check"
    .ok (column, l.addCheck name condition)
  | .foreignKey _ => .error (.notSupported "foreign keys")
  | .unsupported text => .error (.notSupported ("column option " ++ text))

/-- Adds a column behind the others. -/
def addColumn (c : Catalog) (schema : String) (l : Layout) (t : Sql.ColumnTerm) :
    Except SqlError Layout := do
  if l.columns.any (·.name == t.name.name) then throw (.query (.columnRepeated t.name.name))
  let (column, l) ← t.options.foldlM
    (fun (column, l) o => addRule l.columns.length column l o) (← l.startColumn c schema t)
  return { l with columns := l.columns ++ [column] }

/-! ### Constraints -/

/-- The position of a column that a key names. -/
def keyColumn (l : Layout) (name : String) : Except SqlError Nat :=
  match l.columns.findIdx? (·.name == name) with
  | some position => .ok position
  | none => .error (.query (.keyColumnMissing name))

/-- Demands values in some columns. -/
def demand (l : Layout) (positions : List Nat) : Layout :=
  { l with
    columns := l.columns.mapIdx fun i c =>
      if positions.contains i then { c with notNull := true } else c }

/-- A name for a check without one: made of the name of the table, and numbered if it is taken. -/
def freeCheckName (l : Layout) : String :=
  let base := l.table ++ "_check"
  let numbered := (List.range l.checks.length).map fun i => base ++ toString (i + 1)
  ((base :: numbered).find? fun name => l.checks.all (·.name != name)).getD base

def addConstraint (l : Layout) : Sql.Constraint → Except SqlError Layout
  | .unique name columns primary => do
    let names := columns.map Sql.Ident.name
    let positions ← names.mapM l.keyColumn
    let demanding := if primary then l.demand positions else l
    return demanding.addKey (l.key name positions names primary)
  | .check name condition =>
    let name := match name with
      | some id => id.name
      | none => l.freeCheckName
    .ok (l.addCheck name condition)
  | .foreignKey => .error (.notSupported "foreign keys")

/-- A table has one primary key at most, the ones of its indexes included. -/
def validate (l : Layout) (indexes : List IndexDef) : Except SqlError Unit :=
  if 1 < l.keys.countP (·.primary) + indexes.countP (·.primary) then
    .error (.query (.primaryKeyRepeated l.table))
  else .ok ()

/-- The names of the keys and the sequences, which become relations. -/
def relationNames (l : Layout) : List String := l.keys.map (·.name) ++ l.serials.map (·.sequence)

end Layout

/-- Some names are free in a schema and differ from each other, in whatever case. -/
def Catalog.ensureFree (c : Catalog) (schema : String) (taken : List String) :
    List String → Except SqlError Unit
  | [] => .ok ()
  | name :: rest =>
    if c.isFree schema name && !taken.contains (Text.lower name) then
      c.ensureFree schema (Text.lower name :: taken) rest
    else .error (.query (.relationExists name))

end SqlEngine
