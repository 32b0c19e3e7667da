import SqlEngine.Catalog.Basic
import SqlEngine.Expr.Basic

/-!
Scopes: the columns that names in a query refer to.

The position of a column in a scope is its position in the rows of the query. Names that a query
does not know are looked up in the enclosing queries, the nearest one first.
-/

namespace SqlEngine

/-- A column that names can refer to. -/
structure Column where
  name : String
  /-- The table that may be written in front of the name. -/
  table : Option String
  type : SqlType
  /-- Whether the column is only found with its table in front, and is no part of `*`. -/
  hidden : Bool
deriving DecidableEq, Repr, Inhabited

namespace Column

/-- A visible column. -/
def visible (table : Option String) (name : String) (type : SqlType) : Column :=
  ⟨name, table, type, false⟩

def text (c : Column) : String :=
  match c.table with
  | some t => t ++ "." ++ c.name
  | none => c.name

/-- Does a name, with or without a table in front, refer to the column? -/
def answersTo (table : Option String) (name : String) (c : Column) : Bool :=
  c.name == name && match table with
    | some t => c.table == some t
    | none => !c.hidden

end Column

/-- A plan with the columns of its rows. -/
structure TypedPlan where
  plan : Plan
  columns : List Column
  /-- The table, if the rows are those of a table that is listed under one name. -/
  bare : Option TableDef

instance : Inhabited TypedPlan := ⟨⟨default, [], none⟩⟩

namespace TypedPlan

def types (p : TypedPlan) : List SqlType := p.columns.map (·.type)

/-- A single row without columns. -/
def unit : TypedPlan := ⟨.values [[]], [], none⟩

/-- A scan of a table under its own name or another one. -/
def scan (d : TableDef) (knownAs : Option String) : TypedPlan where
  plan := .scan d
  columns := d.columns.map fun c => .visible (some (knownAs.getD d.name)) c.name c.type
  bare := some d

/-- The expressions that read the columns. -/
def outputs (p : TypedPlan) : List Expr :=
  p.columns.zipIdx.map fun (c, position) => .column position c.type

/-- A list of named expressions over the rows of a source. -/
def project (p : TypedPlan) (items : List (String × Expr)) : TypedPlan where
  plan := .project p.plan (items.map (·.2))
  columns := items.map fun (name, e) => .visible none name e.type
  bare := none

/-- Rows that are there already, under new columns. -/
def fixed (names : List String) (types : List SqlType) (rows : List Row) : TypedPlan :=
  ⟨.fixed rows, List.zipWith (.visible none) names types, none⟩

/-- The same rows with all columns under one table name; the first columns may get new names. -/
def named (p : TypedPlan) (table : String) (names : List String) : Except SqlError TypedPlan :=
  if p.columns.length < names.length then
    .error (.query (.aliasColumns table p.columns.length names.length))
  else
    let kept := (p.columns.map (·.name)).drop names.length
    .ok ⟨p.plan, List.zipWith (.visible (some table)) (names ++ kept) p.types, none⟩

end TypedPlan

/-- The columns of a query's rows. A grouped query also has keys: aggregate calls are allowed in its
expressions, and a column may only be read as part of a key. -/
structure Scope where
  columns : List Column
  keys : Option (List Expr)
deriving Inhabited

namespace Scope

def empty : Scope := ⟨[], none⟩

def ofColumns (columns : List Column) : Scope := ⟨columns, none⟩

def isGrouped (s : Scope) : Bool := s.keys.isSome

/-- The rows before they are grouped. -/
def ungrouped (s : Scope) : Scope := { s with keys := none }

def hasTable (s : Scope) (table : String) : Bool := s.columns.any (·.table == some table)

/-- The column that a name refers to, and its position. -/
def find? (s : Scope) (table : Option String) (name : String) :
    Except SqlError (Option (Nat × Column)) :=
  match s.columns.zipIdx.filter fun (c, _) => c.answersTo table name with
  | [] => .ok none
  | [(c, position)] => .ok (some (position, c))
  | _ => .error (.query (.columnAmbiguous name))

/-- The columns that `*` stands for, or those of one table, with their positions. -/
def star (s : Scope) (table : Option String) : List (Nat × Column) :=
  (s.columns.zipIdx.filter fun (c, _) => match table with
    | some t => c.table == some t
    | none => !c.hidden).map fun (c, position) => (position, c)

/-- A complete expression over the rows of the query; in a grouped query it becomes one over the
grouped rows. -/
def finish (s : Scope) (e : Expr) : Except SqlError Expr :=
  match s.keys with
  | none => .ok e
  | some keys =>
    match e.regroup keys with
    | .ok e => .ok e
    | .error position =>
      .error (.query (.ungroupedColumn ((s.columns[position]?.map Column.text).getD "")))

end Scope

/-- What the name of a query in a `WITH` list stands for. -/
inductive Named where
  | rows (plan : TypedPlan)
  /-- A change of data that gives no rows. -/
  | withoutRows

/-- What names can refer to outside of a query's own rows. -/
structure Names where
  catalog : Catalog
  /-- Named queries, the latest first. -/
  bindings : List (String × Named)
  /-- The scopes of the enclosing queries, the nearest one first. -/
  outer : List Scope

namespace Names

def ofCatalog (c : Catalog) : Names := ⟨c, [], []⟩

def registry (n : Names) : Registry := n.catalog.registry

/-- The names inside a subquery of a query with a scope. -/
def within (n : Names) (s : Scope) : Names := { n with outer := s :: n.outer }

def bind (n : Names) (name : String) (named : Named) : Names :=
  { n with bindings := (name, named) :: n.bindings }

/-- A name in the enclosing queries, so many levels up. -/
def findOuter (table : Option String) (name : String) (levels : Nat) :
    List Scope → Except SqlError (Option Expr)
  | [] => .ok none
  | s :: rest => do
    match ← s.find? table name with
    | none => findOuter table name (levels + 1) rest
    | some (position, c) =>
      if s.isGrouped then throw (.notSupported "correlated reference to a grouped query")
      return some (.outer levels position c.type)

/-- There is no such column; if no table answers to the table name, that is said instead. -/
def missing (n : Names) (s : Scope) (table : Option String) (name : String) : QueryError :=
  match table with
  | none => .columnMissing name
  | some t =>
    if (s :: n.outer).any (·.hasTable t) then .qualifiedColumnMissing t name
    else .fromEntryMissing t

/-- The expression that a column name stands for. -/
def resolve (n : Names) (s : Scope) (table : Option String) (name : String) :
    Except SqlError Expr := do
  match ← s.find? table name with
  | some (position, c) => return .column position c.type
  | none =>
    match ← findOuter table name 1 n.outer with
    | some e => return e
    | none => throw (.query (n.missing s table name))

end Names

end SqlEngine
