import SqlEngine.Database.Result
import SqlEngine.Expr.Eval
import SqlEngine.Query.Compile
import SqlEngine.Sql.Change

/-!
Tables that a statement changes.

The defaults and the checks of a table are compiled once, and so are the rows to return; then the
statement goes from row to row. The content of the table itself refuses missing values and repeated
keys.
-/

namespace SqlEngine

/-- What a change of rows did. -/
structure Changed where
  command : String
  count : Nat
  /-- The rows to return, if they were asked for. -/
  returning : Option RowSet

def Changed.outcome (c : Changed) : Outcome :=
  match c.returning with
  | some t => { Outcome.rows c.command t with count := c.count }
  | none => { Outcome.done c.command with count := c.count }

/-- A table to change, with what its definition demands. -/
structure Target where
  table : TableDef
  /-- The columns of the table, under the name that the statement gives it. -/
  scope : Scope
  /-- The default of every column, if it has one. -/
  defaults : List (Option Expr)
  checks : List (String × Expr)

namespace Target

def compileDefault (n : Names) (c : ColumnDef) : Except SqlError (Option Expr) :=
  c.default.mapM fun t => do (← t.build n .empty).assigned n.registry c.type

def compileCheck (n : Names) (s : Scope) (c : CheckDef) : Except SqlError (String × Expr) := do
  return (c.name, ← c.condition.condition n s)

def ofTable (n : Names) (d : TableDef) (knownAs : Option String) : Except SqlError Target := do
  let scope := Scope.ofColumns (TypedPlan.scan d knownAs).columns
  let defaults ← d.columns.mapM (compileDefault n)
  let checks ← d.checks.mapM (compileCheck n scope)
  return ⟨d, scope, defaults, checks⟩

/-- The default of a column; NULL where there is none. -/
def default (t : Target) (column : Nat) : Expr :=
  (t.defaults[column]?.join).getD (.constant .null (t.table.typeAt column))

/-- A check refuses rows for which it is false; an unknown one does not. -/
def refuses (env : Env) (row : Row) (condition : Expr) : Eval Bool := do
  return (← condition.eval env [] row).bool? == some false

/-- Evaluates the checks in their order. -/
def check (t : Target) (env : Env) (row : Row) : Eval Unit :=
  t.checks.forM fun (name, condition) => do
    if ← refuses env row condition then throw (.query (.checkViolated t.table.name name))

def content (t : Target) : Eval TableData := do return (← Eval.store).table t.table.id

def putContent (t : Target) (content : TableData) : Eval Unit :=
  Eval.changeStore fun s => s.putTable t.table.id content

/-- Changes the content of the table. -/
def changeContent {α : Type} (t : Target) (m : ContentChange α) : Eval α := do
  let (result, content) := m.run (← t.content)
  t.putContent content
  result

/-- Checks and stores a new row. -/
def insert (t : Target) (env : Env) (row : Row) : Eval Unit := do
  t.check env row
  let _ ← t.changeContent (.insert t.table row)

/-- Checks a row and stores it in the place of another one. -/
def update (t : Target) (env : Env) (id : RowId) (row : Row) : Eval Unit := do
  t.check env row
  let _ ← t.changeContent (.update t.table id row)

/-- Deletes a row; tells whether it was there. -/
def delete (t : Target) (id : RowId) : Eval Bool := do
  match (← t.content).delete t.table id with
  | some (_, content) =>
    t.putContent content
    return true
  | none => return false

/-! ### Rows to return -/

/-- The expressions that compute the rows to return. -/
def returning (t : Target) (n : Names) (items : Option (List Sql.SelectItem)) :
    Except SqlError (Option Outputs) :=
  items.mapM fun items => (Select.outputs t.scope (Sql.SelectItem.pendings n items)).alone

/-- The row to return for a row that was written. -/
def returned (env : Env) (outputs : Option Outputs) (row : Row) : Eval Row :=
  (outputs.getD []).mapM fun (_, e) => e.eval env [] row

/-- Runs a step for every item. A step gives the row that it wrote, if any; what to return for it
is computed before the next step. -/
def runSteps {α : Type} (env : Env) (outputs : Option Outputs) (step : α → Eval (Option Row)) :
    List α → Eval (List Row)
  | [] => return []
  | item :: rest => do
    match ← step item with
    | none => runSteps env outputs step rest
    | some row =>
      let out ← returned env outputs row
      return out :: (← runSteps env outputs step rest)

/-- Runs the steps of a statement. -/
def run {α : Type} (env : Env) (command : String) (outputs : Option Outputs)
    (step : α → Eval (Option Row)) (items : List α) : Eval Changed := do
  let rows ← runSteps env outputs step items
  let table (outputs : Outputs) : RowSet := ⟨outputs.map fun (name, e) => (name, e.type), rows⟩
  return ⟨command, rows.length, outputs.map table⟩

/-! ### Assignments -/

/-- The column and the value of every assignment; `taken` are the columns assigned before. -/
def assignments (t : Target) (n : Names) (s : Scope) (taken : List Nat) :
    List Sql.Assignment → Except SqlError (List (Nat × Expr))
  | [] => .ok []
  | a :: rest => do
    let name := Sql.lastName a.column
    let column ← t.table.position name
    if taken.contains column then throw (.query (.assignmentRepeated name))
    let value ←
      if a.value.isDefault then pure (t.default column)
      else (← a.value.build n s).assigned n.registry (t.table.typeAt column)
    return (column, value) :: (← t.assignments n s (column :: taken) rest)

/-- A row with new values, all of them computed from the same row. -/
def assign (env : Env) (source : Row) (sets : List (Nat × Expr)) (row : Row) : Eval Row :=
  sets.foldlM (fun row (column, e) => do return row.set column (← e.eval env [] source)) row

end Target

end SqlEngine
