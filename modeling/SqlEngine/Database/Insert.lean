import SqlEngine.Database.Target

/-!
Insertions, and what they do about rows that are there already.
-/

namespace SqlEngine

/-- What an insertion does about a row that is in its way. -/
inductive Conflicts where
  /-- The table refuses the new row. -/
  | refused
  /-- The new row is left out if it conflicts in the index, or in any of them. -/
  | skipped (index : Option IndexDef)
  /-- The row that is there is changed; the assignments and the condition see it and the new one. -/
  | updated (index : IndexDef) (sets : List (Nat × Expr)) (condition : Option Expr)

namespace Conflicts

/-- The unique index that a conflict target names. -/
def index? (d : TableDef) :
    Option Sql.ConflictTarget → Except SqlError (Option IndexDef)
  | none => .ok none
  | some (.columns names) => do
    let positions ← names.mapM fun id => d.position id.name
    match d.uniqueIndexOn? positions with
    | some i => return some i
    | none => throw (.query .conflictTargetMissing)
  | some (.constraint name) =>
    let name := Sql.lastName name
    match d.indexes.find? fun i => i.unique && i.name == name with
    | some i => .ok (some i)
    | none => .error (.query (.conflictConstraintMissing name d.name))

/-- The scope of an update on conflict: the row that is there, then the one that was refused. -/
def scope (t : Target) : Scope :=
  .ofColumns (t.scope.columns ++ (TypedPlan.scan t.table (some "excluded")).columns)

def ofClause (n : Names) (t : Target) : Sql.ConflictClause → Except SqlError Conflicts
  | .absent => .ok refused
  | .duplicateKey _ => .error (.notSupported "ON DUPLICATE KEY UPDATE")
  | .onConflict target action => do
    match ← index? t.table target, action with
    | index, .nothing => return skipped index
    | none, .update .. => throw (.query .conflictTargetRequired)
    | some index, .update assignments condition =>
      let sets ← t.assignments n (scope t) [] assignments
      let condition ← condition.mapM fun c => c.condition n (scope t)
      return updated index sets condition

/-- The row that holds the key of a new one, in one unique index or in any of them. -/
def holder? (d : TableDef) (content : TableData) (row : Row) : Option IndexDef → Option RowId
  | none => (content.conflict? d row none).map (·.2)
  | some i =>
    let key := i.columns.map (row.getD · .null)
    if key.any Value.isNull then none else (content.lookup d i.id key).head?

/-- Changes the row that is in the way of a new one; gives the changed row, if the condition let it
be changed. -/
def resolve (t : Target) (env : Env) (sets : List (Nat × Expr)) (condition : Option Expr)
    (row : Row) (id : RowId) : Eval (Option Row) := do
  match (← t.content).get? id with
  | none => return none
  | some existing =>
    let both := existing ++ row
    let wanted ← match condition with
      | some c => c.holds env [] both
      | none => pure true
    if !wanted then return none
    let changed ← Target.assign env both sets existing
    t.update env id changed
    return some changed

end Conflicts

namespace Sql

namespace Insert

/-- The positions of the columns that get values. -/
def targets (d : TableDef) (columns : List Ident) : Except SqlError (List Nat) :=
  let add (taken : List Nat) (id : Ident) : Except SqlError (List Nat) := do
    let position ← d.position id.name
    if taken.contains position then throw (.query (.columnRepeated id.name))
    return taken ++ [position]
  if columns.isEmpty then .ok (List.range d.columns.length) else columns.foldlM add []

/-- There are as many values as columns. -/
def checkWidth (values columns : Nat) : Except SqlError Unit :=
  if columns < values then .error (.query .tooManyExpressions)
  else if values < columns then .error (.query .tooFewExpressions)
  else .ok ()

/-- The value of a term in a list of values; there is none where the default is asked for. -/
def slot (env : Env) (n : Names) (d : TableDef) (t : Term) (column : Nat) :
    Eval (Option Value) := do
  if t.isDefault then return none
  let e ← (← t.build n .empty).assigned n.registry (d.typeAt column)
  return some (← e.eval env [] [])

/-- The values of a query, converted for the columns. -/
def queryRows (env : Env) (n : Names) (d : TableDef) (columns : List Nat) (q : Query) :
    Eval (List (List (Option Value))) := do
  let rows ← q.plan n
  checkWidth rows.columns.length columns.length
  let items ← (rows.outputs.zip columns).mapM fun (e, column) =>
    e.assigned n.registry (d.typeAt column)
  let values ← ((Plan.project rows.plan items).cursor env []).collect
  return values.map fun row => row.map some

/-- The values to insert, for every row and column. -/
def sourceRows (env : Env) (n : Names) (d : TableDef) (columns : List Nat) :
    Option Query → Eval (List (List (Option Value)))
  | none => return [columns.map fun _ => none]
  | some (.mk _ [] (.values _ rows) [] none none _ _) =>
    rows.mapM fun row => do
      checkWidth row.length columns.length
      (row.zip columns).mapM fun (t, column) => slot env n d t column
  | some q => queryRows env n d columns q

/-- The values of all columns of a new row; the defaults of the others are computed for it. -/
def completeRow (env : Env) (t : Target) (columns : List Nat) (values : List (Option Value)) :
    Eval Row :=
  (List.range t.table.columns.length).mapM fun column =>
    match ((columns.zip values).lookup column).join with
    | some v => return v
    | none => (t.default column).eval env [] []

/-- Inserts a row, or does what is to be done about the one in its way. -/
def insertRow (env : Env) (t : Target) (conflicts : Conflicts) (row : Row) :
    Eval (Option Row) := do
  let content ← t.content
  match conflicts with
  | .skipped index =>
    if (Conflicts.holder? t.table content row index).isSome then return none
  | .updated index sets condition =>
    if let some id := Conflicts.holder? t.table content row (some index) then
      return ← Conflicts.resolve t env sets condition row id
  | .refused => pure ()
  t.insert env row
  return some row

def run (env : Env) (n : Names) (i : Insert) : Eval Changed := do
  let d ← n.catalog.table (← QName.ofParts i.table)
  let columns ← targets d i.columns
  let t ← Target.ofTable n d none
  let conflicts ← Conflicts.ofClause n t i.conflict
  let outputs ← t.returning n i.returning
  let sources ← sourceRows env n d columns i.source
  let step (values : List (Option Value)) : Eval (Option Row) := do
    insertRow env t conflicts (← completeRow env t columns values)
  Target.run env "INSERT" outputs step sources

end Insert

end Sql

end SqlEngine
