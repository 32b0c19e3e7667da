import SqlEngine.Database.Insert
import SqlEngine.Sql.Statement

/-!
Statements that change rows.

Updates and deletions decide about the rows that the table had when they began, one after the other.
-/

namespace SqlEngine

namespace Sql

/-- The table that a statement changes, and the name it gives to it. -/
def TableTerm.single (n : Names) (statement : String) :
    TableTerm → Except SqlError (TableDef × Option String)
  | .named name _ knownAs _ => do
    let d ← n.catalog.table (← QName.ofParts name)
    return (d, knownAs.map (·.name.name))
  | .derived .. | .nested .. | .unsupported _ =>
    .error (.notSupported (statement ++ " on a non-table source"))
  | .cross .. | .join .. | .joinUsing .. | .joinNatural .. | .apply .. =>
    .error (.notSupported (statement ++ " with joins"))

/-- Is a row one of those that a condition selects? -/
def selects (env : Env) (condition : Option Expr) (row : Row) : Eval Bool :=
  match condition with
  | some c => c.holds env [] row
  | none => return true

namespace Update

def run (env : Env) (n : Names) (u : Update) : Eval Changed := do
  if u.source.isSome then throw (.notSupported "UPDATE ... FROM")
  let (d, knownAs) ← u.target.single n "UPDATE"
  let t ← Target.ofTable n d knownAs
  let condition ← u.condition.mapM fun c => c.condition n t.scope
  let sets ← t.assignments n t.scope [] u.assignments
  let outputs ← t.returning n u.returning
  let step (e : RowId × Row) : Eval (Option Row) := do
    if !(← selects env condition e.2) then return none
    let changed ← Target.assign env e.2 sets e.2
    t.update env e.1 changed
    return some changed
  Target.run env "UPDATE" outputs step (← t.content).rows

end Update

namespace Delete

def run (env : Env) (n : Names) (d : Delete) : Eval Changed := do
  if !d.others.isEmpty then throw (.notSupported "DELETE ... USING")
  let [target] := d.targets | throw (.notSupported "DELETE from several tables")
  let (table, knownAs) ← target.single n "DELETE"
  let t ← Target.ofTable n table knownAs
  let condition ← d.condition.mapM fun c => c.condition n t.scope
  let outputs ← t.returning n d.returning
  let step (e : RowId × Row) : Eval (Option Row) := do
    if !(← selects env condition e.2) then return none
    return if ← t.delete e.1 then some e.2 else none
  Target.run env "DELETE" outputs step (← t.content).rows

end Delete

def Change.run (env : Env) (n : Names) : Change → Eval Changed
  | insert i => i.run env n
  | update u => u.run env n
  | delete d => d.run env n
  | unsupported text => throw (.notSupported (firstWords text))

namespace QueryStatement

/-- Gives a name to rows; the names of a list have to differ. -/
def bind (n : Names) (name : String) (named : Named) : Except SqlError Names :=
  if (n.bindings.lookup name).isSome then .error (.query (.withNameRepeated name))
  else .ok (n.bind name named)

/-- What the name of a source stands for. A change of rows is carried out, and its name stands for
the rows that it returns. -/
def source (env : Env) (n : Names) (knownAs : TableAlias) : Source → Eval Named
  | .query q => do return .rows (← (← q.plan n).named name columns)
  | .change c => do
    match (← c.run env n).returning with
    | some rows => return .rows (← rows.plan.named name columns)
    | none => return .withoutRows
where
  name := knownAs.name.name
  columns := knownAs.columns.map Ident.name

/-- The names with those of a list of sources, which see the ones before them. -/
def bindAll (env : Env) (n : Names) : List (TableAlias × Source) → Eval Names
  | [] => return n
  | (knownAs, s) :: rest => do
    let named ← source env n knownAs s
    bindAll env (← bind n knownAs.name.name named) rest

def run (env : Env) (q : QueryStatement) : Eval Outcome := do
  if q.recursive then throw (.notSupported "WITH RECURSIVE")
  let n ← bindAll env (.ofCatalog env.catalog) q.bindings
  match q.body with
  | .change c => return (← c.run env n).outcome
  | .query q =>
    let p ← q.plan n
    let rows ← (p.plan.cursor env []).collect
    return .rows "SELECT" ⟨p.columns.map fun c => (c.name, c.type), rows⟩

end QueryStatement

end Sql

end SqlEngine
