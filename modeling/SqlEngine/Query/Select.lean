import SqlEngine.Query.Build

/-!
Plans of selects, put together from their parts.

A select filters its source, sorts it and computes the output from it; a grouped one groups the
filtered rows first, and its output, order and `HAVING` see the groups. The parts hold terms with
the way to build them, since what a term means depends on the scope in which it is built.
-/

namespace SqlEngine

/-! ### Names of output columns

Names of output columns: suggested names are kept the first time they appear, all others get a
number at the end.
-/

namespace OutputNames

/-- The first number from `start` on that makes a name out of `base` that is not taken. One of
`taken.length + 1` consecutive numbers always does. -/
def freshNumber (base : String) (taken : List String) (start : Nat) : Nat :=
  let numbers := (List.range (taken.length + 1)).map (start + ·)
  (numbers.find? fun n => !taken.contains (base ++ toString n)).getD start

/-- Names for the remaining suggestions. `reserved` holds all suggested names, `given` the names
that were given out, and `counter` is the first number to try. -/
def assign (reserved given : List String) (counter : Nat) : List (Option String) → List String
  | [] => []
  | suggestion :: rest =>
    let fresh (base : String) : List String :=
      let n := freshNumber base (reserved ++ given) counter
      let name := base ++ toString n
      name :: assign reserved (name :: given) (n + 1) rest
    match suggestion with
    | none => fresh "column"
    | some name =>
      if given.contains name then fresh name
      else name :: assign reserved (name :: given) counter rest

/-- Distinct names for columns with the given suggestions. -/
def ofSuggestions (suggestions : List (Option String)) : List String :=
  assign (suggestions.filterMap id) [] 0 suggestions

end OutputNames

/-! ### Selects -/

/-- A term with the way to build it in a scope. -/
structure Pending where
  term : Sql.Term
  compile : Scope → Build Expr

namespace Pending

/-- The complete expression. -/
def build (p : Pending) (s : Scope) : Build Expr := do s.finish (← p.compile s)

/-- The complete expression as a condition. -/
def condition (n : Names) (s : Scope) (p : Pending) : Build Expr := do
  (← p.build s).condition n.registry

end Pending

/-- An item of a select list. -/
inductive PendingItem where
  | term (p : Pending) (knownAs : Option Sql.Ident)
  | star
  | tableStar (table : List Sql.Ident)

/-- A key of an order. -/
structure PendingKey where
  pending : Pending
  direction : KeyOrder

/-- Named output expressions. -/
abbrev Outputs := List (String × Expr)

namespace Select

/-- The expressions of an item, each with its suggested name. -/
def itemOutputs (s : Scope) : PendingItem → Build (List (Option String × Expr))
  | .term p knownAs => do
    let e ← p.build s
    return [((knownAs.map Sql.Ident.name).or p.term.label?, e)]
  | .star =>
    (s.star none).mapM fun (position, c) => do
      return (some c.name, ← s.finish (.column position c.type))
  | .tableStar table => do
    let name := Sql.lastName table
    if !s.hasTable name then throw (.query (.fromEntryMissing name))
    (s.star (some name)).mapM fun (position, c) => do
      return (some c.name, ← s.finish (.column position c.type))

/-- The outputs of a select list under distinct names. -/
def outputs (s : Scope) (items : List PendingItem) : Build Outputs := do
  let suggested := (← items.mapM (itemOutputs s)).flatten
  return (OutputNames.ofSuggestions (suggested.map (·.1))).zip (suggested.map (·.2))

/-- The output that a key refers to by its position or its name. -/
def reference? (outputs : Outputs) (term : Sql.Term) : Except SqlError (Option Expr) := do
  if let some position ← term.position? then
    match outputs[position]? with
    | some (_, e) => return some e
    | none => throw (.query (.positionMissing "ORDER BY " (toString (position + 1))))
  match term with
  | .name id =>
    match outputs.filter (·.1 == id.name) with
    | [] => return none
    | (_, e) :: others =>
      if others.all (e.same ·.2) then return some e
      else throw (.query (.orderAmbiguous id.name))
  | _ => return none

/-- A key of an order or of `DISTINCT ON`: an output, or an expression over the rows. -/
def key (s : Scope) (outputs : Outputs) (p : Pending) : Build Expr := do
  match ← reference? outputs p.term with
  | some e => return e
  | none => p.build s

/-- The item at a position of the select list, as a key of the groups. -/
def itemAt (items : List PendingItem) (position : Nat) : Except SqlError Pending :=
  match items[position]? with
  | some (.term p _) => .ok p
  | _ => .error (.query (.positionMissing "GROUP BY " (toString (position + 1))))

/-- The item of the select list that was given a name. -/
def itemNamed? (items : List PendingItem) (name : String) : Option Pending :=
  items.findSome? fun
    | .term p (some id) => if id.name == name then some p else none
    | _ => none

/-- A key of the groups: an item of the select list by its position, an expression over the rows,
or an item by its name if no column is called so. -/
def groupKey (s : Scope) (items : List PendingItem) (p : Pending) : Except SqlError Expr := do
  let build (p : Pending) : Except SqlError Expr := Build.alone (p.build s)
  if let some position ← p.term.position? then build (← itemAt items position)
  else match p.term, build p with
    | .name id, .error (.query cause) =>
      match itemNamed? items id.name with
      | some item => build item
      | none => throw (.query cause)
    | _, result => result

/-- The parts of a select. -/
structure Parts where
  distinct : Bool
  distinctOn : Option (List Pending)
  items : List PendingItem
  into : Option Sql.Phrase
  source : Except SqlError TypedPlan
  condition : Option Pending
  groupBy : Option (List Pending)
  having : Option Pending
  orderBy : List PendingKey

namespace Parts

/-- Does a select group its rows? -/
def isGrouped (p : Parts) (groupBy : List Pending) : Bool :=
  !groupBy.isEmpty || p.having.isSome
    || p.items.any (fun
      | .term item _ => item.term.aggregates
      | _ => false)
    || p.orderBy.any (·.pending.term.aggregates)

/-- The rows in their order. -/
def ordered (p : Parts) (s : Scope) (outputs : Outputs) (source : Plan) : Build Plan := do
  if p.orderBy.isEmpty then return source
  let keys ← p.orderBy.mapM fun k => key s outputs k.pending
  return .order source keys (p.orderBy.map (·.direction))

/-- The first rows with equal keys, if they are asked for. -/
def firstRows (p : Parts) (s : Scope) (outputs : Outputs) (source : Plan) : Build Plan := do
  match p.distinctOn with
  | none => return source
  | some keys => return .distinctOn source (← keys.mapM (key s outputs))

/-- The outputs over the rows, each row once if that is asked for. -/
def output (p : Parts) (source : Plan) (outputs : Outputs) : TypedPlan :=
  let projected := TypedPlan.project ⟨source, [], none⟩ outputs
  if p.distinct then { projected with plan := .distinct projected.plan projected.types }
  else projected

/-- The plan of a select that does not group its rows. -/
def plain (p : Parts) (source : TypedPlan) : Build TypedPlan := do
  let s := Scope.ofColumns source.columns
  let outputs ← outputs s p.items
  let first ← p.firstRows s outputs source.plan
  let sorted ← p.ordered s outputs first
  return p.output sorted outputs

/-- What a grouped select builds over the rows of its groups. -/
structure Grouped where
  outputs : Outputs
  /-- From the rows of the groups to the rows that are put out. -/
  plan : Plan → Plan

/-- The expressions of a grouped select. -/
def overGroups (p : Parts) (n : Names) (s : Scope) : Build Grouped := do
  let outputs ← outputs s p.items
  let having ← p.having.mapM (Pending.condition n s)
  let orderKeys ← p.orderBy.mapM fun k => key s outputs k.pending
  let onKeys ← p.distinctOn.mapM fun keys => keys.mapM (key s outputs)
  let plan (groups : Plan) : Plan :=
    let kept := (having.map (Plan.filter groups)).getD groups
    let sorted :=
      if orderKeys.isEmpty then kept else .order kept orderKeys (p.orderBy.map (·.direction))
    (onKeys.map (Plan.distinctOn sorted)).getD sorted
  return { outputs, plan }

/-- The plan of a select that groups its rows. -/
def grouped (p : Parts) (n : Names) (source : TypedPlan) (groupBy : List Pending) :
    Except SqlError TypedPlan := do
  let keys ← groupBy.mapM (groupKey (.ofColumns source.columns) p.items)
  let (built, calls) ← (p.overGroups n ⟨source.columns, some keys⟩).run []
  let groups := Plan.group source.plan keys (calls.map (·.1)) (calls.map (·.2))
  return p.output (built.plan groups) built.outputs

/-- The source without the rows that do not meet the condition. -/
def filtered (p : Parts) (n : Names) (source : TypedPlan) : Except SqlError TypedPlan :=
  match p.condition with
  | none => .ok source
  | some c => do
    let condition ← (c.condition n (.ofColumns source.columns)).alone
    return ⟨.filter source.plan condition, source.columns, none⟩

/-- The plan of a select. -/
def plan (p : Parts) (n : Names) : Except SqlError TypedPlan := do
  if p.into.isSome then throw (.notSupported "SELECT INTO")
  let some groupBy := p.groupBy | throw (.notSupported "GROUP BY ALL")
  let source ← p.filtered n (← p.source)
  if p.isGrouped groupBy then p.grouped n source groupBy
  else (p.plain source).alone

end Parts

end Select

end SqlEngine
