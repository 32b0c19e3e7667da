import SqlEngine.Query.Select

/-!
Plans put together from other plans: joins, unions, lists of rows, orders and limits.
-/

namespace SqlEngine

namespace TypedPlan

/-! ### Joins -/

/-- The kind of a join, if the engine knows it. -/
def joinKind? : Sql.JoinSide → Option JoinKind
  | .inner => some .inner
  | .left => some .left
  | .right => some .right
  | .full => some .full
  | .partly _ => none

/-- A key over the left row and a column of the right one that a condition compares. -/
def equalKey? (leftWidth : Nat) : Expr → Option (Nat × Expr × SqlType)
  | .apply (.compare .equal type) [a, b] _ =>
    let right? (e : Expr) : Option Nat := match e with
      | .column index _ => if leftWidth ≤ index then some (index - leftWidth) else none
      | _ => none
    let overLeft (e : Expr) : Bool := e.columns.all (· < leftWidth)
    match right? a, right? b with
    | some c, none => if overLeft b then some (c, b, type) else none
    | none, some c => if overLeft a then some (c, a, type) else none
    | _, _ => none
  | _ => none

/-- The join through an index of a table on the right, if its condition allows one. -/
def lookup? (left right : TypedPlan) (kind : JoinKind) (condition : Expr) : Option Plan := do
  guard (kind == .inner || kind == .left)
  let table ← right.bare
  let (position, key, type) ← equalKey? left.columns.length condition
  guard ((table.columns[position]?.map (·.type)) = some type)
  let index ← table.indexes.find? (·.columns == [position])
  return .lookupJoin left.plan table index.id key (kind == .left) condition

/-- The join of two plans on a condition. -/
def join (left right : TypedPlan) (kind : JoinKind) (condition : Option Expr) : TypedPlan where
  plan :=
    let nested := Plan.join left.plan right.plan kind left.columns.length right.columns.length
      (condition.getD (.constant (.bool true) .bool))
    ((condition.bind (left.lookup? right kind)).getD nested)
  columns := left.columns ++ right.columns
  bare := none

/-- The first visible column of a name on one side of a join, and its position there. -/
def usingColumn (columns : List Column) (name side : String) : Except SqlError (Nat × Column) :=
  match columns.zipIdx.find? fun (c, _) => c.answersTo none name with
  | some (c, position) => .ok (position, c)
  | none => .error (.query (.usingColumnMissing name side))

/-- The comparison of the columns of a name on both sides. -/
def usingCondition (n : Names) (left right : TypedPlan) (name : String) :
    Except SqlError Expr := do
  let (l, lc) ← usingColumn left.columns name "left"
  let (r, rc) ← usingColumn right.columns name "right"
  Expr.comparison n.registry .equal (.column l lc.type)
    (.column (left.columns.length + r) rc.type)

/-- All of some conditions, if there are any. -/
def allOf : List Expr → Option Expr
  | [] => none
  | first :: rest => some (rest.foldl (fun all e => .apply .conjunction [all, e] .bool) first)

/-- The join of two plans on columns of the same names, of which the right ones are hidden. -/
def joinUsing (n : Names) (left right : TypedPlan) (kind : JoinKind) (names : List String) :
    Except SqlError TypedPlan := do
  let conditions ← names.mapM (usingCondition n left right)
  let joined := left.join right kind (allOf conditions)
  let hide (c : Column) : Column := if names.contains c.name then { c with hidden := true } else c
  return { joined with columns := left.columns ++ right.columns.map hide }

/-! ### Unions -/

/-- The rows with their columns converted; literals are cast. -/
def convertColumns (n : Names) (p : TypedPlan) (types : List SqlType) :
    Except SqlError TypedPlan := do
  if p.types = types then return p
  let items ← (p.outputs.zip types).zipIdx.mapM fun ((e, type), position) =>
    e.convert n.registry type (p.plan.isLiteral position)
  return p.project ((p.columns.map (·.name)).zip items)

/-- The rows of two plans, each row once unless all of them are asked for. -/
def union (n : Names) (left right : TypedPlan) (all : Bool) : Except SqlError TypedPlan := do
  if left.columns.length ≠ right.columns.length then throw (.query .unionColumns)
  let types ← (left.types.zip right.types).zipIdx.mapM fun ((l, r), position) =>
    Expr.commonType [⟨l, left.plan.isLiteral position⟩, ⟨r, right.plan.isLiteral position⟩]
  let left ← left.convertColumns n types
  let right ← right.convertColumns n types
  return ⟨.union left.plan right.plan all types,
    left.columns.map fun c => .visible none c.name c.type, none⟩

/-! ### Lists of rows -/

/-- The common type of the expressions at a position of some rows. -/
def typeAt (rows : List (List Expr)) (position : Nat) : Except SqlError SqlType :=
  Expr.commonType (rows.filterMap fun row => row[position]?.map Expr.candidate)

/-- A list of rows, each of them as long as the first. -/
def values (n : Names) (rows : List (List Pending)) : Except SqlError TypedPlan := do
  let width := (rows.head?.map List.length).getD 0
  let built ← rows.mapM fun row => do
    if row.length ≠ width then throw (.query .valuesLengths)
    row.mapM fun p => (p.build .empty).alone
  let types ← (List.range width).mapM (typeAt built)
  let converted ← built.mapM fun row =>
    (row.zip types).mapM fun (e, type) => e.coerce n.registry type
  let names := (List.range width).map fun i => "column" ++ toString (i + 1)
  return ⟨.values converted, List.zipWith (.visible none) names types, none⟩

/-! ### Orders and limits -/

/-- The rows of a union or a list, in an order by their columns. -/
def orderBy (p : TypedPlan) (keys : List PendingKey) : Except SqlError TypedPlan := do
  if keys.isEmpty then return p
  let outputs := (p.columns.map (·.name)).zip p.outputs
  let s := Scope.ofColumns p.columns
  let built ← keys.mapM fun k => (Select.key s outputs k.pending).alone
  return { p with plan := .order p.plan built (keys.map (·.direction)) }

/-- The number that a `LIMIT` or `OFFSET` clause asks for; NULL asks for none. -/
def count (n : Names) (clause : String) (p : Pending) : Except SqlError (Option Nat) := do
  let e ← (← (p.build .empty).alone).coerce n.registry .integer
  match e.constant? with
  | some .null => return none
  | some (.int i) => if i < 0 then throw (.query (.negative clause)) else return some i.toNat
  | _ => throw (.notSupported ("non-constant " ++ clause))

/-- The rows that the clauses at the end of a query leave over. -/
def limited (p : TypedPlan) (n : Names) (limit offset : Option Pending) :
    Except SqlError TypedPlan := do
  let limit := (← limit.mapM (count n "LIMIT")).join
  let offset := ((← offset.mapM (count n "OFFSET")).join).getD 0
  if limit.isSome || 0 < offset then return { p with plan := .limit p.plan limit offset }
  else return p

/-! ### Tables -/

/-- A table or a named query. -/
def ofName (n : Names) (name : List Sql.Ident) (knownAs : Option String) :
    Except SqlError TypedPlan := do
  let qname ← QName.ofParts name
  match if qname.schema.isNone then n.bindings.lookup qname.name else none with
  | some (.rows p) => p.named (knownAs.getD qname.name) []
  | some .withoutRows => throw (.query (.withoutReturning qname.name))
  | none => return .scan (← n.catalog.table qname) knownAs

/-- The rows under another table name, if one is given. -/
def knownAs (p : TypedPlan) : Option Sql.TableAlias → Except SqlError TypedPlan
  | none => .ok p
  | some a => p.named a.name.name (a.columns.map Sql.Ident.name)

/-- A table by its name in a list of tables. -/
def table (n : Names) (name : List Sql.Ident) (other : Option Sql.TableAlias) (isCall : Bool) :
    Except SqlError TypedPlan := do
  if isCall then throw (.notSupported ("table function " ++ Sql.dottedText name))
  let p ← ofName n name (other.map (·.name.name))
  match other with
  | some a => if a.columns.isEmpty then return p else p.knownAs (some a)
  | none => return p

/-- The join of two tables on one side, the other or both. -/
def joinOn (n : Names) (left right : TypedPlan) (kind : JoinKind)
    (condition : Option Pending) : Except SqlError TypedPlan := do
  match condition with
  | none => return left.join right kind none
  | some c =>
    let scope := Scope.ofColumns (left.columns ++ right.columns)
    let e ← (c.condition n scope).alone
    return left.join right kind (some e)

end TypedPlan

end SqlEngine
