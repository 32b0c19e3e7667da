import SqlEngine.Catalog.Function
import SqlEngine.Expr.Aggregate
import SqlEngine.Expr.Operator
import SqlEngine.Storage.Table

/-!
Compiled expressions and query plans.

An expression computes a value from a row; each node knows its type. A plan computes rows. The two
contain each other: expressions hold the plans of their subqueries, and plans hold expressions over
the rows of their sources. Names are gone from both: a column is a position in a row.
-/

namespace SqlEngine

inductive JoinKind where
  | inner
  | left
  | right
  | full
  | cross
deriving DecidableEq, Repr, Inhabited

/-- How one key of an order sorts. -/
structure KeyOrder where
  descending : Bool
  /-- Where NULL goes, if it is said; otherwise it is the least value. -/
  nullsFirst : Option Bool
deriving DecidableEq, Repr, Inhabited

/-- An aggregate call apart from its argument. -/
structure AggregateCall where
  func : AggregateFunc
  /-- The type of the argument; `count(*)` has none. -/
  argType : Option SqlType
  separator : Option String
  distinct : Bool
  type : SqlType
deriving DecidableEq, Repr, Inhabited

mutual

inductive Expr where
  | constant (value : Value) (type : SqlType)
  /-- A value of the current row. -/
  | column (index : Nat) (type : SqlType)
  /-- A value of the row of an enclosing query, so many levels up. -/
  | outer (levels index : Nat) (type : SqlType)
  /-- The result of an aggregate call of the query, by its number. -/
  | aggregate (number : Nat) (type : SqlType)
  | apply (op : Op) (args : List Expr) (type : SqlType)
  | call (f : HostFunction) (args : List Expr)
  /-- The value of a subquery of one column. -/
  | scalar (query : Plan) (type : SqlType)
  /-- Has a subquery any row? -/
  | hasRows (query : Plan) (negated : Bool)
  /-- Is a value among the rows of a subquery of one column? -/
  | among (arg : Expr) (query : Plan) (negated : Bool) (type : SqlType)

inductive Plan where
  /-- Rows of expressions over the empty row. -/
  | values (rows : List (List Expr))
  | fixed (rows : List Row)
  | scan (table : TableDef)
  | filter (source : Plan) (condition : Expr)
  | project (source : Plan) (items : List Expr)
  /-- The widths are those of the left and the right rows. -/
  | join (left right : Plan) (kind : JoinKind) (leftWidth rightWidth : Nat) (condition : Expr)
  /-- A join with a table whose rows are found through an index. The key is computed from the left
  row; `keepLeft` keeps left rows that find nothing. -/
  | lookupJoin (left : Plan) (table : TableDef) (index : Nat) (key : Expr) (keepLeft : Bool)
      (condition : Expr)
  /-- Rows of keys, followed by the results of the calls; each call has one argument. -/
  | group (source : Plan) (keys : List Expr) (calls : List AggregateCall) (args : List Expr)
  | order (source : Plan) (keys : List Expr) (directions : List KeyOrder)
  /-- The first of the rows that are equal in all columns. -/
  | distinct (source : Plan) (types : List SqlType)
  /-- The first of the rows with equal keys. -/
  | distinctOn (source : Plan) (keys : List Expr)
  | limit (source : Plan) (count : Option Nat) (offset : Nat)
  | union (left right : Plan) (all : Bool) (types : List SqlType)

end

instance : Inhabited Expr := ⟨.constant .null .null⟩
instance : Inhabited Plan := ⟨.values []⟩

namespace Expr

def type : Expr → SqlType
  | constant _ type | column _ type | outer _ _ type | aggregate _ type => type
  | apply _ _ type => type
  | call f _ => f.signature.returns
  | scalar _ type => type
  | hasRows _ _ | among _ _ _ _ => .bool

/-- The NULL literal. -/
def null : Expr := constant .null .null

def isConstant : Expr → Bool
  | constant _ _ => true
  | _ => false

def constant? : Expr → Option Value
  | constant v _ => some v
  | _ => none

mutual

/-- Do two expressions over the same rows compute the same in the same way? Constants are compared
by their text, and two subqueries are never the same. -/
def same : Expr → Expr → Bool
  | constant v t, constant w u => v.render == w.render && v.isNull == w.isNull && t = u
  | column i t, column j u => i == j && t = u
  | outer m i t, outer n j u => m == n && i == j && t = u
  | aggregate m t, aggregate n u => m == n && t = u
  | apply p xs t, apply q ys u => p = q && sameAll xs ys && t = u
  | call f xs, call g ys => f.id == g.id && sameAll xs ys
  | _, _ => false

def sameAll : List Expr → List Expr → Bool
  | [], [] => true
  | x :: xs, y :: ys => same x y && sameAll xs ys
  | _, _ => false

end

mutual

/-- The positions of the current row that are read outside of subqueries. -/
def columns : Expr → List Nat
  | column index _ => [index]
  | apply _ args _ => allColumns args
  | call _ args => allColumns args
  | among arg _ _ _ => columns arg
  | _ => []

def allColumns : List Expr → List Nat
  | [] => []
  | e :: rest => columns e ++ allColumns rest

end

mutual

/-- The expression over grouped rows: what equals a key becomes that key, and results of aggregate
calls follow the keys. Fails with the first position that is read outside of the keys. -/
def regroup (keys : List Expr) (e : Expr) : Except Nat Expr :=
  match (if e.isConstant then none else keys.findIdx? (same · e)) with
  | some position => .ok (column position e.type)
  | none =>
    match e with
    | column index _ => .error index
    | aggregate number type => .ok (column (keys.length + number) type)
    | apply op args type => (regroupAll keys args).map (apply op · type)
    | call f args => (regroupAll keys args).map (call f)
    | among arg query negated type => (regroup keys arg).map (among · query negated type)
    | e => .ok e

def regroupAll (keys : List Expr) : List Expr → Except Nat (List Expr)
  | [] => .ok []
  | e :: rest => do
    let e ← regroup keys e
    return e :: (← regroupAll keys rest)

end

end Expr

namespace Plan

/-- Is an output column a literal in every row? -/
def isLiteral (position : Nat) : Plan → Bool
  | project _ items => items[position]?.any Expr.isConstant
  | values rows => !rows.isEmpty && rows.all fun row => row[position]?.any Expr.isConstant
  | filter source _ => source.isLiteral position
  | order source _ _ => source.isLiteral position
  | distinct source _ => source.isLiteral position
  | distinctOn source _ => source.isLiteral position
  | limit source _ _ => source.isLiteral position
  | _ => false

end Plan

end SqlEngine
