import SqlEngine.Expr.Basic
import SqlEngine.Rows.Cursor

/-!
Grouping and aggregation.

Rows with equal keys form a group; groups stand in the order in which their first rows appear. Every
group feeds the aggregates with its rows. Without keys there is exactly one group, also when there
are no rows.
-/

namespace SqlEngine

/-- A group: the key values of its first row and its running aggregates. -/
structure Group where
  key : Row
  accumulators : List Accumulator

/-- Groups in the order of their appearance, and the canonical keys with the positions of their
groups. -/
structure Groups where
  index : KeyTable Nat
  groups : List Group

namespace Groups

def empty (keyTypes : List SqlType) : Groups := ⟨.empty keyTypes, []⟩

/-- Accumulators that were fed nothing yet. -/
def fresh (calls : List AggregateCall) : List Accumulator :=
  calls.map fun c => .start c.func c.argType c.type c.distinct

/-- The position of the group of a key, which is added where it is missing. -/
def locate (g : Groups) (calls : List AggregateCall) (canonical key : Row) : Nat × Groups :=
  match g.index.find? canonical with
  | some position => (position, g)
  | none =>
    let position := g.groups.length
    (position, ⟨g.index.insert canonical position, g.groups ++ [⟨key, fresh calls⟩]⟩)

/-- Feeds each accumulator with the value of its argument. -/
def feed : List Accumulator → List (Eval Value) → Eval (List Accumulator)
  | a :: accumulators, arg :: args => do
    let a ← a.add (← arg)
    return a :: (← feed accumulators args)
  | accumulators, _ => return accumulators

/-- Adds a row, given the values of its keys and the arguments of the calls. -/
def add (keyTypes : List SqlType) (calls : List AggregateCall) (keys : Row → Eval Row)
    (args : Row → List (Eval Value)) (g : Groups) (row : Row) : Eval Groups := do
  let key ← keys row
  let (position, g) := g.locate calls (List.zipWith SqlType.canonical keyTypes key) key
  match g.groups[position]? with
  | none => return g
  | some group =>
    let accumulators ← feed group.accumulators (args row)
    return { g with groups := g.groups.set position { group with accumulators } }

/-- The row of a group: its key, then the results of the calls. -/
def rowOf (calls : List AggregateCall) (group : Group) : Row :=
  group.key ++ List.zipWith (fun c a => a.result c.separator) calls group.accumulators

/-- The rows of all groups. -/
def rows (keyTypes : List SqlType) (calls : List AggregateCall) (g : Groups) : List Row :=
  if g.groups.isEmpty && keyTypes.isEmpty then [rowOf calls ⟨[], fresh calls⟩]
  else g.groups.map (rowOf calls)

end Groups

/-- The rows of the groups of a source. -/
def Cursor.group (keyTypes : List SqlType) (calls : List AggregateCall) (keys : Row → Eval Row)
    (args : Row → List (Eval Value)) (source : Cursor) : Cursor :=
  deferred do
    let g ← source.fold (Groups.add keyTypes calls keys args) (.empty keyTypes)
    return g.rows keyTypes calls

end SqlEngine
