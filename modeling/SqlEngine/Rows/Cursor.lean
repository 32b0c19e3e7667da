import SqlEngine.Expr.Context
import SqlEngine.Storage.KeyTable

/-!
Rows that are computed as they are asked for.

Asking for the next row may change the state of the evaluation, for instance by drawing numbers,
and whoever asks may change it in between. So a cursor is a function of the state, and the rows
after the next one are a cursor again. Asking a cursor that has come to its end gives nothing
however often it is asked.
-/

namespace SqlEngine

/-- What a cursor gives when it is asked: its end, an error, or a row and the cursor behind it. -/
inductive Rows where
  | done (s : EvalState)
  | fail (e : SqlError) (s : EvalState)
  | next (row : Row) (s : EvalState) (rest : EvalState → Rows)

abbrev Cursor := EvalState → Rows

namespace Cursor

def empty : Cursor := .done

def cons (row : Row) (rest : Cursor) : Cursor := fun s => .next row s rest

def ofList : List Row → Cursor
  | [] => empty
  | row :: rest => cons row (ofList rest)

/-- Runs an evaluation when the first row is asked for, and goes on with its result. -/
def after {α : Type} (m : Eval α) (k : α → Cursor) : Cursor := fun s =>
  match m.run s with
  | (.ok a, s) => k a s
  | (.error e, s) => .fail e s

end Cursor

namespace Rows

variable {σ : Type}

/-- Feeds rows one by one, as the result is asked for more, to `each`. It is given what was
remembered so far, the row, and how to go on with what shall be remembered. -/
def drive (each : σ → Row → (σ → Cursor) → Cursor) (finish : σ → Cursor) (memory : σ) :
    Rows → Rows
  | done s => finish memory s
  | fail e s => .fail e s
  | next row s rest => each memory row (fun memory s => drive each finish memory (rest s)) s

/-- Feeds all rows to `f`. -/
def fold (f : σ → Row → Eval σ) (memory : σ) : Rows → Except SqlError σ × EvalState
  | done s => (.ok memory, s)
  | fail e s => (.error e, s)
  | next row s rest =>
    match (f memory row).run s with
    | (.ok memory, s) => fold f memory (rest s)
    | (.error e, s) => (.error e, s)

/-- Asks for rows until `f` gives a result. -/
def search (f : σ → Row → σ ⊕ σ) (memory : σ) : Rows → Except SqlError σ × EvalState
  | done s => (.ok memory, s)
  | fail e s => (.error e, s)
  | next row s rest =>
    match f memory row with
    | .inl memory => search f memory (rest s)
    | .inr result => (.ok result, s)

end Rows

namespace Cursor

variable {σ : Type}

def drive (c : Cursor) (each : σ → Row → (σ → Cursor) → Cursor) (finish : σ → Cursor)
    (memory : σ) : Cursor :=
  fun s => (c s).drive each finish memory

def fold (c : Cursor) (f : σ → Row → Eval σ) (memory : σ) : Eval σ := fun s => (c s).fold f memory

def search (c : Cursor) (f : σ → Row → σ ⊕ σ) (memory : σ) : Eval σ :=
  fun s => (c s).search f memory

/-- All rows. -/
def collect (c : Cursor) : Eval (List Row) := do
  let reversed ← c.fold (fun rows row => pure (row :: rows)) []
  return reversed.reverse

/-- The rows that pass a test. -/
def filter (c : Cursor) (pass : Row → Eval Bool) : Cursor :=
  c.drive (fun _ row k => after (pass row) fun ok => if ok then cons row (k ()) else k ())
    (fun _ => empty) ()

def map (c : Cursor) (f : Row → Eval Row) : Cursor :=
  c.drive (fun _ row k => after (f row) fun image => cons image (k ())) (fun _ => empty) ()

def append (c d : Cursor) : Cursor := c.drive (fun _ row k => cons row (k ())) (fun _ => d) ()

/-- Leaves out a number of rows, and ends after another number of rows without asking for more. -/
def limit (c : Cursor) (count : Option Nat) (offset : Nat) : Cursor :=
  let each (left : Nat × Option Nat) (row : Row) (k : Nat × Option Nat → Cursor) : Cursor :=
    match left with
    | (skip + 1, count) => k (skip, count)
    | (0, none) => cons row (k (0, none))
    | (0, some count) => cons row (if count ≤ 1 then empty else k (0, some (count - 1)))
  if count = some 0 then empty else c.drive each (fun _ => empty) (offset, count)

/-- The rows whose key, made of values of the given types, was not seen before. -/
def distinct (c : Cursor) (types : List SqlType) (keyOf : Row → Eval Row) : Cursor :=
  let each (seen : KeyTable Unit) (row : Row) (k : KeyTable Unit → Cursor) : Cursor :=
    after (keyOf row) fun key =>
      match seen.add? (List.zipWith SqlType.canonical types key) with
      | some seen => cons row (k seen)
      | none => k seen
  c.drive each (fun _ => empty) (.empty types)

/-- Goes on with rows that are computed all at once, when the first one is asked for. -/
def deferred (rows : Eval (List Row)) : Cursor := after rows ofList

/-! ### Subqueries -/

/-- Is there a row? -/
def hasRow (c : Cursor) : Eval Bool := c.search (fun _ _ => .inr true) false

/-- The value of a subquery of at most one row; without a row it is NULL. -/
def single (c : Cursor) : Eval Value := do
  let first (row : Row) : Value := row.headD .null
  let take (rows : List Row) (row : Row) : List Row ⊕ List Row :=
    if rows.isEmpty then .inl [row] else .inr [row, row]
  match ← c.search take [] with
  | [] => return .null
  | [row] => return first row
  | _ => throw (.query .subqueryRows)

/-- Is a value among the values of a subquery? It is unknown where no row equals the value and some
row cannot be compared with it. -/
def among (c : Cursor) (type : SqlType) (v : Value) : Eval (Option Bool) := do
  let look (found : Option Bool) (row : Row) : Option Bool ⊕ Option Bool :=
    match type.equals? v (row.headD .null) with
    | some true => .inr (some true)
    | some false => .inl found
    | none => .inl none
  c.search look (some false)

end Cursor

end SqlEngine
