import SqlEngine.Expr.Eval
import SqlEngine.Proofs.Rows.Classes
import SqlEngine.Proofs.Rows.Listing

/-!
Leaving out repetitions.

Of rows with the same keys the first one is kept. The cursors carry a table of the keys that they
kept, and it tells what a comparison with all earlier rows would tell. This holds of every source,
whatever it does to the state and wherever it fails.
-/

namespace SqlEngine

/-! ### The cursors -/

/-- The rows of a source with their keys, as they are computed. -/
def Cursor.keyed (keyOf : Row → Eval Row) (row : Row) : Eval (Row × Row) :=
  do return (← keyOf row, row)

/-- Are rows with these keys the same under the types of the keys? -/
def Row.sameKey (types : List SqlType) (a b : Row × Row) : Bool := Row.same types a.1 b.1

theorem Row.sameOn_sameKey (types : List SqlType) :
    SameOn (Row.sameKey types) fun e => Row.Keys types e.1 :=
  (Row.sameOn_keys types).comap Prod.fst

theorem Rows.course_keyed {keyOf : Row → Eval Row} {row key : Row} {s t : EvalState}
    {rest : EvalState → Rows} (ran : (keyOf row).run s = (.ok key, t)) :
    (next row s rest).course (Cursor.keyed keyOf) =
      ((rest t).course (Cursor.keyed keyOf)).map ((key, row) :: ·) := by
  rw [Rows.course, Cursor.keyed, Run.bind_of_run ran]
  rfl

theorem Rows.course_keyed_error {keyOf : Row → Eval Row} {row : Row} {e : SqlError}
    {s t : EvalState} {rest : EvalState → Rows} (ran : (keyOf row).run s = (.error e, t)) :
    (next row s rest).course (Cursor.keyed keyOf) = ⟨[], some e, t⟩ := by
  rw [Rows.course, Cursor.keyed, Run.bind_run, ran]

namespace Plan

end Plan

end SqlEngine
