import SqlEngine.Query.Scope

/-!
What statements give back.
-/

namespace SqlEngine

/-- Rows with the names and the types of their columns. -/
structure RowSet where
  fields : List (String × SqlType)
  rows : List Row

namespace RowSet

/-- The rows as a plan, so that a query can read them. -/
def plan (t : RowSet) : TypedPlan :=
  .fixed (t.fields.map (·.1)) (t.fields.map (·.2)) t.rows

end RowSet

/-- What a statement did. -/
structure Outcome where
  command : String
  /-- The number of rows that were read or changed. -/
  count : Nat
  /-- Whether the statement was accepted without an effect. -/
  ignored : Bool
  table : RowSet

namespace Outcome

/-- A statement without rows. -/
def done (command : String) : Outcome := ⟨command, 0, false, ⟨[], []⟩⟩

/-- A statement that was accepted without an effect. -/
def skipped (command : String) : Outcome := ⟨command, 0, true, ⟨[], []⟩⟩

/-- A statement that gives rows. -/
def rows (command : String) (t : RowSet) : Outcome := ⟨command, t.rows.length, false, t⟩

end Outcome

/-- The outcome of a statement of a batch, with its place. -/
structure Result where
  outcome : Outcome
  place : Place

namespace Result

/-- What a batch without statements gives. -/
def nothing : Result := ⟨.done "", ⟨0, 0⟩⟩

def rows (r : Result) : List Row := r.outcome.table.rows

/-- A value of the first row. -/
def scalar? (r : Result) (column : Nat) : Option Value := r.rows.head?.bind (·[column]?)

/-- The position of the field of a name. -/
def fieldIndex? (r : Result) (name : String) : Option Nat :=
  r.outcome.table.fields.findIdx? (·.1 == name)

end Result

end SqlEngine
