import SqlEngine.Catalog.Basic
import SqlEngine.Storage.Store

/-!
What evaluation may read and change.

Evaluation reads the catalog and the clock. It reads the store and changes it, since it may draw
numbers from sequences. A failing evaluation leaves the store as it is by then: the statement that
runs it is undone by closing the level of the store that it wrote to.
-/

namespace SqlEngine

/-- What stays the same while a statement is evaluated. -/
structure Env where
  catalog : Catalog
  /-- The time of the statement. -/
  now : Timestamp

/-- What evaluation may change. -/
structure EvalState where
  store : Store
  /-- How many random identifiers were drawn. -/
  drawn : Nat

abbrev Eval := ExceptT SqlError (StateM EvalState)

namespace Eval

/-- The n-th identifier that is drawn: one of version 4, as random ones are. -/
def drawnUuid (n : Nat) : Uuid :=
  ⟨BitVec.ofNat 128 (0x4 * Nat.pow 2 76 + 0x8 * Nat.pow 2 60 + n % Nat.pow 2 60)⟩

/-- Draws an identifier that was not drawn before. -/
def drawUuid : Eval Uuid := do
  let s ← get
  set { s with drawn := s.drawn + 1 }
  return drawnUuid s.drawn

def store : Eval Store := do return (← get).store

def changeStore (f : Store → Store) : Eval Unit := modify fun s => { s with store := f s.store }

end Eval

end SqlEngine
