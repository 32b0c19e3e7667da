import SqlEngine.Storage.Sorted
import SqlEngine.Value.Order

/-!
Indexes: keys in their order, each with the rows that hold it.
-/

namespace SqlEngine

/-- Rows are numbered in the order of insertion; a number is never used again. -/
abbrev RowId := Nat

/-- The shape of an index. Its name is also the name of its constraint. -/
structure IndexDef where
  id : Nat
  name : String
  /-- Positions of the indexed columns. -/
  columns : List Nat
  unique : Bool
  primary : Bool
deriving DecidableEq, Repr, Inhabited

/-- Does the index cover exactly these columns, in any order? -/
def IndexDef.covers (d : IndexDef) (columns : List Nat) : Bool :=
  d.columns.mergeSort == columns.mergeSort

/-- The shape after the column at a position, which is not indexed, is gone. -/
def IndexDef.withoutPosition (position : Nat) (d : IndexDef) : IndexDef :=
  { d with columns := d.columns.map fun c => if position < c then c - 1 else c }

/-- Canonical keys with the rows that hold them, both in order. -/
abbrev IndexData := List (Row × List RowId)

namespace IndexData

/-- Adds a row to the rows of a key. -/
def addRow (id : RowId) (rows : Option (List RowId)) : Option (List RowId) :=
  let held := rows.getD []
  some ((Sorted.add? compare id held).getD held)

/-- Takes a row out of the rows of a key; a key without rows disappears. -/
def removeRow (id : RowId) (rows : Option (List RowId)) : Option (List RowId) :=
  (rows.map (·.filter (· ≠ id))).filter (!·.isEmpty)

def add (d : IndexData) (key : Row) (id : RowId) : IndexData :=
  Sorted.alter Value.orderRows key (addRow id) d

def remove (d : IndexData) (key : Row) (id : RowId) : IndexData :=
  Sorted.alter Value.orderRows key (removeRow id) d

/-- The rows that hold exactly this key. -/
def get (d : IndexData) (key : Row) : List RowId := (Sorted.find? Value.orderRows key d).getD []

/-- Does a key begin with the given values? -/
def beginsWith (first key : Row) : Bool :=
  first.length ≤ key.length && Value.orderRows (key.take first.length) first == .eq

/-- The rows whose key begins with the given values, in the order of the keys. -/
def withPrefix (d : IndexData) (first : Row) : List RowId :=
  let tail := d.dropWhile fun e => Value.orderRows e.1 first == .lt
  (tail.takeWhile fun e => beginsWith first e.1).flatMap (·.2)

end IndexData

end SqlEngine
