import SqlEngine.Storage.Sorted
import SqlEngine.Value.Order

/-!
Tables from the keys of rows to what is known of them, as groups and distinct rows need them.

Keys that are totally ordered are found in a list in their order. Keys with documents are found in
a search tree, where the search itself decides which of them count as equal.
-/

namespace SqlEngine

/-! ### Search trees

Search trees with several keys to a node.

A node holds up to eleven keys; one that would hold more is split, and a key from its middle moves
up to the node above. Under a total order a tree finds what a list in order finds. Under an order
that is not transitive a search is led astray by the keys on its way, so what it finds depends on
how the nodes were split, and the places of the splits are part of the meaning.
-/

mutual

inductive SearchTree (κ α : Type) where
  | leaf (entries : List (κ × α))
  | node (branches : Branches κ α)

/-- The trees below a node, with a key between each two of them. -/
inductive Branches (κ α : Type) where
  | last (tree : SearchTree κ α)
  | cons (tree : SearchTree κ α) (key : κ) (value : α) (rest : Branches κ α)

end

variable {κ α : Type}

namespace Branches

/-- The number of keys between the trees. -/
def size : Branches κ α → Nat
  | last _ => 0
  | cons _ _ _ rest => rest.size + 1

/-- The branches before and behind the key at a position, and that key with its value. -/
def splitAt? : Nat → Branches κ α → Option (Branches κ α × κ × α × Branches κ α)
  | 0, cons tree key value rest => some (last tree, key, value, rest)
  | n + 1, cons tree key value rest =>
    (splitAt? n rest).map fun (before, behind) => (cons tree key value before, behind)
  | _, last _ => none

end Branches

namespace SearchTree

def empty : SearchTree κ α := leaf []

/-- The greatest number of keys of a node. -/
def capacity : Nat := 11

/-- The position of the key that moves up out of a full node to which a key was added at the given
position. Both halves keep at least five keys, and the half with the new key gets the sixth. -/
def middle (added : Nat) : Nat := if added < 5 || added == 6 then 5 else 6

mutual

/-- The value of a key. -/
def find? (cmp : κ → κ → Ordering) (key : κ) : SearchTree κ α → Option α
  | leaf entries => (entries.find? fun e => cmp key e.1 != .gt).bind fun e =>
    if cmp key e.1 == .eq then some e.2 else none
  | node branches => findAmong? cmp key branches

def findAmong? (cmp : κ → κ → Ordering) (key : κ) : Branches κ α → Option α
  | .last tree => find? cmp key tree
  | .cons tree held value rest =>
    match cmp key held with
    | .lt => find? cmp key tree
    | .eq => some value
    | .gt => findAmong? cmp key rest

end

/-- What becomes of a tree to which a key was added. -/
inductive Grown (κ α : Type) where
  | whole (tree : SearchTree κ α)
  | split (left : SearchTree κ α) (key : κ) (value : α) (right : SearchTree κ α)

/-- A leaf to which a key was added at a position. -/
def settleLeaf (added : Nat) (entries : List (κ × α)) : Grown κ α :=
  if entries.length ≤ capacity then .whole (leaf entries)
  else match entries.splitAt (middle added) with
    | (before, (key, value) :: behind) => .split (leaf before) key value (leaf behind)
    | (before, []) => .whole (leaf before)

/-- A node to which a key was added at a position, if one was. -/
def settleNode (added : Option Nat) (branches : Branches κ α) : Grown κ α :=
  if branches.size ≤ capacity then .whole (node branches)
  else match added.bind fun position => branches.splitAt? (middle position) with
    | some (before, key, value, behind) => .split (node before) key value (node behind)
    | none => .whole (node branches)

mutual

def grow (cmp : κ → κ → Ordering) (key : κ) (value : α) : SearchTree κ α → Grown κ α
  | leaf entries =>
    let before := entries.takeWhile fun e => cmp key e.1 == .gt
    settleLeaf before.length (before ++ (key, value) :: entries.drop before.length)
  | node branches =>
    let (branches, added) := growAmong cmp key value branches
    settleNode added branches

/-- The branches with a key added below them, and the position of the key that came up to them from
below, if one did. -/
def growAmong (cmp : κ → κ → Ordering) (key : κ) (value : α) :
    Branches κ α → Branches κ α × Option Nat
  | .last tree =>
    match grow cmp key value tree with
    | .whole tree => (.last tree, none)
    | .split left up upValue right => (.cons left up upValue (.last right), some 0)
  | .cons tree held heldValue rest =>
    if cmp key held == .gt then
      let (rest, added) := growAmong cmp key value rest
      (.cons tree held heldValue rest, added.map (· + 1))
    else
      match grow cmp key value tree with
      | .whole tree => (.cons tree held heldValue rest, none)
      | .split left up upValue right =>
        (.cons left up upValue (.cons right held heldValue rest), some 0)

end

/-- Adds a key that is not there. -/
def insert (cmp : κ → κ → Ordering) (key : κ) (value : α) (tree : SearchTree κ α) :
    SearchTree κ α :=
  match grow cmp key value tree with
  | .whole tree => tree
  | .split left up upValue right => node (.cons left up upValue (.last right))

end SearchTree

/-! ### Tables -/

inductive KeyTable (α : Type) where
  | list (entries : List (Row × α))
  | tree (root : SearchTree Row α)

namespace KeyTable

/-- The empty table for keys of the given types. -/
def empty (types : List SqlType) : KeyTable α :=
  if types.all SqlType.hasTotalOrder then list [] else tree .empty

def find? (key : Row) : KeyTable α → Option α
  | list entries => Sorted.find? Value.orderRows key entries
  | tree root => root.find? Value.orderRows key

/-- Adds a key that is not there. -/
def insert (key : Row) (a : α) : KeyTable α → KeyTable α
  | list entries => list (Sorted.insert Value.orderRows key a entries)
  | tree root => tree (root.insert Value.orderRows key a)

/-- Adds a key to a table that only knows which keys there are; `none` when it is there. -/
def add? (key : Row) (t : KeyTable Unit) : Option (KeyTable Unit) :=
  if (t.find? key).isSome then none else some (t.insert key ())

end KeyTable

end SqlEngine
