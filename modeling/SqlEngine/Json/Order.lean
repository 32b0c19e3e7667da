import SqlEngine.Json.Basic

/-!
An ordering of JSON documents by structure.

`null`, `false`, zero and the empty string are all equal; numbers are equal within a tolerance;
arrays are ordered by length first; objects are compared over the names of both, a missing member
reading as `null`. Below a depth of ten only the kinds of two documents are compared.
-/

namespace SqlEngine

namespace Json

def isFalsy : Json → Bool
  | .null => true
  | .bool b => !b
  | .integer i => i == 0
  | .float x => x.isZero
  | .string s => s.isEmpty
  | _ => false

/-- Order of the kinds of documents. -/
def rank : Json → Nat
  | .null => 0
  | .integer _ => 1
  | .float _ => 1
  | .string _ => 2
  | .bool _ => 3
  | .array _ => 4
  | .object _ => 5

/-- The largest difference of two equal numbers, `0.0001`. -/
def tolerance : Double := Double.ofDecimal false 1 (-4)

def compareNumbers (x y : Double) : Ordering :=
  if (x.sub y).abs.numLe tolerance then .eq else x.totalCompare y

/-- The names of two lists of members in order, each once. -/
def unionNames (a b : List (String × Json)) : List String :=
  (b.foldl (fun held m => insertMember m.1 .null held) a).map (·.1)

/-- The first ordering that is not equality. -/
def firstDifference (orders : List Ordering) : Ordering :=
  (orders.find? (· != .eq)).getD .eq

/-- Compares documents down to a depth. -/
def compareTo : Nat → Json → Json → Ordering
  | depth, a, b =>
    if same a b || (isFalsy a && isFalsy b) then .eq
    else match depth, a, b with
      | 0, a, b => compare a.rank b.rank
      | depth + 1, .array x, .array y =>
        (compare x.length y.length).then (firstDifference (x.zipWith (compareTo depth) y))
      | _ + 1, .string x, .string y => compare x y
      | _ + 1, .bool x, .bool y => compare x y
      | depth + 1, .object x, .object y =>
        firstDifference ((unionNames x y).map fun name =>
          compareTo depth ((x.lookup name).getD .null) ((y.lookup name).getD .null))
      | _ + 1, a, b =>
        match a.number?, b.number? with
        | some x, some y => compareNumbers x y
        | _, _ => compare a.rank b.rank

def maxDepth : Nat := 10

def order (a b : Json) : Ordering := compareTo maxDepth a b

end Json

end SqlEngine
