import SqlEngine.Expr.Basic
import SqlEngine.Rows.Cursor

/-!
Joins.

Every row of the driving side is combined with the rows of the other side, in their order. The left
side drives, except in right joins; the other side is computed once, before the first row of the
driving side is asked for.
-/

namespace SqlEngine

namespace JoinKind

/-- Which side drives? -/
def drivesRight (k : JoinKind) : Bool := k == .right

/-- Are driving rows kept that find no partner? -/
def keepsDriving (k : JoinKind) : Bool := k == .left || k == .right || k == .full

/-- Are rows of the other side kept that no driving row found? -/
def keepsOther (k : JoinKind) : Bool := k == .full

end JoinKind

namespace Cursor

/-- The combined rows that pass, one after the other; the numbers of their partners are handed on
at the end. -/
def combined (pass : Row → Eval Bool) (k : List Nat → Cursor) (found : List Nat) :
    List (Row × Nat) → Cursor
  | [] => k found
  | (row, partner) :: rest => after (pass row) fun ok =>
    if ok then cons row (combined pass k (partner :: found) rest)
    else combined pass k found rest

/-- A row of missing values. -/
def nulls (width : Nat) : Row := List.replicate width .null

/-- The join of two sides with rows of the given widths. -/
def join (kind : JoinKind) (leftWidth rightWidth : Nat) (pass : Row → Eval Bool)
    (left right : Cursor) : Cursor :=
  let swapped := kind.drivesRight
  let driving := if swapped then right else left
  let other := if swapped then left else right
  let combine (row partner : Row) : Row := if swapped then partner ++ row else row ++ partner
  let otherNulls := nulls (if swapped then leftWidth else rightWidth)
  let drivingNulls := nulls (if swapped then rightWidth else leftWidth)
  after other.collect fun partners =>
    let each (matched : List Nat) (row : Row) (k : List Nat → Cursor) : Cursor :=
      let candidates := partners.zipIdx.map fun (partner, i) => (combine row partner, i)
      combined pass (fun found =>
        if found.isEmpty && kind.keepsDriving then cons (combine row otherNulls) (k matched)
        else k (found ++ matched)) [] candidates
    let unmatched (matched : List Nat) : List Row :=
      (partners.zipIdx.filter fun (_, i) => !matched.contains i).map fun (partner, _) =>
        combine drivingNulls partner
    driving.drive each
      (fun matched => if kind.keepsOther then ofList (unmatched matched) else empty) []

/-- The join with rows that are looked up for each left row. -/
def lookupJoin (keepLeft : Bool) (rightWidth : Nat) (pass : Row → Eval Bool)
    (partnersOf : Row → Eval (List Row)) (left : Cursor) : Cursor :=
  left.drive (fun _ row k => after (partnersOf row) fun partners =>
    combined pass (fun found =>
      if found.isEmpty && keepLeft then cons (row ++ nulls rightWidth) (k ()) else k ()) []
      ((partners.map (row ++ ·)).zipIdx)) (fun _ => empty) ()

end Cursor

end SqlEngine
