import SqlEngine.Types.Conversion

/-!
The common type of several candidates: both sides of a comparison, the branches of a `CASE`, the
items of a list, the rows of `VALUES`, the two sides of a `UNION`.
-/

namespace SqlEngine

namespace SqlType

/-- Does a value of one type convert to another when asked to? -/
def castsTo (source target : SqlType) : Bool := (Conversion.plan? source target true).isSome

/-- Does a value of one type convert to another without being asked to? -/
def convertsTo (source target : SqlType) : Bool := (Conversion.plan? source target false).isSome

/-- Of two text types citext wins, then the one with the larger bound or with none. -/
def preferText (a b : SqlType) : SqlType :=
  match a, b with
  | .citext, _ => a
  | _, .citext => b
  | a, b =>
    match a.textLimit?, b.textLimit? with
    | none, _ => a
    | _, none => b
    | some x, some y => if y ≤ x then a else b

/-- The winner of two types: anything beats NULL, floats beat integers, and what text can be cast
to beats text. -/
def prefer? (a b : SqlType) : Option SqlType :=
  if a = b then some a
  else if a.isNull then some b
  else if b.isNull then some a
  else if a.isNumeric && b.isNumeric then some .float
  else if a.isText && b.isText then some (preferText a b)
  else if a.isText && a.castsTo b then some b
  else if b.isText && b.castsTo a then some a
  else match a, b with
    | .array x, .array y => (prefer? x y).map .array
    | a, b =>
      if a.convertsTo b then some b
      else if b.convertsTo a then some a
      else none

end SqlType

/-- A type that takes part in reconciliation; literals are coerced by their value. -/
structure Candidate where
  type : SqlType
  isLiteral : Bool
deriving DecidableEq, Repr, Inhabited

namespace Candidate

/-- Folds `prefer?` over the candidates. -/
def fold (winner : SqlType) : List Candidate → Except SqlError SqlType
  | [] => .ok winner
  | c :: rest =>
    match winner.prefer? c.type with
    | some next => fold next rest
    | none => .error (.cast c.type.kind winner.kind none)

/-- Can every candidate that is no literal be converted to the type? The first one that cannot. -/
def misfit? (type : SqlType) (candidates : List Candidate) : Option Candidate :=
  candidates.find? fun c => !c.isLiteral && !c.type.convertsTo type

/-- The common type. Candidates of the NULL type do not count; without others it is text. `none`
is only given if `noneIfMisfit` is set and a candidate that is no literal cannot be converted. -/
def reconcile (candidates : List Candidate) (noneIfMisfit : Bool) :
    Except SqlError (Option SqlType) :=
  match candidates.filter (!·.type.isNull) with
  | [] => .ok (some (.text none))
  | first :: rest =>
    if rest.all (·.type = first.type) then .ok (some first.type)
    else do
      let winner ← fold .null (first :: rest)
      match misfit? winner (first :: rest) with
      | none => return some winner
      | some c => if noneIfMisfit then return none else throw (.cast c.type.kind winner.kind none)

end Candidate

end SqlEngine
