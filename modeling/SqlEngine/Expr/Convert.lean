import SqlEngine.Expr.Basic
import SqlEngine.Types.Reconcile

/-!
Conversions of expressions, and the common type of several of them.

Constants are converted when the expression is built, and as if by a cast; other expressions get a
node that converts their value, and only implicit conversions unless a cast asks for more.
-/

namespace SqlEngine

namespace Expr

/-- The expression as one of another type. -/
def convert (registry : Registry) (target : SqlType) (explicit : Bool) (e : Expr) :
    Except SqlError Expr :=
  if e.type = target then .ok e
  else match Conversion.plan? e.type target explicit with
    | none => .error (.cast e.type.kind target.kind none)
    | some c =>
      match e with
      | constant v _ => do return constant (← c.apply registry v) target
      | e => .ok (apply (.convert c) [e] target)

/-- The expression as one of another type; only constants are cast. -/
def coerce (registry : Registry) (target : SqlType) (e : Expr) : Except SqlError Expr :=
  e.convert registry target e.isConstant

def candidate (e : Expr) : Candidate := ⟨e.type, e.isConstant⟩

/-- The common type of some candidates; text where all of them are NULL. -/
def commonType (candidates : List Candidate) : Except SqlError SqlType := do
  return (← Candidate.reconcile candidates false).getD (.text none)

/-- The common type of expressions, and the expressions as ones of it. -/
def unify (registry : Registry) (es : List Expr) : Except SqlError (SqlType × List Expr) := do
  let type ← commonType (es.map candidate)
  return (type, ← es.mapM (coerce registry type))

/-- The comparison of two expressions as ones of their common type. -/
def comparison (registry : Registry) (op : Comparison) (l r : Expr) : Except SqlError Expr := do
  let (type, operands) ← unify registry [l, r]
  return apply (.compare op type) operands .bool

/-- Text of an expression of any type, as a cast gives it. -/
def asText (registry : Registry) (e : Expr) : Except SqlError Expr :=
  e.convert registry (.text none) true

/-- An expression as a condition: a boolean, or a literal that can be read as one. -/
def condition (registry : Registry) (e : Expr) : Except SqlError Expr :=
  if e.type.kind == .bool then .ok e
  else if e.isConstant || e.type.isNull then e.convert registry .bool true
  else .error (.query (.notBoolean e.type.name))

def operatorMissing (l : Expr) (operator : String) (r : Expr) : SqlError :=
  .query (.operatorMissing l.type.name operator r.type.name)

/-- An operation on numbers. Two texts that are literals are read as floats. -/
def arithmetic (registry : Registry) (op : Arithmetic) (l r : Expr) : Except SqlError Expr := do
  let (type, operands) ←
    (unify registry [l, r]).mapError fun _ => operatorMissing l op.spelling r
  if type.isNumeric then return apply (.arithmetic op) operands type
  else if type.kind == .text && l.isConstant && r.isConstant then
    let x ← l.convert registry .float true
    let y ← r.convert registry .float true
    let (type, operands) ← unify registry [x, y]
    return apply (.arithmetic op) operands type
  else throw (operatorMissing l op.spelling r)

/-- One side of a concatenation with an array: another array of the type, or an item of it. -/
def concatSide (registry : Registry) (array element : SqlType) (e : Expr) : Except SqlError Expr :=
  e.coerce registry (if e.type.element?.isSome then array else element)

/-- The concatenation of two arrays, of an array and an item, or of two texts. -/
def concatenation (registry : Registry) (l r : Expr) : Except SqlError Expr := do
  let array? := (l.type.element?.map (l.type, ·)).or (r.type.element?.map (r.type, ·))
  match array? with
  | some (array, element) =>
    let x ← concatSide registry array element l
    let y ← concatSide registry array element r
    return apply .concat [x, y] array
  | none =>
    let x ← l.asText registry
    let y ← r.asText registry
    return apply .concat [x, y] (.text none)

/-- The negative of a number; literals are read as floats, and constants are negated at once. -/
def negative (registry : Registry) (e : Expr) : Except SqlError Expr := do
  let operand ←
    if e.type.isNumeric then pure e
    else if e.isConstant then e.convert registry .float true
    else throw (.query (.unaryOperatorMissing "-" e.type.name))
  match operand with
  | constant (.int i) _ => return constant (.int (← Arithmetic.int64 (-i))) .integer
  | constant (.float x) _ => return constant (.float x.neg) .float
  | operand => return apply .negate [operand] operand.type

/-- An operand of `LIKE` as text. -/
def likeOperand (registry : Registry) (e : Expr) : Except SqlError Expr :=
  if e.type.isText || e.type.isNull || e.isConstant then e.asText registry
  else .error (.query (.operatorMissing e.type.name "~~" "text"))

/-- A value headed for a column: constants and numbers are cast, anything else has to convert
implicitly. -/
def assigned (registry : Registry) (target : SqlType) (e : Expr) : Except SqlError Expr :=
  e.convert registry target (e.isConstant || (e.type.isNumeric && target.isNumeric))

end Expr

end SqlEngine
