import SqlEngine.Expr.Like
import SqlEngine.Number.Reading
import SqlEngine.Types.Conversion
import SqlEngine.Value.Order

/-!
Operators of expressions, and what they compute from values. Unless an operator says otherwise, a
NULL operand makes its result NULL.
-/

namespace SqlEngine

inductive Arithmetic where
  | add
  | subtract
  | multiply
  | divide
  | modulo
deriving DecidableEq, Repr, Inhabited

inductive Comparison where
  | equal
  | notEqual
  | less
  | lessEqual
  | greater
  | greaterEqual
deriving DecidableEq, Repr, Inhabited

namespace Arithmetic

/-- The operator as it is written. -/
def spelling : Arithmetic → String
  | add => "+"
  | subtract => "-"
  | multiply => "*"
  | divide => "/"
  | modulo => "%"

/-- An integer of 64 bits, or the error that it is none. -/
def int64 (i : Int) : Except SqlError Int :=
  if Numeral.fitsInt64 i then .ok i else .error (.query .integerOutOfRange)

/-- The result over integers. Quotients are cut off toward zero, and a remainder has the sign of
the dividend; it is refused where the quotient is out of range. -/
def ofInts (op : Arithmetic) (a b : Int) : Except SqlError Int :=
  match op with
  | add => int64 (a + b)
  | subtract => int64 (a - b)
  | multiply => int64 (a * b)
  | divide => if b == 0 then .error (.query .divisionByZero) else int64 (a.tdiv b)
  | modulo =>
    if b == 0 then .error (.query .divisionByZero)
    else (int64 (a.tdiv b)).map fun _ => a.tmod b

/-- The result over floats. -/
def ofFloats (op : Arithmetic) (a b : Double) : Except SqlError Double :=
  match op with
  | add => .ok (a.add b)
  | subtract => .ok (a.sub b)
  | multiply => .ok (a.mul b)
  | divide => if b.isZero then .error (.query .divisionByZero) else .ok (a.div b)
  | modulo => if b.isZero then .error (.query .divisionByZero) else .ok (a.rem b)

/-- The result for two values of a type, which is integer or float. -/
def apply (op : Arithmetic) (type : SqlType) (l r : Value) : Except SqlError Value :=
  if l.isNull || r.isNull then .ok .null
  else if type.kind == .integer then (op.ofInts (l.int?.getD 0) (r.int?.getD 0)).map .int
  else (op.ofFloats (l.float?.getD .zero) (r.float?.getD .zero)).map .float

end Arithmetic

namespace Comparison

def spelling : Comparison → String
  | equal => "="
  | notEqual => "<>"
  | less => "<"
  | lessEqual => "<="
  | greater => ">"
  | greaterEqual => ">="

/-- Does the comparison hold of values in this order? -/
def holds (op : Comparison) (o : Ordering) : Bool :=
  match op with
  | equal => o.isEq
  | notEqual => o.isNe
  | less => o.isLT
  | lessEqual => o.isLE
  | greater => o.isGT
  | greaterEqual => o.isGE

/-- The result for two values of a type. -/
def apply (op : Comparison) (type : SqlType) (l r : Value) : Value :=
  ((type.compare? l r).map fun o => Value.bool (op.holds o)).getD .null

end Comparison

/-- The built-in functions. -/
inductive Builtin where
  | lower
  | upper
  | length
  | concat
  | coalesce
  | nullIf
  | abs
  | now
  | randomUuid
  | nextValue
  | currentValue
  | setValue
  | currentSchema
  | currentSetting
  | typeOf
  | version
deriving DecidableEq, Repr, Inhabited

namespace Builtin

def name : Builtin → String
  | lower => "lower"
  | upper => "upper"
  | length => "length"
  | concat => "concat"
  | coalesce => "coalesce"
  | nullIf => "nullif"
  | abs => "abs"
  | now => "now"
  | randomUuid => "gen_random_uuid"
  | nextValue => "nextval"
  | currentValue => "currval"
  | setValue => "setval"
  | currentSchema => "current_schema"
  | currentSetting => "current_setting"
  | typeOf => "pg_typeof"
  | version => "version"

def all : List Builtin :=
  [lower, upper, length, concat, coalesce, nullIf, abs, now, randomUuid, nextValue, currentValue,
    setValue, currentSchema, currentSetting, typeOf, version]

/-- Further names of some functions. -/
def otherNames : List (String × Builtin) :=
  [("char_length", length), ("character_length", length), ("current_timestamp", now),
    ("localtimestamp", now)]

/-- The function with a name in lower case. -/
def ofName? (s : String) : Option Builtin := (all.find? (·.name == s)).or (otherNames.lookup s)

end Builtin

/-- What a node of an expression computes from its operands. -/
inductive Op where
  | convert (conversion : Conversion)
  | arithmetic (op : Arithmetic)
  /-- The comparison of two operands of a type. -/
  | compare (op : Comparison) (type : SqlType)
  | conjunction
  | disjunction
  | negate
  | invert
  /-- The concatenation of texts or of arrays. -/
  | concat
  /-- The part of a document under a key or at a position, perhaps as text. -/
  | jsonGet (asText : Bool)
  | isNull (negated : Bool)
  | isBool (value negated : Bool)
  /-- Is the first operand among the others? -/
  | inList (negated : Bool) (type : SqlType)
  | between (negated : Bool) (type : SqlType)
  | like (ignoreCase negated : Bool)
  /-- Conditions, each with its result behind it, and perhaps a last result for the case that none
  of them holds. -/
  | case
  | builtin (f : Builtin)
  /-- An array of the operands. -/
  | array
  | subscript
deriving DecidableEq, Repr, Inhabited

namespace Op

/-- Negation, if it is asked for; NULL stays NULL. -/
def truth (negated : Bool) : Option Bool → Value
  | some b => .bool (b != negated)
  | none => .null

def negateValue : Value → Except SqlError Value
  | .int i => (Arithmetic.int64 (-i)).map .int
  | .float x => .ok (.float x.neg)
  | _ => .ok .null

def concatValues : Value → Value → Value
  | .null, _ => .null
  | _, .null => .null
  | .array xs, .array ys => .array (xs ++ ys)
  | .array xs, y => .array (xs ++ [y])
  | x, .array ys => .array (x :: ys)
  | x, y => .text (x.render ++ y.render)

/-- The part of a document under a key; a negative position finds nothing. -/
def jsonPart? : Json → Value → Option Json
  | .array items, .int i => if 0 ≤ i then items[i.toNat]? else none
  | .object members, .text key => members.lookup key
  | _, _ => none

/-- Part of a document as text: strings without quotes, and nothing for the null of JSON. -/
def jsonText : Json → Value
  | .null => .null
  | .string s => .text s
  | j => .text j.text

def jsonGetValue (asText : Bool) : Value → Value → Value
  | .json doc, key => ((jsonPart? doc key).map (if asText then jsonText else .json)).getD .null
  | _, _ => .null

/-- Is the value between the bounds? One bound that is not kept decides alone. -/
def betweenValues (type : SqlType) (v low high : Value) : Option Bool :=
  let above := (type.compare? v low).map (·.isGE)
  let below := (type.compare? v high).map (·.isLE)
  match above, below with
  | some a, some b => some (a && b)
  | some false, none => some false
  | none, some false => some false
  | _, _ => none

/-- The item of an array at a position counted from one. -/
def subscriptValue : Value → Value → Value
  | .array items, .int i => if 1 ≤ i then items.getD (i - 1).toNat .null else .null
  | _, _ => .null

end Op

end SqlEngine
