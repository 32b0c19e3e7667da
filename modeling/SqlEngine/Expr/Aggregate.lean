import SqlEngine.Error
import SqlEngine.Number.Reading
import SqlEngine.Storage.KeyTable
import SqlEngine.Value.Order
import SqlEngine.Value.Text

/-!
Aggregate functions: their result types, and accumulators that are fed the values of a group one
after the other.
-/

namespace SqlEngine

inductive AggregateFunc where
  /-- The call `count(*)`. -/
  | countRows
  | count
  | sum
  | avg
  | min
  | max
  | arrayAgg
  | boolAnd
  | boolOr
  | stringAgg
deriving DecidableEq, Repr, Inhabited

namespace AggregateFunc

def name : AggregateFunc → String
  | countRows | count => "count"
  | sum => "sum"
  | avg => "avg"
  | min => "min"
  | max => "max"
  | arrayAgg => "array_agg"
  | boolAnd => "bool_and"
  | boolOr => "bool_or"
  | stringAgg => "string_agg"

/-- The aggregate with a name as written in SQL; `count(*)` is told by its argument. -/
def ofName? (name : String) : Option AggregateFunc :=
  [("count", count), ("sum", sum), ("avg", avg), ("min", min), ("max", max),
    ("array_agg", arrayAgg), ("bool_and", boolAnd), ("every", boolAnd), ("bool_or", boolOr),
    ("string_agg", stringAgg)].lookup name

/-- The type of the result for an argument of a type, if the function takes such an argument. -/
def resultType? (f : AggregateFunc) (arg : Option SqlType) : Option SqlType :=
  match f, arg with
  | countRows, _ => some .integer
  | count, _ => some .integer
  | sum, some .integer => some .integer
  | sum, some .float => some .float
  | sum, some .null => some .float
  | avg, some type => if type.isNumeric || type.isNull then some .float else none
  | min, some type => if type.kind == .json then none else some type
  | max, some type => if type.kind == .json then none else some type
  | arrayAgg, some type => some type.array
  | boolAnd, some type => if type.kind == .bool || type.isNull then some .bool else none
  | boolOr, some type => if type.kind == .bool || type.isNull then some .bool else none
  | stringAgg, some type => if type.isText || type.isNull then some (.text none) else none
  | _, _ => none

def resultType (f : AggregateFunc) (arg : Option SqlType) : Except SqlError SqlType :=
  match f.resultType? arg with
  | some type => .ok type
  | none => .error (.query (.functionMissing f.name ((arg.map SqlType.name).getD "")))

end AggregateFunc

/-- What an aggregate has gathered so far. -/
inductive Tally where
  | count (n : Int)
  | intSum (sum : Option Int)
  | floatSum (sum : Option Double)
  | mean (sum : Double) (count : Nat)
  /-- The least or greatest value; `wanted` tells how a better value compares with it. -/
  | extreme (wanted : Ordering) (best : Option Value)
  /-- Values, the newest first. -/
  | values (newestFirst : List Value)
  | all (result : Option Bool)
  | any (result : Option Bool)
  /-- Texts, the newest first. -/
  | texts (newestFirst : List String)
deriving Repr, Inhabited

namespace Tally

/-- The tally of a function before any value, given the type of the result. -/
def start (f : AggregateFunc) (result : SqlType) : Tally :=
  match f with
  | .countRows | .count => count 0
  | .sum => if result.kind == .integer then intSum none else floatSum none
  | .avg => mean .zero 0
  | .min => extreme .lt none
  | .max => extreme .gt none
  | .arrayAgg => values []
  | .boolAnd => all none
  | .boolOr => any none
  | .stringAgg => texts []

/-- Adds a value of the argument's type. -/
def add (argType : Option SqlType) (v : Value) : Tally → Except SqlError Tally
  | count n => .ok (count (n + 1))
  | intSum sum =>
    let total := sum.getD 0 + v.int?.getD 0
    if Numeral.fitsInt64 total then .ok (intSum (some total))
    else .error (.query .integerOutOfRange)
  | floatSum sum =>
    .ok <| match v.float? with
      | some x => floatSum (some ((sum.getD .zero).add x))
      | none => floatSum sum
  | mean sum n =>
    .ok <| match v.float? with
      | some x => mean (sum.add x) (n + 1)
      | none => mean sum n
  | extreme wanted none => .ok (extreme wanted (some v))
  | extreme wanted (some best) =>
    .ok <| if argType.bind (·.compare? v best) = some wanted then extreme wanted (some v)
      else extreme wanted (some best)
  | values vs => .ok (values (v :: vs))
  | all result =>
    .ok <| match v.bool? with
      | some b => all (some (result.getD true && b))
      | none => all result
  | any result =>
    .ok <| match v.bool? with
      | some b => any (some (result.getD false || b))
      | none => any result
  | texts ss => .ok (texts (v.render :: ss))

/-- The value of the aggregate; NULL if nothing was gathered, zero for counts. -/
def result (separator : Option String) : Tally → Value
  | count n => .int n
  | intSum sum => (sum.map .int).getD .null
  | floatSum sum => (sum.map .float).getD .null
  | mean sum n => if n == 0 then .null else .float (sum.div (Double.ofInt n))
  | extreme _ best => best.getD .null
  | values [] => .null
  | values vs => .array vs.reverse
  | all result => (result.map .bool).getD .null
  | any result => (result.map .bool).getD .null
  | texts [] => .null
  | texts ss => .text ((separator.getD ",").intercalate ss.reverse)

end Tally

/-- The running state of one aggregate over one group. -/
structure Accumulator where
  func : AggregateFunc
  argType : Option SqlType
  /-- The keys of the values so far, when only distinct values count. -/
  seen : Option (KeyTable Unit)
  tally : Tally

namespace Accumulator

def start (func : AggregateFunc) (argType : Option SqlType) (result : SqlType)
    (distinct : Bool) : Accumulator :=
  ⟨func, argType, if distinct then some (.empty argType.toList) else none, .start func result⟩

/-- The key by which values are told apart. -/
def keyOf (argType : Option SqlType) (v : Value) : Value :=
  match argType with
  | some type => type.canonical v
  | none => v

/-- Does the function look at a value? Only `count(*)` and `array_agg` look at NULL. -/
def takes (func : AggregateFunc) (v : Value) : Bool :=
  !v.isNull || func == .countRows || func == .arrayAgg

/-- Feeds the argument's value for one row. -/
def add (a : Accumulator) (v : Value) : Except SqlError Accumulator := do
  if a.func == .countRows then return { a with tally := ← a.tally.add a.argType v }
  else if !takes a.func v then return a
  else match a.seen with
    | none => return { a with tally := ← a.tally.add a.argType v }
    | some keys =>
      match keys.add? [keyOf a.argType v] with
      | none => return a
      | some keys => return { a with seen := some keys, tally := ← a.tally.add a.argType v }

def result (a : Accumulator) (separator : Option String) : Value := a.tally.result separator

end Accumulator

end SqlEngine
