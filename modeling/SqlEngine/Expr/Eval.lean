import SqlEngine.Expr.Builtin
import SqlEngine.Rows.Group
import SqlEngine.Rows.Join
import SqlEngine.Rows.Sorting

/-!
Evaluation of expressions and plans.

An expression is evaluated over the current row and the rows of the enclosing queries, the nearest
one first; a plan gives a cursor over the latter. Operators are given their operands as
evaluations, so that each of them decides which operands it looks at, and when.
-/

namespace SqlEngine

namespace Op

/-- Evaluates operands from the left to the right. -/
def strict (f : List Value → Except SqlError Value) (args : List (Eval Value)) : Eval Value := do
  let values ← args.mapM id
  f values

def strictOne (f : Value → Except SqlError Value) : List (Eval Value) → Eval Value :=
  strict fun values => f (values.headD .null)

def strictTwo (f : Value → Value → Except SqlError Value) : List (Eval Value) → Eval Value :=
  strict fun values => f (values.headD .null) (values.getD 1 .null)

/-- The logic of three values. `deciding` is the value that decides alone: false for AND, true for
OR. Where the first operand decides, the second one is not evaluated. -/
def logic (deciding : Bool) : List (Eval Value) → Eval Value
  | [left, right] => do
    let l := (← left).bool?
    if l = some deciding then return .bool deciding
    let r := (← right).bool?
    if r = some deciding then return .bool deciding
    return if l.isSome && r.isSome then .bool !deciding else .null
  | _ => return .null

/-- Looks for a value among candidates until one equals it. -/
def searchList (type : SqlType) (v : Value) (found : Option Bool) :
    List (Eval Value) → Eval (Option Bool)
  | [] => return found
  | candidate :: rest => do
    match type.equals? v (← candidate) with
    | some true => return some true
    | some false => searchList type v found rest
    | none => searchList type v none rest

/-- Is the first operand among the others? The others are not looked at if it is missing. -/
def member (negated : Bool) (type : SqlType) : List (Eval Value) → Eval Value
  | [] => return .null
  | arg :: candidates => do
    let v ← arg
    if v.isNull then return .null
    return truth negated (← searchList type v (some false) candidates)

/-- Does a text match a pattern? The pattern is not looked at without a text. -/
def matchPattern (ignoreCase negated : Bool) : List (Eval Value) → Eval Value
  | [arg, pattern] => do
    let .text s ← arg | return .null
    let .text p ← pattern | return .null
    return .bool ((LikePattern.ofText p ignoreCase).accepts s != negated)
  | _ => return .null

/-- The result behind the first condition that holds. -/
def choose : List (Eval Value) → Eval Value
  | condition :: result :: rest => do
    if (← condition).bool? = some true then result else choose rest
  | [otherwise] => otherwise
  | [] => return .null

/-- The first value that is there. -/
def firstPresent : List (Eval Value) → Eval Value
  | [] => return .null
  | arg :: rest => do
    let v ← arg
    if v.isNull then firstPresent rest else return v

/-- Applies an operator to operands; `type` is the type of the result, and `argTypes` are those of
the operands. -/
def perform (env : Env) (type : SqlType) (argTypes : List SqlType) (op : Op)
    (args : List (Eval Value)) : Eval Value :=
  match op with
  | convert c => strictOne (c.apply env.catalog.registry) args
  | arithmetic op => strictTwo (op.apply type) args
  | compare op type => strictTwo (fun l r => .ok (op.apply type l r)) args
  | conjunction => logic false args
  | disjunction => logic true args
  | negate => strictOne negateValue args
  | invert => strictOne (fun v => .ok (truth true v.bool?)) args
  | concat => strictTwo (fun l r => .ok (concatValues l r)) args
  | jsonGet asText => strictTwo (fun doc key => .ok (jsonGetValue asText doc key)) args
  | isNull negated => strictOne (fun v => .ok (.bool (v.isNull != negated))) args
  | isBool value negated =>
    strictOne (fun v => .ok (.bool ((v.bool? == some value) != negated))) args
  | inList negated type => member negated type args
  | between negated type =>
    strict (fun
      | [v, low, high] => .ok (truth negated (betweenValues type v low high))
      | _ => .ok .null) args
  | like ignoreCase negated => matchPattern ignoreCase negated args
  | case => choose args
  | builtin .coalesce => firstPresent args
  | builtin .typeOf => return .handle (.name ((argTypes.head?.map SqlType.name).getD ""))
  | builtin f => do f.run env type (← args.mapM id)
  | array => strict (fun values => .ok (.array values)) args
  | subscript => strictTwo (fun items i => .ok (subscriptValue items i)) args

end Op

/-- The partners of a left row that an index finds; a missing key finds none. -/
def TableDef.partners (table : TableDef) (index : Nat) (key : Value) (s : Store) : List Row :=
  if key.isNull then []
  else
    let data := s.table table.id
    (data.lookup table index [key]).filterMap data.get?

mutual

/-- The value of an expression over a row. -/
def Expr.eval (env : Env) (outer : List Row) (row : Row) : Expr → Eval Value
  | .constant v _ => return v
  | .column index _ =>
    match row[index]? with
    | some v => return v
    | none => throw (.internal s!"column {index} read from a row of {row.length}")
  | .outer levels index _ =>
    match if levels = 0 then none else (outer[levels - 1]?).bind (·[index]?) with
    | some v => return v
    | none => throw (.internal s!"outer column {index} unavailable")
  | .aggregate number _ => throw (.internal s!"aggregate {number} read outside of its query")
  | .apply op args type =>
    op.perform env type (args.map Expr.type) (Expr.actions env outer row args)
  | .call f args => do
    let values ← (Expr.actions env outer row args).mapM id
    f.call values
  | .scalar query _ => (query.cursor env (row :: outer)).single
  | .hasRows query negated => do
    return .bool ((← (query.cursor env (row :: outer)).hasRow) != negated)
  | .among arg query negated type => do
    let v ← arg.eval env outer row
    if v.isNull then return .null
    return Op.truth negated (← (query.cursor env (row :: outer)).among type v)

/-- The evaluations of some expressions over a row. -/
def Expr.actions (env : Env) (outer : List Row) (row : Row) : List Expr → List (Eval Value)
  | [] => []
  | e :: rest => e.eval env outer row :: Expr.actions env outer row rest

/-- The rows of a plan. -/
def Plan.cursor (env : Env) (outer : List Row) : Plan → Cursor
  | .values rows => Plan.valuesCursor env outer rows
  | .fixed rows => .ofList rows
  | .scan table => .deferred do return ((← Eval.store).table table.id).rows.map (·.2)
  | .filter source condition =>
    (source.cursor env outer).filter fun row => do
      return (← condition.eval env outer row).bool? == some true
  | .project source items =>
    (source.cursor env outer).map fun row => (Expr.actions env outer row items).mapM id
  | .join left right kind leftWidth rightWidth condition =>
    .join kind leftWidth rightWidth
      (fun row => do return (← condition.eval env outer row).bool? == some true)
      (left.cursor env outer) (right.cursor env outer)
  | .lookupJoin left table index key keepLeft condition =>
    .lookupJoin keepLeft table.columns.length
      (fun row => do return (← condition.eval env outer row).bool? == some true)
      (fun row => do
        let v ← key.eval env outer row
        return table.partners index v (← Eval.store))
      (left.cursor env outer)
  | .group source keys calls args =>
    .group (keys.map Expr.type) calls (fun row => (Expr.actions env outer row keys).mapM id)
      (fun row => Expr.actions env outer row args) (source.cursor env outer)
  | .order source keys directions =>
    .order (directions.zip (keys.map Expr.type))
      (fun row => (Expr.actions env outer row keys).mapM id) (source.cursor env outer)
  | .distinct source types =>
    (source.cursor env outer).distinct types fun row => return row
  | .distinctOn source keys =>
    (source.cursor env outer).distinct (keys.map Expr.type) fun row =>
      (Expr.actions env outer row keys).mapM id
  | .limit source count offset => (source.cursor env outer).limit count offset
  | .union left right all types =>
    let both := (left.cursor env outer).append (right.cursor env outer)
    if all then both
    else both.distinct types fun row => return row

/-- The rows that lists of expressions give over the empty row. -/
def Plan.valuesCursor (env : Env) (outer : List Row) : List (List Expr) → Cursor
  | [] => .empty
  | items :: rest =>
    .after ((Expr.actions env outer [] items).mapM id) fun row =>
      .cons row (Plan.valuesCursor env outer rest)

end

/-- Does a condition hold of a row? A missing value does not count as true. -/
def Expr.holds (env : Env) (outer : List Row) (row : Row) (condition : Expr) : Eval Bool := do
  return (← condition.eval env outer row).bool? == some true

end SqlEngine
