import SqlEngine.Expr.Function
import SqlEngine.Query.Inspection
import SqlEngine.Query.Scope

/-!
Building expressions from the parts of terms.

While the terms of one query are compiled, the aggregate calls in them are collected; the same call
is collected once, and each call site reads its result.
-/

namespace SqlEngine

/-- An aggregate call with its argument. A call of `count(*)` has NULL for an argument. -/
abbrev CollectedCall := AggregateCall × Expr

abbrev Build := StateT (List CollectedCall) (Except SqlError)

namespace Build

/-- Are two calls the same? -/
def sameCall (a b : CollectedCall) : Bool :=
  a.1.func = b.1.func && a.1.separator = b.1.separator && a.1.distinct == b.1.distinct
    && a.2.same b.2

/-- The expression that reads the result of a call, which is collected unless it was before. -/
def collect (call : CollectedCall) : Build Expr := do
  let calls ← get
  match calls.findIdx? (sameCall · call) with
  | some number => return .aggregate number call.1.type
  | none =>
    set (calls ++ [call])
    return .aggregate calls.length call.1.type

/-- Builds something where no calls can be collected. -/
def alone {α : Type} (b : Build α) : Except SqlError α := do return (← b.run []).1

/-- The value of a literal. -/
def literal (c : Sql.Constant) : Except SqlError Expr :=
  match c with
  | .number digits _ =>
    match Numeral.int64? digits with
    | some i => .ok (.constant (.int i) .integer)
    | none =>
      match Numeral.double? digits with
      | some x => .ok (.constant (.float x) .float)
      | none => .error (.query (.invalidNumeric digits))
  | .string s | .escaped s | .dollar s _ => .ok (.constant (.text s) (.text none))
  | .boolean b => .ok (.constant (.bool b) .bool)
  | .null => .ok .null
  | .placeholder p => .error (.notSupported ("query parameter " ++ p))
  | c => .error (.notSupported ("literal " ++ c.text))

/-- Bare names that stand for calls where no column is called so. -/
def bareCalls : List (String × Builtin) :=
  [("current_schema", .currentSchema), ("current_timestamp", .now), ("localtimestamp", .now)]

/-- A name on its own: a column, or else a call that is written without parentheses. -/
def name (n : Names) (s : Scope) (id : Sql.Ident) : Except SqlError Expr :=
  match n.resolve s none id.name, (if id.quote.isNone then bareCalls.lookup id.name else none) with
  | .error (.query _), some f => f.call n.registry []
  | result, _ => result

/-- A dotted name; a schema in front of the table is not looked at. -/
def path (n : Names) (s : Scope) : List Sql.Ident → Except SqlError Expr
  | [table, column] | [_, table, column] => n.resolve s (some table.name) column.name
  | parts => .error (.notSupported ("column reference " ++ Sql.dottedText parts))

def unary (n : Names) (op : Sql.UnaryOperator) (e : Expr) : Except SqlError Expr :=
  match op with
  | .plus => .ok e
  | .minus => e.negative n.registry
  | .negation => do return .apply .invert [← e.condition n.registry] .bool
  | op => .error (.notSupported ("operator " ++ op.text))

def comparison? : Sql.BinaryOperator → Option Comparison
  | .equal => some .equal
  | .notEqual => some .notEqual
  | .less => some .less
  | .lessEqual => some .lessEqual
  | .greater => some .greater
  | .greaterEqual => some .greaterEqual
  | _ => none

def arithmetic? : Sql.BinaryOperator → Option Arithmetic
  | .add => some .add
  | .subtract => some .subtract
  | .multiply => some .multiply
  | .divide => some .divide
  | .modulo => some .modulo
  | _ => none

/-- Two conditions joined by an operator. -/
def logic (n : Names) (op : Op) (l r : Expr) : Except SqlError Expr := do
  let l ← l.condition n.registry
  let r ← r.condition n.registry
  return .apply op [l, r] .bool

def binary (n : Names) (op : Sql.BinaryOperator) (l r : Expr) : Except SqlError Expr :=
  match comparison? op, arithmetic? op with
  | some c, _ => Expr.comparison n.registry c l r
  | none, some a => Expr.arithmetic n.registry a l r
  | none, none =>
    match op with
    | .conjunction => logic n .conjunction l r
    | .disjunction => logic n .disjunction l r
    | .concat => Expr.concatenation n.registry l r
    | op => .error (.notSupported ("operator " ++ op.text))

/-- A test for NULL, or for a truth value. -/
def truthTest (n : Names) (test : Sql.TruthTest) (negated : Bool) (e : Expr) :
    Except SqlError Expr :=
  let truth (value : Bool) : Except SqlError Expr := do
    return .apply (.isBool value negated) [← e.condition n.registry] .bool
  match test with
  | .null => .ok (.apply (.isNull negated) [e] .bool)
  | .isTrue => truth true
  | .isFalse => truth false

/-- The operators that take a document apart. -/
def jsonOperator (operator : String) : Except SqlError Bool :=
  if operator == "->" then .ok false
  else if operator == "->>" then .ok true
  else .error (.notSupported ("operator " ++ operator))

/-- A document; literals are read as one. -/
def document (n : Names) (operator : String) (e : Expr) : Except SqlError Expr :=
  if e.type.kind == .json || e.type.kind == .jsonb then .ok e
  else if e.isConstant then e.convert n.registry .jsonb true
  else .error (.query (.operatorMissing e.type.name operator "unknown"))

/-- A position in a document, or a key. -/
def documentKey (n : Names) (e : Expr) : Except SqlError Expr :=
  if e.type.kind == .integer then .ok e else e.asText n.registry

def jsonAccess (asText : Bool) (doc key : Expr) : Expr :=
  .apply (.jsonGet asText) [doc, key] (if asText then .text none else doc.type)

/-- The item of an array at a position. -/
def subscript (n : Names) (array : Expr) (index : Build Expr) : Build Expr := do
  match array.type.element? with
  | none => throw (.query (.notSubscriptable array.type.name))
  | some element =>
    let index ← (← index).coerce n.registry .integer
    return .apply .subscript [array, index] element

/-- Every test followed by its result, and what is left of the results. -/
def interleave : List Expr → List Expr → List Expr
  | test :: tests, result :: results => test :: result :: interleave tests results
  | [], otherwise => otherwise
  | _, [] => []

/-- A choice between results, given the tests, the results and perhaps one for the other cases. -/
def choice (n : Names) (tests results : List Expr) : Except SqlError Expr := do
  let (type, results) ← Expr.unify n.registry results
  return .apply .case (interleave tests results) type

/-- A list of candidates for an expression. -/
def inList (n : Names) (negated : Bool) (es : List Expr) : Except SqlError Expr := do
  let (type, es) ← Expr.unify n.registry es
  return .apply (.inList negated type) es .bool

def between (n : Names) (negated : Bool) (e low high : Expr) : Except SqlError Expr := do
  let (type, operands) ← Expr.unify n.registry [e, low, high]
  return .apply (.between negated type) operands .bool

/-- A match with a pattern; citext ignores case in any case. -/
def like (n : Names) (ignoreCase negated : Bool) (e : Expr) (pattern : Build Expr) :
    Build Expr := do
  let ignoreCase := ignoreCase || e.type.kind == .citext
  let text ← e.likeOperand n.registry
  let pattern ← (← pattern).likeOperand n.registry
  return .apply (.like ignoreCase negated) [text, pattern] .bool

def array (n : Names) (items : List Expr) : Except SqlError Expr := do
  let (type, items) ← Expr.unify n.registry items
  return .apply .array items type.array

/-! ### Subqueries -/

/-- A subquery that has to have one column. -/
def singleColumn (p : TypedPlan) : Except SqlError Column :=
  match p.columns with
  | [c] => .ok c
  | [] => .error (.query .subqueryNoColumn)
  | _ => .error (.query .subqueryColumns)

def scalar (p : TypedPlan) : Except SqlError Expr := do
  return .scalar p.plan (← singleColumn p).type

/-- Is an expression among the rows of a subquery? Both are converted to their common type. -/
def among (n : Names) (negated : Bool) (e : Expr) (p : TypedPlan) : Except SqlError Expr := do
  let c ← singleColumn p
  let type ← Expr.commonType [e.candidate, ⟨c.type, false⟩]
  let e ← e.coerce n.registry type
  if c.type = type then return .among e p.plan negated type
  else
    let item ← (Expr.column 0 c.type).convert n.registry type false
    return .among e (.project p.plan [item]) negated type

/-! ### Calls -/

/-- Does a function name without a schema, or with that of the system, mean the built-in ones? -/
def isSystem (name : QName) : Bool := name.schema.all (· == Catalog.systemSchema)

/-- A call of a function that is no aggregate; registered ones come first. -/
def function (n : Names) (name : QName) (args : List Expr) : Except SqlError Expr :=
  let label := Text.lower name.name
  match n.catalog.functionsNamed name with
  | [] =>
    match (if isSystem name then Builtin.ofName? label else none) with
    | some f => f.call n.registry args
    | none => .error (functionMissing label args)
  | candidates => HostFunction.resolve n.registry label args candidates

/-- A call of an aggregate function. Its argument is built over the rows before they are grouped. -/
def aggregate (s : Scope) (f : AggregateFunc) (arg : Option (Scope → Build Expr))
    (separator : Option String) (distinct : Bool) : Build Expr := do
  if !s.isGrouped then throw (.query (.aggregateMisplaced f.name))
  let arg? ← arg.mapM fun build => build s.ungrouped
  let argType := arg?.map (·.type)
  let type ← f.resultType argType
  collect (⟨f, argType, separator, distinct, type⟩, arg?.getD .null)

/-- The separator of `string_agg`. -/
def separator (e : Expr) : Except SqlError String :=
  match e.constant? with
  | some (.text s) => .ok s
  | some .null => .ok ""
  | _ => .error (.notSupported "string_agg with a non-constant separator")

/-- An argument of a call: a term with the way to build it, or something else, with its text. -/
inductive Arg where
  | term (build : Scope → Build Expr)
  | star
  | other

/-- A call of an aggregate with arguments; `texts` is how they are written. -/
def aggregateCall (s : Scope) (f : AggregateFunc) (distinct : Bool) (args : List Arg)
    (texts : List String) : Build Expr := do
  match f, args with
  | .count, [.star] => aggregate s .countRows none none false
  | .stringAgg, [.term arg, .term sep] =>
    let text ← separator (← sep s)
    aggregate s .stringAgg (some arg) (some text) distinct
  | .stringAgg, _ => throw (.query (.functionMissing f.name (", ".intercalate texts)))
  | f, [.term arg] => aggregate s f (some arg) none distinct
  | f, _ => throw (.query (.functionMissing f.name (", ".intercalate texts)))

/-- The aggregate that a call means, if it means one. -/
def aggregate? (name : QName) : Option AggregateFunc :=
  if isSystem name then AggregateFunc.ofName? (Text.lower name.name) else none

end Build

end SqlEngine
