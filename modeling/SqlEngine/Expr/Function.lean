import SqlEngine.Expr.Convert

/-!
Calls: which function a call means, and its arguments as the function takes them.
-/

namespace SqlEngine

/-- There is no function with a name that takes such arguments. -/
def functionMissing (name : String) (args : List Expr) : SqlError :=
  .query (.functionMissing name (", ".intercalate (args.map (·.type.name))))

namespace HostFunction

/-- Can an argument be given where a type is declared? -/
def takes (type : SqlType) (arg : Expr) : Bool :=
  arg.type = type || arg.type.convertsTo type || (arg.isConstant && arg.type.castsTo type)

/-- The types that the function declares for so many arguments. -/
def declared (f : HostFunction) (count : Nat) : List SqlType :=
  (List.range count).filterMap f.signature.argType?

/-- Does the function take these arguments? -/
def matchesArgs (f : HostFunction) (args : List Expr) : Bool :=
  f.signature.accepts args.length &&
    ((f.declared args.length).zip args).all fun (type, arg) => takes type arg

/-- The arguments before the first one that the function does not take. -/
def accepted (f : HostFunction) (args : List Expr) : List (SqlType × Expr) :=
  ((f.declared args.length).zip args).takeWhile fun (type, arg) => takes type arg

/-- The first function that takes the arguments, called with them. The arguments of a function are
converted one by one; one that cannot be converted ends the search. -/
def resolve (registry : Registry) (name : String) (args : List Expr) :
    List HostFunction → Except SqlError Expr
  | [] => .error (functionMissing name args)
  | f :: rest =>
    if f.signature.accepts args.length then do
      let converted ← (f.accepted args).mapM fun (type, arg) => arg.coerce registry type
      if f.matchesArgs args then return .call f converted else resolve registry name args rest
    else resolve registry name args rest

end HostFunction

namespace Builtin

/-- An argument as text: a text, a literal, or the name of a relation. -/
def textArg (registry : Registry) (f : Builtin) (e : Expr) : Except SqlError Expr :=
  if e.type.isText then .ok e
  else if e.isConstant || e.type.kind == .regclass then e.asText registry
  else .error (functionMissing f.name [e])

/-- The type in which `abs` computes. -/
def absType (e : Expr) : Except SqlError SqlType :=
  if e.type.isNumeric then .ok e.type
  else if e.isConstant then .ok .float
  else .error (functionMissing abs.name [e])

/-- The arguments as the function takes them, and the type of the result. -/
def prepare (registry : Registry) (f : Builtin) (args : List Expr) :
    Except SqlError (List Expr × SqlType) :=
  match f, args with
  | lower, [e] | upper, [e] => do
    let type := if e.type.kind == .citext then SqlType.citext else .text none
    return ([← f.textArg registry e], type)
  | length, [e] | nextValue, [e] | currentValue, [e] => do
    return ([← f.textArg registry e], .integer)
  | concat, e :: rest => do return (← (e :: rest).mapM (Expr.asText registry), .text none)
  | coalesce, e :: rest => do
    let (type, args) ← Expr.unify registry (e :: rest)
    return (args, type)
  | nullIf, [e, other] => do
    let (type, args) ← Expr.unify registry [e, other]
    return (args, type)
  | abs, [e] => do
    let type ← absType e
    return ([← e.coerce registry type], type)
  | now, [] => .ok ([], .timestamp)
  | randomUuid, [] => .ok ([], .uuid)
  | setValue, name :: value :: called => do
    if 1 < called.length then throw (functionMissing f.name args)
    let name ← f.textArg registry name
    let value ← value.coerce registry .integer
    return (name :: value :: (← called.mapM (Expr.coerce registry .bool)), .integer)
  | currentSchema, [] | version, [] => .ok ([], .text none)
  | currentSetting, [e] => do return ([← f.textArg registry e], .text none)
  | typeOf, [e] => .ok ([e], .regtype)
  | f, args => .error (functionMissing f.name args)

/-- A call of a built-in function. -/
def call (registry : Registry) (f : Builtin) (args : List Expr) : Except SqlError Expr := do
  let (args, type) ← f.prepare registry args
  return .apply (.builtin f) args type

end Builtin

end SqlEngine
