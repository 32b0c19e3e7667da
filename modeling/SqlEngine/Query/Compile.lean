import SqlEngine.Query.Combine
import SqlEngine.Sql.Outline

/-!
From trees of SQL to expressions and plans.

What a term means depends on the names that are known and on the scope it stands in. The terms of a
subquery are compiled with the scope of the query around it as the nearest outer one.
-/

namespace SqlEngine

namespace Build

/-- A test of a choice: a condition, or a comparison with what the choice is about. -/
def test (n : Names) (operand : Option Expr) (e : Expr) : Except SqlError Expr :=
  match operand with
  | some o => Expr.comparison n.registry .equal o e
  | none => e.condition n.registry

/-- A text of a type. -/
def typed (n : Names) (type text : String) : Except SqlError Expr := do
  let type ← n.catalog.typeOfText type
  (Expr.constant (.text text) (.text none)).convert n.registry type true

end Build

namespace Sql

/-- An argument that a function which is no aggregate cannot have. -/
def Argument.refused (name text : String) : SqlError :=
  .notSupported (s!"argument {text} of {name}")

/-- The arguments of an aggregate call as they are written, without labels. -/
def Argument.bareTexts : List Argument → List String
  | [] => []
  | .term _ t :: rest => t.text :: Argument.bareTexts rest
  | .star _ :: rest => "*" :: Argument.bareTexts rest
  | .tableStar _ table :: rest => (dottedText table ++ ".*") :: Argument.bareTexts rest

/-- The order that a direction asks for. -/
def Direction.order (d : Direction) : KeyOrder := ⟨d.ascending == some false, d.nullsFirst⟩

/-- Does a query consist of a change of rows? -/
def Query.isChange : Query → Bool
  | .mk _ _ (.change _) _ _ _ _ _ => true
  | _ => false

mutual

/-- The expression that a term stands for in a scope. -/
def Term.compile (n : Names) (s : Scope) : Term → Build Expr
  | .name id => Build.name n s id
  | .path parts => Build.path n s parts
  | .constant value => Build.literal value
  | .nested t => t.compile n s
  | .typed type text => Build.typed n type.text text
  | .cast t type _ => do
    let type ← n.catalog.typeOfText type.text
    (← t.compile n s).convert n.registry type true
  | .unary op t => do Build.unary n op (← t.compile n s)
  | .binary left op right => do
    let l ← left.compile n s
    let r ← right.compile n s
    Build.binary n op l r
  | .is t test negated => do Build.truthTest n test negated (← t.compile n s)
  | .inList t items negated => do
    let e ← t.compile n s
    Build.inList n negated (e :: (← Term.compileAll n s items))
  | .inQuery t query negated => do
    let e ← t.compile n s
    Build.among n negated e (← query.plan (n.within s))
  | .exists query negated => do return .hasRows (← query.plan (n.within s)).plan negated
  | .subquery query => do Build.scalar (← query.plan (n.within s))
  | .between t low high negated => do
    let e ← t.compile n s
    let l ← low.compile n s
    let h ← high.compile n s
    Build.between n negated e l h
  | .like t pattern escape negated insensitive => do
    if escape.isSome then throw (.notSupported "LIKE ... ESCAPE")
    Build.like n insensitive negated (← t.compile n s) (pattern.compile n s)
  | .case operand branches otherwise => do
    let operand ← Term.compileOption n s operand
    let tests ← Term.compileTests n s operand branches
    let results ← Term.compileResults n s branches
    let otherwise ← Term.compileOption n s otherwise
    Build.choice n tests (results ++ otherwise.toList)
  | .call head args _ _ => do
    if head.window.isSome then throw (.notSupported "window functions")
    let name ← QName.ofParts head.name
    match Build.aggregate? name with
    | some f =>
      Build.aggregateCall s f head.distinct (Argument.pendings n args) (Argument.bareTexts args)
    | none =>
      let label := Text.lower name.name
      if head.distinct then throw (.query (.distinctNotAggregate label))
      Build.function n name (← Argument.compileAll n s label args)
  | .arrayAgg distinct t orderBy limit => do
    if !orderBy.isEmpty || limit.isSome then
      throw (.notSupported "array_agg with ORDER BY or LIMIT")
    Build.aggregate s .arrayAgg (some fun s => t.compile n s) none distinct
  | .array items _ => do Build.array n (← Term.compileAll n s items)
  | .subscript t indexes => do Term.compileSubscripts n s (← t.compile n s) indexes
  | .json left operator right => do
    let asText ← Build.jsonOperator operator
    let doc ← Build.document n operator (← left.compile n s)
    let key ← Build.documentKey n (← right.compile n s)
    return Build.jsonAccess asText doc key
  | .unsupported phrase => throw (.notSupported ("expression " ++ phrase.text))

def Term.compileAll (n : Names) (s : Scope) : List Term → Build (List Expr)
  | [] => return []
  | t :: rest => do
    let e ← t.compile n s
    return e :: (← Term.compileAll n s rest)

def Term.compileOption (n : Names) (s : Scope) : Option Term → Build (Option Expr)
  | none => return none
  | some t => do return some (← t.compile n s)

/-- The tests of a choice. -/
def Term.compileTests (n : Names) (s : Scope) (operand : Option Expr) :
    List (Term × Term) → Build (List Expr)
  | [] => return []
  | (condition, _) :: rest => do
    let test ← Build.test n operand (← condition.compile n s)
    return test :: (← Term.compileTests n s operand rest)

/-- The results of a choice. -/
def Term.compileResults (n : Names) (s : Scope) : List (Term × Term) → Build (List Expr)
  | [] => return []
  | (_, result) :: rest => do
    let e ← result.compile n s
    return e :: (← Term.compileResults n s rest)

/-- The item that an array has at a list of positions. -/
def Term.compileSubscripts (n : Names) (s : Scope) (array : Expr) : List Term → Build Expr
  | [] => return array
  | index :: rest => do
    Term.compileSubscripts n s (← Build.subscript n array (index.compile n s)) rest

/-- The arguments of a function that is no aggregate. -/
def Argument.compileAll (n : Names) (s : Scope) (name : String) :
    List Argument → Build (List Expr)
  | [] => return []
  | .term none t :: rest => do
    let e ← t.compile n s
    return e :: (← Argument.compileAll n s name rest)
  | .term (some label) t :: _ =>
    throw (Argument.refused name (Argument.term (some label) t).text)
  | .star label :: _ => throw (Argument.refused name (Argument.star label).text)
  | .tableStar label table :: _ =>
    throw (Argument.refused name (Argument.tableStar label table).text)

/-- The arguments of an aggregate call; each is built in the scope that the call chooses. -/
def Argument.pendings (n : Names) : List Argument → List Build.Arg
  | [] => []
  | .term _ t :: rest => .term (fun s => t.compile n s) :: Argument.pendings n rest
  | .star _ :: rest => .star :: Argument.pendings n rest
  | .tableStar _ _ :: rest => .other :: Argument.pendings n rest

def Term.pendings (n : Names) : List Term → List Pending
  | [] => []
  | t :: rest => ⟨t, fun s => t.compile n s⟩ :: Term.pendings n rest

def Term.pending? (n : Names) : Option Term → Option Pending
  | none => none
  | some t => some ⟨t, fun s => t.compile n s⟩

def Term.pendings? (n : Names) : Option (List Term) → Option (List Pending)
  | none => none
  | some terms => some (Term.pendings n terms)

def Term.pendingRows (n : Names) : List (List Term) → List (List Pending)
  | [] => []
  | row :: rest => Term.pendings n row :: Term.pendingRows n rest

def OrderTerm.pendings (n : Names) : List OrderTerm → List PendingKey
  | [] => []
  | .mk t direction :: rest =>
    ⟨⟨t, fun s => t.compile n s⟩, direction.order⟩ :: OrderTerm.pendings n rest

def SelectItem.pendings (n : Names) : List SelectItem → List PendingItem
  | [] => []
  | .term t knownAs :: rest =>
    .term ⟨t, fun s => t.compile n s⟩ knownAs :: SelectItem.pendings n rest
  | .star :: rest => .star :: SelectItem.pendings n rest
  | .tableStar table :: rest => .tableStar table :: SelectItem.pendings n rest

/-- The plan of a query. -/
def Query.plan (n : Names) : Query → Except SqlError TypedPlan
  | .mk recursive bindings body orderBy limit offset _ tail => do
    if recursive then throw (.notSupported "WITH RECURSIVE")
    let n ← Binding.bindAll n [] bindings
    if tail.fetch.isSome then throw (.notSupported "FETCH")
    let rows ← body.plan n (OrderTerm.pendings n orderBy)
    rows.limited n (Term.pending? n limit) (Term.pending? n offset)

/-- The names with those of a list of queries, which have to differ. -/
def Binding.bindAll (n : Names) (taken : List String) :
    List Binding → Except SqlError Names
  | [] => .ok n
  | .mk knownAs query _ :: rest => do
    let name := knownAs.name.name
    if taken.contains name then throw (.query (.withNameRepeated name))
    if query.isChange then
      throw (.notSupported
        "WITH clause containing a data-modifying statement must be at the top level")
    let rows ← (← query.plan n).named name (knownAs.columns.map Ident.name)
    Binding.bindAll (n.bind name (.rows rows)) (name :: taken) rest

/-- The plan of the rows of a query in their order. -/
def Body.plan (n : Names) (orderBy : List PendingKey) : Body → Except SqlError TypedPlan
  | .select select => select.plan n orderBy
  | .query query => do (← query.plan n).orderBy orderBy
  | .values _ rows => do (← TypedPlan.values n (Term.pendingRows n rows)).orderBy orderBy
  | .combined left op quantifier right => do
    if op ≠ .union then throw (.notSupported op.text)
    let l ← left.plan n []
    let r ← right.plan n []
    (← TypedPlan.union n l r (quantifier == "ALL")).orderBy orderBy
  | .change _ => throw (.notSupported "data-modifying statement used as a subquery")
  | .unsupported phrase => throw (.notSupported ("query " ++ phrase.text))

def Select.plan (n : Names) (orderBy : List PendingKey) : Select → Except SqlError TypedPlan
  | .mk distinct distinctOn items into source condition groupBy having _ =>
    Select.Parts.plan {
      distinct
      distinctOn := Term.pendings? n distinctOn
      items := SelectItem.pendings n items
      into
      source := TableTerm.planAll n source
      condition := Term.pending? n condition
      groupBy := Term.pendings? n groupBy
      having := Term.pending? n having
      orderBy } n

/-- The plan of a table or a tree of joins. -/
def TableTerm.plan (n : Names) : TableTerm → Except SqlError TypedPlan
  | .named name args knownAs _ => TypedPlan.table n name knownAs args.isSome
  | .derived lateral query knownAs => do
    if lateral then throw (.notSupported "LATERAL")
    (← query.plan n).knownAs knownAs
  | .nested tables knownAs => do (← tables.plan n).knownAs knownAs
  | .cross left right => do
    let l ← left.plan n
    let r ← right.plan n
    return l.join r .cross none
  | .join left side right condition => do
    let l ← left.plan n
    let r ← right.plan n
    match TypedPlan.joinKind? side with
    | some kind => TypedPlan.joinOn n l r kind (Term.pending? n condition)
    | none => throw (.notSupported (unknownJoin side ((condition.map .on).getD .absent)))
  | .joinUsing left side right columns => do
    let l ← left.plan n
    let r ← right.plan n
    match TypedPlan.joinKind? side with
    | some kind => TypedPlan.joinUsing n l r kind (columns.map Ident.name)
    | none => throw (.notSupported (unknownJoin side (.sameColumns columns)))
  | .joinNatural left side right => do
    let _ ← left.plan n
    let _ ← right.plan n
    match TypedPlan.joinKind? side with
    | some _ => throw (.notSupported "NATURAL JOIN")
    | none => throw (.notSupported (unknownJoin side .natural))
  | .apply left right outer => do
    let _ ← left.plan n
    let _ ← right.plan n
    throw (.notSupported (if outer then "join OuterApply" else "join CrossApply"))
  | .unsupported phrase => throw (.notSupported ("FROM item " ++ phrase.text))

/-- The plan of a list of tables, each of which is combined with the ones before it. -/
def TableTerm.planAll (n : Names) : List TableTerm → Except SqlError TypedPlan
  | [] => .ok .unit
  | first :: rest => do TableTerm.crossAll n (← first.plan n) rest

def TableTerm.crossAll (n : Names) (left : TypedPlan) : List TableTerm → Except SqlError TypedPlan
  | [] => .ok left
  | next :: rest => do TableTerm.crossAll n (left.join (← next.plan n) .cross none) rest

end

namespace Term

/-- A term with the way to build it among some names. -/
def pending (n : Names) (t : Term) : Pending := ⟨t, fun s => t.compile n s⟩

/-- The complete expression of a term in a scope. -/
def build (n : Names) (s : Scope) (t : Term) : Except SqlError Expr :=
  ((t.pending n).build s).alone

/-- A term as a condition. -/
def condition (n : Names) (s : Scope) (t : Term) : Except SqlError Expr :=
  ((t.pending n).condition n s).alone

end Term

end Sql

end SqlEngine
