import SqlEngine.Expr.Aggregate
import SqlEngine.Number.Reading
import SqlEngine.Sql.Printer

/-!
What can be told from a term as it is written: whether it calls an aggregate, what an output column
with it is called, and whether it is the position of an output column.
-/

namespace SqlEngine

namespace Sql

/-- The name of a function in lower case, quoted or not. -/
def callName (name : List Ident) : String :=
  (name.getLast?.map fun id => Text.lower id.value).getD ""

/-- Is a call one of an aggregate? -/
def CallHead.isAggregate (head : CallHead) : Bool :=
  head.window.isNone && head.name.length == 1
    && (AggregateFunc.ofName? (callName head.name)).isSome

mutual

/-- Does a term call an aggregate outside of subqueries? -/
def Term.aggregates : Term → Bool
  | .call head args _ _ => head.isAggregate || Argument.anyAggregates args
  | .arrayAgg .. => true
  | .nested t | .unary _ t | .cast t _ _ | .is t _ _ | .inQuery t _ _ => t.aggregates
  | .binary l _ r | .json l _ r | .like l r _ _ _ => l.aggregates || r.aggregates
  | .between t low high _ => t.aggregates || low.aggregates || high.aggregates
  | .inList t items _ => t.aggregates || Term.anyAggregates items
  | .case operand branches otherwise =>
    Term.optionAggregates operand || Term.branchesAggregate branches
      || Term.optionAggregates otherwise
  | .array items _ => Term.anyAggregates items
  | .subscript t indexes => t.aggregates || Term.anyAggregates indexes
  | .name _ | .path _ | .constant _ | .typed _ _ | .exists _ _ | .subquery _
  | .unsupported _ => false

def Term.anyAggregates : List Term → Bool
  | [] => false
  | t :: rest => t.aggregates || Term.anyAggregates rest

def Term.optionAggregates : Option Term → Bool
  | none => false
  | some t => t.aggregates

def Term.branchesAggregate : List (Term × Term) → Bool
  | [] => false
  | (condition, result) :: rest =>
    condition.aggregates || result.aggregates || Term.branchesAggregate rest

def Argument.anyAggregates : List Argument → Bool
  | [] => false
  | .term _ t :: rest => t.aggregates || Argument.anyAggregates rest
  | _ :: rest => Argument.anyAggregates rest

end

/-- The name of a type without its parameters, in lower case. -/
def typeLabel (type : String) : String :=
  Text.lower (Text.trimmed (String.ofList (type.toList.takeWhile (· != '('))))

mutual

/-- What an output column with a term is called, if anything. -/
def Term.label? : Term → Option String
  | .name id => some id.name
  | .path parts => parts.getLast?.map Ident.name
  | .nested t => t.label?
  | .call head _ _ _ => head.name.getLast?.map fun id => Text.lower id.value
  | .arrayAgg .. => some "array_agg"
  | .cast (.name id) _ _ => some id.name
  | .cast (.path parts) _ _ => parts.getLast?.map Ident.name
  | .cast (.call head _ _ _) _ _ => head.name.getLast?.map fun id => Text.lower id.value
  | .cast (.cast t type format) _ _ => (Term.cast t type format).label?
  | .cast _ type _ => some (typeLabel type.text)
  | .typed type _ => some (Text.lower type.text)
  | .case .. => some "case"
  | .exists .. => some "exists"
  | .array .. => some "array"
  | .subscript t _ => t.label?
  | .json _ _ (.constant (.string key)) => some key
  | .subquery query => query.label?
  | _ => none

/-- The name of the only output column of a select. -/
def Query.label? : Query → Option String
  | .mk _ _ (.select (.mk _ _ [.term t knownAs] _ _ _ _ _ _)) _ _ _ _ _ =>
    match knownAs with
    | some id => some id.name
    | none => t.label?
  | _ => none

end

/-- The position, counted from zero, that a term written as a number stands for. -/
def Term.position? : Term → Except SqlError (Option Nat)
  | .constant (.number digits _) =>
    match (Numeral.natural? digits.toList).filter fun n => 1 ≤ n && n < Nat.pow 2 64 with
    | some n => .ok (some (n - 1))
    | none => .error (.query (.positionMissing "" digits))
  | _ => .ok none

/-- Does a term stand for the default of a column? -/
def Term.isDefault : Term → Bool
  | .name id => id.quote.isNone && id.value.toList.map Numeral.lowerAscii == "default".toList
  | _ => false

end Sql

end SqlEngine
