import SqlEngine.Sql.Statement
import SqlEngine.Storage.Table

/-!
Queries of expressions without `WITH` lists.

The plan of a query that a `WITH` list names is used as it is wherever the name stands, also in a
subquery further in, where a column of an enclosing query would be read from another row. At the top
of a statement no query encloses a named one, so there the lists do no harm.
-/

namespace SqlEngine

namespace Sql

mutual

/-- Does no subquery of the term have a `WITH` list? -/
def Term.isFlat : Term → Bool
  | .nested t | .cast t _ _ | .unary _ t | .is t _ _ | .arrayAgg _ t _ _ => t.isFlat
  | .binary l _ r | .json l _ r | .like l r _ _ _ => l.isFlat && r.isFlat
  | .between t low high _ => t.isFlat && low.isFlat && high.isFlat
  | .inList t items _ => t.isFlat && Term.allFlat items
  | .inQuery t query _ => t.isFlat && query.isFlat true
  | .exists query _ | .subquery query => query.isFlat true
  | .case operand branches otherwise =>
    Term.optionFlat operand && Term.branchesFlat branches && Term.optionFlat otherwise
  | .call _ args _ _ => Argument.allFlat args
  | .array items _ => Term.allFlat items
  | .subscript t indexes => t.isFlat && Term.allFlat indexes
  | .name _ | .path _ | .constant _ | .typed _ _ | .unsupported _ => true

def Term.allFlat : List Term → Bool
  | [] => true
  | t :: rest => t.isFlat && Term.allFlat rest

def Term.optionFlat : Option Term → Bool
  | none => true
  | some t => t.isFlat

def Term.branchesFlat : List (Term × Term) → Bool
  | [] => true
  | (condition, result) :: rest => condition.isFlat && result.isFlat && Term.branchesFlat rest

def Term.listsFlat : List (List Term) → Bool
  | [] => true
  | row :: rest => Term.allFlat row && Term.listsFlat rest

def Term.optionsFlat : Option (List Term) → Bool
  | none => true
  | some terms => Term.allFlat terms

def Argument.allFlat : List Argument → Bool
  | [] => true
  | .term _ t :: rest => t.isFlat && Argument.allFlat rest
  | .star _ :: rest | .tableStar _ _ :: rest => Argument.allFlat rest

def OrderTerm.allFlat : List OrderTerm → Bool
  | [] => true
  | .mk t _ :: rest => t.isFlat && OrderTerm.allFlat rest

/-- Has neither the query nor a subquery of its terms a `WITH` list? The query itself may have one if
it is not `inside` of an expression. -/
def Query.isFlat (inside : Bool) : Query → Bool
  | .mk _ bindings body orderBy _ _ _ _ => (!inside || bindings.isEmpty) &&
    Binding.allFlat inside bindings && body.isFlat inside && OrderTerm.allFlat orderBy

def Binding.allFlat (inside : Bool) : List Binding → Bool
  | [] => true
  | .mk _ query _ :: rest => query.isFlat inside && Binding.allFlat inside rest

def Body.isFlat (inside : Bool) : Body → Bool
  | .select select => select.isFlat inside
  | .query query => query.isFlat inside
  | .values _ rows => Term.listsFlat rows
  | .combined left _ _ right => left.isFlat inside && right.isFlat inside
  | .change _ | .unsupported _ => true

def Select.isFlat (inside : Bool) : Select → Bool
  | .mk _ distinctOn items _ source condition groupBy having _ =>
    Term.optionsFlat distinctOn && SelectItem.allFlat items && TableTerm.allFlat inside source &&
      Term.optionFlat condition && Term.optionsFlat groupBy && Term.optionFlat having

def SelectItem.allFlat : List SelectItem → Bool
  | [] => true
  | .term t _ :: rest => t.isFlat && SelectItem.allFlat rest
  | .star :: rest | .tableStar _ :: rest => SelectItem.allFlat rest

def TableTerm.isFlat (inside : Bool) : TableTerm → Bool
  | .derived _ query _ => query.isFlat inside
  | .nested tables _ => tables.isFlat inside
  | .cross left right | .joinUsing left _ right _ => left.isFlat inside && right.isFlat inside
  | .join left _ right condition =>
    left.isFlat inside && right.isFlat inside && Term.optionFlat condition
  | .named .. | .joinNatural .. | .apply .. | .unsupported _ => true

def TableTerm.allFlat (inside : Bool) : List TableTerm → Bool
  | [] => true
  | first :: rest => first.isFlat inside && TableTerm.allFlat inside rest

end

theorem Term.allFlat_iff {terms : List Term} : Term.allFlat terms ↔ ∀ t ∈ terms, t.isFlat := by
  induction terms with
  | nil => simp [Term.allFlat]
  | cons t rest ih => simp [Term.allFlat, ih]

theorem Term.listsFlat_iff {rows : List (List Term)} :
    Term.listsFlat rows ↔ ∀ row ∈ rows, ∀ t ∈ row, t.isFlat := by
  induction rows with
  | nil => simp [Term.listsFlat]
  | cons row rest ih => simp [Term.listsFlat, Term.allFlat_iff, ih]

/-! ### Statements

Conditions only choose rows, so they may be what they are. -/

def returningFlat (items : Option (List SelectItem)) : Bool := items.all SelectItem.allFlat

def Assignment.allFlat (assignments : List Assignment) : Bool := assignments.all (·.value.isFlat)

def ConflictClause.isFlat : ConflictClause → Bool
  | .onConflict _ (.update assignments _) => Assignment.allFlat assignments
  | _ => true

def Change.isFlat : Change → Bool
  | .insert i =>
    i.source.all (·.isFlat false) && i.conflict.isFlat && returningFlat i.returning
  | .update u => Assignment.allFlat u.assignments && returningFlat u.returning
  | .delete d => returningFlat d.returning
  | .unsupported _ => true

def Source.isFlat : Source → Bool
  | .query q => q.isFlat false
  | .change c => c.isFlat

def QueryStatement.isFlat (q : QueryStatement) : Bool :=
  q.bindings.all (·.2.isFlat) && q.body.isFlat

def ColumnRule.isFlat : ColumnRule → Bool
  | .default t => t.isFlat
  | _ => true

def ColumnTerm.isFlat (t : ColumnTerm) : Bool := t.options.all (·.rule.isFlat)

def TableChange.isFlat : TableChange → Bool
  | .addColumn t _ => t.isFlat
  | .changeColumn _ (.setDefault t) => t.isFlat
  | _ => true

/-- Has no subquery of an expression that gives a value of a row a `WITH` list? -/
def Statement.isFlat : Statement → Bool
  | .query q => q.isFlat
  | .change c => c.isFlat
  | .createTable t => t.columns.all (·.isFlat)
  | .alterTable t => t.changes.all (·.isFlat)
  | _ => true

end Sql

/-- Has no subquery of a default of the table a `WITH` list? -/
def TableDef.Flat (d : TableDef) : Prop := ∀ c ∈ d.columns, Sql.Term.optionFlat c.default

end SqlEngine
