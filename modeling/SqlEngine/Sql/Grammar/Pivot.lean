import SqlEngine.Sql.Grammar.Basic
import SqlEngine.Sql.Grammar.Special

/-!
Tables that turn rows into columns, columns into rows, or documents into both. The engine has no
meaning for any of them.
-/

namespace SqlEngine

namespace Sql

namespace Grammar

open SqlEngine.Sql.Parser

/-- The rows of a table turned into columns. The function that gathers them loses the quotes of
its name. -/
def pivoted (g : Grammar) (table : TableTerm) : Parser TableTerm := do
  symbol "("
  let name ← match ← next with
    | .word id => pure (Ident.bare id.value)
    | _ => failure
  let gathered ← call g (frameAmount g) [name]
  keyword "FOR"
  let column ← dotted
  keyword "IN"
  let values ← parenthesized (commaSeparated constant)
  symbol ")"
  let knownAs ← tableAlias?
  return .unsupported ⟨table.text ++ " PIVOT(" ++ gathered.text ++ " FOR " ++ dottedText column
      ++ " IN (" ++ commas (values.map Constant.text) ++ "))" ++ aliasText knownAs,
    Outline.fields "Pivot"
      [("table", table.outline), ("aggregate_function", gathered.outline),
        ("value_column", identOutlines column),
        ("pivot_values", Outline.list (values.map Constant.outline)),
        ("alias", aliasOutline knownAs)]⟩

/-- The columns of a table turned into rows. -/
def unpivoted (table : TableTerm) : Parser TableTerm := do
  symbol "("
  let value ← identifier
  keyword "FOR"
  let name ← identifier
  keyword "IN"
  let columns ← columnList
  symbol ")"
  let knownAs ← tableAlias?
  return .unsupported ⟨table.text ++ " UNPIVOT(" ++ value.text ++ " FOR " ++ name.text
      ++ " IN (" ++ commas (columns.map Ident.text) ++ "))" ++ aliasText knownAs,
    Outline.fields "Unpivot"
      [("table", table.outline), ("value", value.outline), ("name", name.outline),
        ("columns", identOutlines columns), ("alias", aliasOutline knownAs)]⟩

/-- A table as often turned as the text asks for, at most `most` times. -/
def turnedUpTo (g : Grammar) (table : TableTerm) : Nat → Parser TableTerm
  | 0 => failure
  | most + 1 => do
    match ← oneOf? ["PIVOT", "UNPIVOT"] with
    | some "PIVOT" => turnedUpTo g (← pivoted g table) most
    | some _ => turnedUpTo g (← unpivoted table) most
    | none => return table

/-- A table as often turned as the text asks for. -/
def turned (g : Grammar) (table : TableTerm) : Parser TableTerm := do
  turnedUpTo g table ((← get).length + 1)

/-- What a column of a document table does where it finds nothing, or no value of its type. -/
structure Fallbacks where
  empty : Option Phrase
  error : Option Phrase

/-- What a column of a document table does instead of giving a value, if it is given. -/
def fallback? : Parser (Option Phrase) := do
  match ← oneOf? ["NULL", "ERROR", "DEFAULT"] with
  | some "NULL" => return some ⟨"NULL", "Null"⟩
  | some "ERROR" => return some ⟨"ERROR", "Error"⟩
  | some _ =>
    let value ← constant
    return some ⟨"DEFAULT " ++ value.text, Outline.form "Default" value.outline⟩
  | none => return none

/-- The clauses about missing and about wrong values; of each kind the last one counts. -/
def fallbacksUpTo (found : Fallbacks) : Nat → Parser Fallbacks
  | 0 => failure
  | most + 1 => do
    match ← fallback? with
    | some action =>
      keyword "ON"
      match ← oneOf ["EMPTY", "ERROR"] with
      | "EMPTY" => fallbacksUpTo { found with empty := some action } most
      | _ => fallbacksUpTo { found with error := some action } most
    | none => return found

/-- A column of a document table. -/
def documentColumn (g : Grammar) : Parser Phrase := do
  let name ← identifier
  let type ← g.typeTerm
  let tests ← keyword? "EXISTS"
  keyword "PATH"
  let path ← constant
  let found ← fallbacksUpTo ⟨none, none⟩ ((← get).length + 1)
  let onText (word : String) (action : Option Phrase) : String :=
    (action.map fun action => " " ++ action.text ++ " ON " ++ word).getD ""
  return ⟨name.text ++ " " ++ type.text ++ (if tests then " EXISTS" else "") ++ " PATH "
      ++ path.text ++ onText "EMPTY" found.empty ++ onText "ERROR" found.error,
    Outline.fields "JsonTableColumn"
      [("name", name.outline), ("type", type.phrase.outline), ("path", path.outline),
        ("exists", toString tests), ("on_empty", Outline.phrase? found.empty),
        ("on_error", Outline.phrase? found.error)]⟩

/-- The rows and columns of a document, behind the key word. -/
def documentTable (g : Grammar) : Parser TableTerm := do
  symbol "("
  let document ← g.term
  symbol ","
  let path ← constant
  keyword "COLUMNS"
  let columns ← parenthesized (commaSeparated (documentColumn g))
  symbol ")"
  let knownAs ← tableAlias?
  return .unsupported ⟨"JSON_TABLE(" ++ document.text ++ ", " ++ path.text ++ " COLUMNS("
      ++ commas (columns.map Phrase.text) ++ "))" ++ aliasText knownAs,
    Outline.fields "JsonTable"
      [("json_expr", document.outline), ("json_path", path.outline),
        ("columns", Outline.phrases columns), ("alias", aliasOutline knownAs)]⟩

end Grammar

end Sql

end SqlEngine
