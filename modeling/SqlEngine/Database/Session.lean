import SqlEngine.Database.Result
import SqlEngine.Expr.Builtin
import SqlEngine.Sql.Statement

/-!
Settings of the session as statements set and show them, and statements that empty tables.
-/

namespace SqlEngine

namespace Session

/-- A value of a setting as text: texts and names as they are, other terms as they are written. -/
def settingText : Sql.Term → String
  | .constant (.string s) => s
  | .name id => id.name
  | t => t.text

/-- The name of a setting in lower case; quotes are part of it. -/
def settingName (name : List Sql.Ident) : String := Text.lower (Sql.dottedText name)

/-- The setting that the words of a statement stand for. -/
def shownName (words : List Sql.Ident) : String :=
  let text := " ".intercalate (words.map Sql.Ident.name)
  if text == "transaction isolation level" then "transaction_isolation"
  else if text == "time zone" then "timezone"
  else text.map fun c => if c == ' ' then '_' else c

def put (name value : String) : Eval Outcome := do
  Eval.changeStore fun s => s.putSetting name value
  return .done "SET"

/-- The value of a setting as a row. -/
def shown (env : Env) (words : List Sql.Ident) : Eval Outcome := do
  let name := shownName words
  let value ← Settings.read (← Eval.store) env.catalog name
  return .rows "SHOW" ⟨[(name, .text none)], [[.text value]]⟩

def truncate (env : Env) (table : List Sql.Ident) : Eval Outcome := do
  let d ← env.catalog.table (← QName.ofParts table)
  Eval.changeStore fun s => s.changeTable d.id TableData.truncate
  return .done "TRUNCATE TABLE"

end Session

end SqlEngine
