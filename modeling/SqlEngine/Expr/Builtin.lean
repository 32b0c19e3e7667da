import SqlEngine.Expr.Context
import SqlEngine.Expr.Operator
import SqlEngine.Text.Case

/-!
What the built-in functions compute from the values of their arguments. `coalesce` and `pg_typeof`
are not among them: they do not evaluate all of their arguments. Settings of the session are
read by one of them.
-/

namespace SqlEngine

/-! ### Settings

Settings of the session: values that were set, and what the others are.
-/

namespace Settings

/-- The version of the server that clients are told. -/
def serverVersion : String := "12.2"

/-- What `version()` shows. -/
def versionText : String := s!"PostgreSQL {serverVersion} (memgres 0.1.0)"

/-- Settings that were not set; the search path is the catalog's. -/
def defaults (c : Catalog) : List (String × String) :=
  [ ("server_version", serverVersion)
  , ("server_version_num", "120002")
  , ("timezone", "UTC")
  , ("search_path", ", ".intercalate c.searchPath)
  , ("client_encoding", "UTF8")
  , ("server_encoding", "UTF8")
  , ("datestyle", "ISO, MDY")
  , ("standard_conforming_strings", "on")
  , ("transaction_isolation", "read committed") ]

/-- The value of a setting, whose name may be in any case. -/
def read (s : Store) (c : Catalog) (name : String) : Except SqlError String :=
  let name := Text.lower name
  match (s.setting? name).or ((defaults c).lookup name) with
  | some value => .ok value
  | none => .error (.query (.settingMissing name))

end Settings

namespace Builtin

/-- A function of texts; anything else gives NULL. -/
def ofText (f : String → Value) : Value → Value
  | .text s => f s
  | _ => .null

def absolute : Value → Except SqlError Value
  | .int i => (Arithmetic.int64 i.natAbs).map .int
  | .float x => .ok (.float x.abs)
  | _ => .ok .null

/-- The texts of all values that are there, one after the other. -/
def concatAll (values : List Value) : Value :=
  .text (String.join ((values.filter (!·.isNull)).map Value.render))

/-- NULL if the values are equal under a type, else the first. -/
def nullIfEqual (type : SqlType) (v w : Value) : Value :=
  if type.equals? v w = some true then .null else v

/-! ### Sequences -/

/-- Draws the next number of a sequence. -/
def draw (d : SequenceDef) : Eval Value := do
  let (value, state) ← d.next ((← Eval.store).sequence d)
  Eval.changeStore (·.putSequence d.id state)
  return .int value

/-- The number drawn last. -/
def lastDrawn (d : SequenceDef) : Eval Value := do
  return .int (← d.current ((← Eval.store).sequence? d.id))

/-- Moves a sequence. A missing value leaves it where it is; a missing flag counts as true. -/
def move (d : SequenceDef) (value isCalled : Value) : Eval Value := do
  let state := (← Eval.store).sequence d
  match value.int? with
  | none =>
    Eval.changeStore (·.putSequence d.id state)
    return .null
  | some n =>
    let moved ← d.set state n (isCalled.bool?.getD true)
    Eval.changeStore (·.putSequence d.id moved)
    return .int n

/-- A use of the sequence that a text names; without a text the result is NULL. -/
def withSequence (env : Env) (f : SequenceDef → Eval Value) : Value → Eval Value
  | .text name => do f (← env.catalog.sequence (QName.ofText name))
  | _ => return .null

/-- Applies a function to values; `type` is the type of its result. -/
def run (env : Env) (type : SqlType) (f : Builtin) (values : List Value) : Eval Value :=
  let first := values.headD .null
  match f with
  | lower => return ofText (fun s => .text (Text.lower s)) first
  | upper => return ofText (fun s => .text (Text.upper s)) first
  | length => return ofText (fun s => .int s.toList.length) first
  | concat => return concatAll values
  | nullIf => return nullIfEqual type first (values.getD 1 .null)
  | abs => absolute first
  | now => return .timestamp env.now
  | randomUuid => return .uuid (← Eval.drawUuid)
  | nextValue => withSequence env draw first
  | currentValue => withSequence env lastDrawn first
  | setValue => withSequence env (move · (values.getD 1 .null) (values.getD 2 (.bool true))) first
  | currentSchema => return .text env.catalog.current
  | currentSetting =>
    match first with
    | .text name => return .text (← Settings.read (← Eval.store) env.catalog name)
    | _ => return .null
  | version => return .text Settings.versionText
  | coalesce | typeOf => return .null

end Builtin

end SqlEngine
