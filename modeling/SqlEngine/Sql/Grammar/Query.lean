import SqlEngine.Sql.Grammar.Change
import SqlEngine.Sql.Grammar.Ending

/-!
Queries: select statements and lists of values, the set operators between them, and the clauses
for order and limits.
-/

namespace SqlEngine

namespace Sql

namespace Grammar

open SqlEngine.Sql.Parser

/-- A limit on the rows in front of the select items. -/
def top? (g : Grammar) : Parser (Option Phrase) := do
  if ← keyword? "TOP" then
    let amount : Phrase ←
      if (← peek) == some (.symbol "(") then do
        let term ← parenthesized g.term
        pure ⟨"(" ++ term.text ++ ")", Outline.form "Expr" term.outline⟩
      else do
        let n ← natural
        pure ⟨toString n, Outline.form "Constant" (toString n)⟩
    let percent ← keyword? "PERCENT"
    let ties ← keywords? ["WITH", "TIES"]
    return some ⟨"TOP " ++ amount.text ++ (if percent then " PERCENT" else "")
        ++ (if ties then " WITH TIES" else ""),
      Outline.fields "Top"
        [("with_ties", toString ties), ("percent", toString percent),
          ("quantity", Outline.form "Some" amount.outline)]⟩
  else return none

/-- The table that rows are written to. -/
def destination : Parser Phrase := do
  let temporary := (← oneOf? ["TEMP", "TEMPORARY"]).isSome
  let unlogged ← keyword? "UNLOGGED"
  let marked ← keyword? "TABLE"
  let name ← dotted
  return ⟨(if temporary then "TEMPORARY " else "") ++ (if unlogged then "UNLOGGED " else "")
      ++ (if marked then "TABLE " else "") ++ dottedText name,
    Outline.fields "SelectInto"
      [("temporary", toString temporary), ("unlogged", toString unlogged),
        ("table", toString marked), ("name", dottedOutline name)]⟩

/-- Some keys in parentheses, where one key may do without. -/
def keyTuple (g : Grammar) (single : Bool) : Parser (List Term) := do
  if (← peek) == some (.symbol "(") then
    parenthesized do
      if (← peek) == some (.symbol ")") then return [] else commaSeparated g.term
  else if single then return [← g.term]
  else failure

def tupleText : List Term → String
  | [key] => key.text
  | keys => "(" ++ commas (Term.texts keys) ++ ")"

def groupingKey (g : Grammar) : Parser Term := do
  if ← keywords? ["GROUPING", "SETS"] then
    let sets ← parenthesized (commaSeparated (keyTuple g false))
    return .unsupported ⟨"GROUPING SETS (" ++ commas (Term.rowTexts "" sets) ++ ")",
      Outline.form "GroupingSets" (Outline.list (Term.rowOutlines sets))⟩
  else
    match ← oneOf? ["CUBE", "ROLLUP"] with
    | some word =>
      let sets ← parenthesized (commaSeparated (keyTuple g true))
      return .unsupported ⟨word ++ " (" ++ commas (sets.map tupleText) ++ ")",
        Outline.form (Outline.capitalized word) (Outline.list (Term.rowOutlines sets))⟩
    | none => g.term

/-- The keys of a grouping; nothing stands for all items. -/
def groupBy (g : Grammar) : Parser (Option (List Term)) := do
  if ← keywords? ["GROUP", "BY"] then
    if ← keyword? "ALL" then return none
    else return some (← commaSeparated (groupingKey g))
  else return some []

/-- Views of what stands in single rows, behind the tables; there are at most `most` of them. -/
def viewsUpTo (g : Grammar) : Nat → Parser (List Phrase)
  | 0 => failure
  | most + 1 => do
    if ← keywords? ["LATERAL", "VIEW"] then
      let outer ← keyword? "OUTER"
      let term ← g.term
      let name ← dotted
      let ids ← commaSeparated (newName? ["WHERE", "GROUP", "CLUSTER", "HAVING", "LATERAL"])
      let columns := ids.filterMap id
      let first : Phrase := ⟨"LATERAL VIEW" ++ (if outer then " OUTER " else " ") ++ term.text
          ++ " " ++ dottedText name ++ listText " AS " (columns.map Ident.text),
        Outline.fields "LateralView"
          [("lateral_view", term.outline), ("lateral_view_name", dottedOutline name),
            ("lateral_col_alias", identOutlines columns), ("outer", toString outer)]⟩
      return first :: (← viewsUpTo g most)
    else return []

/-- Terms behind two key words, from which nothing is computed. -/
def termsBy (g : Grammar) (word : String) : Parser (List Phrase) := do
  return (← listAfter [word, "BY"] (commaSeparated g.term)).map Term.phrase

/-- A window with a name. -/
def namedWindow (g : Grammar) : Parser Phrase := do
  let name ← identifier
  keyword "AS"
  symbol "("
  let window ← windowPhrase g (frameAmount g)
  return ⟨name.text ++ " AS (" ++ window.text ++ ")",
    Outline.tuple "NamedWindowDefinition" [name.outline, window.outline]⟩

/-- A select behind its key word. -/
def select (g : Grammar) : Parser Select := do
  let distinct ← distinctness g
  let top ← top? g
  let items ← commaSeparated (selectItem g)
  let into ← after? ["INTO"] destination
  let source ← listAfter ["FROM"] (commaSeparated g.tables)
  let views ← viewsUpTo g ((← get).length + 1)
  let condition ← after? ["WHERE"] g.term
  let keys ← groupBy g
  let clusterBy ← termsBy g "CLUSTER"
  let distributeBy ← termsBy g "DISTRIBUTE"
  let sortBy ← termsBy g "SORT"
  let having ← after? ["HAVING"] g.term
  let windows ← listAfter ["WINDOW"] (commaSeparated (namedWindow g))
  let qualify ← after? ["QUALIFY"] g.term
  return .mk (distinct.isSome && distinct.join.isNone) distinct.join items into source condition
    keys having
    ⟨top, views, clusterBy, distributeBy, sortBy, windows, qualify.map Term.phrase⟩

/-- One row of a list of values, and whether it stands behind the word `ROW`. -/
def valueRow (g : Grammar) : Parser (Bool × List Term) := do
  let marked ← keyword? "ROW"
  return (marked, ← parenthesized (commaSeparated g.term))

/-- The rows of a list of values, and whether one of them is marked. -/
def valueRows (g : Grammar) : Parser (Bool × List (List Term)) := do
  let rows ← commaSeparated (valueRow g)
  return (rows.any (·.1), rows.map (·.2))

/-- A table by its mere name. Two tokens behind the name are taken with it. -/
def wholeTable : Parser Body := do
  let outline (table : String) (schema : Option String) : String :=
    Outline.form "Table" (Outline.fields "Table"
      [("table_name", Outline.form "Some" (Diagnostic.quoted table)),
        ("schema_name", Outline.option (schema.map Diagnostic.quoted))])
  match ← next with
  | .word first =>
    if ← symbol? "." then
      match ← next with
      | .word second =>
        return .unsupported ⟨"TABLE " ++ first.value ++ "." ++ second.value,
          outline second.value (some first.value)⟩
      | _ => failure
    else
      set ((← get).drop 2)
      return .unsupported ⟨"TABLE " ++ first.value, outline first.value none⟩
  | _ => failure

/-- Whether a set operator keeps repeated rows, as it is written. -/
def quantifier (operator : SetOperator) : Parser String := do
  if operator == .union then
    if ← keywords? ["DISTINCT", "BY", "NAME"] then return "DISTINCT BY NAME"
    else if ← keywords? ["BY", "NAME"] then return "BY NAME"
    else if ← keywords? ["ALL", "BY", "NAME"] then return "ALL BY NAME"
    else return (← oneOf? ["ALL", "DISTINCT"]).getD ""
  else return (← oneOf? ["ALL", "DISTINCT"]).getD ""

/-- The set operator that a key word stands for, and how close it binds. -/
def setOperator? (word : String) : Option (SetOperator × Nat) :=
  match word with
  | "UNION" => some (.union, 10)
  | "EXCEPT" => some (.except, 10)
  | "INTERSECT" => some (.intersect, 20)
  | _ => none

/-- Set operators and what they combine with `left`, as far as they bind closer than `rank`, at
most `most` of them. -/
def combinedUpTo (g : Grammar) (rank : Nat) (left : Body) : Nat → Parser Body
  | 0 => failure
  | most + 1 => do
    match ((← peek).bind Token.keyword?).bind setOperator? with
    | some (operator, found) =>
      if found ≤ rank then return left
      else
        let _ ← next
        let quantifier ← quantifier operator
        let right ← g.body found
        combinedUpTo g rank (.combined left operator quantifier right) most
    | none => return left

/-- The rows of a query up to its first set operator. -/
def firstBody (g : Grammar) : Parser Body := do
  if ← keyword? "SELECT" then return .select (← select g)
  else if ← symbol? "(" then
    let query ← g.query
    symbol ")"
    return .query query
  else if ← keyword? "VALUES" then
    let (marked, rows) ← valueRows g
    return .values marked rows
  else
    keyword "TABLE"
    wholeTable

def bodyOver (g : Grammar) (rank : Nat) : Parser Body := do
  let first ← firstBody g
  combinedUpTo g rank first ((← get).length + 1)

/-- The name of a query in front of another one, up to its opening parenthesis. -/
def bindingHead : Parser TableAlias := do
  let name ← identifier
  let columns ← columnList?
  keyword "AS"
  return ⟨name, columns⟩

/-- A word that may follow a query in front of another one, and means nothing. -/
def bindingSource? : Parser (Option Ident) := after? ["FROM"] identifier

def binding (g : Grammar) : Parser Binding := do
  let knownAs ← bindingHead
  let query ← parenthesized g.query
  return .mk knownAs query (← bindingSource?)

/-- The queries in front of another one, and whether they may refer to themselves. -/
def bindings (g : Grammar) : Parser (Bool × List Binding) := do
  if ← keyword? "WITH" then
    let recursive ← keyword? "RECURSIVE"
    return (recursive, ← commaSeparated (binding g))
  else return (false, [])

/-- A query behind the ones in front of it. -/
def rows (g : Grammar) (recursive : Bool) (bindings : List Binding) : Parser Query := do
  let body ← g.body 0
  let keys ← orderBy g
  let l ← limits g
  return .mk recursive bindings body keys l.limit l.offset l.unit (← queryTail)

/-- A change that stands where a query can, if one comes next. -/
def change? (g : Grammar) : Parser (Option Change) := do
  if ← keyword? "INSERT" then return some (← insert g)
  else if ← keyword? "UPDATE" then return some (.update (← update g))
  else return none

def queryOver (g : Grammar) : Parser Query := do
  let (recursive, bindings) ← bindings g
  match ← change? g with
  | some change =>
    return .mk recursive bindings (.change change.text) [] none none .absent .empty
  | none => rows g recursive bindings

end Grammar

end Sql

end SqlEngine
