import SqlEngine.Sql.Grammar.Pivot

/-!
Tables: named ones, queries in parentheses and joins of both, with their new names.
-/

namespace SqlEngine

namespace Sql

namespace Grammar

open SqlEngine.Sql.Parser

/-- A query that stands for a table, behind its opening parenthesis. -/
def derivedTable (g : Grammar) (lateral : Bool) : Parser TableTerm := do
  let query ← g.query
  symbol ")"
  return .derived lateral query (← tableAlias?)

def isJoin : TableTerm → Bool
  | .cross .. | .join .. | .joinUsing .. | .joinNatural .. | .apply .. => true
  | _ => false

def isNested : TableTerm → Bool
  | .nested .. => true
  | _ => false

/-- Joins behind an opening parenthesis; a table alone is not put in parentheses. -/
def nestedTables (g : Grammar) : Parser TableTerm := do
  let tables ← g.tables
  if isJoin tables || isNested tables then
    symbol ")"
    return .nested tables (← tableAlias?)
  else failure

/-- Arrays as a table. -/
def unnest (g : Grammar) : Parser TableTerm := do
  let items ← parenthesized (commaSeparated g.term)
  let knownAs ← tableAlias?
  let numbered ← if ← keyword? "WITH" then keyword? "OFFSET" else pure false
  let position ← if numbered then newName? Keyword.endItem else pure none
  return .unsupported ⟨"UNNEST(" ++ commas (Term.texts items) ++ ")" ++ aliasText knownAs
      ++ (if numbered then " WITH OFFSET" else "")
      ++ (position.map fun id => " AS " ++ id.text).getD "",
    Outline.fields "UNNEST"
      [("alias", aliasOutline knownAs), ("array_exprs", Outline.list (Term.outlines items)),
        ("with_offset", toString numbered),
        ("with_offset_alias", Outline.option (position.map Ident.outline))]⟩

/-- A call that stands for a table and may refer to the tables before it. -/
def lateralCall (g : Grammar) : Parser TableTerm := do
  let name ← dotted
  symbol "("
  let args ← arguments g
  let knownAs ← tableAlias?
  return .unsupported ⟨"LATERAL " ++ dottedText name ++ "(" ++ commas (Argument.texts args) ++ ")"
      ++ aliasText knownAs,
    Outline.fields "Function"
      [("lateral", "true"), ("name", dottedOutline name),
        ("args", Outline.list (Argument.outlines args)), ("alias", aliasOutline knownAs)]⟩

/-- A term that stands for a table. -/
def tableOfTerm (g : Grammar) : Parser TableTerm := do
  let term ← parenthesized g.term
  let knownAs ← tableAlias?
  return .unsupported ⟨"TABLE(" ++ term.text ++ ")" ++ aliasText knownAs,
    Outline.fields "TableFunction" [("expr", term.outline), ("alias", aliasOutline knownAs)]⟩

/-- Hints in parentheses, from which nothing is computed. -/
def hints (g : Grammar) : Parser (List Term) := do
  if (← peek).any (Token.spells · "WITH") && (← peekAt 1) == some (.symbol "(") then
    let _ ← next
    parenthesized (commaSeparated g.term)
  else return []

/-- A table by its name, or a call that stands for one. -/
def namedTable (g : Grammar) : Parser TableTerm := do
  let name ← dotted
  let args ← if ← symbol? "(" then pure (some (← arguments g)) else pure none
  let knownAs ← tableAlias?
  turned g (.named name args knownAs (← hints g))

/-- A table, a query or joins in parentheses. -/
def tableFactor (g : Grammar) : Parser TableTerm := do
  if ← keyword? "LATERAL" then
    if ← symbol? "(" then derivedTable g true else lateralCall g
  else if ← keyword? "TABLE" then tableOfTerm g
  else if ← symbol? "(" then
    match ← attempt (derivedTable g false) with
    | some table => turned g table
    | none => nestedTables g
  else if ← keyword? "UNNEST" then unnest g
  else if ← keyword? "JSON_TABLE" then documentTable g
  else namedTable g

/-- A right table and the condition that joins it to the left one. -/
def joined (g : Grammar) (left : TableTerm) (side : JoinSide) (natural : Bool) :
    Parser TableTerm := do
  let right ← tableFactor g
  if natural then return .joinNatural left side right
  else if ← keyword? "ON" then return .join left side right (some (← g.term))
  else if ← keyword? "USING" then return .joinUsing left side right (← columnList)
  else return .join left side right none

/-- The kind of a join up to its key word, if one comes next. -/
def joinSide? : Parser (Option JoinSide) := do
  match ← oneOf? ["INNER", "JOIN", "LEFT", "RIGHT", "FULL"] with
  | some "INNER" =>
    keyword "JOIN"
    return some .inner
  | some "JOIN" => return some .inner
  | some "FULL" =>
    let _ ← keyword? "OUTER"
    keyword "JOIN"
    return some .full
  | some side =>
    let whole := if side == "LEFT" then JoinSide.left else .right
    match ← oneOf ["OUTER", "SEMI", "ANTI", "JOIN"] with
    | "JOIN" => return some whole
    | "OUTER" =>
      keyword "JOIN"
      return some whole
    | part =>
      keyword "JOIN"
      return some (.partly (side ++ " " ++ part))
  | none => return none

/-- The joins behind `left`, of which there are at most `most`. -/
def joinsUpTo (g : Grammar) (left : TableTerm) : Nat → Parser TableTerm
  | 0 => failure
  | most + 1 => do
    if ← keyword? "CROSS" then
      if ← keyword? "JOIN" then joinsUpTo g (.cross left (← tableFactor g)) most
      else
        keyword "APPLY"
        joinsUpTo g (.apply left (← tableFactor g) false) most
    else if ← keyword? "OUTER" then
      keyword "APPLY"
      joinsUpTo g (.apply left (← tableFactor g) true) most
    else
      let natural ← keyword? "NATURAL"
      match ← joinSide? with
      | some side => joinsUpTo g (← joined g left side natural) most
      | none => if natural then failure else return left

def tablesOver (g : Grammar) : Parser TableTerm := do
  let first ← tableFactor g
  joinsUpTo g first ((← get).length + 1)

end Grammar

end Sql

end SqlEngine
