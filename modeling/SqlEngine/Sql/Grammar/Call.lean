import SqlEngine.Sql.Grammar.Basic

/-!
Calls: the arguments in parentheses, and the clauses for order, filter and window that an
aggregate may take.
-/

namespace SqlEngine

namespace Sql

namespace Grammar

open SqlEngine.Sql.Parser

/-- Where nulls stand in an order, if it is given. -/
def nullsFirst? : Parser (Option Bool) := do
  if ← keywords? ["NULLS", "FIRST"] then return some true
  else if ← keywords? ["NULLS", "LAST"] then return some false
  else return none

/-- One key of an order. -/
def orderTerm (g : Grammar) : Parser OrderTerm := do
  let term ← g.term
  let ascending ← oneOf? ["ASC", "DESC"]
  return .mk term ⟨ascending.map (· == "ASC"), ← nullsFirst?⟩

/-- The keys behind `ORDER BY`, empty if there is none. -/
def orderBy (g : Grammar) : Parser (List OrderTerm) :=
  listAfter ["ORDER", "BY"] (commaSeparated (orderTerm g))

/-- Either `ALL`, which is the default, or `DISTINCT`, perhaps with the terms whose values
decide. -/
def distinctness (g : Grammar) : Parser (Option (Option (List Term))) := do
  let all ← keyword? "ALL"
  if ← keyword? "DISTINCT" then
    if all then failure
    else if ← keyword? "ON" then
      return some (some (← parenthesized do
        if (← peek) == some (.symbol ")") then return [] else commaSeparated g.term))
    else return some none
  else return none

/-- The parts of a dotted name behind its first one, of which there are at most `most`, and
whether a star ends them. -/
def partsUpTo : Nat → Parser (List Ident × Bool)
  | 0 => failure
  | most + 1 => do
    if ← symbol? "." then
      match ← next with
      | .word id =>
        let (ids, star) ← partsUpTo most
        return (id :: ids, star)
      | .string text =>
        let (ids, star) ← partsUpTo most
        return (⟨text, some '\''⟩ :: ids, star)
      | .symbol "*" => return ([], true)
      | _ => failure
    else return ([], false)

def parts : Parser (List Ident × Bool) := do partsUpTo ((← get).length + 1)

/-- A term, or a star that stands for all columns, or for those of one table. -/
def termOrStar (g : Grammar) (label : Option Ident) : Parser Argument := do
  let start ← get
  let dottedStart := (← peekAt 1) == some (.symbol ".")
  let first : Option Ident := match ← peek with
    | some (.word id) => some id
    | some (.string text) => some ⟨text, some '\''⟩
    | _ => none
  match first with
  | some first =>
    if dottedStart then
      let _ ← next
      let (ids, star) ← parts
      if star then return .tableStar label (first :: ids)
      else set start
    return .term label (← g.term)
  | none =>
    if ← symbol? "*" then return .star label else return .term label (← g.term)

def argument (g : Grammar) : Parser Argument := do
  if (← peekAt 1) == some (.symbol "=>") then
    let label ← identifier
    symbol "=>"
    termOrStar g (some label)
  else termOrStar g none

/-- Arguments up to the closing parenthesis. -/
def arguments (g : Grammar) : Parser (List Argument) := do
  if ← symbol? ")" then return []
  else
    let args ← commaSeparated (argument g)
    symbol ")"
    return args

/-- Arguments up to the closing parenthesis, and the order in which an aggregate takes them. -/
def orderedArguments (g : Grammar) : Parser (List Argument × List OrderTerm) := do
  if ← symbol? ")" then return ([], [])
  else
    let args ← commaSeparated (argument g)
    let keys ← orderBy g
    symbol ")"
    return (args, keys)

/-- The filter of an aggregate. Words that begin one and do not go on are dropped. -/
def filter? (g : Grammar) : Parser (Option Term) := do
  if ← keyword? "FILTER" then
    if ← symbol? "(" then
      if ← keyword? "WHERE" then
        let condition ← g.term
        symbol ")"
        return some condition
      else return none
    else return none
  else return none

/-- What a window function does with nulls, if it is given. -/
def nullTreatment? : Parser (Option NullTreatment) := do
  match ← oneOf? ["RESPECT", "IGNORE"] with
  | some word =>
    keyword "NULLS"
    return some (if word == "RESPECT" then .respect else .ignore)
  | none => return none

/-- The end of a window; `amount` reads how far away it is. -/
def frameBound (amount : Parser Term) : Parser Phrase := do
  if ← keywords? ["CURRENT", "ROW"] then return ⟨"CURRENT ROW", "CurrentRow"⟩
  else
    let distance ← if ← keyword? "UNBOUNDED" then pure none else pure (some (← amount).phrase)
    let way ← oneOf ["PRECEDING", "FOLLOWING"]
    return ⟨((distance.map Phrase.text).getD "UNBOUNDED") ++ " " ++ way,
      Outline.form (Outline.capitalized way) (Outline.phrase? distance)⟩

def frame (amount : Parser Term) : Parser Phrase := do
  let unit ← oneOf ["ROWS", "RANGE", "GROUPS"]
  let between ← keyword? "BETWEEN"
  let first ← frameBound amount
  let last ← if between then do
      keyword "AND"
      pure (some (← frameBound amount))
    else pure none
  let text := match last with
    | some last => unit ++ " BETWEEN " ++ first.text ++ " AND " ++ last.text
    | none => unit ++ " " ++ first.text
  return ⟨text, Outline.fields "WindowFrame"
    [("units", Outline.capitalized unit), ("start_bound", first.outline),
      ("end_bound", Outline.phrase? last)]⟩

/-- What defines a window, up to the closing parenthesis. -/
def windowPhrase (g : Grammar) (amount : Parser Term) : Parser Phrase := do
  let partition ← listAfter ["PARTITION", "BY"] (commaSeparated g.term)
  let keys ← orderBy g
  let frame ←
    if (← peek) == some (.symbol ")") then pure none else pure (some (← frame amount))
  symbol ")"
  let clauses :=
    (if partition.isEmpty then [] else ["PARTITION BY " ++ commas (Term.texts partition)])
      ++ (if keys.isEmpty then [] else ["ORDER BY " ++ commas (OrderTerm.texts keys)])
      ++ (frame.map Phrase.text).toList
  return ⟨" ".intercalate clauses, Outline.fields "WindowSpec"
    [("partition_by", Outline.list (Term.outlines partition)),
      ("order_by", Outline.list (OrderTerm.outlines keys)),
      ("window_frame", Outline.phrase? frame)]⟩

/-- The window that a function is called over. -/
def window? (g : Grammar) (amount : Parser Term) : Parser (Option Phrase) := do
  if ← keyword? "OVER" then
    if ← symbol? "(" then
      let window ← windowPhrase g amount
      return some ⟨"(" ++ window.text ++ ")", Outline.form "WindowSpec" window.outline⟩
    else
      let name ← identifier
      return some ⟨name.text, Outline.form "NamedWindow" name.outline⟩
  else return none

/-- What follows the name of a function that is called. -/
def call (g : Grammar) (amount : Parser Term) (name : List Ident) : Parser Term := do
  symbol "("
  let distinct ← distinctness g
  let (args, keys) ← orderedArguments g
  let condition ← filter? g
  let nulls ← nullTreatment?
  let window ← window? g amount
  return .call ⟨name, distinct.isSome, false, nulls, window⟩ args keys condition

end Grammar

end Sql

end SqlEngine
