import SqlEngine.Sql.Grammar.Query

/-!
Statements that move many rows at once, between a table and a file or from one table into another.
Only the beginning of their text is kept.
-/

namespace SqlEngine

namespace Sql

namespace Grammar

open SqlEngine.Sql.Parser

/-- A text of a single byte. -/
def characterText : Parser Unit := do
  if (← literalText).utf8ByteSize == 1 then return () else failure

/-- A switch, which is on unless it is turned off. -/
def switch : Parser Unit := do
  let _ ← oneOf? ["TRUE", "FALSE"]

/-- An option about the form of a file. -/
def fileOption : Parser Unit := do
  match ← oneOf ["FORMAT", "FREEZE", "DELIMITER", "NULL", "HEADER", "QUOTE", "ESCAPE",
      "FORCE_QUOTE", "FORCE_NOT_NULL", "FORCE_NULL", "ENCODING"] with
  | "FORMAT" => let _ ← identifier
  | "FREEZE" | "HEADER" => switch
  | "DELIMITER" | "QUOTE" | "ESCAPE" => characterText
  | "NULL" | "ENCODING" => let _ ← literalText
  | _ => let _ ← columnList

/-- An option about values with commas between them, as it was written without parentheses. -/
def bareValueOption : Parser Unit := do
  match ← oneOf ["HEADER", "QUOTE", "ESCAPE", "FORCE"] with
  | "HEADER" => return ()
  | "FORCE" =>
    if ← keywords? ["NOT", "NULL"] then pure () else keyword "QUOTE"
    let _ ← commaSeparated identifier
  | _ =>
    let _ ← keyword? "AS"
    characterText

/-- A parser as often as it succeeds, at most `most` times. -/
def repeated (p : Parser Unit) : Nat → Parser Unit
  | 0 => return ()
  | most + 1 => do
    match ← attempt p with
    | some _ => repeated p most
    | none => return ()

/-- An option about the form of a file, as it was written without parentheses. -/
def bareFileOption : Parser Unit := do
  match ← oneOf ["BINARY", "DELIMITER", "NULL", "CSV"] with
  | "BINARY" => return ()
  | "DELIMITER" =>
    let _ ← keyword? "AS"
    characterText
  | "NULL" =>
    let _ ← keyword? "AS"
    let _ ← literalText
  | _ => repeated bareValueOption (← get).length

/-- Rows between a table and a file. Rows cannot be part of the statement. -/
def copy (g : Grammar) : Parser String := do
  let source ←
    if (← peek) == some (.symbol "(") then
      let query ← parenthesized g.query
      pure ("(" ++ query.text ++ ")")
    else
      let name ← dotted
      let columns ← columnList?
      pure (dottedText name ++ (if columns.isEmpty then "" else " ()"))
  let way ← oneOf ["FROM", "TO"]
  if way == "FROM" && source.startsWith "(" then failure
  let target ← oneOf? ["STDIN", "STDOUT", "PROGRAM"]
  if target.isNone || target == some "PROGRAM" then
    let _ ← literalText
  let _ ← keyword? "WITH"
  if (← peek) == some (.symbol "(") then
    let _ ← parenthesized (commaSeparated fileOption)
  repeated bareFileOption (← get).length
  if target == some "STDIN" then failure
  else return "COPY " ++ source ++ " " ++ way

/-- What happens to the rows that have a partner, or to those that have none. -/
def mergeClause (g : Grammar) : Parser Unit := do
  let partnerless ← keyword? "NOT"
  keyword "MATCHED"
  let _ ← after? ["AND"] g.term
  keyword "THEN"
  match ← oneOf (if partnerless then ["INSERT"] else ["UPDATE", "DELETE"]) with
  | "UPDATE" =>
    keyword "SET"
    let _ ← assignments g
  | "INSERT" =>
    let _ ← columnList?
    keyword "VALUES"
    let _ ← valueRows g
  | _ => return ()

/-- The clauses up to the end of the statement, of which there are at most `most`. -/
def mergeClausesUpTo (g : Grammar) : Nat → Parser Unit
  | 0 => failure
  | most + 1 => do
    if (← get).isEmpty then return ()
    else
      keyword "WHEN"
      mergeClause g
      mergeClausesUpTo g most

/-- Rows of one table into another one. -/
def merge (g : Grammar) : Parser String := do
  let into := if ← keyword? "INTO" then "INTO " else ""
  let target ← tableFactor g
  keyword "USING"
  let _ ← tableFactor g
  keyword "ON"
  let _ ← g.term
  mergeClausesUpTo g ((← get).length + 1)
  return "MERGE " ++ into ++ target.text ++ " USING"

end Grammar

end Sql

end SqlEngine
