import SqlEngine.Sql.Grammar.Definition

/-!
Statements about roles and their rights, of which only the beginning of the text is kept.
-/

namespace SqlEngine

namespace Sql

namespace Grammar

open SqlEngine.Sql.Parser

/-- What a role may do. -/
def powers : List String :=
  ["SUPERUSER", "CREATEDB", "CREATEROLE", "INHERIT", "LOGIN", "REPLICATION", "BYPASSRLS"]

/-- A power that a role has or lacks, or a setting with a value. The result is what it is about, if
one comes next. -/
def roleOption? : Parser (Option String) := do
  match ← oneOf? (powers ++ powers.map ("NO" ++ ·) ++ ["CONNECTION", "PASSWORD", "VALID"]) with
  | some "CONNECTION" =>
    keyword "LIMIT"
    let _ ← numberValue
    return some "CONNECTION"
  | some "PASSWORD" =>
    if ← keyword? "NULL" then pure () else let _ ← constant
    return some "PASSWORD"
  | some "VALID" =>
    keyword "UNTIL"
    let _ ← constant
    return some "VALID"
  | some word => return powers.find? fun power => word == power || word == "NO" ++ power
  | none => return none

/-- The roles that a new role belongs to, or that belong to it; the result is which of these. -/
def membership? : Parser (Option String) := do
  match ← oneOf? ["IN", "ROLE", "ADMIN", "USER"] with
  | some "IN" =>
    let kind ← oneOf ["ROLE", "GROUP"]
    let _ ← commaSeparated identifier
    return some ("IN " ++ kind)
  | some word =>
    let _ ← commaSeparated identifier
    return some word
  | none => return none

/-- The clauses of a new role, of which there are at most `most`, each about something else. -/
def roleClausesUpTo (known : List String) : Nat → Parser Unit
  | 0 => failure
  | most + 1 => do
    let power ← roleOption?
    let found ← if power.isSome then pure power else membership?
    match found with
    | some about =>
      if known.contains about then failure else roleClausesUpTo (about :: known) most
    | none => return ()

def createRole : Parser String := do
  let guarded := if ← ifNotExists then "IF NOT EXISTS " else ""
  let names ← commaSeparated dotted
  let _ ← keyword? "WITH"
  roleClausesUpTo [] ((← get).length + 1)
  return "CREATE ROLE " ++ guarded ++ commas (names.map dottedText)

/-- The options of a role, of which there are at most `most`; tells whether there are any. -/
def roleOptionsUpTo : Nat → Parser Bool
  | 0 => failure
  | most + 1 => do
    match ← attempt roleOption? with
    | some (some _) =>
      let _ ← roleOptionsUpTo most
      return true
    | _ => return false

/-- The value that a setting of a role takes. -/
def roleSetting (g : Grammar) : Parser Unit := do
  let _ ← dotted
  if ← keywords? ["FROM", "CURRENT"] then return ()
  else
    if ← symbol? "=" then pure () else keyword "TO"
    if ← keyword? "DEFAULT" then pure () else let _ ← g.term

def alterRole (g : Grammar) : Parser String := do
  let name ← identifier
  if ← keywords? ["IN", "DATABASE"] then
    looseName
  if ← keyword? "RENAME" then
    keyword "TO"
    let _ ← identifier
  else if ← keyword? "SET" then roleSetting g
  else if ← keyword? "RESET" then
    if ← keyword? "ALL" then pure () else let _ ← dotted
  else
    let _ ← keyword? "WITH"
    if ← roleOptionsUpTo ((← get).length + 1) then pure () else failure
  return "ALTER ROLE " ++ name.text

/-- What rights are on, written out up to the first object. -/
def rightsOn : Parser String := do
  if ← keywords? ["ALL", "TABLES", "IN", "SCHEMA"] then return "ALL TABLES IN SCHEMA "
  else if ← keywords? ["ALL", "SEQUENCES", "IN", "SCHEMA"] then
    return "ALL SEQUENCES IN SCHEMA "
  else
    match ← oneOf? ["SEQUENCE", "SCHEMA", "TABLE"] with
    | some "TABLE" | none => return ""
    | some word => return word ++ " "

/-- One right, with a mark for the columns it is limited to. -/
def right : Parser String := do
  let action ← oneOf ["CONNECT", "CREATE", "DELETE", "EXECUTE", "INSERT", "REFERENCES", "SELECT",
    "TEMPORARY", "TRIGGER", "TRUNCATE", "UPDATE", "USAGE"]
  let columns ←
    if ["INSERT", "REFERENCES", "SELECT", "UPDATE"].contains action then columnList? else pure []
  return if columns.isEmpty then action else action ++ " ()"

/-- The rights that are granted or revoked, and on what, written out. -/
def rights : Parser String := do
  let powers ←
    if ← keyword? "ALL" then
      pure (if ← keyword? "PRIVILEGES" then "ALL PRIVILEGES" else "ALL")
    else pure (commas (← commaSeparated right))
  keyword "ON"
  let kind ← rightsOn
  let objects ← commaSeparated dotted
  return powers ++ " ON " ++ kind ++ commas (objects.map dottedText)

def grant : Parser String := do
  let rights ← rights
  keyword "TO"
  let _ ← commaSeparated identifier
  let _ ← keywords? ["WITH", "GRANT", "OPTION"]
  let _ ← after? ["GRANTED", "BY"] identifier
  return "GRANT " ++ rights

def revoke : Parser String := do
  let rights ← rights
  keyword "FROM"
  let _ ← commaSeparated identifier
  let _ ← after? ["GRANTED", "BY"] identifier
  let cascade ← keyword? "CASCADE"
  let restrict ← keyword? "RESTRICT"
  if cascade && restrict then failure else return "REVOKE " ++ rights

end Grammar

end Sql

end SqlEngine
