import SqlEngine.Sql.Grammar.Definition

/-!
Statements that define, drop and call routines, of which only the beginning of the text is kept.
-/

namespace SqlEngine

namespace Sql

namespace Grammar

open SqlEngine.Sql.Parser

/-- An argument in the definition of a function: a mode, a name, a type and a default. A type that
the grammar knows nothing of counts as the name. -/
def formalArgument (g : Grammar) : Parser Unit := do
  let _ ← oneOf? ["IN", "OUT", "INOUT"]
  let first ← g.typeTerm
  if first.form == .custom then
    let _ ← g.typeTerm
  let isDefault ← keyword? "DEFAULT"
  let hasDefault ← if isDefault then pure true else symbol? "="
  if hasDefault then
    let _ ← g.term

/-- The arguments of a function in parentheses; tells whether there are any. -/
def formalArguments (g : Grammar) : Parser Bool := do
  symbol "("
  if ← symbol? ")" then return false
  else
    let _ ← commaSeparated (formalArgument g)
    symbol ")"
    return true

/-- The clauses of a function, of which there are at most `most`, each about something else. -/
def functionClausesUpTo (g : Grammar) (known : List String) : Nat → Parser Unit
  | 0 => failure
  | most + 1 => do
    match ← oneOf? ["AS", "LANGUAGE", "IMMUTABLE", "STABLE", "VOLATILE", "RETURN"] with
    | some word =>
      let about := if ["IMMUTABLE", "STABLE", "VOLATILE"].contains word then "STABLE" else word
      if known.contains about then failure
      else
        match word with
        | "AS" =>
          match ← peek with
          | some (.dollar ..) => let _ ← next
          | _ => let _ ← literalText
        | "LANGUAGE" => let _ ← identifier
        | "RETURN" => let _ ← g.term
        | _ => pure ()
        functionClausesUpTo g (about :: known) most
    | none => return ()

def createFunction (g : Grammar) (front : String) : Parser String := do
  let name ← dotted
  let hasArguments ← formalArguments g
  let returns ← after? ["RETURNS"] g.typeTerm
  functionClausesUpTo g [] ((← get).length + 1)
  return front ++ "FUNCTION " ++ dottedText name
    ++ (if hasArguments then "()" else if returns.isSome then " RETURNS" else "")

/-- A function by its name, and by its arguments if it has any. -/
def describedFunction (g : Grammar) : Parser String := do
  let name ← dotted
  if (← peek) == some (.symbol "(") then
    return dottedText name ++ (if ← formalArguments g then "()" else "")
  else return dottedText name

def dropFunction (g : Grammar) : Parser String := do
  let guarded := if ← ifExists then "IF EXISTS " else ""
  let described ← commaSeparated (describedFunction g)
  let option ← oneOf? ["CASCADE", "RESTRICT"]
  return "DROP FUNCTION " ++ guarded ++ commas described ++ (option.map (" " ++ ·)).getD ""

def callProcedure (g : Grammar) : Parser String := do
  let name ← dotted
  if (← peek) == some (.symbol "(") then
    return "CALL " ++ (← call g (frameAmount g) name).text
  else return "CALL " ++ dottedText name

def execute (g : Grammar) : Parser String := do
  let name ← identifier
  if (← peek) == some (.symbol "(") then
    let _ ← parenthesized (commaSeparated g.term)
    return "EXECUTE " ++ name.text ++ "()"
  else return "EXECUTE " ++ name.text

def deallocate : Parser String := do
  let word := if ← keyword? "PREPARE" then "PREPARE " else ""
  return "DEALLOCATE " ++ word ++ (← identifier).text

end Grammar

end Sql

end SqlEngine
