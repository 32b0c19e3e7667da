import SqlEngine.Sql.Change
import SqlEngine.Sql.Grammar.Parser
import SqlEngine.Sql.Keyword

/-!
The parts of the grammar that refer to each other. Each part is written once, over the others; the
knot is tied where all of them are known.
-/

namespace SqlEngine

namespace Sql

/-- What kind of type a type name is read as. -/
inductive TypeForm where
  | standard
  | interval
  /-- A name that the grammar knows nothing of. -/
  | custom
deriving DecidableEq, Repr, Inhabited

/-- The name of a type. -/
structure TypeTerm where
  phrase : Phrase
  form : TypeForm
deriving DecidableEq, Repr, Inhabited

def TypeTerm.text (t : TypeTerm) : String := t.phrase.text

/-- The parts of the grammar that occur inside one another. -/
structure Grammar where
  /-- A complete term. -/
  term : Parser Term
  /-- A term as far as operators bind closer than the given rank. -/
  operand : Nat → Parser Term
  /-- A term that counts units of time, up to a word that joins conditions. -/
  amount : Parser Term
  query : Parser Query
  /-- The rows of a query as far as set operators bind closer than the given rank. -/
  body : Nat → Parser Body
  /-- A table and the joins behind it. -/
  tables : Parser TableTerm
  typeTerm : Parser TypeTerm
  /-- A type inside the angle brackets of another one, and whether the closing bracket of that
  one was taken along with its own. -/
  innerType : Parser (TypeTerm × Bool)

namespace Grammar

/-- The grammar that accepts nothing. -/
def empty : Grammar :=
  ⟨failure, fun _ => failure, failure, failure, fun _ => failure, failure, failure, failure⟩

/-! ### New names

New names for tables and columns, which may stand behind `AS` or behind nothing.
-/

open SqlEngine.Sql.Parser

/-- A new name, with `AS` or without; without it, the given words end what could be renamed. -/
def newName? (ending : List String) : Parser (Option Ident) := do
  let marked ← keyword? "AS"
  match ← peek with
  | some (.word id) =>
    if !marked && ((Token.word id).keyword?.map ending.contains).getD false then return none
    else
      let _ ← next
      return some id
  | some (.string text) =>
    let _ ← next
    return some ⟨text, some '\''⟩
  | _ => if marked then failure else return none

/-- A new name for a table, perhaps with new names for its columns. -/
def tableAlias? : Parser (Option TableAlias) := do
  match ← newName? Keyword.endTable with
  | some name => return some ⟨name, ← columnList?⟩
  | none => return none

end Grammar

end Sql

end SqlEngine
