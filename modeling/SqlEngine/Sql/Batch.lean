import SqlEngine.Sql.Grammar.Statement
import SqlEngine.Sql.Lexer
import SqlEngine.Sql.OwnForms

/-!
Reading a text as a batch of statements with semicolons between them.
-/

namespace SqlEngine

namespace Sql

/-- The nesting of statements, queries and terms that is accepted. -/
def maxNesting : Nat := 50

namespace Batch

/-- A statement in the general grammar, which has to use up all tokens. -/
def general (lexemes : List Lexeme) : Except SqlError Statement :=
  match Grammar.statement (Grammar.forLength lexemes.length) maxNesting lexemes with
  | none => .error (.parse .grammar)
  | some (statement, []) => .ok statement
  | some (_, left :: _) =>
    .error <| .parse <| .statement <|
      s!"unexpected {left.token.text} at line {left.place.line}, column {left.place.column}"

def statement (lexemes : List Lexeme) : Except SqlError Statement := do
  match ← OwnForm.read (lexemes.map Lexeme.token) with
  | some statement => return statement
  | none => general lexemes

/-- The tokens of each statement, and where each semicolon that ends one stands. -/
def split : List Lexeme → List (List Lexeme × Option Nat)
  | [] => [([], none)]
  | first :: rest =>
    if first.token == .symbol ";" then ([], some first.offset) :: split rest
    else
      match split rest with
      | [] => [([first], none)]
      | (group, stop) :: later => (first :: group, stop) :: later

/-- The text from one offset to another, without the blanks at its end. -/
def slice (text : List Char) (start stop : Nat) : String :=
  String.ofList (Text.dropEndBlanks ((text.drop start).take (stop - start)))

/-- The statement that a group of tokens stands for; a group without tokens stands for none. -/
def located (text : List Char) (group : List Lexeme × Option Nat) :
    Except SqlError (Option LocatedStatement) := do
  match group with
  | ([], _) => return none
  | (first :: rest, stop) =>
    let statement ← statement (first :: rest)
    return some ⟨statement, first.place, slice text first.offset (stop.getD text.length)⟩

end Batch

/-- Reads a text as a batch of statements. -/
def Batch.ofText (text : String) : Except SqlError (List LocatedStatement) := do
  let chars := text.toList
  match Lexeme.ofText? chars with
  | none => throw (.parse .grammar)
  | some lexemes => return (← (Batch.split lexemes).mapM (Batch.located chars)).filterMap id

end Sql

end SqlEngine
