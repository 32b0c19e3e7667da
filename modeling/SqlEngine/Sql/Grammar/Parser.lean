import SqlEngine.Number.Reading
import SqlEngine.Sql.Token

/-!
Parsers over tokens. A parser takes tokens off the front or fails; it may give up its choice and
try another one from where it began. How deep terms and queries may still nest is passed down.
-/

namespace SqlEngine

namespace Sql

abbrev Parser := ReaderT Nat (StateT (List Lexeme) Option)

namespace Parser

/-- One level deeper; fails where no level is left. -/
def nested {α : Type} (p : Parser α) : Parser α := fun depth =>
  match depth with
  | 0 => failure
  | depth + 1 => p depth

/-- The token that comes `ahead` tokens after the next one. -/
def peekAt (ahead : Nat) : Parser (Option Token) := do
  return ((← get)[ahead]?).map Lexeme.token

def peek : Parser (Option Token) := peekAt 0

/-- Takes the next token. -/
def next : Parser Token := do
  match ← get with
  | first :: rest => set rest; return first.token
  | [] => failure

/-- The result of a parser that succeeds; nothing is taken by one that fails. -/
def attempt {α : Type} (p : Parser α) : Parser (Option α) := fun depth tokens =>
  match p depth tokens with
  | some (a, rest) => some (some a, rest)
  | none => some (none, tokens)

/-- Whether the next tokens spell the given key words, which are taken if they do. -/
def keywords? (words : List String) : Parser Bool := do
  let tokens ← get
  if (tokens.take words.length).map (fun t => t.token.keyword?) == words.map some then
    set (tokens.drop words.length)
    return true
  else return false

def keyword? (word : String) : Parser Bool := keywords? [word]

def keywords (words : List String) : Parser Unit := do
  if ← keywords? words then return () else failure

def keyword (word : String) : Parser Unit := keywords [word]

/-- Takes the next token if it spells one of the given key words. -/
def oneOf? (words : List String) : Parser (Option String) := do
  match (← peek).bind Token.keyword? with
  | some word =>
    if words.contains word then
      let _ ← next
      return some word
    else return none
  | none => return none

def oneOf (words : List String) : Parser String := do
  match ← oneOf? words with
  | some word => return word
  | none => failure

def symbol? (spelling : String) : Parser Bool := do
  if (← peek) == some (.symbol spelling) then
    let _ ← next
    return true
  else return false

def symbol (spelling : String) : Parser Unit := do
  if ← symbol? spelling then return () else failure

/-- One or more items with commas between them, of which there are at most `most`. -/
def commaSeparatedUpTo {α : Type} (item : Parser α) : Nat → Parser (List α)
  | 0 => failure
  | most + 1 => do
    let first ← item
    if ← symbol? "," then return first :: (← commaSeparatedUpTo item most)
    else return [first]

/-- One or more items with commas between them. -/
def commaSeparated {α : Type} (item : Parser α) : Parser (List α) := do
  commaSeparatedUpTo item ((← get).length + 1)

/-- What stands between parentheses. -/
def parenthesized {α : Type} (p : Parser α) : Parser α := do
  symbol "("
  let a ← p
  symbol ")"
  return a

/-- The result of a parser behind the given key words, if they come next. -/
def after? {α : Type} (words : List String) (p : Parser α) : Parser (Option α) := do
  if ← keywords? words then return some (← p) else return none

/-- A list behind the given key words, empty if they do not come next. -/
def listAfter {α : Type} (words : List String) (p : Parser (List α)) : Parser (List α) := do
  return (← after? words p).getD []

/-- An identifier; a text in single quotes can stand for one. -/
def identifier : Parser Ident := do
  match ← next with
  | .word id => return id
  | .string text => return ⟨text, some '\''⟩
  | _ => failure

/-- Names joined by periods, of which there are at most `most`. -/
def dottedUpTo : Nat → Parser (List Ident)
  | 0 => failure
  | most + 1 => do
    let first ← identifier
    if ← symbol? "." then return first :: (← dottedUpTo most) else return [first]

/-- Names joined by periods. -/
def dotted : Parser (List Ident) := do dottedUpTo ((← get).length + 1)

/-- Names in parentheses. -/
def columnList : Parser (List Ident) := parenthesized (commaSeparated identifier)

/-- Names in parentheses, or none. -/
def columnList? : Parser (List Ident) := do
  if (← peek) == some (.symbol "(") then columnList else return []

/-- A number without a sign that fits in 64 bits. -/
def natural : Parser Nat := do
  match ← next with
  | .number digits _ =>
    match Numeral.natural? digits.toList with
    | some n => if n < Nat.pow 2 64 then return n else failure
    | none => failure
  | _ => failure

end Parser

end Sql

end SqlEngine
