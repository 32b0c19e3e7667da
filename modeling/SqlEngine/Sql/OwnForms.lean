import SqlEngine.Catalog.Name
import SqlEngine.Number.Reading
import SqlEngine.Sql.Statement
import SqlEngine.Sql.Token

/-!
Statements of a grammar of their own, tried before the general one: extensions, sequences,
enumerations and owners of tables. Once its first words are there, a statement has to go on as its
form says, and an error tells what was expected.
-/

namespace SqlEngine

namespace Sql

namespace OwnForm

abbrev Reader := StateT (List Token) (Except SqlError)

/-- Whether a token is the given word, in capitals or not. -/
def isWord (word : String) : Token → Bool
  | .word ⟨value, none⟩ => value.map Numeral.lowerAscii == word
  | _ => false

/-- Whether the tokens begin with the given words. -/
def begins : List String → List Token → Bool
  | [], _ => true
  | _ :: _, [] => false
  | word :: words, token :: rest => isWord word token && begins words rest

/-- Takes the given words off the front if all of them are there. -/
def words? (words : List String) : Reader Bool := do
  let tokens ← get
  if begins words tokens then
    set (tokens.drop words.length)
    return true
  else return false

def word? (word : String) : Reader Bool := words? [word]

def fail {α : Type} (message : String) : Reader α := throw (.parse (.statement message))

/-- Fails because something else was expected here. -/
def expected {α : Type} (what : String) : Reader α := do
  match (← get).head? with
  | some token => fail ("expected " ++ what ++ ", found " ++ token.text)
  | none => fail ("expected " ++ what ++ ", found end of statement")

def word (word name : String) : Reader Unit := do
  if ← word? word then return () else expected name

def identifier : Reader String := do
  match ← get with
  | .word id :: rest =>
    set rest
    return id.name
  | _ => expected "identifier"

/-- The parts of a dotted name, of which there are at most `most`. -/
def partsUpTo : Nat → Reader (List String)
  | 0 => return []
  | most + 1 => do
    let first ← identifier
    match ← get with
    | .symbol "." :: rest =>
      set rest
      return first :: (← partsUpTo most)
    | _ => return [first]

def parts : Reader (List String) := do partsUpTo ((← get).length + 1)

/-- A name with at most a schema in front of it. -/
def qualifiedName : Reader QName := do
  match ← parts with
  | [name] => return ⟨none, name⟩
  | [schema, name] => return ⟨some schema, name⟩
  | parts => throw (.query (.tooManyDottedNames (".".intercalate parts)))

/-- Skips a sign and tells whether it is a minus. -/
def sign : Reader Bool := do
  match ← get with
  | .symbol "-" :: rest =>
    set rest
    return true
  | .symbol "+" :: rest =>
    set rest
    return false
  | _ => return false

def integer : Reader Int := do
  let negative ← sign
  match ← get with
  | .number digits _ :: rest =>
    set rest
    match Numeral.int64? digits with
    | some value => return if negative then -value else value
    | none => throw (.query (.invalidBigint digits))
  | _ => expected "number"

def beginsNumber : List Token → Bool
  | .number .. :: _ => true
  | .symbol "-" :: _ => true
  | .symbol "+" :: _ => true
  | _ => false

/-- Texts with commas between them up to a closing parenthesis, at most `most` of them. -/
def labelsUpTo : Nat → Reader (List String)
  | 0 => return []
  | most + 1 => do
    match ← get with
    | .string label :: rest =>
      set rest
      match ← get with
      | .symbol "," :: rest =>
        set rest
        return label :: (← labelsUpTo most)
      | .symbol ")" :: rest =>
        set rest
        return [label]
      | _ => expected ")"
    | _ => expected "string literal"

/-- Texts in parentheses. -/
def labels : Reader (List String) := do
  match ← get with
  | .symbol "(" :: .symbol ")" :: rest =>
    set rest
    return []
  | .symbol "(" :: rest =>
    set rest
    labelsUpTo (rest.length + 1)
  | _ => expected "("

/-- The clauses of an extension, of which there are at most `most`; the last schema counts. -/
def extensionSchemaUpTo (schema : Option String) : Nat → Reader (Option String)
  | 0 => return schema
  | most + 1 => do
    if (← get).isEmpty then return schema
    else if ← word? "schema" then extensionSchemaUpTo (some (← identifier)) most
    else if ← word? "version" then
      modify (·.drop 1)
      extensionSchemaUpTo schema most
    else if ← word? "cascade" then extensionSchemaUpTo schema most
    else expected "SCHEMA"

def extension : Reader Statement := do
  let guarded ← words? ["if", "not", "exists"]
  let name ← identifier
  let _ ← word? "with"
  let schema ← extensionSchemaUpTo none ((← get).length + 1)
  return .createExtension name guarded schema

/-- One clause of a sequence. -/
def sequenceClause : Reader SequenceClause := do
  if ← word? "as" then return .as (← identifier)
  else if ← word? "increment" then
    let _ ← word? "by"
    return .increment (← integer)
  else if ← word? "minvalue" then return .minValue (some (← integer))
  else if ← word? "maxvalue" then return .maxValue (some (← integer))
  else if ← words? ["no", "minvalue"] then return .minValue none
  else if ← words? ["no", "maxvalue"] then return .maxValue none
  else if ← words? ["no", "cycle"] then return .cycle false
  else if ← word? "cycle" then return .cycle true
  else if ← word? "start" then
    let _ ← word? "with"
    return .start (← integer)
  else if ← word? "restart" then
    let marked ← word? "with"
    if marked || beginsNumber (← get) then return .restart (some (← integer))
    else return .restart none
  else if ← word? "cache" then return .cache (← integer)
  else if ← words? ["owned", "by"] then
    if ← word? "none" then return .ownedBy none
    else return .ownedBy (some (".".intercalate (← parts)))
  else expected "sequence option"

/-- The clauses of a sequence up to the end, of which there are at most `most`. -/
def sequenceClausesUpTo : Nat → Reader (List SequenceClause)
  | 0 => return []
  | most + 1 => do
    if (← get).isEmpty then return []
    else
      let clause ← sequenceClause
      return clause :: (← sequenceClausesUpTo most)

def sequenceClauses : Reader (List SequenceClause) := do
  sequenceClausesUpTo ((← get).length + 1)

def newSequence : Reader Statement := do
  let guarded ← words? ["if", "not", "exists"]
  let name ← qualifiedName
  return .createSequence name guarded (← sequenceClauses)

def changedSequence : Reader Statement := do
  let guarded ← words? ["if", "exists"]
  let name ← qualifiedName
  return .alterSequence name guarded (← sequenceClauses)

def enumeration : Reader Statement := do
  let name ← qualifiedName
  word "as" "AS"
  word "enum" "ENUM"
  let labels ← labels
  match (← get).head? with
  | some token => fail ("unexpected " ++ token.text)
  | none => return .createEnum name labels

/-- A change of the owner of a table. What stands between the table and the end is dropped. -/
def owner : Reader Statement := do
  let _ ← words? ["if", "exists"]
  let _ ← word? "only"
  return .alterOwner (← qualifiedName)

/-- Whether two words stand one after the other somewhere. -/
def containsPair (first second : String) : List Token → Bool
  | [] => false
  | token :: rest =>
    (isWord first token && ((rest.head?.map (isWord second)).getD false))
      || containsPair first second rest

/-- Whether the tokens end in `OWNER TO` and one more token. -/
def endsInOwner (tokens : List Token) : Bool :=
  match tokens.reverse with
  | _ :: second :: first :: _ :: _ :: _ => isWord "to" second && isWord "owner" first
  | _ => false

/-- The form that the tokens have to follow, if their first words call for one. -/
def form? (tokens : List Token) : Option (Reader Statement × Nat) :=
  if begins ["create", "extension"] tokens then some (extension, 2)
  else if begins ["create", "sequence"] tokens then some (newSequence, 2)
  else if begins ["create", "temp", "sequence"] tokens then some (newSequence, 3)
  else if begins ["create", "temporary", "sequence"] tokens then some (newSequence, 3)
  else if begins ["alter", "sequence"] tokens then some (changedSequence, 2)
  else if begins ["create", "type"] tokens && containsPair "as" "enum" tokens then
    some (enumeration, 2)
  else if begins ["alter", "table"] tokens && endsInOwner tokens then some (owner, 2)
  else none

/-- Reads a statement of one of the forms; nothing if the tokens call for none. -/
def read (tokens : List Token) : Except SqlError (Option Statement) :=
  match form? tokens with
  | some (reader, words) => ((reader.run (tokens.drop words)).map fun (s, _) => some s)
  | none => .ok none

end OwnForm

end Sql

end SqlEngine
