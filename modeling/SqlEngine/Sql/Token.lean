import SqlEngine.Error
import SqlEngine.Text.Case

/-!
The words of SQL: what a text consists of once blanks and comments are gone.
-/

namespace SqlEngine

/-! ### Identifiers

Identifiers as they are written. A bare identifier stands for its lower case, a quoted one for
itself; when one is written out again, the quotes inside it are doubled.
-/

namespace Quoted

/-- Doubles every quote, except that a quote after a backslash, and a second quote directly after
a first one, count as written that way already. -/
def doubled (quote : Char) : Option Char → List Char → List Char
  | _, [] => []
  | before, c :: rest =>
    if c == quote then
      if before == some '\\' then c :: doubled quote before rest
      else match rest with
        | [] => [c, c]
        | d :: later =>
          if d == quote then c :: c :: doubled quote (some c) later
          else c :: c :: doubled quote (some c) (d :: later)
    else c :: doubled quote (some c) rest

/-- The text between two copies of the quote. -/
def within (quote : Char) (text : String) : String :=
  String.ofList (quote :: doubled quote none text.toList ++ [quote])

end Quoted

namespace Sql

structure Ident where
  value : String
  /-- The quote it was written in, if any. -/
  quote : Option Char
deriving DecidableEq, Repr, Inhabited

namespace Ident

def bare (value : String) : Ident := ⟨value, none⟩

/-- The name that an identifier stands for. -/
def name (i : Ident) : String :=
  match i.quote with
  | some _ => i.value
  | none => Text.lower i.value

def text (i : Ident) : String :=
  match i.quote with
  | none => i.value
  | some quote => Quoted.within quote i.value

end Ident

/-- The parts of a dotted name, written out. -/
def dottedText (parts : List Ident) : String := ".".intercalate (parts.map Ident.text)

/-- The name that the last part of a dotted name stands for. -/
def lastName (parts : List Ident) : String := (parts.getLast?.map Ident.name).getD ""

end Sql

/-! ### Words -/

namespace Sql

inductive Token where
  /-- An identifier or a key word. -/
  | word (id : Ident)
  | number (digits : String) (long : Bool)
  | string (text : String)
  /-- An escaped string, `E'...'`, with its escapes already read. -/
  | escaped (text : String)
  | national (text : String)
  | hex (digits : String)
  /-- A string between dollar signs, `$tag$...$tag$`. -/
  | dollar (text : String) (tag : Option String)
  | placeholder (text : String)
  /-- Punctuation and operators, by their spelling. -/
  | symbol (spelling : String)
deriving DecidableEq, Repr, Inhabited

namespace Token

/-- A token as messages show it. -/
def text : Token → String
  | word ⟨value, none⟩ => value
  | word ⟨value, some quote⟩ => String.ofList (quote :: value.toList ++ [quote])
  | number digits long => if long then digits ++ "L" else digits
  | string text => s!"'{text}'"
  | escaped text => s!"E'{text}'"
  | national text => s!"N'{text}'"
  | hex digits => s!"X'{digits}'"
  | dollar text tag =>
    let delimiter := "$" ++ tag.getD "" ++ "$"
    delimiter ++ text ++ delimiter
  | placeholder text => text
  | symbol spelling => spelling

/-- The key word that a token spells, in capitals. A quoted word spells none. -/
def keyword? : Token → Option String
  | word ⟨value, none⟩ => some (Text.upper value)
  | _ => none

def spells (t : Token) (keyword : String) : Bool := t.keyword? == some keyword

end Token

/-- A token with where it stands: the place a reader is told and the count of characters before. -/
structure Lexeme where
  token : Token
  place : Place
  offset : Nat
deriving DecidableEq, Repr, Inhabited

end Sql

end SqlEngine
