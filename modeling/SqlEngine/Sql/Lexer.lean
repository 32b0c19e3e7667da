import SqlEngine.Number.Reading
import SqlEngine.Sql.Token
import SqlEngine.Text.Category
import SqlEngine.Text.Blank

/-!
Cutting a text into tokens. Each scan reads one token, blank or comment off the front and hands
back the rest; places are counted from what a scan took.
-/

namespace SqlEngine

namespace Sql

namespace Lexer

def isWordStart (c : Char) : Bool := c == '_' || Text.isAlphabetic c

def isWordPart (c : Char) : Bool :=
  c == '_' || c == '$' || Numeral.isDigit c || Text.isAlphabetic c

/-- What follows a comment that runs to the end of its line. -/
def afterLine : List Char → List Char
  | [] => []
  | c :: rest => if c == '\n' then rest else afterLine rest

/-- What follows a block comment of which `depth` openings are still to be closed. -/
def afterBlock? (depth : Nat) (before : Char) : List Char → Option (List Char)
  | [] => none
  | c :: rest =>
    if before == '/' && c == '*' then afterBlock? (depth + 1) c rest
    else if before == '*' && c == '/' then
      if depth ≤ 1 then some rest else afterBlock? (depth - 1) c rest
    else afterBlock? depth c rest

/-- The characters up to a closing quote, and what follows it. A doubled quote stands for one. -/
def quoted? (quote : Char) : List Char → Option (List Char × List Char)
  | [] => none
  | c :: rest =>
    if c == quote then
      match rest with
      | [] => some ([], [])
      | d :: later =>
        if d == quote then (quoted? quote later).map fun (text, rest) => (quote :: text, rest)
        else some ([], d :: later)
    else (quoted? quote rest).map fun (text, rest) => (c :: text, rest)

/-- The character that a letter after a backslash stands for. -/
def controlOf (c : Char) : Char :=
  if c == 'n' then '\n' else if c == 'r' then '\r' else if c == 't' then '\t' else c

/-- The characters up to the closing quote of a text with backslash escapes. -/
def escapedText? (inEscape : Bool) : List Char → Option (List Char × List Char)
  | [] => none
  | c :: rest =>
    let keep (c : Char) (result : Option (List Char × List Char)) :=
      result.map fun (text, rest) => (c :: text, rest)
    if inEscape then keep (controlOf c) (escapedText? false rest)
    else if c == '\\' then escapedText? true rest
    else if c == '\'' then
      match rest with
      | [] => some ([], [])
      | d :: later =>
        if d == '\'' then keep c (escapedText? false later) else some ([], d :: later)
    else keep c (escapedText? false rest)

/-- The characters up to a closing delimiter, and what follows it. -/
def upTo? (delimiter : List Char) : List Char → Option (List Char × List Char)
  | [] => none
  | c :: rest =>
    if delimiter.isPrefixOf (c :: rest) then some ([], (c :: rest).drop delimiter.length)
    else (upTo? delimiter rest).map fun (text, rest) => (c :: text, rest)

/-- A token that begins with a dollar sign, which is gone already. Between tags the text holds no
dollar sign at all; without a tag it holds no two in a row. -/
def dollar? (cs : List Char) : Option (Token × List Char) :=
  let tag := cs.takeWhile fun c => c == '_' || Text.isAlphabetic c || Text.isNumeric c
  match cs.drop tag.length with
  | '$' :: body =>
    if tag.isEmpty then
      (upTo? ['$', '$'] body).map fun (text, rest) => (.dollar (String.ofList text) none, rest)
    else
      let text := body.takeWhile (· != '$')
      let delimiter := '$' :: tag ++ ['$']
      let rest := body.drop text.length
      if delimiter.isPrefixOf rest then
        some (.dollar (String.ofList text) (some (String.ofList tag)), rest.drop delimiter.length)
      else none
  | rest => some (.placeholder (String.ofList ('$' :: tag)), rest)

/-- The exponent of a number, if there is one with at least one digit. -/
def exponent? (cs : List Char) : Option (List Char × List Char) :=
  match cs with
  | e :: rest =>
    if e == 'e' || e == 'E' then
      let (sign, rest) := match rest with
        | s :: later => if s == '+' || s == '-' then ([s], later) else ([], rest)
        | [] => ([], rest)
      let digits := rest.takeWhile Numeral.isDigit
      if digits.isEmpty then none else some (e :: sign ++ digits, rest.drop digits.length)
    else none
  | [] => none

/-- A number, or the period that it turns out to be. -/
def number (cs : List Char) : Token × List Char :=
  let whole := cs.takeWhile Numeral.isDigit
  match whole, cs.drop whole.length with
  | ['0'], 'x' :: rest =>
    let digits := rest.takeWhile fun c => (Numeral.hexDigit? c).isSome
    (.hex (String.ofList digits), rest.drop digits.length)
  | _, rest =>
    let (point, rest) := match rest with
      | '.' :: later => (['.'], later)
      | _ => ([], rest)
    let fraction := rest.takeWhile Numeral.isDigit
    let rest := rest.drop fraction.length
    let digits := whole ++ point ++ fraction
    if digits == ['.'] then (.symbol ".", rest)
    else
      let (power, rest) := (exponent? rest).getD ([], rest)
      let (long, rest) := match rest with
        | 'L' :: later => (true, later)
        | _ => (false, rest)
      (.number (String.ofList (digits ++ power)) long, rest)

def word (cs : List Char) : Token × List Char :=
  let name := cs.takeWhile isWordPart
  (.word (.bare (String.ofList name)), cs.drop name.length)

/-- The spellings of punctuation and operators, the longer ones before those they begin with. -/
def symbols : List String :=
  ["!~*", "->>", "#>>", "<=>", "||/",
    "->", "=>", "==", "!=", "!!", "!~", "<=", "<>", "<<", "<@", ">=", ">>", "::", ":=", "&&",
    "~*", "#-", "#>", "@>", "@?", "@@", "|/", "||",
    "(", ")", ",", "-", "/", "+", "*", "%", "|", "=", "!", "<", ">", ":", ";", "\\", "[", "]", "&",
    "^", "\x7b", "\x7d", "~", "#", "@"]

/-- Punctuation or an operator; any other character is a token of its own. -/
def symbol (c : Char) (rest : List Char) : Token × List Char :=
  match symbols.find? fun s => s.toList.isPrefixOf (c :: rest) with
  | some s => (.symbol (if s == "!=" then "<>" else s), (c :: rest).drop s.length)
  | none => (.symbol (String.singleton c), rest)

/-- A text in quotes that a letter introduces, or else a word. -/
def lettered (kind : String → Token)
    (body? : List Char → Option (List Char × List Char)) (c : Char) (rest : List Char) :
    Option (Token × List Char) :=
  match rest with
  | '\'' :: body => (body? body).map fun (text, rest) => (kind (String.ofList text), rest)
  | _ => some (word (c :: rest))

/-- The token at the front of a text that begins with `c`. -/
def token? (c : Char) (rest : List Char) : Option (Token × List Char) :=
  if c == 'n' || c == 'N' then lettered .national (quoted? '\'') c rest
  else if c == 'e' || c == 'E' then lettered .escaped (escapedText? false) c rest
  else if c == 'x' || c == 'X' then lettered .hex (quoted? '\'') c rest
  else if c == '\'' then
    (quoted? '\'' rest).map fun (text, rest) => (.string (String.ofList text), rest)
  else if c == '"' || c == Char.ofNat 96 then
    (quoted? c rest).map fun (text, rest) => (.word ⟨String.ofList text, some c⟩, rest)
  else if c == '.' || Numeral.isDigit c then some (number (c :: rest))
  else if c == '?' then
    let digits := rest.takeWhile Text.isNumeric
    some (.placeholder (String.ofList ('?' :: digits)), rest.drop digits.length)
  else if c == '$' then dollar? rest
  else if isWordStart c then some (word (c :: rest))
  else some (symbol c rest)

/-- Reads one token, or one blank or comment, which is no token. Fails on a text, a quoted
identifier or a comment that is never closed. -/
def scan? : List Char → Option (Option Token × List Char)
  | [] => none
  | '-' :: '-' :: rest => some (none, afterLine rest)
  | '/' :: '*' :: rest => (afterBlock? 1 ' ' rest).map fun rest => (none, rest)
  | c :: rest =>
    if Text.isBlank c then some (none, rest)
    else (token? c rest).map fun (token, rest) => (some token, rest)

/-- The place after the given characters. -/
def advance (place : Place) : List Char → Place
  | [] => place
  | c :: rest =>
    if c == '\n' then advance ⟨place.line + 1, 1⟩ rest
    else advance ⟨place.line, place.column + 1⟩ rest

/-- The tokens of a text, each scan taking at least one of its `fuel` characters. -/
def lexemesFrom? (place : Place) (offset : Nat) : Nat → List Char → Option (List Lexeme)
  | _, [] => some []
  | 0, _ :: _ => none
  | fuel + 1, cs => do
    let (token?, rest) ← scan? cs
    let size := cs.length - rest.length
    let later ← lexemesFrom? (advance place (cs.take size)) (offset + size) fuel rest
    match token? with
    | some token => return ⟨token, place, offset⟩ :: later
    | none => return later

end Lexer

/-- The tokens of a text, or nothing if something in it is never closed. -/
def Lexeme.ofText? (text : List Char) : Option (List Lexeme) :=
  Lexer.lexemesFrom? ⟨1, 1⟩ 0 text.length text

end Sql

end SqlEngine
