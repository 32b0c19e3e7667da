import SqlEngine.Sql.Grammar.Special
import SqlEngine.Sql.Grammar.TypeName

/-!
Terms with operators. Every operator has a rank; an operand takes the operators that bind closer
than the rank it is read for, and operators of one rank associate to the left.
-/

namespace SqlEngine

namespace Sql

namespace Grammar

open SqlEngine.Sql.Parser

/-- How close a symbol binds as an operator; zero if it is none. -/
def symbolRank (spelling : String) : Nat :=
  if ["=", "<", "<=", "<>", ">", ">=", "==", "~", "~*", "!~", "!~*", "<=>"].contains spelling then
    20
  else if spelling == "|" then 21
  else if ["^", "#", "<<", ">>"].contains spelling then 22
  else if spelling == "&" then 23
  else if spelling == "+" || spelling == "-" then 30
  else if ["*", "/", "%", "||"].contains spelling then 40
  else if ["::", ":", "!", "[", "&&", "->", "->>", "#>", "#>>", "@>", "<@", "#-", "@?",
    "@@"].contains spelling then 50
  else 0

/-- How close a key word binds as an operator, given those of the next two tokens. -/
def keywordRank (word : String) (second third : Option String) : Nat :=
  match word with
  | "OR" => 5
  | "AND" => 10
  | "XOR" => 24
  | "IS" => 17
  | "IN" | "BETWEEN" | "OPERATOR" => 20
  | "LIKE" | "ILIKE" | "RLIKE" | "REGEXP" | "SIMILAR" => 19
  | "DIV" => 40
  | "AT" => if second == some "TIME" && third == some "ZONE" then 20 else 0
  | "NOT" =>
    match second with
    | some "IN" | some "BETWEEN" => 20
    | some "LIKE" | some "ILIKE" | some "RLIKE" | some "REGEXP" | some "SIMILAR" => 19
    | _ => 0
  | _ => 0

/-- How close the operator that comes next binds; zero if none comes. -/
def nextRank : Parser Nat := do
  match ← peek with
  | some (.symbol spelling) => return symbolRank spelling
  | some token =>
    match token.keyword? with
    | some word =>
      let second := (← peekAt 1).bind Token.keyword?
      let third := (← peekAt 2).bind Token.keyword?
      return keywordRank word second third
    | none => return 0
  | none => return 0

/-- The operator between two operands that a symbol stands for. -/
def binaryOperator? (spelling : String) : Option BinaryOperator :=
  match spelling with
  | "+" => some .add
  | "-" => some .subtract
  | "*" => some .multiply
  | "/" => some .divide
  | "%" => some .modulo
  | "||" => some .concat
  | "=" | "==" => some .equal
  | "<>" => some .notEqual
  | "<" => some .less
  | "<=" => some .lessEqual
  | ">" => some .greater
  | ">=" => some .greaterEqual
  | _ =>
    if ["|", "^", "&", "<<", ">>", "#", "~", "~*", "!~", "!~*", "<=>", "&&"].contains spelling then
      some (.other spelling)
    else none

def isComparison : BinaryOperator → Bool
  | .equal | .notEqual | .less | .lessEqual | .greater | .greaterEqual => true
  | _ => false

/-- What follows an operator between two operands. -/
def binaryRest (g : Grammar) (left : Term) (operator : BinaryOperator) (rank : Nat) :
    Parser Term := do
  match ← oneOf? ["ANY", "ALL"] with
  | some word =>
    let right ← parenthesized (g.operand rank)
    if isComparison operator then
      return .unsupported
        ⟨left.text ++ " " ++ operator.text ++ " " ++ word ++ "(" ++ right.text ++ ")",
          Outline.fields (Outline.capitalized word ++ "Op")
            [("left", left.outline), ("compare_op", operator.outline), ("right", right.outline)]⟩
    else failure
  | none => return .binary left operator (← g.operand rank)

/-- The indexes behind the first one, of which there are at most `most`. -/
def indexesUpTo (g : Grammar) : Nat → Parser (List Term)
  | 0 => failure
  | most + 1 => do
    if ← symbol? "[" then
      let index ← g.term
      symbol "]"
      return index :: (← indexesUpTo g most)
    else return []

/-- What follows a symbol that stands behind an operand. -/
def symbolRest (g : Grammar) (left : Term) (spelling : String) (rank : Nat) : Parser Term := do
  match binaryOperator? spelling with
  | some operator => binaryRest g left operator rank
  | none =>
    match spelling with
    | "::" => return .cast left (← g.typeTerm).phrase none
    | "!" => return .unary .factorial left
    | "[" =>
      let index ← g.term
      symbol "]"
      return .subscript left (index :: (← indexesUpTo g ((← get).length + 1)))
    | ":" => return .json left ":" (.constant (← constant))
    | _ => return .json left spelling (← g.term)

/-- What follows `IS`. -/
def isRest (g : Grammar) (left : Term) : Parser Term := do
  let negated ← keyword? "NOT"
  if ← keyword? "NULL" then return .is left .null negated
  else if ← keyword? "TRUE" then return .is left .isTrue negated
  else if ← keyword? "FALSE" then return .is left .isFalse negated
  else
    let test := if negated then "IsNot" else "Is"
    if ← keyword? "UNKNOWN" then
      return .unsupported ⟨left.text ++ " IS " ++ notText negated ++ "UNKNOWN",
        Outline.form (test ++ "Unknown") left.outline⟩
    else
      keywords ["DISTINCT", "FROM"]
      let right ← g.term
      return .unsupported
        ⟨left.text ++ " IS " ++ notText negated ++ "DISTINCT FROM " ++ right.text,
          Outline.tuple (test ++ "DistinctFrom") [left.outline, right.outline]⟩

def inRest (g : Grammar) (left : Term) (negated : Bool) : Parser Term := do
  if ← keyword? "UNNEST" then
    let items ← parenthesized g.term
    return .unsupported
      ⟨left.text ++ " " ++ notText negated ++ "IN UNNEST(" ++ items.text ++ ")",
        Outline.fields "InUnnest"
          [("expr", left.outline), ("array_expr", items.outline), ("negated", toString negated)]⟩
  else parenthesized do
    match (← peek).bind Token.keyword? with
    | some "SELECT" | some "WITH" => return .inQuery left (← g.query) negated
    | _ => return .inList left (← commaSeparated g.term) negated

def betweenRest (g : Grammar) (left : Term) (negated : Bool) : Parser Term := do
  let low ← g.operand 20
  keyword "AND"
  return .between left low (← g.operand 20) negated

/-- The character that a pattern escapes others with, if one is given. -/
def escape? : Parser (Option Char) := do
  if ← keyword? "ESCAPE" then
    let text ← literalText
    match text.toList with
    | [c] => if text.utf8ByteSize == 1 then return some c else failure
    | _ => failure
  else return none

/-- What follows a negatable test for which a key word stands behind an operand. -/
def testRest (g : Grammar) (left : Term) (word : String) (negated : Bool) : Parser Term := do
  match word with
  | "IN" => inRest g left negated
  | "BETWEEN" => betweenRest g left negated
  | "LIKE" | "ILIKE" =>
    let pattern ← g.operand 19
    return .like left pattern (← escape?) negated (word == "ILIKE")
  | "RLIKE" | "REGEXP" =>
    let pattern ← g.operand 19
    return .unsupported ⟨left.text ++ " " ++ notText negated ++ word ++ " " ++ pattern.text,
      Outline.fields "RLike"
        [("negated", toString negated), ("expr", left.outline), ("pattern", pattern.outline),
          ("regexp", toString (word == "REGEXP"))]⟩
  | "SIMILAR" =>
    keyword "TO"
    let pattern ← g.operand 19
    let escape ← escape?
    return .unsupported ⟨left.text ++ " " ++ notText negated ++ "SIMILAR TO " ++ pattern.text
        ++ (escape.map fun c => " ESCAPE '" ++ String.singleton c ++ "'").getD "",
      Outline.fields "SimilarTo"
        [("negated", toString negated), ("expr", left.outline), ("pattern", pattern.outline),
          ("escape_char", Outline.option (escape.map Outline.character))]⟩
  | _ => failure

/-- The parts of the name of an operator, of which there are at most `most`. -/
def operatorNameUpTo : Nat → Parser (List String)
  | 0 => failure
  | most + 1 => do
    let part := (← next).text
    if ← symbol? "." then return part :: (← operatorNameUpTo most) else return [part]

/-- What follows a key word that stands behind an operand. -/
def keywordRest (g : Grammar) (left : Term) (word : String) (rank : Nat) : Parser Term := do
  match word with
  | "AND" => binaryRest g left .conjunction rank
  | "OR" => binaryRest g left .disjunction rank
  | "XOR" => binaryRest g left (.other "XOR") rank
  | "OPERATOR" =>
    let name ← parenthesized do operatorNameUpTo ((← get).length + 1)
    binaryRest g left (.named name) rank
  | "IS" => isRest g left
  | "AT" =>
    keywords ["TIME", "ZONE"]
    match ← next with
    | .string zone =>
      return .unsupported ⟨left.text ++ " AT TIME ZONE '" ++ zone ++ "'",
        Outline.fields "AtTimeZone"
          [("timestamp", left.outline), ("time_zone", Diagnostic.quoted zone)]⟩
    | _ => failure
  | "NOT" => testRest g left (← oneOf ["IN", "BETWEEN", "LIKE", "ILIKE", "RLIKE", "REGEXP",
    "SIMILAR"]) true
  | _ => testRest g left word false

/-- Operators and operands behind `left` as far as they bind closer than `rank` and are none of
the key words that end it, at most `most` operators. -/
def operatorsUpTo (g : Grammar) (rank : Nat) (ending : List String) (left : Term) :
    Nat → Parser Term
  | 0 => failure
  | most + 1 => do
    let found ← nextRank
    if found ≤ rank || ((← peek).bind Token.keyword?).any ending.contains then return left
    else
      let operator ← next
      let grown ← match operator with
        | .symbol spelling => symbolRest g left spelling found
        | token =>
          match token.keyword? with
          | some word => keywordRest g left word found
          | none => failure
      operatorsUpTo g rank ending grown most

/-- A text that a type name introduces, or a length of time. -/
def typedText (g : Grammar) : Parser Term := do
  let type ← g.typeTerm
  match type.form with
  | .standard => return .typed type.phrase (← literalText)
  | .interval => interval g
  | .custom => failure

/-- A text in a character set, which the underscore of a word introduces. -/
def introducedText (id : Ident) : Parser Term := do
  let value ← match ← next with
    | .string text => pure (Constant.string text)
    | .hex digits => pure (Constant.hex digits)
    | _ => failure
  return .unsupported ⟨id.value ++ " " ++ value.text,
    Outline.fields "IntroducedString"
      [("introducer", Diagnostic.quoted id.value), ("value", value.outline)]⟩

/-- A name, a dotted name or a call that begins with the given word. -/
def nameTerm (g : Grammar) (id : Ident) : Parser Term := do
  match ← peek with
  | some (.symbol "(") => call g (frameAmount g) [id]
  | some (.symbol ".") =>
    let (ids, star) ← parts
    if star then
      return .unsupported ⟨dottedText (id :: ids) ++ ".*",
        Outline.form "QualifiedWildcard" (dottedOutline (id :: ids))⟩
    else if (← peek) == some (.symbol "(") then call g (frameAmount g) (id :: ids)
    else return .path (id :: ids)
  | some (.string _) | some (.hex _) =>
    if id.value.startsWith "_" then introducedText id else return .name id
  | _ => return .name id

/-- What stands in parentheses, and the part of it that a period picks. -/
def parenthesizedTerm (g : Grammar) : Parser Term := do
  let term ← match (← peek).bind Token.keyword? with
    | some "SELECT" | some "WITH" => pure (Term.subquery (← g.query))
    | _ =>
      match ← commaSeparated g.term with
      | [term] => pure (Term.nested term)
      | terms =>
        pure (Term.unsupported ⟨"(" ++ commas (Term.texts terms) ++ ")",
          Outline.form "Tuple" (Outline.list (Term.outlines terms))⟩)
  symbol ")"
  if ← symbol? "." then
    match ← next with
    | .word id =>
      return .unsupported ⟨term.text ++ "." ++ id.text,
        Outline.fields "CompositeAccess" [("expr", term.outline), ("key", id.outline)]⟩
    | _ => failure
  else return term

/-- The term that a symbol begins. -/
def symbolTerm (g : Grammar) (spelling : String) : Parser Term := do
  match spelling with
  | "[" => arrayItems g false
  | "-" => return .unary .minus (← g.operand 40)
  | "+" => return .unary .plus (← g.operand 40)
  | "!!" | "|/" | "||/" | "@" | "~" => return .unary (.other spelling) (← g.operand 30)
  | "(" => parenthesizedTerm g
  | ":" => return .constant (.placeholder (":" ++ (← placeholderName)))
  | _ => failure

/-- A term up to its first operator, apart from a text with a type. -/
def firstTerm (g : Grammar) : Parser Term := do
  match ← peek with
  | some (.word id) =>
    let _ ← next
    let following ← peek
    match (Token.word id).keyword?.bind fun word => keywordTerm? g id word following with
    | some term => term
    | none => nameTerm g id
  | some (.symbol spelling) =>
    let _ ← next
    symbolTerm g spelling
  | _ => return .constant (← constant)

/-- A term up to its first operator, with the order of texts that it asks for. -/
def leadingTerm (g : Grammar) : Parser Term := do
  match ← attempt (typedText g) with
  | some term => return term
  | none =>
    let term ← firstTerm g
    match ← after? ["COLLATE"] dotted with
    | some collation =>
      return .unsupported ⟨term.text ++ " COLLATE " ++ dottedText collation,
        Outline.fields "Collate" [("expr", term.outline), ("collation", dottedOutline collation)]⟩
    | none => return term

/-- A term as far as operators bind closer than the given rank. -/
def operandOver (g : Grammar) (rank : Nat) : Parser Term := do
  let first ← leadingTerm g
  operatorsUpTo g rank [] first ((← get).length + 1)

/-- A term up to a word that joins conditions. -/
def amountOver (g : Grammar) : Parser Term := do
  let first ← leadingTerm g
  operatorsUpTo g 0 ["AND", "OR", "XOR"] first ((← get).length + 1)

end Grammar

end Sql

end SqlEngine
