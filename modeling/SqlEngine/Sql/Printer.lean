import SqlEngine.Sql.Term

/-!
Trees of SQL written out again in one spelling: capitals for key words, single blanks, the
parentheses that were there and no others.
-/

namespace SqlEngine

namespace Sql

def commas (texts : List String) : String := ", ".intercalate texts

/-- A backslash escape for the characters that an escaped text cannot hold as they are. -/
def escapeSequence (c : Char) : List Char :=
  if c == '\'' then ['\\', '\'']
  else if c == '\\' then ['\\', '\\']
  else if c == '\n' then ['\\', 'n']
  else if c == '\t' then ['\\', 't']
  else if c == '\r' then ['\\', 'r']
  else [c]

def Constant.text : Constant → String
  | number digits long => if long then digits ++ "L" else digits
  | string text => Quoted.within '\'' text
  | escaped text => "E'" ++ String.ofList (text.toList.flatMap escapeSequence) ++ "'"
  | dollar text tag =>
    let delimiter := "$" ++ tag.getD "" ++ "$"
    delimiter ++ text ++ delimiter
  | national text => s!"N'{text}'"
  | hex digits => s!"X'{digits}'"
  | boolean value => if value then "true" else "false"
  | null => "NULL"
  | placeholder text => text
  | quotedWord text => Quoted.within '"' text

def UnaryOperator.text : UnaryOperator → String
  | plus => "+"
  | minus => "-"
  | negation => "NOT"
  | factorial => "!"
  | other spelling => spelling

def BinaryOperator.text : BinaryOperator → String
  | add => "+"
  | subtract => "-"
  | multiply => "*"
  | divide => "/"
  | modulo => "%"
  | concat => "||"
  | equal => "="
  | notEqual => "<>"
  | less => "<"
  | lessEqual => "<="
  | greater => ">"
  | greaterEqual => ">="
  | conjunction => "AND"
  | disjunction => "OR"
  | named parts => "OPERATOR(" ++ ".".intercalate parts ++ ")"
  | other spelling => spelling

def TruthTest.text : TruthTest → String
  | null => "NULL"
  | isTrue => "TRUE"
  | isFalse => "FALSE"

def SetOperator.text : SetOperator → String
  | union => "UNION"
  | except => "EXCEPT"
  | intersect => "INTERSECT"

def TableAlias.text (a : TableAlias) : String :=
  if a.columns.isEmpty then a.name.text
  else a.name.text ++ " (" ++ commas (a.columns.map Ident.text) ++ ")"

/-- The new name of a table behind what it renames. -/
def aliasText : Option TableAlias → String
  | some a => " AS " ++ a.text
  | none => ""

def Direction.text (d : Direction) : String :=
  (match d.ascending with
    | some true => " ASC"
    | some false => " DESC"
    | none => "")
  ++ match d.nullsFirst with
    | some true => " NULLS FIRST"
    | some false => " NULLS LAST"
    | none => ""

def JoinSide.text : JoinSide → String
  | inner => "JOIN"
  | left => "LEFT JOIN"
  | right => "RIGHT JOIN"
  | full => "FULL JOIN"
  | partly spelling => spelling ++ " JOIN"

def NullTreatment.text : NullTreatment → String
  | respect => "RESPECT NULLS"
  | ignore => "IGNORE NULLS"

def OffsetUnit.text : OffsetUnit → String
  | absent => ""
  | row => " ROW"
  | rows => " ROWS"

/-- A clause behind a blank and the given words. -/
def clauseText (front : String) : Option Phrase → String
  | some clause => front ++ clause.text
  | none => ""

/-- A list of parts behind the given words, if there are any. -/
def listText (front : String) (parts : List String) : String :=
  if parts.isEmpty then "" else front ++ commas parts

/-- A list of phrases behind the given words, if there are any. -/
def phrasesText (front : String) (phrases : List Phrase) : String :=
  listText front (phrases.map Phrase.text)

def QueryTail.text (t : QueryTail) : String :=
  clauseText " " t.fetch ++ String.join (t.locks.map fun lock => " " ++ lock.text)
    ++ clauseText " " t.output

/-- The word that negates a condition, in front of it. -/
def notText (negated : Bool) : String := if negated then "NOT " else ""

/-- A label in front of an argument. -/
def labelText : Option Ident → String
  | some label => label.text ++ " => "
  | none => ""

mutual

def Term.text : Term → String
  | .name id => id.text
  | .path parts => dottedText parts
  | .constant value => value.text
  | .nested term => "(" ++ term.text ++ ")"
  | .typed type text => type.text ++ " " ++ Quoted.within '\'' text
  | .cast term type format =>
    "CAST(" ++ term.text ++ " AS " ++ type.text ++ clauseText " FORMAT " format ++ ")"
  | .unary .negation operand => "NOT " ++ operand.text
  | .unary .factorial operand => operand.text ++ "!"
  | .unary operator operand => operator.text ++ operand.text
  | .binary left operator right => left.text ++ " " ++ operator.text ++ " " ++ right.text
  | .is term test negated => term.text ++ " IS " ++ notText negated ++ test.text
  | .inList term items negated =>
    term.text ++ " " ++ notText negated ++ "IN (" ++ commas (Term.texts items) ++ ")"
  | .inQuery term query negated =>
    term.text ++ " " ++ notText negated ++ "IN (" ++ query.text ++ ")"
  | .exists query negated => notText negated ++ "EXISTS (" ++ query.text ++ ")"
  | .subquery query => "(" ++ query.text ++ ")"
  | .between term low high negated =>
    term.text ++ " " ++ notText negated ++ "BETWEEN " ++ low.text ++ " AND " ++ high.text
  | .like term pattern escape negated insensitive =>
    term.text ++ " " ++ notText negated ++ (if insensitive then "ILIKE " else "LIKE ")
      ++ pattern.text ++ (match escape with
        | some c => " ESCAPE '" ++ String.singleton c ++ "'"
        | none => "")
  | .case operand branches otherwise =>
    "CASE" ++ Term.prefixedText " " operand ++ Term.branchesText branches
      ++ Term.prefixedText " ELSE " otherwise ++ " END"
  | .call head args orderBy filter =>
    if head.bare then dottedText head.name
    else
      dottedText head.name ++ "(" ++ (if head.distinct then "DISTINCT " else "")
        ++ commas (Argument.texts args) ++ listText " ORDER BY " (OrderTerm.texts orderBy) ++ ")"
        ++ (match filter with
          | some term => " FILTER (WHERE " ++ term.text ++ ")"
          | none => "")
        ++ (match head.nulls with
          | some nulls => " " ++ nulls.text
          | none => "")
        ++ clauseText " OVER " head.window
  | .arrayAgg distinct term orderBy limit =>
    "ARRAY_AGG(" ++ (if distinct then "DISTINCT " else "") ++ term.text
      ++ listText " ORDER BY " (OrderTerm.texts orderBy) ++ Term.prefixedText " LIMIT " limit ++ ")"
  | .array items named =>
    (if named then "ARRAY" else "") ++ "[" ++ commas (Term.texts items) ++ "]"
  | .subscript term indexes => term.text ++ Term.indexesText indexes
  | .json left operator right =>
    if operator == ":" then left.text ++ operator ++ right.text
    else left.text ++ " " ++ operator ++ " " ++ right.text
  | .unsupported phrase => phrase.text

def Term.texts : List Term → List String
  | [] => []
  | term :: rest => term.text :: Term.texts rest

/-- A term behind the given text, if there is one. -/
def Term.prefixedText (front : String) : Option Term → String
  | some term => front ++ term.text
  | none => ""

def Term.branchesText : List (Term × Term) → String
  | [] => ""
  | (condition, result) :: rest =>
    " WHEN " ++ condition.text ++ " THEN " ++ result.text ++ Term.branchesText rest

def Term.indexesText : List Term → String
  | [] => ""
  | term :: rest => "[" ++ term.text ++ "]" ++ Term.indexesText rest

/-- The rows of a list of values, each in parentheses behind the given mark. -/
def Term.rowTexts (mark : String) : List (List Term) → List String
  | [] => []
  | row :: rest => (mark ++ "(" ++ commas (Term.texts row) ++ ")") :: Term.rowTexts mark rest

def Argument.text : Argument → String
  | .term label term => labelText label ++ term.text
  | .star label => labelText label ++ "*"
  | .tableStar label table => labelText label ++ dottedText table ++ ".*"

def Argument.texts : List Argument → List String
  | [] => []
  | argument :: rest => argument.text :: Argument.texts rest

def OrderTerm.text : OrderTerm → String
  | .mk term direction => term.text ++ direction.text

def OrderTerm.texts : List OrderTerm → List String
  | [] => []
  | key :: rest => key.text :: OrderTerm.texts rest

def Query.text : Query → String
  | .mk recursive bindings body orderBy limit offset unit tail =>
    (if bindings.isEmpty then ""
      else "WITH " ++ (if recursive then "RECURSIVE " else "") ++ commas (Binding.texts bindings)
        ++ " ")
      ++ body.text ++ listText " ORDER BY " (OrderTerm.texts orderBy)
      ++ Term.prefixedText " LIMIT " limit ++ Term.prefixedText " OFFSET " offset ++ unit.text
      ++ tail.text

def Binding.text : Binding → String
  | .mk knownAs query source =>
    knownAs.text ++ " AS (" ++ query.text ++ ")"
      ++ match source with
        | some id => " FROM " ++ id.text
        | none => ""

def Binding.texts : List Binding → List String
  | [] => []
  | binding :: rest => binding.text :: Binding.texts rest

def Body.text : Body → String
  | .select select => select.text
  | .query query => "(" ++ query.text ++ ")"
  | .values marked rows => "VALUES " ++ commas (Term.rowTexts (if marked then "ROW" else "") rows)
  | .combined left operator quantifier right =>
    left.text ++ " " ++ operator.text ++ (if quantifier.isEmpty then "" else " " ++ quantifier)
      ++ " " ++ right.text
  | .change text => text
  | .unsupported phrase => phrase.text

def Select.text : Select → String
  | .mk distinct distinctOn items into source condition groupBy having extras =>
    "SELECT"
      ++ (match distinctOn with
        | some keys => " DISTINCT ON (" ++ commas (Term.texts keys) ++ ")"
        | none => if distinct then " DISTINCT" else "")
      ++ clauseText " " extras.top
      ++ " " ++ commas (SelectItem.texts items)
      ++ clauseText " INTO " into
      ++ listText " FROM " (TableTerm.texts source)
      ++ String.join (extras.views.map fun view => " " ++ view.text)
      ++ Term.prefixedText " WHERE " condition
      ++ (match groupBy with
        | some keys => listText " GROUP BY " (Term.texts keys)
        | none => " GROUP BY ALL")
      ++ phrasesText " CLUSTER BY " extras.clusterBy
      ++ phrasesText " DISTRIBUTE BY " extras.distributeBy
      ++ phrasesText " SORT BY " extras.sortBy
      ++ Term.prefixedText " HAVING " having
      ++ phrasesText " WINDOW " extras.windows
      ++ clauseText " QUALIFY " extras.qualify

def SelectItem.text : SelectItem → String
  | .term term knownAs =>
    term.text ++ match knownAs with
      | some id => " AS " ++ id.text
      | none => ""
  | .star => "*"
  | .tableStar table => dottedText table ++ ".*"

def SelectItem.texts : List SelectItem → List String
  | [] => []
  | item :: rest => item.text :: SelectItem.texts rest

def TableTerm.text : TableTerm → String
  | .named name args knownAs hints =>
    dottedText name
      ++ (match args with
        | some args => "(" ++ commas (Argument.texts args) ++ ")"
        | none => "")
      ++ aliasText knownAs
      ++ if hints.isEmpty then "" else " WITH (" ++ commas (Term.texts hints) ++ ")"
  | .derived lateral query knownAs =>
    (if lateral then "LATERAL " else "") ++ "(" ++ query.text ++ ")" ++ aliasText knownAs
  | .nested tables knownAs => "(" ++ tables.text ++ ")" ++ aliasText knownAs
  | .cross left right => left.text ++ " CROSS JOIN " ++ right.text
  | .join left side right condition =>
    left.text ++ " " ++ side.text ++ " " ++ right.text ++ Term.prefixedText " ON " condition
  | .joinUsing left side right columns =>
    left.text ++ " " ++ side.text ++ " " ++ right.text ++ " USING("
      ++ commas (columns.map Ident.text) ++ ")"
  | .joinNatural left side right =>
    left.text ++ " NATURAL " ++ side.text ++ " " ++ right.text
  | .apply left right outer =>
    left.text ++ (if outer then " OUTER APPLY " else " CROSS APPLY ") ++ right.text
  | .unsupported phrase => phrase.text

def TableTerm.texts : List TableTerm → List String
  | [] => []
  | table :: rest => table.text :: TableTerm.texts rest

end

end Sql

end SqlEngine
