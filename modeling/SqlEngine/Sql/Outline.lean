import SqlEngine.Sql.Printer
import SqlEngine.Value.Diagnostic

/-!
The structure of terms and queries, spelled out part by part, as messages about joins that the
engine does not know show it.
-/

namespace SqlEngine

namespace Sql

namespace Outline

/-- Named fields behind a name. -/
def fields (name : String) (parts : List (String × String)) : String :=
  name ++ " \x7b " ++ commas (parts.map fun (field, text) => field ++ ": " ++ text) ++ " \x7d"

/-- A form with one content. -/
def form (name content : String) : String := name ++ "(" ++ content ++ ")"

/-- A form with a list of contents. -/
def tuple (name : String) (contents : List String) : String := form name (commas contents)

def option : Option String → String
  | none => "None"
  | some text => form "Some" text

def list (parts : List String) : String := "[" ++ commas parts ++ "]"

def texts (parts : List String) : String := list (parts.map Diagnostic.quoted)

def number? (n : Option Nat) : String := option (n.map toString)

def bool? (b : Option Bool) : String := option (b.map toString)

def character (c : Char) : String :=
  if c == '"' then "'\"'" else if c == '\'' then "'\\''" else "'" ++ Diagnostic.escaped c ++ "'"

/-- A word as one of several names, in capitals only where it begins. -/
def capitalized (word : String) : String :=
  match word.toList with
  | [] => ""
  | c :: rest => String.ofList (c.toUpper :: rest.map Char.toLower)

def phrases (parts : List Phrase) : String := list (parts.map Phrase.outline)

def phrase? (part : Option Phrase) : String := option (part.map Phrase.outline)

end Outline

open Outline

def Ident.outline (id : Ident) : String :=
  fields "Ident"
    [("value", Diagnostic.quoted id.value), ("quote_style", option (id.quote.map character))]

def identOutlines (ids : List Ident) : String := list (ids.map Ident.outline)

/-- The structure of a dotted name. -/
def dottedOutline (parts : List Ident) : String := form "ObjectName" (identOutlines parts)

def Constant.outline : Constant → String
  | .number digits long => tuple "Number" [Diagnostic.quoted digits, toString long]
  | .string text => form "SingleQuotedString" (Diagnostic.quoted text)
  | .escaped text => form "EscapedStringLiteral" (Diagnostic.quoted text)
  | .dollar text tag =>
    form "DollarQuotedString"
      (fields "DollarQuotedString"
        [("value", Diagnostic.quoted text), ("tag", option (tag.map Diagnostic.quoted))])
  | .national text => form "NationalStringLiteral" (Diagnostic.quoted text)
  | .hex digits => form "HexStringLiteral" (Diagnostic.quoted digits)
  | .boolean value => form "Boolean" (toString value)
  | .null => "Null"
  | .placeholder text => form "Placeholder" (Diagnostic.quoted text)
  | .quotedWord text => form "DoubleQuotedString" (Diagnostic.quoted text)

def UnaryOperator.outline : UnaryOperator → String
  | .plus => "Plus"
  | .minus => "Minus"
  | .negation => "Not"
  | .factorial => "PGPostfixFactorial"
  | .other spelling =>
    (List.lookup spelling [("~", "PGBitwiseNot"), ("|/", "PGSquareRoot"), ("||/", "PGCubeRoot"),
      ("!!", "PGPrefixFactorial"), ("@", "PGAbs")]).getD spelling

def BinaryOperator.outline : BinaryOperator → String
  | .add => "Plus"
  | .subtract => "Minus"
  | .multiply => "Multiply"
  | .divide => "Divide"
  | .modulo => "Modulo"
  | .concat => "StringConcat"
  | .equal => "Eq"
  | .notEqual => "NotEq"
  | .less => "Lt"
  | .lessEqual => "LtEq"
  | .greater => "Gt"
  | .greaterEqual => "GtEq"
  | .conjunction => "And"
  | .disjunction => "Or"
  | .named parts => form "PGCustomBinaryOperator" (texts parts)
  | .other spelling =>
    (List.lookup spelling [("&", "BitwiseAnd"), ("|", "BitwiseOr"), ("XOR", "Xor"),
      ("#", "PGBitwiseXor"), ("<<", "PGBitwiseShiftLeft"), (">>", "PGBitwiseShiftRight"),
      ("^", "PGExp"), ("&&", "PGOverlap"), ("~", "PGRegexMatch"), ("~*", "PGRegexIMatch"),
      ("!~", "PGRegexNotMatch"), ("!~*", "PGRegexNotIMatch"), ("<=>", "Spaceship")]).getD
        spelling

/-- The name of an operator that takes a document apart. -/
def jsonOperatorOutline (spelling : String) : String :=
  (List.lookup spelling [("->", "Arrow"), ("->>", "LongArrow"), ("#>", "HashArrow"),
    ("#>>", "HashLongArrow"), (":", "Colon"), ("@>", "AtArrow"), ("<@", "ArrowAt"),
    ("#-", "HashMinus"), ("@?", "AtQuestion"), ("@@", "AtAt")]).getD spelling

/-- The name of a test, which says what the test is for and whether it is negated. -/
def TruthTest.outline (test : TruthTest) (negated : Bool) : String :=
  (if negated then "IsNot" else "Is") ++ match test with
    | .null => "Null"
    | .isTrue => "True"
    | .isFalse => "False"

def SetOperator.outline : SetOperator → String
  | union => "Union"
  | except => "Except"
  | intersect => "Intersect"

def quantifierOutline (words : String) : String :=
  (List.lookup words [("ALL", "All"), ("DISTINCT", "Distinct"), ("BY NAME", "ByName"),
    ("ALL BY NAME", "AllByName"), ("DISTINCT BY NAME", "DistinctByName")]).getD "None"

def OffsetUnit.outline : OffsetUnit → String
  | absent => "None"
  | row => "Row"
  | rows => "Rows"

def NullTreatment.outline : NullTreatment → String
  | respect => "RespectNulls"
  | ignore => "IgnoreNulls"

def TableAlias.outline (a : TableAlias) : String :=
  fields "TableAlias" [("name", a.name.outline), ("columns", identOutlines a.columns)]

/-- The structure of a new name for a table, if there is one. -/
def aliasOutline (a : Option TableAlias) : String := option (a.map TableAlias.outline)

def JoinSide.outline : JoinSide → String
  | .inner => "Inner"
  | .left => "LeftOuter"
  | .right => "RightOuter"
  | .full => "FullOuter"
  | .partly spelling =>
    (List.lookup spelling [("LEFT SEMI", "LeftSemi"), ("LEFT ANTI", "LeftAnti"),
      ("RIGHT SEMI", "RightSemi"), ("RIGHT ANTI", "RightAnti")]).getD spelling

/-- All columns, of a table or of all tables, without exceptions. -/
def starOutline (name : String) (table : List String) : String :=
  tuple name (table ++ [fields "WildcardAdditionalOptions"
    [("opt_exclude", "None"), ("opt_except", "None"), ("opt_rename", "None"),
      ("opt_replace", "None")]])

/-- The operator of a join: its side and what it compares. -/
def joinOutline (side : JoinSide) (condition : String) : String := form side.outline condition

/-- A table that is joined to the ones before it. -/
def joinedOutline (relation operator : String) : String :=
  fields "Join" [("relation", relation), ("join_operator", operator)]

/-- One more table behind a table and its joins. -/
def joinedParts (left : String × List String) (relation operator : String) :
    String × List String :=
  (left.1, left.2 ++ [joinedOutline relation operator])

/-- A table and the joins behind it. -/
def tablesOutline (parts : String × List String) : String :=
  fields "TableWithJoins" [("relation", parts.1), ("joins", list parts.2)]

/-- An argument of a call with its label, if it has one. -/
def labelledOutline (label : Option Ident) (content : String) : String :=
  match label with
  | some id => fields "Named" [("name", id.outline), ("arg", content)]
  | none => form "Unnamed" content

mutual

def Term.outline : Term → String
  | .name id => form "Identifier" id.outline
  | .path parts => form "CompoundIdentifier" (identOutlines parts)
  | .constant value => form "Value" value.outline
  | .nested t => form "Nested" t.outline
  | .typed type text =>
    fields "TypedString" [("data_type", type.outline), ("value", Diagnostic.quoted text)]
  | .cast t type format =>
    fields "Cast" [("expr", t.outline), ("data_type", type.outline), ("format", phrase? format)]
  | .unary op t => fields "UnaryOp" [("op", op.outline), ("expr", t.outline)]
  | .binary l op r =>
    fields "BinaryOp" [("left", l.outline), ("op", op.outline), ("right", r.outline)]
  | .is t test negated => form (test.outline negated) t.outline
  | .inList t items negated =>
    fields "InList"
      [("expr", t.outline), ("list", list (Term.outlines items)), ("negated", toString negated)]
  | .inQuery t query negated =>
    fields "InSubquery"
      [("expr", t.outline), ("subquery", query.outline), ("negated", toString negated)]
  | .exists query negated =>
    fields "Exists" [("subquery", query.outline), ("negated", toString negated)]
  | .subquery query => form "Subquery" query.outline
  | .between t low high negated =>
    fields "Between"
      [("expr", t.outline), ("negated", toString negated), ("low", low.outline),
        ("high", high.outline)]
  | .like t pattern escape negated insensitive =>
    fields (if insensitive then "ILike" else "Like")
      [("negated", toString negated), ("expr", t.outline), ("pattern", pattern.outline),
        ("escape_char", option (escape.map character))]
  | .case operand branches otherwise =>
    fields "Case"
      [("operand", Term.outline? operand), ("conditions", list (Term.conditionOutlines branches)),
        ("results", list (Term.resultOutlines branches)), ("else_result", Term.outline? otherwise)]
  | .call head args orderBy filter =>
    form "Function" (fields "Function"
      [("name", dottedOutline head.name), ("args", list (Argument.outlines args)),
        ("filter", Term.outline? filter),
        ("null_treatment", option (head.nulls.map NullTreatment.outline)),
        ("over", phrase? head.window), ("distinct", toString head.distinct),
        ("special", toString head.bare), ("order_by", list (OrderTerm.outlines orderBy))])
  | .arrayAgg distinct t orderBy limit =>
    let keys := OrderTerm.outlines orderBy
    form "ArrayAgg" (fields "ArrayAgg"
      [("distinct", toString distinct), ("expr", t.outline),
        ("order_by", if keys.isEmpty then "None" else form "Some" (list keys)),
        ("limit", Term.outline? limit), ("within_group", "false")])
  | .array items named =>
    form "Array"
      (fields "Array" [("elem", list (Term.outlines items)), ("named", toString named)])
  | .subscript t indexes =>
    fields "ArrayIndex" [("obj", t.outline), ("indexes", list (Term.outlines indexes))]
  | .json l operator r =>
    fields "JsonAccess"
      [("left", l.outline), ("operator", jsonOperatorOutline operator), ("right", r.outline)]
  | .unsupported phrase => phrase.outline

def Term.outlines : List Term → List String
  | [] => []
  | t :: rest => t.outline :: Term.outlines rest

def Term.outline? : Option Term → String
  | some t => form "Some" t.outline
  | none => "None"

def Term.rowOutlines : List (List Term) → List String
  | [] => []
  | row :: rest => list (Term.outlines row) :: Term.rowOutlines rest

def Term.conditionOutlines : List (Term × Term) → List String
  | [] => []
  | (condition, _) :: rest => condition.outline :: Term.conditionOutlines rest

def Term.resultOutlines : List (Term × Term) → List String
  | [] => []
  | (_, result) :: rest => result.outline :: Term.resultOutlines rest

def Argument.outline : Argument → String
  | .term label t => labelledOutline label (form "Expr" t.outline)
  | .star label => labelledOutline label "Wildcard"
  | .tableStar label table => labelledOutline label (form "QualifiedWildcard" (dottedOutline table))

def Argument.outlines : List Argument → List String
  | [] => []
  | argument :: rest => argument.outline :: Argument.outlines rest

def OrderTerm.outline : OrderTerm → String
  | .mk t direction =>
    fields "OrderByExpr"
      [("expr", t.outline), ("asc", bool? direction.ascending),
        ("nulls_first", bool? direction.nullsFirst)]

def OrderTerm.outlines : List OrderTerm → List String
  | [] => []
  | key :: rest => key.outline :: OrderTerm.outlines rest

def Query.outline : Query → String
  | .mk recursive bindings body orderBy limit offset unit tail =>
    let named := Binding.outlines bindings
    fields "Query"
      [("with", if named.isEmpty then "None" else form "Some" (fields "With"
          [("recursive", toString recursive), ("cte_tables", list named)])),
        ("body", body.outline), ("order_by", list (OrderTerm.outlines orderBy)),
        ("limit", Term.outline? limit), ("limit_by", "[]"),
        ("offset", match offset with
          | some count => form "Some" (fields "Offset"
              [("value", count.outline), ("rows", unit.outline)])
          | none => "None"),
        ("fetch", phrase? tail.fetch), ("locks", phrases tail.locks),
        ("for_clause", phrase? tail.output)]

def Binding.outline : Binding → String
  | .mk knownAs query source =>
    fields "Cte"
      [("alias", knownAs.outline), ("query", query.outline),
        ("from", option (source.map Ident.outline))]

def Binding.outlines : List Binding → List String
  | [] => []
  | binding :: rest => binding.outline :: Binding.outlines rest

def Body.outline : Body → String
  | .select select => form "Select" select.outline
  | .query query => form "Query" query.outline
  | .values marked rows =>
    form "Values" (fields "Values"
      [("explicit_row", toString marked), ("rows", list (Term.rowOutlines rows))])
  | .combined left operator quantifier right =>
    fields "SetOperation"
      [("op", operator.outline), ("set_quantifier", quantifierOutline quantifier),
        ("left", left.outline), ("right", right.outline)]
  | .change text => text
  | .unsupported phrase => phrase.outline

def Select.outline : Select → String
  | .mk distinct distinctOn items into source condition groupBy having extras =>
    fields "Select"
      [("distinct", match distinctOn with
          | some keys => form "Some" (form "On" (list (Term.outlines keys)))
          | none => if distinct then form "Some" "Distinct" else "None"),
        ("top", phrase? extras.top), ("projection", list (SelectItem.outlines items)),
        ("into", phrase? into), ("from", list (TableTerm.outlines source)),
        ("lateral_views", phrases extras.views), ("selection", Term.outline? condition),
        ("group_by", match groupBy with
          | some keys => form "Expressions" (list (Term.outlines keys))
          | none => "All"),
        ("cluster_by", phrases extras.clusterBy), ("distribute_by", phrases extras.distributeBy),
        ("sort_by", phrases extras.sortBy), ("having", Term.outline? having),
        ("named_window", phrases extras.windows), ("qualify", phrase? extras.qualify)]

def SelectItem.outline : SelectItem → String
  | .term t knownAs =>
    match knownAs with
    | some id => fields "ExprWithAlias" [("expr", t.outline), ("alias", id.outline)]
    | none => form "UnnamedExpr" t.outline
  | .star => starOutline "Wildcard" []
  | .tableStar table => starOutline "QualifiedWildcard" [dottedOutline table]

def SelectItem.outlines : List SelectItem → List String
  | [] => []
  | item :: rest => item.outline :: SelectItem.outlines rest

/-- The first table of a tree of joins, and the joins behind it. -/
def TableTerm.outlineParts : TableTerm → String × List String
  | .named name args knownAs hints =>
    (fields "Table"
      [("name", dottedOutline name), ("alias", aliasOutline knownAs),
        ("args", match args with
          | some args => form "Some" (list (Argument.outlines args))
          | none => "None"),
        ("with_hints", list (Term.outlines hints)), ("version", "None"), ("partitions", "[]")], [])
  | .derived lateral query knownAs =>
    (fields "Derived"
      [("lateral", toString lateral), ("subquery", query.outline),
        ("alias", aliasOutline knownAs)], [])
  | .nested tables knownAs =>
    (fields "NestedJoin"
      [("table_with_joins", tablesOutline tables.outlineParts),
        ("alias", aliasOutline knownAs)], [])
  | .cross left right => joinedParts left.outlineParts right.outlineParts.1 "CrossJoin"
  | .join left side right condition =>
    let compared := match condition with
      | some t => form "On" t.outline
      | none => "None"
    joinedParts left.outlineParts right.outlineParts.1 (joinOutline side compared)
  | .joinUsing left side right columns =>
    joinedParts left.outlineParts right.outlineParts.1
      (joinOutline side (form "Using" (identOutlines columns)))
  | .joinNatural left side right =>
    joinedParts left.outlineParts right.outlineParts.1 (joinOutline side "Natural")
  | .apply left right outer =>
    joinedParts left.outlineParts right.outlineParts.1
      (if outer then "OuterApply" else "CrossApply")
  | .unsupported phrase => (phrase.outline, [])

def TableTerm.outlines : List TableTerm → List String
  | [] => []
  | tables :: rest => tablesOutline tables.outlineParts :: TableTerm.outlines rest

end

/-- A term as a phrase. -/
def Term.phrase (t : Term) : Phrase := ⟨t.text, t.outline⟩

/-- The structure of a table that is no join. -/
def TableTerm.outline (t : TableTerm) : String := t.outlineParts.1

/-- What a join compares: nothing, a condition, or columns of the same names. -/
inductive JoinCondition where
  | absent
  | on (term : Term)
  | sameColumns (names : List Ident)
  | natural

def JoinCondition.outline : JoinCondition → String
  | .absent => "None"
  | .on t => form "On" t.outline
  | .sameColumns names => form "Using" (identOutlines names)
  | .natural => "Natural"

/-- A join that the engine does not know. -/
def unknownJoin (side : JoinSide) (condition : JoinCondition) : String :=
  "join " ++ joinOutline side condition.outline

end Sql

end SqlEngine
