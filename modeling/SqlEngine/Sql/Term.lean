import SqlEngine.Sql.Token

/-!
The trees of SQL terms and queries. Forms that the grammar accepts and the engine has no meaning
for are kept as phrases.
-/

namespace SqlEngine

namespace Sql

/-- A form without a tree of its own: as it is written out, and its structure as it is shown. -/
structure Phrase where
  text : String
  outline : String
deriving DecidableEq, Repr, Inhabited

/-- A literal as written. -/
inductive Constant where
  | number (digits : String) (long : Bool)
  | string (text : String)
  | escaped (text : String)
  | dollar (text : String) (tag : Option String)
  | national (text : String)
  | hex (digits : String)
  | boolean (value : Bool)
  | null
  | placeholder (text : String)
  /-- A quoted word where only a value can stand. -/
  | quotedWord (text : String)
deriving DecidableEq, Repr, Inhabited

inductive UnaryOperator where
  | plus
  | minus
  | negation
  /-- The factorial, written behind its operand. -/
  | factorial
  /-- Another operator in front of its operand. -/
  | other (spelling : String)
deriving DecidableEq, Repr, Inhabited

inductive BinaryOperator where
  | add
  | subtract
  | multiply
  | divide
  | modulo
  | concat
  | equal
  | notEqual
  | less
  | lessEqual
  | greater
  | greaterEqual
  | conjunction
  | disjunction
  /-- An operator by its name, the parts of which stand between periods. -/
  | named (parts : List String)
  | other (spelling : String)
deriving DecidableEq, Repr, Inhabited

/-- What `IS` tests for. -/
inductive TruthTest where
  | null
  | isTrue
  | isFalse
deriving DecidableEq, Repr, Inhabited

inductive SetOperator where
  | union
  | except
  | intersect
deriving DecidableEq, Repr, Inhabited

structure TableAlias where
  name : Ident
  columns : List Ident
deriving DecidableEq, Repr, Inhabited

inductive JoinSide where
  | inner
  | left
  | right
  | full
  /-- A join that keeps or drops left or right rows without combining them. -/
  | partly (spelling : String)
deriving DecidableEq, Repr, Inhabited

/-- The direction of one key of an order, as far as it is given. -/
structure Direction where
  ascending : Option Bool
  nullsFirst : Option Bool
deriving DecidableEq, Repr, Inhabited

/-- What a window function does with nulls. -/
inductive NullTreatment where
  | respect
  | ignore
deriving DecidableEq, Repr, Inhabited

/-- What a call has beside its arguments. -/
structure CallHead where
  name : List Ident
  distinct : Bool
  /-- Called by its mere name, as `current_timestamp` is. -/
  bare : Bool
  nulls : Option NullTreatment
  /-- The window of a window function. -/
  window : Option Phrase
deriving DecidableEq, Repr, Inhabited

/-- The word behind an offset. -/
inductive OffsetUnit where
  | absent
  | row
  | rows
deriving DecidableEq, Repr, Inhabited

/-- What a query has behind its order and its limits. -/
structure QueryTail where
  fetch : Option Phrase
  /-- The locks on the rows. -/
  locks : List Phrase
  /-- The form in which the rows are wanted. -/
  output : Option Phrase
deriving DecidableEq, Repr, Inhabited

namespace QueryTail

def empty : QueryTail := ⟨none, [], none⟩

end QueryTail

/-- The clauses of a select from which nothing is computed. -/
structure SelectExtras where
  /-- A limit in front of the items. -/
  top : Option Phrase
  /-- Views behind the tables, one for each row. -/
  views : List Phrase
  clusterBy : List Phrase
  distributeBy : List Phrase
  sortBy : List Phrase
  /-- Windows with names. -/
  windows : List Phrase
  qualify : Option Phrase
deriving DecidableEq, Repr, Inhabited

mutual

inductive Term where
  | name (id : Ident)
  /-- A dotted name. -/
  | path (parts : List Ident)
  | constant (value : Constant)
  /-- A term in parentheses. -/
  | nested (term : Term)
  /-- A text that a type name introduces. -/
  | typed (type : Phrase) (text : String)
  | cast (term : Term) (type : Phrase) (format : Option Phrase)
  | unary (operator : UnaryOperator) (operand : Term)
  | binary (left : Term) (operator : BinaryOperator) (right : Term)
  | is (term : Term) (test : TruthTest) (negated : Bool)
  | inList (term : Term) (items : List Term) (negated : Bool)
  | inQuery (term : Term) (query : Query) (negated : Bool)
  | exists (query : Query) (negated : Bool)
  | subquery (query : Query)
  | between (term low high : Term) (negated : Bool)
  | like (term pattern : Term) (escape : Option Char) (negated insensitive : Bool)
  | case (operand : Option Term) (branches : List (Term × Term)) (otherwise : Option Term)
  | call (head : CallHead) (args : List Argument) (orderBy : List OrderTerm)
      (filter : Option Term)
  | arrayAgg (distinct : Bool) (term : Term) (orderBy : List OrderTerm) (limit : Option Term)
  | array (items : List Term) (named : Bool)
  | subscript (term : Term) (indexes : List Term)
  | json (left : Term) (operator : String) (right : Term)
  | unsupported (phrase : Phrase)

/-- An argument of a call, with its label in `f(label => value)`. -/
inductive Argument where
  | term (label : Option Ident) (term : Term)
  | star (label : Option Ident)
  | tableStar (label : Option Ident) (table : List Ident)

inductive OrderTerm where
  | mk (term : Term) (direction : Direction)

/-- A query: its named queries, its rows, and what happens to them in the end. -/
inductive Query where
  | mk (recursive : Bool) (bindings : List Binding) (body : Body) (orderBy : List OrderTerm)
      (limit offset : Option Term) (unit : OffsetUnit) (tail : QueryTail)

/-- A named query in front of another one, and the word behind it that another dialect has. -/
inductive Binding where
  | mk (knownAs : TableAlias) (query : Query) (source : Option Ident)

inductive Body where
  | select (select : Select)
  | query (query : Query)
  /-- A list of rows, each of them behind the word `ROW` if they are marked. -/
  | values (marked : Bool) (rows : List (List Term))
  | combined (left : Body) (operator : SetOperator) (quantifier : String) (right : Body)
  /-- A statement that changes data, which has no meaning inside another query. -/
  | change (text : String)
  | unsupported (phrase : Phrase)

/-- A select. No list of keys stands for `GROUP BY ALL`, an empty one for no grouping. -/
inductive Select where
  | mk (distinct : Bool) (distinctOn : Option (List Term)) (items : List SelectItem)
      (into : Option Phrase) (source : List TableTerm) (condition : Option Term)
      (groupBy : Option (List Term)) (having : Option Term) (extras : SelectExtras)

inductive SelectItem where
  | term (term : Term) (knownAs : Option Ident)
  | star
  | tableStar (table : List Ident)

/-- A table, or a tree of joins that grows to the left. -/
inductive TableTerm where
  /-- A table by its name, or a call that stands for one. -/
  | named (name : List Ident) (args : Option (List Argument)) (knownAs : Option TableAlias)
      (hints : List Term)
  | derived (lateral : Bool) (query : Query) (knownAs : Option TableAlias)
  /-- Joins in parentheses. -/
  | nested (tables : TableTerm) (knownAs : Option TableAlias)
  | cross (left right : TableTerm)
  | join (left : TableTerm) (side : JoinSide) (right : TableTerm) (condition : Option Term)
  | joinUsing (left : TableTerm) (side : JoinSide) (right : TableTerm) (columns : List Ident)
  | joinNatural (left : TableTerm) (side : JoinSide) (right : TableTerm)
  | apply (left right : TableTerm) (outer : Bool)
  | unsupported (phrase : Phrase)

end

instance : Inhabited Term := ⟨.constant .null⟩

end Sql

end SqlEngine
