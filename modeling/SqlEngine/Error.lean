import SqlEngine.Json.Reader
import SqlEngine.Types.SqlType

/-!
Errors: the causes for which a statement fails, their classification and their wording.
-/

namespace SqlEngine

/-- Why a statement that can be read cannot be carried out. -/
inductive QueryError where
  | integerOutOfRange
  | divisionByZero
  | valueTooLong (limit : Nat)
  | invalidInteger (text : String)
  | invalidFloat (text : String)
  /-- A numeric literal that no number type can hold. -/
  | invalidNumeric (text : String)
  | invalidBigint (text : String)
  | invalidTimestamp (text : String)
  | invalidDate (text : String)
  | invalidTime (text : String)
  | invalidJson (fault : Json.ReadError)
  | invalidEnumLabel (enum label : String)
  | malformedArray (text : String)
  | negative (what : String)
  | tooManyDottedNames (name : String)
  | relationExists (name : String)
  | schemaExists (name : String)
  | schemaMissing (name : String)
  | typeExists (name : String)
  | extensionExists
  | extensionMissing (name : String)
  /-- A relation of another kind than the statement asks for. -/
  | wrongRelationKind (name expected found : String)
  | fromEntryMissing (table : String)
  | columnMissing (column : String)
  | qualifiedColumnMissing (table column : String)
  | relationColumnMissing (column relation : String)
  | relationColumnExists (column relation : String)
  | keyColumnMissing (column : String)
  | usingColumnMissing (column side : String)
  | columnAmbiguous (column : String)
  | columnRepeated (column : String)
  | assignmentRepeated (column : String)
  | withNameRepeated (name : String)
  | enumLabelRepeated (label : String)
  | settingMissing (name : String)
  | functionMissing (name args : String)
  | operatorMissing (left operator right : String)
  | unaryOperatorMissing (operator operand : String)
  | notBoolean (type : String)
  | notSubscriptable (type : String)
  | aggregateMisplaced (call : String)
  | distinctNotAggregate (function : String)
  | ungroupedColumn (column : String)
  | subqueryColumns
  | subqueryNoColumn
  | subqueryRows
  | unionColumns
  | valuesLengths
  | withoutReturning (name : String)
  | aliasColumns (table : String) (available specified : Nat)
  /-- A position in a list of keys, such as `GROUP BY 2`, outside the select list. -/
  | positionMissing (clause position : String)
  | orderAmbiguous (name : String)
  | noRows
  | tooManyExpressions
  | tooFewExpressions
  | notNullViolated (column : String)
  | uniqueViolated (index : String)
  | checkViolated (relation check : String)
  | conflictTargetMissing
  | conflictConstraintMissing (constraint table : String)
  | conflictTargetRequired
  | primaryKeyRepeated (table : String)
  | primaryKeyColumn (column : String)
  | columnHoldsNull (column relation : String)
  | constraintMissing (constraint relation : String)
  | checkViolatedByRow (check relation : String)
  | uniqueIndexFailed (index : String)
  | sequenceType (type : String)
  | zeroIncrement
  | emptyRange (min max : Int)
  | startBelowMin (start min : Int)
  | startAboveMax (start max : Int)
  | emptyCache (cache : Int)
  | sequenceExhausted (bound sequence : String) (limit : Int)
  | currentUndefined (sequence : String)
  | setOutOfBounds (value : Int) (sequence : String) (min max : Int)
  | emptyDefaultSchema
  | emptySearchPathEntry
  | zeroCacheCapacity
  /-- An error raised by a function that the host program registered. -/
  | custom (text : String)
deriving DecidableEq, Repr

namespace QueryError

def message : QueryError → String
  | integerOutOfRange => "integer out of range"
  | divisionByZero => "division by zero"
  | valueTooLong limit => s!"value too long for type character varying({limit})"
  | invalidInteger text => s!"invalid input syntax for integer: {text}"
  | invalidFloat text => s!"invalid input syntax for float: {text}"
  | invalidNumeric text => s!"invalid input syntax for type numeric: {text}"
  | invalidBigint text => s!"invalid input syntax for type bigint: {text}"
  | invalidTimestamp text => s!"Invalid timestamp format: {text}"
  | invalidDate text => s!"Invalid date format: {text}"
  | invalidTime text => s!"Invalid time format: {text}"
  | invalidJson fault => s!"invalid input syntax for type json: {fault.message}"
  | invalidEnumLabel enum label => s!"invalid input value for enum {enum}: \"{label}\""
  | malformedArray text => s!"malformed array literal: \"{text}\""
  | negative what => s!"{what} must not be negative"
  | tooManyDottedNames name => s!"improper qualified name (too many dotted names): {name}"
  | relationExists name => s!"relation \"{name}\" already exists"
  | schemaExists name => s!"schema \"{name}\" already exists"
  | schemaMissing name => s!"schema \"{name}\" does not exist"
  | typeExists name => s!"type \"{name}\" already exists"
  | extensionExists => "Extension already created !"
  | extensionMissing name => s!"extension \"{name}\" is not available"
  | wrongRelationKind name expected found => s!"\"{name}\" is not a {expected} but a {found}"
  | fromEntryMissing table => s!"missing FROM-clause entry for table \"{table}\""
  | columnMissing column => s!"column \"{column}\" does not exist"
  | qualifiedColumnMissing table column => s!"column {table}.{column} does not exist"
  | relationColumnMissing column relation =>
    s!"column \"{column}\" of relation \"{relation}\" does not exist"
  | relationColumnExists column relation =>
    s!"column \"{column}\" of relation \"{relation}\" already exists"
  | keyColumnMissing column => s!"column \"{column}\" named in key does not exist"
  | usingColumnMissing column side =>
    s!"column \"{column}\" specified in USING clause does not exist in {side} table"
  | columnAmbiguous column => s!"column reference \"{column}\" is ambiguous"
  | columnRepeated column => s!"column \"{column}\" specified more than once"
  | assignmentRepeated column => s!"multiple assignments to same column \"{column}\""
  | withNameRepeated name => s!"WITH query name \"{name}\" specified more than once"
  | enumLabelRepeated label => s!"enum label \"{label}\" used more than once"
  | settingMissing name => s!"unrecognized configuration parameter \"{name}\""
  | functionMissing name args => s!"function {name}({args}) does not exist"
  | operatorMissing left operator right => s!"operator does not exist: {left} {operator} {right}"
  | unaryOperatorMissing operator operand => s!"operator does not exist: {operator} {operand}"
  | notBoolean type => s!"argument of boolean expression must be type boolean, not type {type}"
  | notSubscriptable type => s!"cannot subscript type {type} because it is not an array"
  | aggregateMisplaced call => s!"aggregate functions are not allowed here: {call}"
  | distinctNotAggregate function =>
    s!"DISTINCT specified, but {function} is not an aggregate function"
  | ungroupedColumn column =>
    s!"column \"{column}\" must appear in the GROUP BY clause or be used in an aggregate function"
  | subqueryColumns => "subquery must return only one column"
  | subqueryNoColumn => "subquery must return a column"
  | subqueryRows => "more than one row returned by a subquery used as an expression"
  | unionColumns => "each UNION query must have the same number of columns"
  | valuesLengths => "VALUES lists must all be the same length"
  | withoutReturning name => s!"WITH query \"{name}\" does not have a RETURNING clause"
  | aliasColumns table available specified =>
    s!"table \"{table}\" has {available} columns available but {specified} columns specified"
  | positionMissing clause position => s!"{clause}position {position} is not in select list"
  | orderAmbiguous name => s!"ORDER BY \"{name}\" is ambiguous"
  | noRows => "query returned no rows"
  | tooManyExpressions => "INSERT has more expressions than target columns"
  | tooFewExpressions => "INSERT has more target columns than expressions"
  | notNullViolated column => s!"null value in column \"{column}\" violates not-null constraint"
  | uniqueViolated index => s!"duplicate key value violates unique constraint \"{index}\""
  | checkViolated relation check =>
    s!"new row for relation \"{relation}\" violates check constraint \"{check}\""
  | conflictTargetMissing =>
    "there is no unique or exclusion constraint matching the ON CONFLICT specification"
  | conflictConstraintMissing constraint table =>
    s!"constraint \"{constraint}\" for table \"{table}\" does not exist"
  | conflictTargetRequired =>
    "ON CONFLICT DO UPDATE requires inference specification or constraint name"
  | primaryKeyRepeated table => s!"multiple primary keys for table \"{table}\" are not allowed"
  | primaryKeyColumn column => s!"column \"{column}\" is in a primary key"
  | columnHoldsNull column relation =>
    s!"column \"{column}\" of relation \"{relation}\" contains null values"
  | constraintMissing constraint relation =>
    s!"constraint \"{constraint}\" of relation \"{relation}\" does not exist"
  | checkViolatedByRow check relation =>
    s!"check constraint \"{check}\" of relation \"{relation}\" is violated by some row"
  | uniqueIndexFailed index => s!"could not create unique index \"{index}\""
  | sequenceType type => s!"sequence type must be smallint, integer, or bigint, got {type}"
  | zeroIncrement => "INCREMENT must not be zero"
  | emptyRange min max => s!"MINVALUE ({min}) must be less than MAXVALUE ({max})"
  | startBelowMin start min => s!"START value ({start}) cannot be less than MINVALUE ({min})"
  | startAboveMax start max => s!"START value ({start}) cannot be greater than MAXVALUE ({max})"
  | emptyCache cache => s!"CACHE ({cache}) must be greater than zero"
  | sequenceExhausted bound sequence limit =>
    s!"nextval: reached {bound} value of sequence \"{sequence}\" ({limit})"
  | currentUndefined sequence =>
    s!"currval of sequence \"{sequence}\" is not yet defined in this session"
  | setOutOfBounds value sequence min max =>
    s!"setval: value {value} is out of bounds for sequence \"{sequence}\" ({min}..{max})"
  | emptyDefaultSchema => "default schema name must not be empty"
  | emptySearchPathEntry => "search path entries must not be empty"
  | zeroCacheCapacity => "parse cache capacity must be positive"
  | custom text => text

end QueryError

/-- The classes of errors, for programs that handle them. -/
inductive ErrorKind where
  | cast
  | query
  | notSupported
  | relationNotFound
  | typeNotFound
  | permissionDenied
  | parse
  | internal
deriving DecidableEq, Repr, Inhabited

/-- Why a text cannot be read as SQL. -/
inductive SyntaxError where
  /-- The general grammar of SQL does not accept the text. -/
  | grammar
  /-- One of the engine's own statement forms does not accept the text. -/
  | statement (message : String)
deriving DecidableEq, Repr, Inhabited

def SyntaxError.message : SyntaxError → String
  | grammar => "sql parser error"
  | statement message => message

inductive SqlError where
  /-- No conversion between two types, or a text that the target type cannot read. -/
  | cast (source target : TypeKind) (context : Option String)
  | query (cause : QueryError)
  /-- A feature that is known but not there; the text names it and may be empty. -/
  | notSupported (feature : String)
  | relationNotFound (name : String)
  | typeNotFound (name : String)
  /-- A change of a schema that is read-only. -/
  | permissionDenied (schema : String)
  | parse (cause : SyntaxError)
  /-- A broken invariant. -/
  | internal (what : String)
deriving DecidableEq, Repr

namespace SqlError

def kind : SqlError → ErrorKind
  | cast .. => .cast
  | query _ => .query
  | notSupported _ => .notSupported
  | relationNotFound _ => .relationNotFound
  | typeNotFound _ => .typeNotFound
  | permissionDenied _ => .permissionDenied
  | parse _ => .parse
  | internal _ => .internal

def message : SqlError → String
  | cast source target context =>
    s!"cannot cast type {source.name} to {target.name}"
      ++ (context.map (" in " ++ ·)).getD ""
  | query cause => cause.message
  | notSupported feature =>
    if feature.isEmpty then "not supported" else s!"not supported: {feature}"
  | relationNotFound name => s!"relation \"{name}\" does not exist"
  | typeNotFound name => s!"type \"{name}\" does not exist"
  | permissionDenied schema => s!"permission denied: schema \"{schema}\" is read-only"
  | parse cause => s!"syntax error: {cause.message}"
  | internal what => s!"internal error: {what}"

end SqlError

/-- Where a statement begins in the submitted text; both are counted from one. -/
structure Place where
  line : Nat
  column : Nat
deriving DecidableEq, Repr, Inhabited

/-- An error with the statement that raised it, as far as it is known. -/
structure ExecError where
  error : SqlError
  place : Option Place
  statement : Option String
deriving DecidableEq, Repr

namespace ExecError

/-- An error raised outside any statement. -/
def bare (error : SqlError) : ExecError := ⟨error, none, none⟩

def message (e : ExecError) : String :=
  e.error.message
    ++ (e.place.map fun p => s!" (at line {p.line}, column {p.column})").getD ""
    ++ (e.statement.map ("\n  failed statement: " ++ ·)).getD ""

end ExecError

end SqlEngine
