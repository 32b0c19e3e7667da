import SqlEngine.Types.SqlType
import SqlEngine.Number.Reading
import SqlEngine.Catalog.Name

/-!
References to types as written in SQL: an optional schema, a name of one or more words, numeric
parameters and array suffixes.
-/

namespace SqlEngine

structure TypeName where
  schema : Option String
  /-- The name, in lower case unless it was quoted. -/
  base : String
  params : List Nat
  /-- The number of array suffixes. -/
  dims : Nat
deriving DecidableEq, Repr, Inhabited

namespace TypeName

/-- The characters before the last opening bracket, given in reverse. -/
def beforeBracket? : List Char → Option (List Char)
  | [] => none
  | c :: rest => if c == '[' then some rest else beforeBracket? rest

theorem length_beforeBracket? {cs rest : List Char} (h : beforeBracket? cs = some rest) :
    rest.length < cs.length := by
  induction cs with
  | nil => simp [beforeBracket?] at h
  | cons c cs ih =>
    simp only [beforeBracket?] at h
    split at h
    · simp only [Option.some.injEq] at h
      simp [← h]
    · exact Nat.lt_succ_of_lt (ih h)

/-- Takes array suffixes off the reversed text: the number of them, and what is left. -/
def dropSuffixes (reversed : List Char) : Nat × List Char :=
  match reversed with
  | ']' :: rest =>
    match _found : beforeBracket? rest with
    | some inner =>
      let (dims, left) := dropSuffixes (Text.dropBlanks inner)
      (dims + 1, left)
    | none => (0, reversed)
  | _ => (0, reversed)
termination_by reversed.length
decreasing_by
  have inside := length_beforeBracket? _found
  have shorter := (List.dropWhile_sublist (p := Text.isBlank) (l := inner)).length_le
  simp only [Text.dropBlanks, List.length_cons]
  omega

/-- The numbers of a parameter list; entries that are no numbers are left out. -/
def readParams (cs : List Char) : List Nat :=
  ((cs.splitOn ',').map fun p => Numeral.nat32? (Text.trimmed (String.ofList p))).filterMap id

/-- Separates a name from its parameters. `depth` counts open parentheses. -/
def splitParams (depth : Int) (param : List Char) : List Char → List Char × List Nat
  | [] => ([], [])
  | c :: rest =>
    if c == '(' then splitParams (depth + 1) param rest
    else if c == ')' then
      let (base, params) := splitParams (depth - 1) [] rest
      (base, readParams param.reverse ++ params)
    else if 0 < depth then splitParams depth (c :: param) rest
    else
      let (base, params) := splitParams depth param rest
      (c :: base, params)

def ofText (text : String) : TypeName :=
  let (dims, reversed) := dropSuffixes (Text.trim text.toList).reverse
  let (base, params) := splitParams 0 [] reversed.reverse
  let (schema, base) := DottedName.split base
  { schema, base, params, dims }

def serialNames : List String :=
  ["serial", "bigserial", "smallserial", "serial2", "serial4", "serial8"]

def isSerial (n : TypeName) : Bool := serialNames.contains n.base

/-- The built-in types by their names, text types apart. -/
def scalarNames : List (SqlType × List String) :=
  [ (.text none, ["text", "string", "name"])
  , (.integer, ["int", "int2", "int4", "int8", "integer", "smallint", "bigint", "oid"]
      ++ serialNames)
  , (.float, ["decimal", "numeric", "real", "money", "double precision", "double", "float",
      "float4", "float8"])
  , (.timestamp, ["timestamp", "timestamptz", "timestamp with time zone",
      "timestamp without time zone", "datetime"])
  , (.date, ["date"])
  , (.time, ["time", "timetz", "time with time zone", "time without time zone"])
  , (.bool, ["bool", "boolean"])
  , (.uuid, ["uuid"])
  , (.json, ["json"])
  , (.jsonb, ["jsonb"])
  , (.bytea, ["bytea"])
  , (.regtype, ["regtype"])
  , (.regclass, ["regclass"])
  , (.citext, ["citext"])
  , (.point, ["point"])
  , (.lseg, ["lseg"])
  , (.box, ["box"])
  , (.circle, ["circle"]) ]

/-- Names of text types that may carry a bound. -/
def boundedNames : List String :=
  ["varchar", "char", "character", "character varying", "bpchar", "nvarchar"]

/-- The built-in type that a name refers to; the schema is not looked at. -/
def builtin? (n : TypeName) : Option SqlType :=
  let scalar? :=
    if boundedNames.contains n.base then some (.text n.params.head?)
    else (scalarNames.find? fun entry => entry.2.contains n.base).map (·.1)
  scalar?.map (·.nested n.dims)

end TypeName

end SqlEngine
