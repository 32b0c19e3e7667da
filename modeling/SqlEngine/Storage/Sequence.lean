import SqlEngine.Error
import SqlEngine.Number.Reading

/-!
Sequences: numbers handed out one after the other within bounds.

The definition of a sequence is part of the catalog; its counter is data, so that rolling a
transaction back also takes back the numbers it drew.
-/

namespace SqlEngine

/-- A clause of a statement that creates or alters a sequence. -/
inductive SequenceClause where
  | as (type : String)
  | increment (by_ : Int)
  /-- The least number; `none` asks for the default. -/
  | minValue (value : Option Int)
  | maxValue (value : Option Int)
  | start (value : Int)
  /-- Begins again, at the given number or at the start. -/
  | restart (value : Option Int)
  | cache (size : Int)
  | cycle (on : Bool)
  /-- The column that the sequence belongs to, if any. -/
  | ownedBy (column : Option String)
deriving DecidableEq, Repr, Inhabited

structure SequenceOptions where
  type : String := "bigint"
  increment : Int := 1
  min : Int := 1
  max : Int := Numeral.maxInt64
  start : Int := 1
  cache : Int := 1
  cycle : Bool := false
  ownedBy : Option String := none
deriving DecidableEq, Repr, Inhabited

namespace SequenceOptions

/-- The largest number of a type that sequences may have. -/
def typeBound? (type : String) : Option Int :=
  ([("smallint", 15), ("int2", 15), ("integer", 31), ("int", 31), ("int4", 31), ("bigint", 63),
    ("int8", 63)].lookup type).map fun bits => Nat.pow 2 bits - 1

def typeBound (type : String) : Except SqlError Int :=
  match typeBound? type with
  | some bound => .ok bound
  | none => .error (.query (.sequenceType type))

def defaultMin (ascending : Bool) (bound : Int) : Int := if ascending then 1 else -bound

def defaultMax (ascending : Bool) (bound : Int) : Int := if ascending then bound else -1

/-- What the clauses ask for: options set at once, and bounds and starts settled afterwards. The
outer option tells whether there was such a clause. -/
structure Request where
  options : SequenceOptions
  min : Option (Option Int) := none
  max : Option (Option Int) := none
  start : Option Int := none
  restart : Option (Option Int) := none

namespace Request

def add (r : Request) : SequenceClause → Except SqlError Request
  | .as type => do
    let _ ← typeBound type
    return { r with options := { r.options with type } }
  | .increment n => .ok { r with options := { r.options with increment := n } }
  | .minValue v => .ok { r with min := some v }
  | .maxValue v => .ok { r with max := some v }
  | .start v => .ok { r with start := some v }
  | .restart v => .ok { r with restart := some v }
  | .cache n => .ok { r with options := { r.options with cache := n } }
  | .cycle on => .ok { r with options := { r.options with cycle := on } }
  | .ownedBy column => .ok { r with options := { r.options with ownedBy := column } }

/-- A bound: the number asked for, the default if that was asked for, else what was there. -/
def bound (asked : Option (Option Int)) (held? : Option Int) (default : Int) : Int :=
  match asked with
  | some (some v) => v
  | some none => default
  | none => held?.getD default

/-- The options with bounds and start settled. When creating, nothing is there before. -/
def settle (r : Request) (creating : Bool) (limit : Int) : SequenceOptions :=
  let o := r.options
  let ascending := 0 < o.increment
  let held (v : Int) : Option Int := if creating then none else some v
  let min := bound r.min (held o.min) (defaultMin ascending limit)
  let max := bound r.max (held o.max) (defaultMax ascending limit)
  let start := r.start.getD ((held o.start).getD (if ascending then min else max))
  { o with min, max, start }

end Request

/-- Checks bounds, start and cache. -/
def validate (o : SequenceOptions) : Except SqlError SequenceOptions :=
  if o.max ≤ o.min then .error (.query (.emptyRange o.min o.max))
  else if o.start < o.min then .error (.query (.startBelowMin o.start o.min))
  else if o.max < o.start then .error (.query (.startAboveMax o.start o.max))
  else if o.cache < 1 then .error (.query (.emptyCache o.cache))
  else .ok o

/-- Applies clauses to options; also gives what a restart clause asked for. -/
def change (o : SequenceOptions) (clauses : List SequenceClause) (creating : Bool) :
    Except SqlError (SequenceOptions × Option (Option Int)) := do
  let request ← clauses.foldlM Request.add { options := o }
  if request.options.increment == 0 then throw (.query .zeroIncrement)
  let limit ← typeBound request.options.type
  let settled ← validate (request.settle creating limit)
  return (settled, request.restart)

/-- The options of a new sequence. -/
def create (clauses : List SequenceClause) : Except SqlError SequenceOptions :=
  return (← change {} clauses true).1

/-- The options of a sequence after a statement that alters it, and the restart asked for. -/
def alter (o : SequenceOptions) (clauses : List SequenceClause) :
    Except SqlError (SequenceOptions × Option (Option Int)) :=
  change o clauses false

end SequenceOptions

structure SequenceDef where
  id : Nat
  schema : String
  name : String
  options : SequenceOptions
deriving DecidableEq, Repr, Inhabited

/-- The counter of a sequence. -/
structure SequenceState where
  /-- The last number handed out, or the next one if it was not called yet. -/
  lastValue : Int
  isCalled : Bool
  /-- The number drawn last in this session. -/
  current : Option Int
deriving DecidableEq, Repr, Inhabited

def SequenceState.fresh (o : SequenceOptions) : SequenceState := ⟨o.start, false, none⟩

namespace SequenceDef

/-- The number after the last one; a sequence that cycles begins again behind its bound. A sum that
does not fit into 64 bits counts as out of bounds. -/
def following (d : SequenceDef) (last : Int) : Except SqlError Int :=
  let o := d.options
  let v := last + o.increment
  if Numeral.fitsInt64 v && o.min ≤ v && v ≤ o.max then .ok v
  else if o.cycle then .ok (if 0 < o.increment then o.min else o.max)
  else .error <| .query <|
    if 0 < o.increment then .sequenceExhausted "maximum" d.name o.max
    else .sequenceExhausted "minimum" d.name o.min

/-- Draws the next number. -/
def next (d : SequenceDef) (s : SequenceState) : Except SqlError (Int × SequenceState) := do
  let value ← if s.isCalled then d.following s.lastValue else pure s.lastValue
  return (value, ⟨value, true, some value⟩)

/-- The number drawn last. -/
def current (d : SequenceDef) (s : Option SequenceState) : Except SqlError Int :=
  match s.bind (·.current) with
  | some value => .ok value
  | none => .error (.query (.currentUndefined d.name))

/-- Moves the counter within the bounds. -/
def set (d : SequenceDef) (s : SequenceState) (value : Int) (isCalled : Bool) :
    Except SqlError SequenceState :=
  let o := d.options
  if value < o.min || o.max < value then .error (.query (.setOutOfBounds value d.name o.min o.max))
  else .ok { s with lastValue := value, isCalled }

/-- Lets the counter begin again, at a number or at the start; bounds are not looked at. -/
def restart (d : SequenceDef) (s : SequenceState) (value : Option Int) : SequenceState :=
  { s with lastValue := value.getD d.options.start, isCalled := false }

end SequenceDef

end SqlEngine
