import SqlEngine.Json.Order
import SqlEngine.Text.Case
import SqlEngine.Types.SqlType
import SqlEngine.Value.Basic

/-!
Orders of values.

`Value.order` compares any two values whatever their types; it orders the keys of groups, distinct
sets and indexes. `SqlType.compare?` is the order that queries see: it follows the type, and
`SqlType.canonical` maps values to keys so that the two agree.
-/

namespace SqlEngine

/-- Lexicographic comparison; a list comes before its extensions. -/
def compareLists {α : Type} (cmp : α → α → Ordering) : List α → List α → Ordering
  | [], [] => .eq
  | [], _ :: _ => .lt
  | _ :: _, [] => .gt
  | a :: as, b :: bs => (cmp a b).then (compareLists cmp as bs)

def Point.order (a b : Point) : Ordering := (a.x.totalCompare b.x).then (a.y.totalCompare b.y)

def Segment.order (a b : Segment) : Ordering := (a.a.order b.a).then (a.b.order b.b)

def Rectangle.order (a b : Rectangle) : Ordering := (a.high.order b.high).then (a.low.order b.low)

def Circle.order (a b : Circle) : Ordering :=
  (a.center.order b.center).then (a.radius.totalCompare b.radius)

/-- Numbers come before names. -/
def Handle.order : Handle → Handle → Ordering
  | id a, id b => compare a b
  | name a, name b => compare a b
  | id _, name _ => .lt
  | name _, id _ => .gt

namespace Value

/-- Order of the kinds of values; integers and floats share a place. -/
def rank : Value → Nat
  | null => 0
  | bool _ => 1
  | int _ | float _ => 2
  | text _ => 3
  | bytea _ => 4
  | timestamp _ => 5
  | date _ => 6
  | time _ => 7
  | uuid _ => 8
  | json _ => 9
  | array _ => 10
  | point _ => 11
  | segment _ => 12
  | rectangle _ => 13
  | circle _ => 14
  | handle _ => 15

mutual

/-- The order of all values. -/
def order : Value → Value → Ordering
  | bool a, bool b => compare a b
  | int a, int b => compare a b
  | int a, float b => (Double.ofInt a).totalCompare b
  | float a, int b => a.totalCompare (Double.ofInt b)
  | float a, float b => a.totalCompare b
  | text a, text b => compare a b
  | bytea a, bytea b => compareLists compare a b
  | timestamp a, timestamp b => a.compare b
  | date a, date b => compare a.day b.day
  | time a, time b => a.compare b
  | uuid a, uuid b => compare a.bits.toNat b.bits.toNat
  | json a, json b => a.order b
  | array a, array b => orderItems a b
  | point a, point b => a.order b
  | segment a, segment b => a.order b
  | rectangle a, rectangle b => a.order b
  | circle a, circle b => a.order b
  | handle a, handle b => a.order b
  | a, b => compare a.rank b.rank

/-- Lexicographic order of lists of values. -/
def orderItems : List Value → List Value → Ordering
  | [], [] => .eq
  | [], _ :: _ => .lt
  | _ :: _, [] => .gt
  | a :: as, b :: bs => (order a b).then (orderItems as bs)

end

/-- Order of rows, used wherever rows are grouped, made distinct or indexed. -/
def orderRows (a b : Row) : Ordering := orderItems a b

end Value

namespace SqlType

mutual

/-- Order of two values of a type, neither of them NULL. -/
def compareNonNull : SqlType → Value → Value → Ordering
  | citext, .text a, .text b => compare (Text.lower a) (Text.lower b)
  | enum declared, .text a, .text b =>
    match declared.position? a, declared.position? b with
    | some i, some j => compare i j
    | _, _ => compare a b
  | array element, .array a, .array b => compareItems element a b
  | _, a, b => a.order b

/-- Lexicographic order of items of a type; NULL comes first. -/
def compareItems : SqlType → List Value → List Value → Ordering
  | _, [], [] => .eq
  | _, [], _ :: _ => .lt
  | _, _ :: _, [] => .gt
  | type, a :: as, b :: bs =>
    let first : Ordering := match a.isNull, b.isNull with
      | true, true => .eq
      | true, false => .lt
      | false, true => .gt
      | false, false => compareNonNull type a b
    first.then (compareItems type as bs)

end

/-- Order of two values of a type; `none` when either is NULL. -/
def compare? (type : SqlType) (a b : Value) : Option Ordering :=
  if a.isNull || b.isNull then none else some (type.compareNonNull a b)

/-- Equality of two values of a type; `none` when either is NULL. -/
def equals? (type : SqlType) (a b : Value) : Option Bool := (type.compare? a b).map (· == .eq)

mutual

/-- The form of a value used in keys: lower case for citext, the label's place for enums. -/
def canonical : SqlType → Value → Value
  | citext, .text s => .text (Text.lower s)
  | enum declared, .text s =>
    match declared.position? s with
    | some i => .int i
    | none => .text s
  | array element, .array items => .array (canonicalItems element items)
  | _, v => v

def canonicalItems : SqlType → List Value → List Value
  | _, [] => []
  | type, v :: rest => canonical type v :: canonicalItems type rest

end

/-- Is the order of the values of the type total? That of documents is not even transitive. -/
def hasTotalOrder : SqlType → Bool
  | json | jsonb => false
  | array element => element.hasTotalOrder
  | _ => true

end SqlType

end SqlEngine
