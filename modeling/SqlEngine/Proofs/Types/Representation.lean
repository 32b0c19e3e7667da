import SqlEngine.Types.Conversion

/-!
Which values represent a type.

NULL stands under every type. An array type has the arrays made of NULL, of values of its element
type, and of such arrays again, so that one dimension of the type admits any number of dimensions of
the value.
-/

namespace SqlEngine

/-- The numbers of types and relations have 32 bits. -/
def Handle.fits : Handle → Bool
  | .id number => number < Nat.pow 2 32
  | .name _ => true

namespace SqlType

/-- Values of a type without items; NULL apart. -/
def includesScalar : SqlType → Value → Bool
  | bool, .bool _ => true
  | integer, .int i => Numeral.fitsInt64 i
  | float, .float _ => true
  | text limit, .text s => limit.all (s.toList.length ≤ ·)
  | citext, .text _ => true
  | bytea, .bytea _ => true
  | timestamp, .timestamp _ => true
  | date, .date _ => true
  | time, .time _ => true
  | uuid, .uuid _ => true
  | json, .json _ => true
  | jsonb, .json _ => true
  | regtype, .handle h => h.fits
  | regclass, .handle h => h.fits
  | point, .point _ => true
  | lseg, .segment _ => true
  | box, .rectangle _ => true
  | circle, .circle _ => true
  | enum declared, .text s => (declared.position? s).isSome
  | _, _ => false

mutual

/-- Is the value one of the type? -/
def includes : SqlType → Value → Bool
  | _, .null => true
  | array element, .array items => includesItems element items
  | type, v => type.includesScalar v

/-- Can the values be the items of an array over the element type? -/
def includesItems : SqlType → List Value → Bool
  | _, [] => true
  | element, v :: rest =>
    (includes element v || includes element.array v) && includesItems element rest

end

variable {type source target element other : SqlType} {v : Value}

@[simp]
theorem includes_null (type : SqlType) : type.includes .null := by
  cases type <;> rfl

@[simp]
theorem includes_int (i : Int) : integer.includes (.int i) = Numeral.fitsInt64 i := rfl

@[simp]
theorem includes_boundedText (limit : Nat) (s : String) :
    (text (some limit)).includes (.text s) = decide (s.toList.length ≤ limit) := rfl

@[simp]
theorem includes_enum (declared : EnumDef) (s : String) :
    (enum declared).includes (.text s) = (declared.position? s).isSome := rfl

theorem includesItems_iff {items : List Value} :
    includesItems element items ↔ ∀ v ∈ items, element.includes v ∨ element.array.includes v := by
  induction items with
  | nil => simp [includesItems]
  | cons v rest ih => simp [includesItems, ih]

theorem includes_array_iff {items : List Value} :
    element.array.includes (.array items) ↔
      ∀ v ∈ items, element.includes v ∨ element.array.includes v := by
  rw [includes]
  exact includesItems_iff

theorem includes_text_unbounded (given : citext.includes v) : (text none).includes v := by
  cases v with
  | null | text s => rfl
  | _ => cases given

theorem includes_citext_of_text {limit : Option Nat} (given : (text limit).includes v) :
    citext.includes v := by
  cases v with
  | null | text s => rfl
  | _ => cases given

theorem includes_citext_of_enum {declared : EnumDef} (given : (enum declared).includes v) :
    citext.includes v := by
  cases v with
  | null | text s => rfl
  | _ => cases given

theorem includes_text_mono {limit bound : Nat} (larger : limit ≤ bound)
    (given : (text (some limit)).includes v) : (text (some bound)).includes v := by
  cases v with
  | null => rfl
  | text s =>
      rw [includes_boundedText, decide_eq_true_eq] at *
      exact Nat.le_trans given larger
  | _ => cases given

theorem includes_json_iff : json.includes v ↔ jsonb.includes v := by
  cases v <;> exact Iff.rfl

theorem not_includes_array (noItems : type.element? = none) (items : List Value) :
    type.includes (.array items) = false := by
  cases type <;> first | rfl | cases noItems

theorem includes_of_isNull (isNull : source.isNull) (given : source.includes v) : v = .null := by
  cases source with
  | null => cases v <;> first | rfl | cases given
  | _ => cases isNull

theorem includes_array_cases (given : element.array.includes v) :
    v = .null ∨ ∃ items, v = .array items := by
  cases v with
  | null => exact .inl rfl
  | array items => exact .inr ⟨items, rfl⟩
  | _ => cases given

mutual

/-- An array of more dimensions is one of fewer. -/
theorem includes_of_nested (v : Value) (given : element.array.array.includes v) :
    element.array.includes v := by
  cases v with
  | null => exact includes_null _
  | array items =>
      refine includes_array_iff.mpr fun v member => .inr ?_
      exact includesItems_of_nested items (includes_array_iff.mp given) v member
  | _ => cases given

theorem includesItems_of_nested (items : List Value)
    (each : ∀ v ∈ items, element.array.includes v ∨ element.array.array.includes v) :
    ∀ v ∈ items, element.array.includes v := by
  cases items with
  | nil => simp
  | cons v rest =>
      obtain ⟨first, others⟩ := List.forall_mem_cons.mp each
      exact List.forall_mem_cons.mpr
        ⟨first.elim id (includes_of_nested v), includesItems_of_nested rest others⟩

end

mutual

theorem includes_array_mono (wider : ∀ v, source.includes v → target.includes v) (v : Value)
    (given : source.array.includes v) : target.array.includes v := by
  cases v with
  | null => exact includes_null _
  | array items =>
      refine includes_array_iff.mpr ?_
      exact includesItems_mono wider items (includes_array_iff.mp given)
  | _ => cases given

theorem includesItems_mono (wider : ∀ v, source.includes v → target.includes v)
    (items : List Value) (each : ∀ v ∈ items, source.includes v ∨ source.array.includes v) :
    ∀ v ∈ items, target.includes v ∨ target.array.includes v := by
  cases items with
  | nil => simp
  | cons v rest =>
      obtain ⟨first, others⟩ := List.forall_mem_cons.mp each
      exact List.forall_mem_cons.mpr
        ⟨first.imp (wider v) (includes_array_mono wider v), includesItems_mono wider rest others⟩

end

end SqlType

end SqlEngine
