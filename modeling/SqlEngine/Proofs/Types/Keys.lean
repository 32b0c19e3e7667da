import Mathlib.Data.List.Forall2
import SqlEngine.Proofs.Storage.ValueOrder
import SqlEngine.Proofs.Types.Representation

/-!
Values as keys.

Rows are put in one class by the canonical forms of their key values. Two values of a type have equal
forms if and only if both are missing or the type's own comparison calls them equal, and forms of
values without documents are totally ordered. Both need only little of the values: the first that an
enumeration has no numbers, the second that floats and integers do not meet in one column.
-/

namespace SqlEngine

namespace Value

variable {a b : Value}

theorem eq_null_of_isNull (missing : a.isNull) : a = .null := by
  cases a <;> first | rfl | contradiction

theorem order_of_isNull (missingA : a.isNull) (missingB : b.isNull) : a.order b = .eq := by
  rw [eq_null_of_isNull missingA, eq_null_of_isNull missingB]
  rfl

end Value

namespace SqlType

/-- The type of what arrays of the type are made of, through all dimensions. -/
def base : SqlType → SqlType
  | array element => element.base
  | type => type

/-- Are keys of the type made of floats? -/
def hasFloats (type : SqlType) : Bool := type.base == .float

/-- Can the value be a key of the type? No document is in it, floats stand under the type of floats
only and integers elsewhere, and there are no numbers of any kind under an enumeration. Arrays may
nest deeper than the type says. -/
def Keys (type : SqlType) (v : Value) : Prop :=
  v.fits type.hasFloats ∧ (type.base.kind = .enum → v.fits true)

instance (type : SqlType) (v : Value) : Decidable (type.Keys v) :=
  inferInstanceAs (Decidable (v.fits type.hasFloats ∧ (type.base.kind = .enum → v.fits true)))

variable {type element : SqlType} {v a b : Value}

theorem keys_null : type.Keys .null := ⟨rfl, fun _ => rfl⟩

theorem keys_items {items : List Value} : type.Keys (.array items) ↔ ∀ v ∈ items, type.Keys v := by
  simp only [Keys, Value.fits, Value.fitsAll_iff]
  constructor
  · rintro ⟨fit, plain⟩ v member
    exact ⟨fit v member, fun isEnum => plain isEnum v member⟩
  · intro each
    exact ⟨fun v member => (each v member).1, fun isEnum v member => (each v member).2 isEnum⟩

theorem keys_of_includesScalar (total : type.hasTotalOrder) (given : type.includesScalar v) :
    type.Keys v := by
  cases type <;> cases v <;>
    first
      | contradiction
      | exact ⟨rfl, fun _ => rfl⟩
      | exact ⟨rfl, fun isEnum => by contradiction⟩

mutual

/-- The values of a type without documents can be its keys. -/
theorem keys_of_includes {type : SqlType} (total : type.hasTotalOrder) (v : Value)
    (given : type.includes v) : type.Keys v := by
  unfold includes at given
  split at given
  · exact keys_null
  · rename_i element items
    have totalItems : element.hasTotalOrder := total
    exact keys_items.mpr (keys_of_includesItems totalItems items (includesItems_iff.mp given))
  · exact keys_of_includesScalar total given

theorem keys_of_includesItems {element : SqlType} (total : element.hasTotalOrder)
    (items : List Value) (each : ∀ v ∈ items, element.includes v ∨ element.array.includes v) :
    ∀ v ∈ items, element.Keys v := by
  cases items with
  | nil => simp
  | cons v rest =>
      obtain ⟨first, others⟩ := List.forall_mem_cons.mp each
      have totalArray : element.array.hasTotalOrder := total
      exact List.forall_mem_cons.mpr
        ⟨first.elim (keys_of_includes total v) (keys_of_includes totalArray v),
          keys_of_includesItems total rest others⟩

end

/-! ### Enumerations have no numbers -/

/-- No numbers stand under an enumeration, whose labels become numbers in keys. -/
def Unnumbered (type : SqlType) (v : Value) : Prop :=
  type.base.kind = .enum → v.fits true ∧ v.fits false

instance (type : SqlType) (v : Value) : Decidable (type.Unnumbered v) :=
  inferInstanceAs (Decidable (type.base.kind = .enum → v.fits true ∧ v.fits false))

theorem unnumbered_items {items : List Value} :
    element.array.Unnumbered (.array items) ↔ ∀ v ∈ items, element.Unnumbered v := by
  simp only [Unnumbered, Value.fits, Value.fitsAll_iff]
  constructor
  · exact fun plain v member isEnum => ⟨(plain isEnum).1 v member, (plain isEnum).2 v member⟩
  · exact fun each isEnum =>
      ⟨fun v member => (each v member isEnum).1, fun v member => (each v member isEnum).2⟩

theorem Keys.unnumbered (keys : type.Keys v) : type.Unnumbered v := by
  intro isEnum
  have noFloats : type.hasFloats = false := by
    cases floats : type.hasFloats with
    | false => rfl
    | true =>
        rw [hasFloats, beq_iff_eq] at floats
        rw [floats] at isEnum
        contradiction
  have fit := keys.1
  rw [noFloats] at fit
  exact ⟨keys.2 isEnum, fit⟩

/-- The values of a type are of this kind, documents among them. -/
theorem unnumbered_of_includes (given : type.includes v) : type.Unnumbered v := by
  intro isEnum
  have total : type.hasTotalOrder := by
    induction type generalizing v with
    | array element ih => exact ih (v := .null) (includes_null element) isEnum
    | json | jsonb => cases isEnum
    | _ => rfl
  exact (keys_of_includes total v given).unnumbered isEnum

/-! ### Canonical forms -/

theorem canonical_isNull (type : SqlType) (v : Value) : (type.canonical v).isNull = v.isNull := by
  unfold canonical
  split
  · rfl
  · split <;> rfl
  · rfl
  · rfl

mutual

theorem Keys.canonical : ∀ {type : SqlType} {v : Value}, type.Keys v →
    (type.canonical v).fits type.hasFloats
  | type, v, keys => by
      unfold SqlType.canonical
      split
      · rfl
      · split <;> rfl
      · exact (Value.fitsAll_iff _ _).mpr (canonicalItems_fit _ _ (keys_items.mp keys))
      · exact keys.1

theorem canonicalItems_fit (element : SqlType) : ∀ items : List Value,
    (∀ v ∈ items, element.Keys v) →
      ∀ v ∈ canonicalItems element items, v.fits element.hasFloats
  | [], _ => by simp [canonicalItems]
  | v :: rest, each => by
      obtain ⟨first, others⟩ := List.forall_mem_cons.mp each
      rw [canonicalItems]
      exact List.forall_mem_cons.mpr ⟨first.canonical, canonicalItems_fit element rest others⟩

end

/-! ### Equality -/

/-- A missing value is equal to missing values only. -/
theorem canonical_order_eq_iff_missing (type : SqlType) (missing : a.isNull ∨ b.isNull) :
    (type.canonical a).order (type.canonical b) = .eq ↔ a.isNull ∧ b.isNull := by
  rw [← canonical_isNull type a, ← canonical_isNull type b] at *
  constructor
  · intro equal
    have same := Value.isNull_of_order_eq equal
    exact missing.elim (fun left => ⟨left, same ▸ left⟩) fun right => ⟨same ▸ right, right⟩
  · exact fun ⟨left, right⟩ => Value.order_of_isNull left right

theorem exists_text (text : v.rank = 3) : ∃ s, v = .text s := by
  cases v <;> first | exact ⟨_, rfl⟩ | cases text

theorem exists_array (array : v.rank = 10) : ∃ items, v = .array items := by
  cases v <;> first | exact ⟨_, rfl⟩ | cases array

/-- Only the texts of an enumeration become values of another kind: numbers. -/
theorem rank_canonical (type : SqlType) (v : Value) : (type.canonical v).rank = v.rank ∨
    (type.base.kind = .enum ∧ v.rank = 3 ∧ (type.canonical v).rank = 2) := by
  unfold canonical
  split
  · exact .inl rfl
  · split
    · exact .inr ⟨rfl, rfl, rfl⟩
    · exact .inl rfl
  · exact .inl rfl
  · exact .inl rfl

theorem Unnumbered.rank_ne (plain : type.Unnumbered v) (isEnum : type.base.kind = .enum) :
    v.rank ≠ 2 := by
  obtain ⟨noInt, noFloat⟩ := plain isEnum
  cases v <;> first | contradiction | exact Nat.ne_of_beq_eq_false rfl

theorem rank_canonical_ne (plainA : type.Unnumbered a) (plainB : type.Unnumbered b)
    (different : a.rank ≠ b.rank) : (type.canonical a).rank ≠ (type.canonical b).rank := by
  rcases rank_canonical type a with sameA | ⟨isEnum, textA, numberA⟩
  · rcases rank_canonical type b with sameB | ⟨isEnum, textB, numberB⟩
    · rwa [sameA, sameB]
    · rw [sameA, numberB]
      exact plainA.rank_ne isEnum
  · rcases rank_canonical type b with sameB | ⟨_, textB, numberB⟩
    · rw [numberA, sameB]
      exact (plainB.rank_ne isEnum).symm
    · exact absurd (textA.trans textB.symm) different

theorem compareNonNull_of_rank_ne (different : a.rank ≠ b.rank) :
    type.compareNonNull a b = a.order b := by
  unfold compareNonNull
  split <;> first | exact absurd rfl different | rfl

/-- Values that are neither texts nor arrays are keys as they are, and compared as they are. -/
theorem canonical_of_rank (noText : v.rank ≠ 3) (noArray : v.rank ≠ 10) :
    type.canonical v = v := by
  unfold canonical
  split <;> first | exact absurd rfl noText | exact absurd rfl noArray | rfl

theorem compareNonNull_eq_order (noText : a.rank ≠ 3) (noArray : a.rank ≠ 10) :
    type.compareNonNull a b = a.order b := by
  unfold compareNonNull
  split <;> first | exact absurd rfl noText | exact absurd rfl noArray | rfl

theorem canonical_text_order_eq_iff (s t : String) :
    (type.canonical (.text s)).order (type.canonical (.text t)) = .eq ↔
      type.compareNonNull (.text s) (.text t) = .eq := by
  cases type with
  | citext => simp only [canonical, compareNonNull, Value.order]
  | enum declared =>
      -- a label is never equal to a text that is none
      have apart : declared.position? s ≠ declared.position? t → compare s t ≠ .eq :=
        fun different equal => different (by rw [Std.LawfulEqOrd.eq_of_compare equal])
      simp only [canonical, compareNonNull]
      cases placeS : declared.position? s with
      | none =>
          cases placeT : declared.position? t with
          | none => simp only [Value.order]
          | some j =>
              rw [placeS, placeT] at apart
              exact iff_of_false (mt Value.rank_eq_of_order_eq (Nat.ne_of_beq_eq_false rfl))
                (apart (Option.some_ne_none j).symm)
      | some i =>
          cases placeT : declared.position? t with
          | none =>
              rw [placeS, placeT] at apart
              exact iff_of_false (mt Value.rank_eq_of_order_eq (Nat.ne_of_beq_eq_false rfl))
                (apart (Option.some_ne_none i))
          | some j => simp only [Value.order, Std.LawfulEqOrd.compare_eq_iff_eq, Int.ofNat_inj]
  | _ => simp only [canonical, compareNonNull]

theorem canonicalItems_order_eq_iff
    (each : ∀ a b, element.Unnumbered a → element.Unnumbered b →
      ((element.canonical a).order (element.canonical b) = .eq ↔
        element.compareNonNull a b = .eq)) :
    ∀ {as bs : List Value}, (∀ v ∈ as, element.Unnumbered v) → (∀ v ∈ bs, element.Unnumbered v) →
      (Value.orderItems (canonicalItems element as) (canonicalItems element bs) = .eq ↔
        compareItems element as bs = .eq) := by
  intro as
  induction as with
  | nil =>
      intro bs _ _
      cases bs <;> simp [canonicalItems, compareItems, Value.orderItems]
  | cons a as ih =>
      intro bs plainA plainB
      cases bs with
      | nil => simp [canonicalItems, compareItems, Value.orderItems]
      | cons b bs =>
          obtain ⟨firstA, othersA⟩ := List.forall_mem_cons.mp plainA
          obtain ⟨firstB, othersB⟩ := List.forall_mem_cons.mp plainB
          simp only [canonicalItems, compareItems, Value.orderItems, Ordering.then_eq_eq,
            ih othersA othersB]
          refine and_congr_left fun _ => ?_
          by_cases missing : a.isNull ∨ b.isNull
          · rw [canonical_order_eq_iff_missing element missing]
            cases missingA : a.isNull <;> cases missingB : b.isNull <;> simp_all
          · obtain ⟨presentA, presentB⟩ := not_or.mp missing
            simp only [presentA, presentB]
            exact each a b firstA firstB

/-- What holds of arrays holds of all values. -/
theorem canonical_order_eq_iff_of_arrays (plainA : type.Unnumbered a) (plainB : type.Unnumbered b)
    (arrays : ∀ xs ys, type.Unnumbered (.array xs) → type.Unnumbered (.array ys) →
      ((type.canonical (.array xs)).order (type.canonical (.array ys)) = .eq ↔
        type.compareNonNull (.array xs) (.array ys) = .eq)) :
    (type.canonical a).order (type.canonical b) = .eq ↔ type.compareNonNull a b = .eq := by
  by_cases same : a.rank = b.rank
  · by_cases array : a.rank = 10
    · obtain ⟨xs, rfl⟩ := exists_array array
      obtain ⟨ys, rfl⟩ := exists_array (same ▸ array)
      exact arrays xs ys plainA plainB
    · by_cases text : a.rank = 3
      · obtain ⟨s, rfl⟩ := exists_text text
        obtain ⟨t, rfl⟩ := exists_text (same ▸ text)
        exact canonical_text_order_eq_iff s t
      · rw [canonical_of_rank text array, canonical_of_rank (same ▸ text) (same ▸ array),
          compareNonNull_eq_order text array]
  · rw [compareNonNull_of_rank_ne same]
    exact iff_of_false (mt Value.rank_eq_of_order_eq (rank_canonical_ne plainA plainB same))
      (mt Value.rank_eq_of_order_eq same)

theorem canonical_arrays_order_eq_iff (type : SqlType) :
    ∀ xs ys, type.Unnumbered (.array xs) → type.Unnumbered (.array ys) →
      ((type.canonical (.array xs)).order (type.canonical (.array ys)) = .eq ↔
        type.compareNonNull (.array xs) (.array ys) = .eq) := by
  induction type with
  | array element ih =>
      intro xs ys plainX plainY
      simp only [canonical, compareNonNull, Value.order]
      refine canonicalItems_order_eq_iff (fun a b plainA plainB => ?_) (unnumbered_items.mp plainX)
        (unnumbered_items.mp plainY)
      exact canonical_order_eq_iff_of_arrays plainA plainB ih
  | _ =>
      intro xs ys _ _
      simp only [canonical, compareNonNull]

/-- Two values have equal canonical forms if and only if they are equal under the type. -/
theorem canonical_order_eq_iff (plainA : type.Unnumbered a) (plainB : type.Unnumbered b) :
    (type.canonical a).order (type.canonical b) = .eq ↔ type.compareNonNull a b = .eq :=
  canonical_order_eq_iff_of_arrays plainA plainB (canonical_arrays_order_eq_iff type)

/-- Are two values the same to a query that leaves out repetitions? Missing values are; others are
if the comparison of the type says so. -/
def same (type : SqlType) (a b : Value) : Bool :=
  (a.isNull && b.isNull) || type.compare? a b == some .eq

theorem canonical_order_eq_iff_same (plainA : type.Unnumbered a) (plainB : type.Unnumbered b) :
    (type.canonical a).order (type.canonical b) = .eq ↔ type.same a b := by
  unfold same compare?
  by_cases missing : a.isNull ∨ b.isNull
  · rw [canonical_order_eq_iff_missing type missing]
    rcases missing with missing | missing <;> simp [missing]
  · obtain ⟨presentA, presentB⟩ := not_or.mp missing
    simpa [presentA, presentB] using canonical_order_eq_iff plainA plainB

end SqlType

/-! ### Keys of several columns -/

namespace Row

/-- The values can be keys of the types. -/
abbrev Keys (types : List SqlType) (row : Row) : Prop := List.Forall₂ SqlType.Keys types row

/-- Rows of values of types without documents can be keys. -/
theorem keys_of_includes {types : List SqlType} {row : Row}
    (total : ∀ type ∈ types, type.hasTotalOrder)
    (given : List.Forall₂ (fun type v => type.includes v) types row) : Row.Keys types row :=
  ((List.forall₂_and_left types row).mpr ⟨total, given⟩).imp fun _ v held =>
    SqlType.keys_of_includes held.1 v held.2

/-- The canonical forms of key values. -/
abbrev canonical (types : List SqlType) (row : Row) : Row := List.zipWith SqlType.canonical types row

/-- Are two rows the same in all columns to a query that leaves out repetitions? -/
def same : List SqlType → Row → Row → Bool
  | type :: types, a :: as, b :: bs => type.same a b && same types as bs
  | _, _, _ => true

variable {types : List SqlType} {a b : Row}

theorem canonical_order_eq_iff (plainA : List.Forall₂ SqlType.Unnumbered types a)
    (plainB : List.Forall₂ SqlType.Unnumbered types b) :
    Value.orderRows (canonical types a) (canonical types b) = .eq ↔ same types a b := by
  induction plainA generalizing b with
  | nil =>
      cases plainB
      simp [same, Value.orderRows, Value.orderItems]
  | cons first _ ih =>
      obtain _ | ⟨other, others⟩ := plainB
      have later := ih others
      simp only [Value.orderRows] at later
      simp only [Value.orderRows, canonical, List.zipWith_cons_cons, Value.orderItems,
        Ordering.then_eq_eq, same, Bool.and_eq_true, later,
        SqlType.canonical_order_eq_iff_same first other]

theorem canonical_order_eq_iff_same (keysA : Row.Keys types a) (keysB : Row.Keys types b) :
    Value.orderRows (canonical types a) (canonical types b) = .eq ↔ same types a b :=
  canonical_order_eq_iff (keysA.imp fun _ _ => SqlType.Keys.unnumbered)
    (keysB.imp fun _ _ => SqlType.Keys.unnumbered)

/-- A canonical form of key values of the types. -/
def Formed (types : List SqlType) : Row → Prop :=
  Value.Among fun position v => ∃ type, types[position]? = some type ∧ v.fits type.hasFloats

theorem totalOn_formed (types : List SqlType) : TotalOn Value.orderRows (Formed types) := by
  refine Value.totalOn_orderRows fun position => ?_
  cases found : types[position]? with
  | none =>
      constructor
      · rintro _ _ ⟨_, impossible, _⟩
        cases impossible
      · rintro _ _ _ ⟨_, impossible, _⟩
        cases impossible
  | some type =>
      refine (Value.totalOn_fits type.hasFloats).mono ?_
      rintro v ⟨_, there, fit⟩
      cases there
      exact fit

theorem Keys.formed (keys : Row.Keys types a) : Formed types (canonical types a) := by
  intro position v found
  obtain ⟨type, u, there, held, rfl⟩ := List.getElem?_zipWith_eq_some.mp found
  obtain ⟨inside, rfl⟩ := List.getElem?_eq_some_iff.mp there
  obtain ⟨insideRow, rfl⟩ := List.getElem?_eq_some_iff.mp held
  exact ⟨_, there, (keys.get inside insideRow).canonical⟩

end Row

end SqlEngine
