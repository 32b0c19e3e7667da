import SqlEngine.Expr.Operator
import SqlEngine.Proofs.Storage.TableLayout
import SqlEngine.Proofs.Types.Keys
import SqlEngine.Rows.Sorting

/-!
Keys and operators.

Indexes, unique constraints, groups and distinct sets compare the canonical forms of values;
operators and sorts compare values as their type says. Both find the same values equal. Where the
texts of enumerations are labels, both put all values in the same order, so that the order of an
index is that of a sort by its columns.
-/

namespace SqlEngine

namespace Value

variable {a b : Value}

theorem rank_null_lt (present : a.isNull = false) : null.rank < a.rank := by
  cases a <;> first | exact Nat.succ_pos _ | cases present

theorem order_of_left_missing (missing : a.isNull) (present : b.isNull = false) :
    a.order b = .lt := by
  have positive := rank_null_lt present
  rw [eq_null_of_isNull missing, order_of_rank_ne (Nat.ne_of_lt positive)]
  exact Nat.compare_eq_lt.mpr positive

theorem order_of_right_missing (present : a.isNull = false) (missing : b.isNull) :
    a.order b = .gt := by
  have positive := rank_null_lt present
  rw [eq_null_of_isNull missing, order_of_rank_ne (Nat.ne_of_gt positive)]
  exact Nat.compare_eq_gt.mpr positive

end Value

namespace SqlType

variable {type element : SqlType} {v a b : Value}

/-! ### Labels -/

mutual

/-- Are the texts that are compared as labels of an enumeration labels of it? Arrays that nest
deeper than the type says have none. -/
def labelled : SqlType → Value → Bool
  | enum declared, .text s => (declared.position? s).isSome
  | array element, .array items => labelledItems element items
  | _, _ => true

def labelledItems : SqlType → List Value → Bool
  | _, [] => true
  | element, v :: rest => labelled element v && labelledItems element rest

end

theorem labelledItems_iff {items : List Value} :
    labelledItems element items ↔ ∀ v ∈ items, element.labelled v := by
  induction items with
  | nil => simp [labelledItems]
  | cons v rest ih => simp [labelledItems, ih]

theorem labelled_array {items : List Value} :
    element.array.labelled (.array items) ↔ ∀ v ∈ items, element.labelled v := by
  rw [labelled]
  exact labelledItems_iff

theorem labelled_of_includes (type : SqlType) : ∀ v, type.includes v → type.labelled v := by
  induction type with
  | array element ih =>
      intro v given
      obtain rfl | ⟨items, rfl⟩ := includes_array_cases given
      · rfl
      · refine labelled_array.mpr fun v member => ?_
        rcases includes_array_iff.mp given v member with single | nested
        · exact ih v single
        · cases element with
          | array inner => exact ih v (includes_of_nested v nested)
          | _ => obtain rfl | ⟨items, rfl⟩ := includes_array_cases nested <;> rfl
  | enum declared =>
      intro v given
      cases v <;> first | exact given | rfl
  | _ =>
      intro v _
      cases v <;> rfl

/-! ### The same order -/

/-- Between numbers and texts there is no other kind of value. -/
theorem compare_ranks {n : Nat} (noNumber : n ≠ 2) (noText : n ≠ 3) :
    compare n 2 = compare n 3 ∧ compare 2 n = compare 3 n := by
  have below : n < 2 ↔ n < 3 := by omega
  have above : 2 < n ↔ 3 < n := by omega
  simp only [Nat.compare_eq_ite_lt, below, above, and_self]

/-- Values of different kinds keep their order, also where one is a label that becomes a number. -/
theorem canonical_order_of_rank_ne (plainA : type.Unnumbered a) (plainB : type.Unnumbered b)
    (different : a.rank ≠ b.rank) :
    (type.canonical a).order (type.canonical b) = type.compareNonNull a b := by
  rw [compareNonNull_of_rank_ne different, Value.order_of_rank_ne different,
    Value.order_of_rank_ne (rank_canonical_ne plainA plainB different)]
  rcases rank_canonical type a with sameA | ⟨isEnum, textA, numberA⟩
  · rcases rank_canonical type b with sameB | ⟨isEnum, textB, numberB⟩
    · rw [sameA, sameB]
    · rw [sameA, numberB, textB]
      exact (compare_ranks (plainA.rank_ne isEnum) (textB ▸ different)).1
  · rcases rank_canonical type b with sameB | ⟨_, textB, numberB⟩
    · rw [numberA, textA, sameB]
      exact (compare_ranks (plainB.rank_ne isEnum) (textA ▸ Ne.symm different)).2
    · exact absurd (textA.trans textB.symm) different

theorem canonical_order_of_texts {s t : String} (labelS : type.labelled (.text s))
    (labelT : type.labelled (.text t)) :
    (type.canonical (.text s)).order (type.canonical (.text t)) =
      type.compareNonNull (.text s) (.text t) := by
  cases type with
  | enum declared =>
      obtain ⟨i, placeS⟩ := Option.isSome_iff_exists.mp labelS
      obtain ⟨j, placeT⟩ := Option.isSome_iff_exists.mp labelT
      simp only [canonical, compareNonNull, placeS, placeT, Value.order, Int.compare_eq_ite_lt,
        Nat.compare_eq_ite_lt, Int.ofNat_lt]
  | _ => simp only [canonical, compareNonNull, Value.order]

/-- Two values that may be missing, the missing one before the other. -/
theorem canonical_order_missing_first
    (present : a.isNull = false → b.isNull = false →
      (type.canonical a).order (type.canonical b) = type.compareNonNull a b) :
    (type.canonical a).order (type.canonical b) =
      match a.isNull, b.isNull with
      | true, true => .eq
      | true, false => .lt
      | false, true => .gt
      | false, false => type.compareNonNull a b := by
  have missingA := canonical_isNull type a
  have missingB := canonical_isNull type b
  cases nullA : a.isNull <;> cases nullB : b.isNull <;> rw [nullA] at missingA <;>
    rw [nullB] at missingB
  · exact present nullA nullB
  · exact Value.order_of_right_missing missingA missingB
  · exact Value.order_of_left_missing missingA missingB
  · exact Value.order_of_isNull missingA missingB

theorem canonicalItems_order
    (each : ∀ a b, element.Unnumbered a → element.Unnumbered b → element.labelled a →
      element.labelled b →
        (element.canonical a).order (element.canonical b) = element.compareNonNull a b) :
    ∀ {as bs : List Value}, (∀ v ∈ as, element.Unnumbered v ∧ element.labelled v) →
      (∀ v ∈ bs, element.Unnumbered v ∧ element.labelled v) →
        Value.orderItems (canonicalItems element as) (canonicalItems element bs) =
          compareItems element as bs := by
  intro as
  induction as with
  | nil =>
      intro bs _ _
      cases bs <;> simp only [canonicalItems, compareItems, Value.orderItems]
  | cons a as ih =>
      intro bs givenA givenB
      cases bs with
      | nil => simp only [canonicalItems, compareItems, Value.orderItems]
      | cons b bs =>
          obtain ⟨⟨plainA, labelA⟩, othersA⟩ := List.forall_mem_cons.mp givenA
          obtain ⟨⟨plainB, labelB⟩, othersB⟩ := List.forall_mem_cons.mp givenB
          simp only [canonicalItems, compareItems, Value.orderItems, ih othersA othersB]
          have first := canonical_order_missing_first fun _ _ =>
            each a b plainA plainB labelA labelB
          refine congrArg (Ordering.then · _) (first.trans ?_)
          cases a.isNull <;> cases b.isNull <;> rfl

/-- What holds of arrays holds of all values. -/
theorem canonical_order_of_arrays (plainA : type.Unnumbered a) (plainB : type.Unnumbered b)
    (labelA : type.labelled a) (labelB : type.labelled b)
    (arrays : ∀ xs ys, type.Unnumbered (.array xs) → type.Unnumbered (.array ys) →
      type.labelled (.array xs) → type.labelled (.array ys) →
        (type.canonical (.array xs)).order (type.canonical (.array ys)) =
          type.compareNonNull (.array xs) (.array ys)) :
    (type.canonical a).order (type.canonical b) = type.compareNonNull a b := by
  by_cases same : a.rank = b.rank
  · by_cases array : a.rank = 10
    · obtain ⟨xs, rfl⟩ := exists_array array
      obtain ⟨ys, rfl⟩ := exists_array (same ▸ array)
      exact arrays xs ys plainA plainB labelA labelB
    · by_cases text : a.rank = 3
      · obtain ⟨s, rfl⟩ := exists_text text
        obtain ⟨t, rfl⟩ := exists_text (same ▸ text)
        exact canonical_order_of_texts labelA labelB
      · rw [canonical_of_rank text array, canonical_of_rank (same ▸ text) (same ▸ array),
          compareNonNull_eq_order text array]
  · exact canonical_order_of_rank_ne plainA plainB same

theorem canonical_order (type : SqlType) : ∀ a b, type.Unnumbered a → type.Unnumbered b →
    type.labelled a → type.labelled b →
      (type.canonical a).order (type.canonical b) = type.compareNonNull a b := by
  induction type with
  | array element ih =>
      intro a b plainA plainB labelA labelB
      refine canonical_order_of_arrays plainA plainB labelA labelB ?_
      intro xs ys plainX plainY labelX labelY
      simp only [canonical, compareNonNull, Value.order]
      exact canonicalItems_order ih
        (fun v member => ⟨unnumbered_items.mp plainX v member, labelled_array.mp labelX v member⟩)
        fun v member => ⟨unnumbered_items.mp plainY v member, labelled_array.mp labelY v member⟩
  | _ =>
      intro a b plainA plainB labelA labelB
      refine canonical_order_of_arrays plainA plainB labelA labelB fun xs ys _ _ _ _ => ?_
      simp only [canonical, compareNonNull]

/-! ### Operators and sorts -/

theorem equal_iff :
    Comparison.equal.apply type a b = .bool true ↔ type.compare? a b = some .eq := by
  rw [Comparison.apply]
  cases type.compare? a b with
  | none => simp
  | some o => cases o <;> simp [Comparison.holds]

/-- A sort without further words: from the least value to the greatest, NULL being the least. -/
def ascending : KeyOrder := ⟨false, none⟩

theorem compare_ascending (plainA : type.Unnumbered a) (plainB : type.Unnumbered b)
    (labelA : type.labelled a) (labelB : type.labelled b) :
    ascending.compare type a b = (type.canonical a).order (type.canonical b) := by
  rw [canonical_order_missing_first fun _ _ => canonical_order type a b plainA plainB labelA labelB]
  simp only [KeyOrder.compare, ascending, compare?]
  cases a.isNull <;> cases b.isNull <;> rfl

end SqlType

open SqlType (ascending)

namespace Row

variable {types : List SqlType} {a b : Row}

theorem canonical_order (plainA : List.Forall₂ SqlType.Unnumbered types a)
    (plainB : List.Forall₂ SqlType.Unnumbered types b)
    (labelA : List.Forall₂ (fun type v => type.labelled v) types a)
    (labelB : List.Forall₂ (fun type v => type.labelled v) types b) :
    Value.orderRows (canonical types a) (canonical types b) =
      KeyOrder.compareAll (types.map (ascending, ·)) a b := by
  induction plainA generalizing b with
  | nil =>
      cases plainB
      rfl
  | cons first _ ih =>
      obtain _ | ⟨other, others⟩ := plainB
      obtain _ | ⟨labelX, labelsA⟩ := labelA
      obtain _ | ⟨labelY, labelsB⟩ := labelB
      have later := ih others labelsA labelsB
      simp only [Value.orderRows] at later
      simp only [Value.orderRows, canonical, List.zipWith_cons_cons, Value.orderItems,
        List.map_cons, KeyOrder.compareAll, later,
        SqlType.compare_ascending first other labelX labelY]

end Row

theorem TableDef.keyOf_eq_canonical (d : TableDef) (index : IndexDef) (row : Row) :
    d.keyOf index row =
      Row.canonical (index.columns.map d.typeAt) (index.columns.map (row.getD · .null)) := by
  rw [keyOf, keyFrom, Row.canonical, List.zipWith_map_left]

/-- Two values of a type that are not missing have equal keys if and only if `=` holds of them, and
if they are labels wherever the type is an enumeration, keys have the order of the values. The same
is true of rows of key values, among which those of indexes are: equal keys are those of rows that
do not differ in any column, and the order of keys is that of a sort by all columns. All values of
a type are such values. -/
theorem keys_agree_with_operators :
    (∀ (type : SqlType) (a b : Value), a.isNull = false → b.isNull = false →
      type.Unnumbered a → type.Unnumbered b →
        ((type.canonical a).order (type.canonical b) = .eq ↔ type.compare? a b = some .eq) ∧
        (type.compare? a b = some .eq ↔ Comparison.equal.apply type a b = .bool true) ∧
        (type.labelled a → type.labelled b →
          type.compare? a b = some ((type.canonical a).order (type.canonical b)))) ∧
    (∀ (types : List SqlType) (a b : Row),
      List.Forall₂ SqlType.Unnumbered types a → List.Forall₂ SqlType.Unnumbered types b →
        (Value.orderRows (Row.canonical types a) (Row.canonical types b) = .eq ↔
          Row.same types a b) ∧
        (List.Forall₂ (fun type v => type.labelled v) types a →
          List.Forall₂ (fun type v => type.labelled v) types b →
            Value.orderRows (Row.canonical types a) (Row.canonical types b) =
              KeyOrder.compareAll (types.map (ascending, ·)) a b)) ∧
    (∀ (d : TableDef) (index : IndexDef) (row : Row), d.keyOf index row =
      Row.canonical (index.columns.map d.typeAt) (index.columns.map (row.getD · .null))) ∧
    ∀ (type : SqlType) (v : Value), type.includes v → type.Unnumbered v ∧ type.labelled v := by
  refine ⟨?_, ?_, TableDef.keyOf_eq_canonical, fun type v given =>
    ⟨SqlType.unnumbered_of_includes given, SqlType.labelled_of_includes type v given⟩⟩
  · intro type a b presentA presentB plainA plainB
    have compared : type.compare? a b = some (type.compareNonNull a b) := by
      simp [SqlType.compare?, presentA, presentB]
    refine ⟨?_, SqlType.equal_iff.symm, fun labelA labelB => ?_⟩
    · rw [compared, Option.some.injEq]
      exact SqlType.canonical_order_eq_iff plainA plainB
    · rw [compared, SqlType.canonical_order type a b plainA plainB labelA labelB]
  · intro types a b plainA plainB
    exact ⟨Row.canonical_order_eq_iff plainA plainB, Row.canonical_order plainA plainB⟩

/-- Moods, from bad to good. -/
def exampleMood : SqlType := .enum ⟨16384, "mood", ["sad", "ok", "happy"]⟩

theorem exampleMoods_agree :
    let low : Value := .array [.text "sad", .null]
    let high : Value := .array [.text "happy"]
    let types : List SqlType := [exampleMood.array, .citext]
    exampleMood.array.includes low ∧ exampleMood.array.includes high ∧
      exampleMood.array.compare? low high =
        some ((exampleMood.array.canonical low).order (exampleMood.array.canonical high)) ∧
      Value.orderRows (Row.canonical types [low, .text "A"]) (Row.canonical types [low, .text "a"])
        = .eq := by
  intro low high types
  obtain ⟨ofValues, ofRows, -, covered⟩ := keys_agree_with_operators
  have heldLow : exampleMood.array.includes low := by decide
  have heldHigh : exampleMood.array.includes high := by decide
  obtain ⟨plainLow, labelLow⟩ := covered _ _ heldLow
  obtain ⟨plainHigh, labelHigh⟩ := covered _ _ heldHigh
  refine ⟨heldLow, heldHigh, ?_, ?_⟩
  · exact (ofValues _ low high rfl rfl plainLow plainHigh).2.2 labelLow labelHigh
  · exact (ofRows types [low, .text "A"] [low, .text "a"] (by decide) (by decide)).1.mpr (by decide)

end SqlEngine
