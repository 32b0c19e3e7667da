import Mathlib.Data.List.Sort
import SqlEngine.Expr.Eval
import SqlEngine.Proofs.Storage.IndexPrefix
import SqlEngine.Proofs.Types.Keys
import SqlEngine.Proofs.Typing.Content

/-!
What is found through an index: exactly the rows with the key that is looked for, in the order of
the table. Values that are equal under a type have equal keys, so a comparison with a value holds
of no row that the index does not find.
-/

namespace SqlEngine

/-! ### Rows of a table -/

theorem TableDef.WellFormed.index? {d : TableDef} {i : IndexDef} (wellFormed : d.WellFormed)
    (member : i ∈ d.indexes) : d.index? i.id = some i := by
  cases found : d.index? i.id with
  | none => exact absurd (beq_self_eq_true i.id) (List.find?_eq_none.mp found i member)
  | some j =>
      have same : j.id = i.id := by simpa using List.find?_some found
      rw [List.inj_on_of_nodup_map wellFormed.distinct (List.mem_of_find?_eq_some found) member same]

namespace TableData

variable {t : TableData} {d : TableDef} {i : IndexDef} {first : Row}

/-- A whole key finds the rows that have it. -/
theorem Conforms.lookup (conforms : t.Conforms d) (wellFormed : d.WellFormed)
    (member : i ∈ d.indexes) (sortable : d.Sortable i)
    (fits : Row.Fits (d.keyTypes i) (d.keyFrom i first)) :
    t.lookup d i.id first = (t.rows.filter fun e =>
      Value.orderRows (d.keyFrom i first) (d.keyOf i e.2) == .eq).map (·.1) := by
  have holds := (conforms.indexed i member sortable).holds
  have comparable : IndexData.Comparable (Row.Fits (d.keyTypes i)) (t.indexData i.id)
      (d.pairs i t.rows) := by
    refine ⟨TableDef.totalOn_keys sortable, conforms.stored i member, ?_⟩
    rintro key id ⟨row, there, rfl⟩
    exact TableDef.fits_keyOf (conforms.fits _ there)
  have lengths : ∀ e ∈ t.indexData i.id, e.1.length = (d.keyFrom i first).length := by
    intro e stored
    rw [← (conforms.stored i member e stored).length_eq, fits.length_eq]
  have whole : t.lookup d i.id first = (t.indexData i.id).get (d.keyFrom i first) := by
    rw [TableData.lookup, wellFormed.index? member]
    exact IndexData.withPrefix_eq_get holds.increasing comparable.total comparable.stored fits lengths
  rw [whole]
  -- both sides are increasing lists of numbers, so that the same members are enough
  have ascending : ((t.rows.filter fun e =>
      Value.orderRows (d.keyFrom i first) (d.keyOf i e.2) == .eq).map (·.1)).Pairwise (· < ·) := by
    refine List.pairwise_map.mpr ((conforms.shape.ascending.filter _).imp fun below => ?_)
    exact Nat.compare_eq_lt.mp below
  refine (IndexData.ascending_found holds comparable fits).sortedLT.eq_of_mem_iff
    ascending.sortedLT fun id => (IndexData.mem_get holds comparable fits id).trans ?_
  simp only [TableDef.pairs, List.mem_map, List.mem_filter, beq_iff_eq]
  constructor
  · rintro ⟨key, ⟨row, there, rfl⟩, equal⟩
    exact ⟨(id, row), ⟨there, equal⟩, rfl⟩
  · rintro ⟨e, ⟨there, equal⟩, rfl⟩
    exact ⟨_, ⟨e.2, there, rfl⟩, equal⟩

/-- The rows behind the numbers of some rows. -/
theorem Shape.filterMap_get? (shape : t.Shape d) (p : RowId × Row → Bool) :
    ((t.rows.filter p).map (·.1)).filterMap t.get? = (t.rows.filter p).map (·.2) := by
  rw [List.filterMap_map, ← List.filterMap_eq_map]
  refine List.filterMap_congr fun e member => ?_
  exact (get?_eq_some_iff shape e.1 e.2).mpr (List.mem_of_mem_filter member)

end TableData

/-! ### Equal values -/

namespace SqlType

/-- Only two texts or two arrays are compared in other forms than their own. -/
theorem canonical_eq_self {type : SqlType} {v w : Value} (ranks : v.rank = w.rank)
    (texts : ∀ s t, type = .citext → v = .text s → w = .text t → False)
    (labels : ∀ declared s t, type = .enum declared → v = .text s → w = .text t → False)
    (arrays : ∀ element xs ys, type = .array element → v = .array xs → w = .array ys → False) :
    type.canonical v = v := by
  unfold canonical
  split
  · cases w <;> first
      | exact (texts _ _ rfl rfl rfl).elim
      | exact absurd ranks (Nat.ne_of_beq_eq_false rfl)
  · cases w <;> first
      | exact (labels _ _ _ rfl rfl rfl).elim
      | exact absurd ranks (Nat.ne_of_beq_eq_false rfl)
  · cases w <;> first
      | exact (arrays _ _ _ rfl rfl rfl).elim
      | exact absurd ranks (Nat.ne_of_beq_eq_false rfl)
  · rfl

theorem canonical_null (type : SqlType) : type.canonical .null = .null := by
  cases type <;> rfl

mutual

theorem order_canonical : ∀ (type : SqlType) (a b : Value), type.compareNonNull a b = .eq →
    (type.canonical a).order (type.canonical b) = .eq
  | type, a, b, equal => by
      unfold compareNonNull at equal
      split at equal
      · exact equal
      · rename_i declared x y
        rw [canonical, canonical]
        split at equal
        · rename_i i j placed other
          obtain rfl := Nat.compare_eq_eq.mp equal
          simp only [placed, other]
          exact Std.ReflOrd.compare_self
        · rw [Std.LawfulEqOrd.eq_of_compare equal]
          split <;> exact Std.ReflOrd.compare_self
      · rename_i element xs ys
        rw [canonical, canonical, Value.order]
        exact orderItems_canonical element xs ys equal
      · rename_i texts labels arrays
        have ranks := Value.rank_eq_of_order_eq equal
        rw [canonical_eq_self ranks texts labels arrays, canonical_eq_self ranks.symm
          (fun s t same v w => texts t s same w v) (fun e s t same v w => labels e t s same w v)
          fun e xs ys same v w => arrays e ys xs same w v]
        exact equal

theorem orderItems_canonical : ∀ (element : SqlType) (xs ys : List Value),
    element.compareItems xs ys = .eq →
      Value.orderItems (canonicalItems element xs) (canonicalItems element ys) = .eq
  | _, [], [], _ => rfl
  | _, [], _ :: _, equal => by
      simp [compareItems] at equal
  | _, _ :: _, [], equal => by
      simp [compareItems] at equal
  | element, x :: xs, y :: ys, equal => by
      rw [compareItems, Ordering.then_eq_eq] at equal
      obtain ⟨first, rest⟩ := equal
      rw [canonicalItems, canonicalItems, Value.orderItems, orderItems_canonical element xs ys rest]
      split at first
      · rename_i left right
        rw [Value.eq_null_of_isNull left, Value.eq_null_of_isNull right, canonical_null]
        rfl
      · cases first
      · cases first
      · rw [order_canonical element x y first]
        rfl

end

/-- Have two values the same key? -/
def sharesKey (type : SqlType) (v w : Value) : Bool :=
  (type.canonical v).order (type.canonical w) == .eq

variable {type : SqlType} {v w : Value}

theorem present_of_equals? {equal : Bool} (given : type.equals? v w = some equal) :
    v.isNull = false ∧ w.isNull = false := by
  obtain ⟨o, compared, _⟩ := Option.map_eq_some_iff.mp given
  rw [compare?] at compared
  split at compared
  · cases compared
  · simp_all

theorem sharesKey_of_equals? (equal : type.equals? v w = some true) : type.sharesKey v w := by
  obtain ⟨o, compared, same⟩ := Option.map_eq_some_iff.mp equal
  rw [compare?] at compared
  split at compared
  · cases compared
  · cases compared
    exact beq_iff_eq.mpr (order_canonical type v w (beq_iff_eq.mp same))

theorem sharesKey_comm (total : type.hasTotalOrder) (left : type.Admits v) (right : type.Admits w) :
    type.sharesKey v w = type.sharesKey w v := by
  rw [sharesKey, sharesKey, (totalOn_admits total).swap _ _ right.canonical left.canonical]
  cases (type.canonical w).order (type.canonical v) <;> rfl

end SqlType

/-! ### Partners -/

/-- The rows that an index of one column finds for a value are those with its key, unless the value
is missing. -/
theorem TableDef.partners_eq {d : TableDef} {i : IndexDef} {position : Nat} {v : Value} {s : Store}
    (conforms : (s.table d.id).Conforms d) (wellFormed : d.WellFormed) (member : i ∈ d.indexes)
    (columns : i.columns = [position]) (total : (d.typeAt position).hasTotalOrder)
    (admitted : (d.typeAt position).Admits v) :
    d.partners i.id v s = ((s.table d.id).rows.map (·.2)).filter fun row =>
      !v.isNull && (d.typeAt position).sharesKey v (row.getD position .null) := by
  have types : d.keyTypes i = [d.typeAt position] := by rw [keyTypes, columns, List.map_singleton]
  have key : d.keyFrom i [v] = [(d.typeAt position).canonical v] := by rw [keyFrom, columns]; rfl
  have sortable : d.Sortable i := by
    rw [Sortable, types]
    exact List.forall_mem_singleton.mpr total
  have fits : Row.Fits (d.keyTypes i) (d.keyFrom i [v]) := by
    rw [types, key]
    exact .cons admitted.canonical .nil
  have shared : (fun e : RowId × Row => Value.orderRows (d.keyFrom i [v]) (d.keyOf i e.2) == .eq) =
      fun e => (d.typeAt position).sharesKey v (e.2.getD position .null) := by
    funext e
    rw [key, keyOf_eq_map, columns, List.map_singleton, Value.orderRows, Value.orderItems,
      Value.orderItems, SqlType.sharesKey]
    cases ((d.typeAt position).canonical v).order _ <;> rfl
  rw [partners]
  cases missing : v.isNull with
  | true => simp
  | false =>
      simp only [Bool.false_eq_true, ↓reduceIte, Bool.not_false, Bool.true_and]
      rw [conforms.lookup wellFormed member sortable fits, conforms.shape.filterMap_get?, shared,
        List.filter_map]
      rfl

end SqlEngine
