import SqlEngine.Proofs.Storage.TableChange

/-!
Changes of a definition: indexes that are filled or go, and columns that come or go. Rows keep
their keys, and an index is filled from the rows one after the other.
-/

namespace SqlEngine

namespace TableDef

variable {d e : TableDef} {i j : IndexDef}

theorem position_ok {position : Nat} {column : String} (given : d.position column = .ok position) :
    d.position? column = some position := by
  unfold TableDef.position at given
  split at given
  · cases given
    assumption
  · cases given

theorem column_of_position? {position : Nat} {column : String}
    (there : d.position? column = some position) :
    ∃ c, d.columns[position]? = some c ∧ c.name = column := by
  obtain ⟨inside, same, -⟩ := List.findIdx?_eq_some_iff_getElem.mp there
  exact ⟨_, List.getElem?_eq_getElem inside, by simpa using same⟩

theorem keyOf_eq_map (d : TableDef) (i : IndexDef) (row : Row) :
    d.keyOf i row = i.columns.map fun c => (d.typeAt c).canonical (row.getD c .null) := by
  simp only [keyOf, keyFrom]
  induction i.columns with
  | nil => rfl
  | cons c rest ih => rw [List.map_cons, List.zipWith_cons_cons, ih, List.map_cons]

/-- Keys depend on the types of the indexed columns and on the values in them. -/
theorem keyOf_congr {before after : Row} (move : Nat → Nat) (columns : j.columns = i.columns.map move)
    (types : ∀ c ∈ i.columns, e.typeAt (move c) = d.typeAt c)
    (values : ∀ c ∈ i.columns, after.getD (move c) .null = before.getD c .null) :
    e.keyOf j after = d.keyOf i before := by
  rw [keyOf_eq_map, keyOf_eq_map, columns, List.map_map]
  refine List.map_congr_left fun c member => ?_
  rw [Function.comp_apply, types c member, values c member]

/-! ### Columns that come and go -/

def addColumn (d : TableDef) (column : ColumnDef) : TableDef :=
  { d with columns := d.columns ++ [column] }

theorem WellFormed.addColumn (wellFormed : d.WellFormed) (column : ColumnDef) :
    (d.addColumn column).WellFormed := by
  refine ⟨fun i member c indexed => ?_, wellFormed.distinct⟩
  have bound := wellFormed.columns i member c indexed
  simp only [TableDef.addColumn, List.length_append, List.length_singleton]
  omega

theorem keyOf_addColumn (wellFormed : d.WellFormed) (member : i ∈ d.indexes) (column : ColumnDef)
    {row : Row} (width : row.length = d.columns.length) (v : Value) :
    (d.addColumn column).keyOf i (row ++ [v]) = d.keyOf i row := by
  refine keyOf_congr (fun c => c) (by simp) (fun c indexed => ?_) (fun c indexed => ?_)
  · have bound := wellFormed.columns i member c indexed
    simp only [typeAt, addColumn, List.getElem?_append_left bound]
  · have bound := wellFormed.columns i member c indexed
    rw [← width] at bound
    simp only [List.getD_eq_getElem?_getD, List.getElem?_append_left bound]

/-- The place of a column after another one is gone. -/
def shift (position c : Nat) : Nat := if position < c then c - 1 else c

theorem getElem?_eraseIdx_shift {α : Type} (items : List α) {position c : Nat}
    (other : c ≠ position) : (items.eraseIdx position)[shift position c]? = items[c]? := by
  rw [shift, List.getElem?_eraseIdx]
  by_cases behind : position < c
  · have later : ¬c - 1 < position := by omega
    have same : c - 1 + 1 = c := by omega
    rw [if_pos behind, if_neg later, same]
  · have before : c < position := by omega
    rw [if_neg behind, if_pos before]

theorem Complete.append {row : Row} {column : ColumnDef} {v : Value} (complete : d.Complete row)
    (width : row.length = d.columns.length) (filled : column.notNull → v.isNull = false) :
    (d.addColumn column).Complete (row ++ [v]) := by
  intro p member
  rw [addColumn, List.zip_append width.symm] at member
  rcases List.mem_append.mp member with old | new
  · exact complete p old
  · rw [List.zip_cons_cons, List.zip_nil_right, List.mem_singleton] at new
    rw [new]
    exact filled

theorem Complete.eraseIdx {row : Row} (complete : d.Complete row) (position : Nat) :
    (d.removeColumn position).Complete (row.eraseIdx position) := by
  rw [complete_iff] at complete ⊢
  intro n c v column value
  simp only [removeColumn, List.getElem?_eraseIdx] at column value
  by_cases before : n < position
  · rw [if_pos before] at column value
    exact complete n c v column value
  · rw [if_neg before] at column value
    exact complete (n + 1) c v column value

theorem mem_indexes_removeColumn {position : Nat} :
    j ∈ (d.removeColumn position).indexes ↔
      ∃ i ∈ d.indexes, position ∉ i.columns ∧ i.withoutPosition position = j := by
  simp only [removeColumn, List.mem_map, List.mem_filter, Bool.not_eq_true', and_assoc]
  simp

theorem keyOf_removeColumn {position : Nat} (kept : position ∉ i.columns) (row : Row) :
    (d.removeColumn position).keyOf (i.withoutPosition position) (row.eraseIdx position) =
      d.keyOf i row := by
  refine keyOf_congr (shift position) rfl (fun c indexed => ?_) (fun c indexed => ?_)
  · have other : c ≠ position := fun same => kept (same ▸ indexed)
    simp only [typeAt, removeColumn, getElem?_eraseIdx_shift d.columns other]
  · have other : c ≠ position := fun same => kept (same ▸ indexed)
    simp only [List.getD_eq_getElem?_getD, getElem?_eraseIdx_shift row other]

theorem removeColumn_ids (d : TableDef) (position : Nat) :
    ((d.removeColumn position).indexes.map (·.id)).Sublist (d.indexes.map (·.id)) := by
  simp only [removeColumn, List.map_map]
  exact List.filter_sublist.map _

theorem WellFormed.removeColumn {position : Nat} (wellFormed : d.WellFormed)
    (bound : position < d.columns.length) : (d.removeColumn position).WellFormed := by
  constructor
  · intro j member c indexed
    obtain ⟨i, old, kept, rfl⟩ := mem_indexes_removeColumn.mp member
    obtain ⟨before, there, rfl⟩ := List.mem_map.mp indexed
    have other : before ≠ position := fun same => kept (same ▸ there)
    have inside := wellFormed.columns i old before there
    simp only [TableDef.removeColumn, List.length_eraseIdx_of_lt bound]
    split <;> omega
  · exact wellFormed.distinct.sublist (removeColumn_ids d position)

theorem WellFormed.removeIndex (wellFormed : d.WellFormed) (id : Nat) :
    (d.removeIndex id).WellFormed :=
  ⟨fun i member => wellFormed.columns i (List.mem_filter.mp member).1,
    wellFormed.distinct.sublist (List.filter_sublist.map _)⟩

theorem WellFormed.addIndexes {indexes : List IndexDef} (wellFormed : d.WellFormed)
    (columns : ∀ i ∈ indexes, ∀ c ∈ i.columns, c < d.columns.length)
    (fresh : ∀ i ∈ indexes, i.id ∉ d.indexes.map (·.id)) (distinct : (indexes.map (·.id)).Nodup) :
    (d.addIndexes indexes).WellFormed := by
  constructor
  · intro j member
    rcases List.mem_append.mp member with old | new
    · exact wellFormed.columns j old
    · exact columns j new
  · rw [TableDef.addIndexes, List.map_append, List.nodup_append]
    refine ⟨wellFormed.distinct, distinct, ?_⟩
    intro id old other new same
    obtain ⟨i, member, rfl⟩ := List.mem_map.mp new
    exact fresh i member (same ▸ old)

theorem WellFormed.addIndex (wellFormed : d.WellFormed)
    (columns : ∀ c ∈ i.columns, c < d.columns.length) (fresh : i.id ∉ d.indexes.map (·.id)) :
    (d.addIndexes [i]).WellFormed :=
  wellFormed.addIndexes (by simpa using columns) (by simpa using fresh) (by simp)

end TableDef

namespace TableData

variable {t u : TableData} {d e : TableDef} {i j : IndexDef}

/-! ### Rows that keep their keys -/

theorem Indexed.transport (indexed : t.Indexed d i) (f : Row → Row)
    (rows : u.rows = t.rows.map fun a => (a.1, f a.2))
    (data : u.indexData j.id = t.indexData i.id)
    (same : ∀ a ∈ t.rows, e.keyOf j (f a.2) = d.keyOf i a.2) (unique : j.unique = i.unique) :
    u.Indexed e j := by
  constructor
  · rw [data, rows]
    exact indexed.holds.congr fun key id => (TableDef.pairs_map f same key id).symm
  · intro demanded
    rw [rows]
    exact (indexed.unique (unique ▸ demanded)).map f same

theorem Shape.addColumn (shape : t.Shape d) (column : ColumnDef) (v : Value) :
    (t.addColumn v).Shape (d.addColumn column) := by
  refine ⟨?_, List.pairwise_map.mpr shape.ascending, ?_, shape.increasing, shape.defined⟩
  · intro a member
    obtain ⟨old, held, rfl⟩ := List.mem_map.mp member
    simp [TableDef.addColumn, shape.width old held]
  · intro a member
    obtain ⟨old, held, rfl⟩ := List.mem_map.mp member
    exact shape.issued old held

theorem Indexed.addColumn (wellFormed : d.WellFormed) (shape : t.Shape d) (indexed : t.Indexed d i)
    (member : i ∈ d.indexes) (column : ColumnDef) (v : Value) :
    (t.addColumn v).Indexed (d.addColumn column) i :=
  indexed.transport (· ++ [v]) rfl rfl
    (fun a held => TableDef.keyOf_addColumn wellFormed member column (shape.width a held) v) rfl

/-! ### Indexes that go -/

theorem Shape.dropIndex (shape : t.Shape d) (id : Nat) :
    (t.dropIndex id).Shape (d.removeIndex id) := by
  refine ⟨shape.width, shape.ascending, shape.issued,
    shape.increasing.alter _ _, ?_⟩
  rintro ⟨number, data⟩ member
  rcases (Sorted.mem_alter shape.increasing id _ number data).mp member with
    ⟨old, different⟩ | ⟨_, made⟩
  · obtain ⟨i, defined, rfl⟩ := List.mem_map.mp (shape.defined _ old)
    exact List.mem_map.mpr ⟨i, List.mem_filter.mpr ⟨defined, by simpa using different⟩, rfl⟩
  · cases made

theorem Indexed.dropIndex (shape : t.Shape d) (indexed : t.Indexed d i) {id : Nat}
    (other : i.id ≠ id) : (t.dropIndex id).Indexed (d.removeIndex id) i := by
  refine indexed.transport (fun row => row) (by simp [TableData.dropIndex]) ?_ (fun _ _ => rfl) rfl
  simp only [indexData, TableData.dropIndex, Sorted.erase, Sorted.lookup_alter shape.increasing,
    if_neg other]

/-! ### Indexes that are filled -/

/-- Adding rows one after the other. -/
theorem holds_foldl_add {known : Row → Prop} :
    ∀ (rest done : List (RowId × Row)) (data : IndexData), data.Holds (d.pairs i done) →
      IndexData.Comparable known data (d.pairs i done) → (∀ a ∈ rest, known (d.keyOf i a.2)) →
        (rest.foldl (fun data a => data.add (d.keyOf i a.2) a.1) data).Holds
          (d.pairs i (done ++ rest)) := by
  intro rest
  induction rest with
  | nil => exact fun done data holds _ _ => by simpa using holds
  | cons a rest ih =>
      intro done data holds comparable coming
      have hkey := coming a List.mem_cons_self
      obtain ⟨added, still⟩ := TableDef.holds_add (e := a) holds comparable hkey
      have later := ih (done ++ [a]) _ added still
        fun b member => coming b (List.mem_cons_of_mem _ member)
      simpa using later

/-- An index that could be built holds the rows, apart from each other if it is unique. -/
theorem foldlM_buildKey {known : Row → Prop} {result : IndexData} :
    ∀ (rest done : List (RowId × Row)) (data : IndexData), data.Holds (d.pairs i done) →
      IndexData.Comparable known data (d.pairs i done) → (∀ a ∈ rest, known (d.keyOf i a.2)) →
      (i.unique → d.Apart i done) → rest.foldlM (buildKey d i) data = .ok result →
        result.Holds (d.pairs i (done ++ rest)) ∧ (i.unique → d.Apart i (done ++ rest)) := by
  intro rest
  induction rest with
  | nil =>
      intro done data holds _ _ apart built
      cases built
      simpa using ⟨holds, apart⟩
  | cons a rest ih =>
      intro done data holds comparable coming apart built
      have hkey := coming a List.mem_cons_self
      obtain ⟨added, still⟩ := TableDef.holds_add (e := a) holds comparable hkey
      rw [List.foldlM_cons, buildKey] at built
      by_cases taken : (i.unique && !(d.keyOf i a.2).any Value.isNull &&
          !(data.get (d.keyOf i a.2)).isEmpty) = true
      · simp [taken, bind, Except.bind] at built
      · have apartNext : i.unique → d.Apart i (done ++ [a]) := by
          intro unique
          refine (apart unique).append comparable.total
            (fun b member => comparable.given _ b.1 ⟨b.2, member, rfl⟩) hkey ?_
          intro complete b member equal
          have listed := (IndexData.mem_get holds comparable hkey b.1).mpr
            ⟨d.keyOf i b.2, ⟨b.2, member, rfl⟩, equal⟩
          have filled : data.get (d.keyOf i a.2) ≠ [] := List.ne_nil_of_mem listed
          simp [unique, complete, filled] at taken
        simp only [taken, bind, Except.bind] at built
        have later := ih (done ++ [a]) _ added still
          (fun b member => coming b (List.mem_cons_of_mem _ member)) apartNext built
        simpa using later

theorem pairs_nil (d : TableDef) (i : IndexDef) : d.pairs i [] = fun _ _ => False := by
  funext key id
  simp [TableDef.pairs]

/-- The keys of the rows alone. -/
def rowKeys (t : TableData) (d : TableDef) (i : IndexDef) : List Row := t.rows.map (d.keyOf i ·.2)

theorem comparable_nil (total : TotalOn Value.orderRows (· ∈ t.rowKeys d i)) :
    IndexData.Comparable (· ∈ t.rowKeys d i) [] (d.pairs i []) :=
  ⟨total, by simp, by simp [TableDef.pairs]⟩

theorem indexData_putIndex (shape : t.Shape d) (id other : Nat) (data : IndexData) :
    (t.putIndex id data).indexData other = if other = id then data else t.indexData other := by
  simp only [indexData, putIndex, Sorted.insert, Sorted.lookup_alter shape.increasing]
  split <;> rfl

theorem Shape.putIndex (shape : t.Shape d) (data : IndexData) :
    (t.putIndex i.id data).Shape (d.addIndexes [i]) := by
  refine ⟨shape.width, shape.ascending, shape.issued,
    shape.increasing.alter _ _, ?_⟩
  rintro ⟨number, held⟩ member
  rw [TableDef.addIndexes, List.map_append, List.mem_append]
  rcases (Sorted.mem_alter shape.increasing i.id _ number held).mp member with
    ⟨old, _⟩ | ⟨rfl, _⟩
  · exact Or.inl (shape.defined _ old)
  · exact Or.inr (by simp)

theorem Indexed.putIndex (shape : t.Shape d) (indexed : t.Indexed d j) (other : j.id ≠ i.id)
    (data : IndexData) : (t.putIndex i.id data).Indexed (d.addIndexes [i]) j := by
  refine indexed.transport (fun row => row) (by simp [TableData.putIndex]) ?_ (fun _ _ => rfl) rfl
  rw [indexData_putIndex shape, if_neg other]

theorem indexed_putIndex (shape : t.Shape d) (total : TotalOn Value.orderRows (· ∈ t.rowKeys d i))
    {data : IndexData} (built : t.buildIndex d i = .ok data) :
    (t.putIndex i.id data).Indexed (d.addIndexes [i]) i := by
  have empty : IndexData.Holds [] (d.pairs i []) := pairs_nil d i ▸ IndexData.Holds.nil
  have filled := foldlM_buildKey t.rows [] [] empty (comparable_nil total)
    (fun a member => List.mem_map.mpr ⟨a, member, rfl⟩)
    (fun _ a member => absurd member List.not_mem_nil) built
  rw [List.nil_append] at filled
  refine ⟨?_, filled.2⟩
  rw [indexData_putIndex shape, if_pos rfl]
  exact filled.1

/-! ### Indexes that are built again -/

theorem rows_foldl_addKeys (d : TableDef) : ∀ (rows : List (RowId × Row)) (t : TableData),
    (rows.foldl (fun built a => built.addKeys d a.1 a.2) t).rows = t.rows := by
  intro rows
  induction rows with
  | nil => exact fun _ => rfl
  | cons a rest ih => exact fun t => ih (t.addKeys d a.1 a.2)

theorem nextRowId_foldl_addKeys (d : TableDef) : ∀ (rows : List (RowId × Row)) (t : TableData),
    (rows.foldl (fun built a => built.addKeys d a.1 a.2) t).nextRowId = t.nextRowId := by
  intro rows
  induction rows with
  | nil => exact fun _ => rfl
  | cons a rest ih => exact fun t => ih (t.addKeys d a.1 a.2)

theorem foldl_addKeys (wellFormed : d.WellFormed) :
    ∀ (rows : List (RowId × Row)) (t : TableData), t.Shape d →
      let built := rows.foldl (fun built a => built.addKeys d a.1 a.2) t
      built.Shape d ∧ ∀ i ∈ d.indexes, built.indexData i.id =
        rows.foldl (fun data a => data.add (d.keyOf i a.2) a.1) (t.indexData i.id) := by
  intro rows
  induction rows with
  | nil => exact fun t shape => ⟨shape, fun _ _ => rfl⟩
  | cons a rest ih =>
      intro t shape
      obtain ⟨built, data⟩ := ih _ (shape.addKeys wellFormed a.1 a.2)
      refine ⟨built, fun i member => ?_⟩
      rw [List.foldl_cons, data i member, indexData_addKeys wellFormed shape member]
      rfl

/-- The content without that of its indexes. -/
def bare (t : TableData) : TableData := { t with indexes := [] }

theorem reindex_eq (t : TableData) (d : TableDef) :
    t.reindex d = t.rows.foldl (fun built a => built.addKeys d a.1 a.2)
      (t.bare.alterIndexes d fun _ _ => some []) := rfl

theorem Shape.bare (width : ∀ a ∈ t.rows, a.2.length = d.columns.length)
    (ascending : Sorted.Increasing compare t.rows) (issued : ∀ a ∈ t.rows, a.1 < t.nextRowId) :
    t.bare.Shape d :=
  ⟨width, ascending, issued, List.Pairwise.nil, by simp [TableData.bare]⟩

theorem Shape.reindex (wellFormed : d.WellFormed) (shape : t.bare.Shape d) :
    (t.reindex d).Shape d :=
  (foldl_addKeys wellFormed t.rows _ (shape.alterIndexes wellFormed _)).1

theorem rows_reindex (t : TableData) (d : TableDef) : (t.reindex d).rows = t.rows :=
  rows_foldl_addKeys d t.rows _

theorem nextRowId_reindex (t : TableData) (d : TableDef) :
    (t.reindex d).nextRowId = t.nextRowId :=
  nextRowId_foldl_addKeys d t.rows _

/-- Building an index again needs nothing of what it held. -/
theorem indexed_reindex (wellFormed : d.WellFormed) (shape : t.bare.Shape d) (member : i ∈ d.indexes)
    (total : TotalOn Value.orderRows (· ∈ t.rowKeys d i)) (unique : i.unique → d.Apart i t.rows) :
    (t.reindex d).Indexed d i := by
  have fresh : (t.bare.alterIndexes d fun _ _ => some []).indexData i.id = [] :=
    indexData_alterIndexes wellFormed shape member _
  have data := (foldl_addKeys wellFormed t.rows _ (shape.alterIndexes wellFormed
    fun _ _ => some [])).2 i member
  rw [fresh] at data
  have empty : IndexData.Holds [] (d.pairs i []) := pairs_nil d i ▸ IndexData.Holds.nil
  have filled := holds_foldl_add t.rows [] [] empty (comparable_nil total)
    (fun a member => List.mem_map.mpr ⟨a, member, rfl⟩)
  constructor
  · rw [rows_reindex, reindex_eq, data]
    exact filled
  · rw [rows_reindex]
    exact unique

/-- The rows without the value at a position. -/
def cut (t : TableData) (position : Nat) : TableData :=
  { t with rows := t.rows.map fun a => (a.1, a.2.eraseIdx position) }

theorem dropColumn_eq (t : TableData) (d : TableDef) (position : Nat) :
    t.dropColumn d position = (t.cut position).reindex d := rfl

theorem Shape.cut {position : Nat} (shape : t.Shape d) (bound : position < d.columns.length) :
    (t.cut position).bare.Shape (d.removeColumn position) := by
  refine Shape.bare ?_ (List.pairwise_map.mpr shape.ascending) ?_
  · intro a member
    obtain ⟨old, held, rfl⟩ := List.mem_map.mp member
    have width := shape.width old held
    rw [← width] at bound
    simp only [TableDef.removeColumn, List.length_eraseIdx_of_lt bound,
      List.length_eraseIdx_of_lt (width ▸ bound), width]
  · intro a member
    obtain ⟨old, held, rfl⟩ := List.mem_map.mp member
    exact shape.issued old held

theorem rowKeys_cut {position : Nat} (kept : position ∉ i.columns) :
    (t.cut position).rowKeys (d.removeColumn position) (i.withoutPosition position) =
      t.rowKeys d i := by
  simp only [rowKeys, cut, List.map_map]
  refine List.map_congr_left fun a _ => ?_
  exact TableDef.keyOf_removeColumn kept a.2

theorem Indexed.dropColumn {position : Nat} (wellFormed : d.WellFormed) (shape : t.Shape d)
    (bound : position < d.columns.length) (indexed : t.Indexed d i) (member : i ∈ d.indexes)
    (kept : position ∉ i.columns) (total : TotalOn Value.orderRows (· ∈ t.rowKeys d i)) :
    (t.dropColumn (d.removeColumn position) position).Indexed (d.removeColumn position)
      (i.withoutPosition position) := by
  rw [dropColumn_eq]
  refine indexed_reindex (wellFormed.removeColumn bound) (shape.cut bound)
    (TableDef.mem_indexes_removeColumn.mpr ⟨i, member, kept, rfl⟩) ?_ ?_
  · rw [rowKeys_cut kept]
    exact total
  · intro unique
    exact (indexed.unique unique).map (·.eraseIdx position)
      fun a _ => TableDef.keyOf_removeColumn kept a.2

end TableData

end SqlEngine
