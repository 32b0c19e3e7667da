import SqlEngine.Proofs.Storage.Index
import SqlEngine.Storage.Table

/-!
What the content of a table has to be for its definition: the shape of rows and row numbers, and
for each index the keys that it holds. Changes keep the shape whatever the values are; an index is
kept by every change that meets only keys with a total order.
-/

namespace SqlEngine

namespace TableDef

/-- Indexes have numbers of their own and cover columns that are there. -/
structure WellFormed (d : TableDef) : Prop where
  columns : ∀ i ∈ d.indexes, ∀ c ∈ i.columns, c < d.columns.length
  distinct : (d.indexes.map (·.id)).Nodup

/-- The keys of some rows. -/
def pairs (d : TableDef) (i : IndexDef) (rows : List (RowId × Row)) (key : Row) (id : RowId) :
    Prop :=
  ∃ row, (id, row) ∈ rows ∧ key = d.keyOf i row

/-- No two rows have the same key, apart from keys that miss a value. -/
def Apart (d : TableDef) (i : IndexDef) (rows : List (RowId × Row)) : Prop :=
  ∀ a ∈ rows, ∀ b ∈ rows, (d.keyOf i a.2).any Value.isNull = false →
    Value.orderRows (d.keyOf i a.2) (d.keyOf i b.2) = .eq → a.1 = b.1

theorem pairs_append (d : TableDef) (i : IndexDef) (rows : List (RowId × Row)) (e : RowId × Row)
    (key : Row) (id : RowId) :
    d.pairs i (rows ++ [e]) key id ↔ d.pairs i rows key id ∨ (key = d.keyOf i e.2 ∧ id = e.1) := by
  obtain ⟨newId, newRow⟩ := e
  simp only [pairs, List.mem_append, List.mem_singleton, Prod.mk.injEq]
  constructor
  · rintro ⟨row, old | ⟨rfl, rfl⟩, rfl⟩
    · exact Or.inl ⟨row, old, rfl⟩
    · exact Or.inr ⟨rfl, rfl⟩
  · rintro (⟨row, old, rfl⟩ | ⟨rfl, rfl⟩)
    · exact ⟨row, Or.inl old, rfl⟩
    · exact ⟨newRow, Or.inr ⟨rfl, rfl⟩, rfl⟩

/-- An index that is given one more row. -/
theorem holds_add {d : TableDef} {i : IndexDef} {rows : List (RowId × Row)} {e : RowId × Row}
    {known : Row → Prop} {data : IndexData} (holds : data.Holds (d.pairs i rows))
    (comparable : IndexData.Comparable known data (d.pairs i rows)) (hkey : known (d.keyOf i e.2)) :
    (data.add (d.keyOf i e.2) e.1).Holds (d.pairs i (rows ++ [e])) ∧
      IndexData.Comparable known (data.add (d.keyOf i e.2) e.1) (d.pairs i (rows ++ [e])) := by
  have same : d.pairs i (rows ++ [e]) =
      fun key id => d.pairs i rows key id ∨ (key = d.keyOf i e.2 ∧ id = e.1) := by
    funext key id
    exact propext (d.pairs_append i rows e key id)
  rw [same]
  exact ⟨holds.add comparable hkey e.1, comparable.add hkey e.1⟩

/-- A row whose key no other row has keeps the rows apart. -/
theorem Apart.append {d : TableDef} {i : IndexDef} {rows : List (RowId × Row)} {e : RowId × Row}
    {known : Row → Prop} (apart : d.Apart i rows) (total : TotalOn Value.orderRows known)
    (old : ∀ a ∈ rows, known (d.keyOf i a.2)) (new : known (d.keyOf i e.2))
    (fresh : (d.keyOf i e.2).any Value.isNull = false →
      ∀ a ∈ rows, Value.orderRows (d.keyOf i e.2) (d.keyOf i a.2) ≠ .eq) :
    d.Apart i (rows ++ [e]) := by
  intro a memberA b memberB complete equal
  rcases List.mem_append.mp memberA with oldA | newA
  · rcases List.mem_append.mp memberB with oldB | newB
    · exact apart a oldA b oldB complete equal
    · rw [List.mem_singleton.mp newB] at equal
      rw [Value.any_isNull_of_orderRows_eq equal] at complete
      exact absurd (total.symm (old a oldA) new equal) (fresh complete a oldA)
  · rw [List.mem_singleton.mp newA] at complete equal
    rcases List.mem_append.mp memberB with oldB | newB
    · exact absurd equal (fresh complete b oldB)
    · rw [List.mem_singleton.mp newA, List.mem_singleton.mp newB]

/-- Rows that keep their keys keep the pairs. -/
theorem pairs_map {d e : TableDef} {i j : IndexDef} {rows : List (RowId × Row)} (f : Row → Row)
    (same : ∀ a ∈ rows, e.keyOf j (f a.2) = d.keyOf i a.2) (key : Row) (id : RowId) :
    e.pairs j (rows.map fun a => (a.1, f a.2)) key id ↔ d.pairs i rows key id := by
  simp only [pairs, List.mem_map, Prod.mk.injEq]
  constructor
  · rintro ⟨row, ⟨a, member, rfl, rfl⟩, rfl⟩
    exact ⟨a.2, member, same a member⟩
  · rintro ⟨row, member, rfl⟩
    exact ⟨f row, ⟨(id, row), member, rfl, rfl⟩, (same (id, row) member).symm⟩

theorem Apart.map {d e : TableDef} {i j : IndexDef} {rows : List (RowId × Row)} (f : Row → Row)
    (same : ∀ a ∈ rows, e.keyOf j (f a.2) = d.keyOf i a.2) (apart : d.Apart i rows) :
    e.Apart j (rows.map fun a => (a.1, f a.2)) := by
  intro x memberX y memberY complete equal
  obtain ⟨a, memberA, rfl⟩ := List.mem_map.mp memberX
  obtain ⟨b, memberB, rfl⟩ := List.mem_map.mp memberY
  rw [same a memberA] at complete equal
  rw [same b memberB] at equal
  exact apart a memberA b memberB complete equal

end TableDef

namespace TableData

/-! ### The invariant -/

/-- Rows as wide as the definition, in the order of numbers that were given out, and no content of
indexes that are not defined. -/
structure Shape (t : TableData) (d : TableDef) : Prop where
  width : ∀ e ∈ t.rows, e.2.length = d.columns.length
  ascending : Sorted.Increasing compare t.rows
  issued : ∀ e ∈ t.rows, e.1 < t.nextRowId
  increasing : Sorted.Increasing compare t.indexes
  defined : ∀ e ∈ t.indexes, e.1 ∈ d.indexes.map (·.id)

/-- An index holds the keys of the rows, and no key twice if it is unique. -/
structure Indexed (t : TableData) (d : TableDef) (i : IndexDef) : Prop where
  holds : (t.indexData i.id).Holds (d.pairs i t.rows)
  unique : i.unique → d.Apart i t.rows

/-- The keys that an index stores, those of the rows, and those of rows to come. -/
def keys (t : TableData) (d : TableDef) (i : IndexDef) (coming : List Row) : List Row :=
  (t.indexData i.id).map (·.1) ++ t.rows.map (d.keyOf i ·.2) ++ coming.map (d.keyOf i)

def Comparable (t : TableData) (d : TableDef) (i : IndexDef) (coming : List Row) : Prop :=
  TotalOn Value.orderRows (· ∈ t.keys d i coming)

theorem stored_mem_keys {t : TableData} {i : IndexDef} {e : Row × List RowId}
    (member : e ∈ t.indexData i.id) (d : TableDef) (coming : List Row) :
    e.1 ∈ t.keys d i coming :=
  List.mem_append_left _ (List.mem_append_left _ (List.mem_map_of_mem member))

theorem row_mem_keys {t : TableData} {e : RowId × Row} (member : e ∈ t.rows) (d : TableDef)
    (i : IndexDef) (coming : List Row) : d.keyOf i e.2 ∈ t.keys d i coming :=
  List.mem_append_left _ (List.mem_append_right _ (List.mem_map.mpr ⟨e, member, rfl⟩))

theorem coming_mem_keys (t : TableData) (d : TableDef) (i : IndexDef) (row : Row) :
    d.keyOf i row ∈ t.keys d i [row] :=
  List.mem_append_right _ (List.mem_singleton.mpr rfl)

theorem Comparable.index {t : TableData} {d : TableDef} {i : IndexDef} {coming : List Row}
    (comparable : t.Comparable d i coming) :
    IndexData.Comparable (· ∈ t.keys d i coming) (t.indexData i.id) (d.pairs i t.rows) := by
  refine ⟨comparable, fun e member => stored_mem_keys member d coming, ?_⟩
  rintro key id ⟨row, member, rfl⟩
  exact row_mem_keys member d i coming

section Rows

variable {t : TableData} {d : TableDef}

theorem get?_eq_some_iff (shape : t.Shape d) (id : RowId) (row : Row) :
    t.get? id = some row ↔ (id, row) ∈ t.rows :=
  Sorted.mem_iff_lookup shape.ascending id row

/-- A number has one row. -/
theorem row_unique (shape : t.Shape d) {id : RowId} {a b : Row} (first : (id, a) ∈ t.rows)
    (second : (id, b) ∈ t.rows) : a = b := by
  rw [← get?_eq_some_iff shape] at first second
  exact Option.some.inj (first.symm.trans second)

end Rows

/-! ### Content of indexes -/

/-- Entries of many keys changed one after the other. -/
theorem lookup_foldl_alter {α : Type} (change : IndexDef → Option α → Option α) :
    ∀ (indexes : List IndexDef) (entries : List (Nat × α)), (indexes.map (·.id)).Nodup →
      Sorted.Increasing compare entries →
        let altered := indexes.foldl
          (fun entries i => Sorted.alter compare i.id (change i) entries) entries
        Sorted.Increasing compare altered ∧
          (∀ i ∈ indexes, altered.lookup i.id = change i (entries.lookup i.id)) ∧
            ∀ id ∉ indexes.map (·.id), altered.lookup id = entries.lookup id := by
  intro indexes
  induction indexes with
  | nil => exact fun entries _ increasing => ⟨increasing, by simp, fun _ _ => rfl⟩
  | cons first rest ih =>
      intro entries distinct increasing
      obtain ⟨fresh, distinctRest⟩ := List.nodup_cons.mp distinct
      obtain ⟨ordered, changed, others⟩ := ih (Sorted.alter compare first.id (change first) entries)
        distinctRest (increasing.alter _ _)
      refine ⟨ordered, ?_, ?_⟩
      · intro i member
        rcases List.mem_cons.mp member with rfl | member
        · rw [List.foldl_cons, others i.id fresh, Sorted.lookup_alter increasing, if_pos rfl]
        · have different : i.id ≠ first.id := by
            intro same
            exact fresh (List.mem_map.mpr ⟨i, member, same⟩)
          rw [List.foldl_cons, changed i member, Sorted.lookup_alter increasing, if_neg different]
      · intro id absent
        obtain ⟨different, absentRest⟩ := not_or.mp (mt List.mem_cons.mpr absent)
        rw [List.foldl_cons, others id absentRest, Sorted.lookup_alter increasing, if_neg different]

/-- A change of the content of the defined indexes, one entry for each of them. -/
def alterIndexes (t : TableData) (d : TableDef)
    (change : IndexDef → Option IndexData → Option IndexData) : TableData :=
  { t with
    indexes := d.indexes.foldl (fun held i => Sorted.alter compare i.id (change i) held) t.indexes }

section Indexes

variable {t : TableData} {d : TableDef} {i : IndexDef}

theorem indexData_alterIndexes (wellFormed : d.WellFormed) (shape : t.Shape d) (member : i ∈ d.indexes)
    (change : IndexDef → Option IndexData → Option IndexData) :
    (t.alterIndexes d change).indexData i.id = (change i (t.indexes.lookup i.id)).getD [] :=
  congrArg (·.getD []) ((lookup_foldl_alter change d.indexes t.indexes wellFormed.distinct
    shape.increasing).2.1 i member)

theorem Shape.alterIndexes (wellFormed : d.WellFormed) (shape : t.Shape d)
    (change : IndexDef → Option IndexData → Option IndexData) : (t.alterIndexes d change).Shape d := by
  obtain ⟨increasing, _, others⟩ := lookup_foldl_alter change d.indexes t.indexes wellFormed.distinct
    shape.increasing
  refine ⟨shape.width, shape.ascending, shape.issued, increasing, ?_⟩
  intro e member
  by_contra undefined
  have held := (Sorted.mem_iff_lookup increasing e.1 e.2).mpr member
  rw [others e.1 undefined, Sorted.mem_iff_lookup shape.increasing] at held
  exact undefined (shape.defined e held)

theorem addKeys_eq_alterIndexes (t : TableData) (d : TableDef) (id : RowId) (row : Row) :
    t.addKeys d id row =
      t.alterIndexes d fun i data => some ((data.getD []).add (d.keyOf i row) id) := rfl

theorem removeKeys_eq_alterIndexes (t : TableData) (d : TableDef) (id : RowId) (row : Row) :
    t.removeKeys d id row =
      t.alterIndexes d fun i data => data.map (·.remove (d.keyOf i row) id) := rfl

theorem indexData_addKeys (wellFormed : d.WellFormed) (shape : t.Shape d) (member : i ∈ d.indexes)
    (id : RowId) (row : Row) :
    (t.addKeys d id row).indexData i.id = (t.indexData i.id).add (d.keyOf i row) id := by
  rw [addKeys_eq_alterIndexes, indexData_alterIndexes wellFormed shape member]
  rfl

theorem indexData_removeKeys (wellFormed : d.WellFormed) (shape : t.Shape d)
    (member : i ∈ d.indexes) (id : RowId) (row : Row) :
    (t.removeKeys d id row).indexData i.id = (t.indexData i.id).remove (d.keyOf i row) id := by
  rw [removeKeys_eq_alterIndexes, indexData_alterIndexes wellFormed shape member, indexData]
  cases t.indexes.lookup i.id <;> rfl

theorem Shape.addKeys (wellFormed : d.WellFormed) (shape : t.Shape d) (id : RowId) (row : Row) :
    (t.addKeys d id row).Shape d :=
  shape.alterIndexes wellFormed _

theorem Shape.removeKeys (wellFormed : d.WellFormed) (shape : t.Shape d) (id : RowId) (row : Row) :
    (t.removeKeys d id row).Shape d :=
  shape.alterIndexes wellFormed _

end Indexes

end TableData

end SqlEngine
