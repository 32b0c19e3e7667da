import SqlEngine.Proofs.Run
import SqlEngine.Proofs.Storage.Table

/-!
Changes of rows: what a change does when it succeeds, that it does nothing when it fails, and that
shape and indexes are kept.
-/

namespace SqlEngine

/-- No column that needs a value misses it. -/
def TableDef.Complete (d : TableDef) (row : Row) : Prop :=
  ∀ p ∈ d.columns.zip row, p.1.notNull → p.2.isNull = false

theorem TableDef.complete_iff (d : TableDef) (row : Row) : d.Complete row ↔
    ∀ (n : Nat) (c : ColumnDef) (v : Value), d.columns[n]? = some c → row[n]? = some v →
      c.notNull → v.isNull = false := by
  constructor
  · intro complete n c v column value
    exact complete (c, v) (List.mem_iff_getElem?.mpr
      ⟨n, List.getElem?_zip_eq_some.mpr ⟨column, value⟩⟩)
  · rintro complete ⟨c, v⟩ member
    obtain ⟨n, found⟩ := List.mem_iff_getElem?.mp member
    obtain ⟨column, value⟩ := List.getElem?_zip_eq_some.mp found
    exact complete n c v column value

namespace TableData

variable {t : TableData} {d : TableDef} {i : IndexDef} {row : Row}

/-! ### Checks -/

theorem missing?_eq_none_iff (d : TableDef) (row : Row) :
    missing? d row = none ↔ d.Complete row := by
  simp only [missing?, TableDef.Complete, Option.map_eq_none_iff, List.find?_eq_none,
    Bool.and_eq_true, not_and, Bool.not_eq_true]

theorem check_eq_ok_iff (t : TableData) (d : TableDef) (row : Row) (except : Option RowId) :
    t.check d row except = .ok () ↔
      row.length = d.columns.length ∧ d.Complete row ∧ t.conflict? d row except = none := by
  rw [← missing?_eq_none_iff, check]
  by_cases width : row.length = d.columns.length
  · cases missing? d row <;> cases t.conflict? d row except <;> simp [width]
  · simp [width]

/-- A row without conflict shares its keys in unique indexes with no other row. -/
theorem conflict?_eq_none {except : Option RowId} (indexed : t.Indexed d i)
    (comparable : t.Comparable d i [row]) (free : t.conflict? d row except = none)
    (member : i ∈ d.indexes) (unique : i.unique)
    (complete : (d.keyOf i row).any Value.isNull = false) :
    ∀ e ∈ t.rows, Value.orderRows (d.keyOf i row) (d.keyOf i e.2) = .eq → some e.1 = except := by
  intro e there equal
  have candidate : i ∈ d.indexes.filter (·.unique) := List.mem_filter.mpr ⟨member, unique⟩
  have alone := List.findSome?_eq_none_iff.mp free i candidate
  rw [Option.map_eq_none_iff, holder?, complete] at alone
  simp only [Bool.false_eq_true, if_false, List.find?_eq_none, bne_iff_ne, ne_eq, not_not] at alone
  apply alone
  rw [IndexData.mem_get indexed.holds comparable.index (coming_mem_keys t d i row)]
  exact ⟨d.keyOf i e.2, ⟨e.2, there, rfl⟩, equal⟩

/-! ### Insertion -/

/-- The content with one more row. -/
def inserted (t : TableData) (d : TableDef) (row : Row) : TableData :=
  ({ t with nextRowId := t.nextRowId + 1 }.addKeys d t.nextRowId row).appendRow t.nextRowId row

theorem run_insert (t : TableData) (d : TableDef) (row : Row) :
    (ContentChange.insert d row).run t =
      match t.check d row none with
      | .ok _ => (.ok t.nextRowId, t.inserted d row)
      | .error e => (.error e, t) := by
  simp only [ContentChange.insert, Run.bind_run, Run.get_run, Run.lift_run]
  cases t.check d row none with
  | ok _ => rfl
  | error e => rfl

theorem rows_inserted (t : TableData) (d : TableDef) (row : Row) :
    (t.inserted d row).rows = t.rows ++ [(t.nextRowId, row)] := rfl

theorem Shape.nextRowId (shape : t.Shape d) (id : RowId) (later : t.nextRowId ≤ id) :
    ({ t with nextRowId := id } : TableData).Shape d :=
  ⟨shape.width, shape.ascending, fun e member => Nat.lt_of_lt_of_le (shape.issued e member) later,
    shape.increasing, shape.defined⟩

theorem Shape.inserted (wellFormed : d.WellFormed) (shape : t.Shape d)
    (width : row.length = d.columns.length) : (t.inserted d row).Shape d := by
  have keyed := (shape.nextRowId (t.nextRowId + 1) (Nat.le_succ _)).addKeys wellFormed
    t.nextRowId row
  refine ⟨?_, ?_, ?_, keyed.increasing, keyed.defined⟩
  · intro e member
    rcases List.mem_append.mp member with old | new
    · exact shape.width e old
    · rw [List.mem_singleton.mp new]
      exact width
  · refine List.pairwise_append.mpr ⟨shape.ascending, List.pairwise_singleton _ _, ?_⟩
    intro e old other new
    rw [List.mem_singleton.mp new]
    exact Nat.compare_eq_lt.mpr (shape.issued e old)
  · intro e member
    rcases List.mem_append.mp member with old | new
    · exact Nat.lt_succ_of_lt (shape.issued e old)
    · rw [List.mem_singleton.mp new]
      exact Nat.lt_succ_self _

theorem indexData_inserted (wellFormed : d.WellFormed) (shape : t.Shape d) (member : i ∈ d.indexes) :
    (t.inserted d row).indexData i.id =
      (t.indexData i.id).add (d.keyOf i row) t.nextRowId :=
  indexData_addKeys wellFormed (shape.nextRowId (t.nextRowId + 1) (Nat.le_succ _)) member
    t.nextRowId row

theorem Indexed.inserted (wellFormed : d.WellFormed) (shape : t.Shape d) (indexed : t.Indexed d i)
    (comparable : t.Comparable d i [row]) (free : t.conflict? d row none = none)
    (member : i ∈ d.indexes) : (t.inserted d row).Indexed d i := by
  have new := coming_mem_keys t d i row
  constructor
  · rw [indexData_inserted wellFormed shape member, rows_inserted]
    exact (TableDef.holds_add (e := (t.nextRowId, row)) indexed.holds comparable.index new).1
  · intro unique
    rw [rows_inserted]
    refine (indexed.unique unique).append comparable
      (fun a old => row_mem_keys old d i [row]) new ?_
    intro complete a old equal
    have same := conflict?_eq_none indexed comparable free member unique complete a old equal
    cases same

/-! ### Replacement -/

/-- The content with another row under a number. -/
def updated (t : TableData) (d : TableDef) (id : RowId) (previous row : Row) : TableData :=
  ((t.removeKeys d id previous).addKeys d id row).replaceRow id row

theorem run_update (t : TableData) (d : TableDef) (id : RowId) (row : Row) :
    (ContentChange.update d id row).run t =
      match t.get? id with
      | none => (.error (.internal s!"row {id} of \"{d.name}\" is gone"), t)
      | some previous =>
        match t.check d row (some id) with
        | .ok _ => (.ok previous, t.updated d id previous row)
        | .error e => (.error e, t) := by
  simp only [ContentChange.update, Run.bind_run, Run.get_run]
  cases t.get? id with
  | none => rfl
  | some previous =>
      simp only [Run.bind_run, Run.get_run, Run.lift_run]
      cases t.check d row (some id) with
      | ok _ => rfl
      | error e => rfl

theorem mem_rows_updated {id : RowId} {previous : Row} (shape : t.Shape d)
    (found : t.get? id = some previous) (e : RowId × Row) :
    e ∈ (t.updated d id previous row).rows ↔ (e ∈ t.rows ∧ e.1 ≠ id) ∨ e = (id, row) := by
  have there : (id, previous) ∈ t.rows := (get?_eq_some_iff shape id previous).mp found
  simp only [updated, replaceRow, List.mem_map]
  constructor
  · rintro ⟨old, member, rfl⟩
    by_cases same : old.1 = id
    · simp [same]
    · have untouched : old ∈ t.rows := member
      exact Or.inl ⟨by simpa [same] using untouched, by simp [same]⟩
  · rintro (⟨member, different⟩ | rfl)
    · exact ⟨e, member, by simp [different]⟩
    · exact ⟨(id, previous), there, by simp⟩

theorem Shape.updated {id : RowId} {previous : Row} (wellFormed : d.WellFormed) (shape : t.Shape d)
    (found : t.get? id = some previous) (width : row.length = d.columns.length) :
    (t.updated d id previous row).Shape d := by
  have keyed := (shape.removeKeys wellFormed id previous).addKeys wellFormed id row
  have there : (id, previous) ∈ t.rows := (get?_eq_some_iff shape id previous).mp found
  refine ⟨?_, ?_, ?_, keyed.increasing, keyed.defined⟩
  · intro e member
    rcases (mem_rows_updated shape found e).mp member with ⟨old, _⟩ | rfl
    · exact shape.width e old
    · exact width
  · refine List.pairwise_map.mpr (shape.ascending.imp ?_)
    intro a b less
    have sameId : ∀ e : RowId × Row, (if e.1 == id then (id, row) else e).1 = e.1 := by
      intro e
      by_cases same : e.1 = id <;> simp [same]
    rw [sameId, sameId]
    exact less
  · intro e member
    rcases (mem_rows_updated shape found e).mp member with ⟨old, _⟩ | rfl
    · exact shape.issued e old
    · exact shape.issued (id, previous) there

theorem indexData_updated {id : RowId} {previous : Row} (wellFormed : d.WellFormed)
    (shape : t.Shape d) (member : i ∈ d.indexes) :
    (t.updated d id previous row).indexData i.id =
      ((t.indexData i.id).remove (d.keyOf i previous) id).add (d.keyOf i row) id := by
  rw [← indexData_removeKeys wellFormed shape member id previous]
  exact indexData_addKeys wellFormed (shape.removeKeys wellFormed id previous) member id row

theorem Indexed.updated {id : RowId} {previous : Row} (wellFormed : d.WellFormed)
    (shape : t.Shape d) (indexed : t.Indexed d i) (comparable : t.Comparable d i [row])
    (found : t.get? id = some previous) (free : t.conflict? d row (some id) = none)
    (member : i ∈ d.indexes) : (t.updated d id previous row).Indexed d i := by
  have there : (id, previous) ∈ t.rows := (get?_eq_some_iff shape id previous).mp found
  have before := row_mem_keys there d i [row]
  have new := coming_mem_keys t d i row
  have only : ∀ key, d.pairs i t.rows key id → key = d.keyOf i previous := by
    rintro key ⟨other, held, rfl⟩
    rw [row_unique shape held there]
  constructor
  · rw [indexData_updated wellFormed shape member]
    have removed := indexed.holds.remove comparable.index before id only
    refine (removed.add (comparable.index.remove before id) new id).congr ?_
    intro key other
    simp only [TableDef.pairs, mem_rows_updated shape found, Prod.mk.injEq]
    constructor
    · rintro (⟨⟨held, old, rfl⟩, different⟩ | ⟨rfl, rfl⟩)
      · exact ⟨held, Or.inl ⟨old, different⟩, rfl⟩
      · exact ⟨row, Or.inr ⟨rfl, rfl⟩, rfl⟩
    · rintro ⟨held, ⟨old, different⟩ | ⟨rfl, rfl⟩, rfl⟩
      · exact Or.inl ⟨⟨held, old, rfl⟩, different⟩
      · exact Or.inr ⟨rfl, rfl⟩
  · intro unique a memberA b memberB complete equal
    have conflict := conflict?_eq_none indexed comparable free member unique
    rcases (mem_rows_updated shape found a).mp memberA with ⟨oldA, _⟩ | rfl
    · rcases (mem_rows_updated shape found b).mp memberB with ⟨oldB, _⟩ | rfl
      · exact indexed.unique unique a oldA b oldB complete equal
      · have known := row_mem_keys oldA d i [row]
        rw [Value.any_isNull_of_orderRows_eq equal] at complete
        exact Option.some.inj (conflict complete a oldA (comparable.symm known new equal))
    · rcases (mem_rows_updated shape found b).mp memberB with ⟨oldB, _⟩ | rfl
      · exact (Option.some.inj (conflict complete b oldB equal)).symm
      · rfl

/-! ### Deletion -/

/-- The content without a row. -/
def deleted (t : TableData) (d : TableDef) (id : RowId) (row : Row) : TableData :=
  { t.removeKeys d id row with rows := t.rows.filter (·.1 != id) }

theorem delete_eq (t : TableData) (d : TableDef) (id : RowId) :
    t.delete d id = (t.get? id).map fun row => (row, t.deleted d id row) := rfl

theorem mem_rows_deleted (t : TableData) (d : TableDef) (id : RowId) (e : RowId × Row) :
    e ∈ (t.deleted d id row).rows ↔ e ∈ t.rows ∧ e.1 ≠ id := by
  simp [deleted, List.mem_filter]

theorem Shape.deleted (wellFormed : d.WellFormed) (shape : t.Shape d) (id : RowId) :
    (t.deleted d id row).Shape d := by
  have keyed := shape.removeKeys wellFormed id row
  exact ⟨fun e member => shape.width e ((mem_rows_deleted t d id e).mp member).1,
    shape.ascending.filter _, fun e member => shape.issued e ((mem_rows_deleted t d id e).mp member).1,
    keyed.increasing, keyed.defined⟩

theorem Indexed.deleted {id : RowId} (wellFormed : d.WellFormed) (shape : t.Shape d)
    (indexed : t.Indexed d i) (comparable : t.Comparable d i [])
    (found : t.get? id = some row) (member : i ∈ d.indexes) :
    (t.deleted d id row).Indexed d i := by
  have there : (id, row) ∈ t.rows := (get?_eq_some_iff shape id row).mp found
  have only : ∀ key, d.pairs i t.rows key id → key = d.keyOf i row := by
    rintro key ⟨other, held, rfl⟩
    rw [row_unique shape held there]
  constructor
  · have removed := indexed.holds.remove comparable.index (row_mem_keys there d i []) id only
    rw [← indexData_removeKeys wellFormed shape member id row] at removed
    refine removed.congr ?_
    intro key other
    simp only [TableDef.pairs, mem_rows_deleted]
    constructor
    · rintro ⟨⟨held, old, rfl⟩, different⟩
      exact ⟨held, ⟨old, different⟩, rfl⟩
    · rintro ⟨held, ⟨old, different⟩, rfl⟩
      exact ⟨⟨held, old, rfl⟩, different⟩
  · intro unique a memberA b memberB
    exact indexed.unique unique a ((mem_rows_deleted t d id a).mp memberA).1 b
      ((mem_rows_deleted t d id b).mp memberB).1

theorem Shape.truncate (shape : t.Shape d) : t.truncate.Shape d := by
  refine ⟨by simp [TableData.truncate], List.Pairwise.nil, by simp [TableData.truncate], ?_, ?_⟩
  · exact List.pairwise_map.mpr shape.increasing
  · intro e member
    obtain ⟨old, held, rfl⟩ := List.mem_map.mp member
    exact shape.defined old held

theorem indexData_truncate (t : TableData) (id : Nat) : t.truncate.indexData id = [] := by
  simp only [indexData, TableData.truncate]
  induction t.indexes with
  | nil => rfl
  | cons e rest ih =>
      rw [List.map_cons, List.lookup_cons]
      cases id == e.1 with
      | true => rfl
      | false => exact ih

theorem Indexed.truncate (t : TableData) (d : TableDef) (i : IndexDef) : t.truncate.Indexed d i := by
  constructor
  · rw [indexData_truncate]
    refine IndexData.Holds.nil.congr fun key id => ?_
    simp [TableDef.pairs, TableData.truncate]
  · intro _ a member
    simp [TableData.truncate] at member

/-! ### New indexes -/

theorem run_createIndex (t : TableData) (d : TableDef) (i : IndexDef) :
    (ContentChange.createIndex d i).run t =
      match t.buildIndex d i with
      | .ok data => (.ok (), t.putIndex i.id data)
      | .error e => (.error e, t) := by
  simp only [ContentChange.createIndex, Run.bind_run, Run.get_run, Run.lift_run]
  cases t.buildIndex d i with
  | ok _ => rfl
  | error e => rfl

end TableData

end SqlEngine
