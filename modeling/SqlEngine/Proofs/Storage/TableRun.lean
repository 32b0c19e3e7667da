import SqlEngine.Proofs.Storage.TableLayout
import SqlEngine.Proofs.Storage.ValueOrder

/-!
Runs of a table: whatever changes are made one after the other, each with the definition as it is
by then, the content stays what the definition asks for.
-/

namespace SqlEngine

/-- The content of a table with its current definition. -/
structure Table where
  definition : TableDef
  content : TableData

inductive TableOp where
  | insert (row : Row)
  | update (id : RowId) (row : Row)
  | delete (id : RowId)
  | truncate
  | createIndex (index : IndexDef)
  | dropIndex (id : Nat)
  | addColumn (column : ColumnDef) (v : Value)
  | dropColumn (position : Nat)
  | reindex

/-- What a change gives back. -/
inductive TableReply where
  | inserted (id : RowId)
  | replaced (previous : Row)
  | removed (row : Option Row)
  | done
  | failed (e : SqlError)

namespace TableReply

/-- The number that an insertion gave to its row. -/
def issued? : TableReply → Option RowId
  | inserted id => some id
  | _ => none

end TableReply

namespace Table

def run (t : Table) : TableOp → TableReply × Table
  | .insert row =>
    match (ContentChange.insert t.definition row).run t.content with
    | (.ok id, content) => (.inserted id, { t with content })
    | (.error e, content) => (.failed e, { t with content })
  | .update id row =>
    match (ContentChange.update t.definition id row).run t.content with
    | (.ok previous, content) => (.replaced previous, { t with content })
    | (.error e, content) => (.failed e, { t with content })
  | .delete id =>
    match t.content.delete t.definition id with
    | some (row, content) => (.removed (some row), { t with content })
    | none => (.removed none, t)
  | .truncate => (.done, { t with content := t.content.truncate })
  | .createIndex i =>
    let extended := t.definition.addIndexes [i]
    match (ContentChange.createIndex extended i).run t.content with
    | (.ok _, content) => (.done, ⟨extended, content⟩)
    | (.error e, content) => (.failed e, { t with content })
  | .dropIndex id => (.done, ⟨t.definition.removeIndex id, t.content.dropIndex id⟩)
  | .addColumn column v => (.done, ⟨t.definition.addColumn column, t.content.addColumn v⟩)
  | .dropColumn position =>
    let reduced := t.definition.removeColumn position
    (.done, ⟨reduced, t.content.dropColumn reduced position⟩)
  | .reindex => (.done, { t with content := t.content.reindex t.definition })

def runAll (t : Table) : List TableOp → List TableReply × Table
  | [] => ([], t)
  | op :: rest =>
    let (reply, t) := t.run op
    let (replies, t) := t.runAll rest
    (reply :: replies, t)

/-! ### Runs that are considered -/

/-- The values that an index stores, those of the rows, and those of rows to come are totally
ordered in every column. -/
def Ordered (t : Table) (coming : List Row) : Prop :=
  ∀ i ∈ t.definition.indexes, ∀ position : Nat,
    TotalOn Value.order fun v => ∃ key ∈ t.content.keys t.definition i coming,
      key[position]? = some v

/-- A new index has a number of its own and covers columns that are there, a column that goes is
there, and the values that are met are totally ordered. -/
def Admits (t : Table) : TableOp → Prop
  | .insert row => t.Ordered [row]
  | .update _ row => t.Ordered [row]
  | .createIndex i =>
    (∀ c ∈ i.columns, c < t.definition.columns.length) ∧
      i.id ∉ t.definition.indexes.map (·.id) ∧ (Table.mk (t.definition.addIndexes [i]) t.content).Ordered []
  | .dropColumn position => position < t.definition.columns.length ∧ t.Ordered []
  | _ => t.Ordered []

/-- A new column that needs a value comes with one, unless there are no rows. -/
def Fills (t : Table) : TableOp → Prop
  | .addColumn column v => column.notNull → t.content.rows ≠ [] → v.isNull = false
  | _ => True

/-- A demand on every change of a run. -/
def Along (demand : Table → TableOp → Prop) (t : Table) : List TableOp → Prop
  | [] => True
  | op :: rest => demand t op ∧ Along demand (t.run op).2 rest

/-! ### What is kept -/

/-- The content is what the definition asks for, apart from missing values. -/
structure Conforms (t : Table) : Prop where
  wellFormed : t.definition.WellFormed
  shape : t.content.Shape t.definition
  indexed : ∀ i ∈ t.definition.indexes, t.content.Indexed t.definition i

theorem conforms_empty {d : TableDef} (wellFormed : d.WellFormed) : (Table.mk d .empty).Conforms := by
  refine ⟨wellFormed, ⟨by simp [TableData.empty], List.Pairwise.nil, by simp [TableData.empty],
    List.Pairwise.nil, by simp [TableData.empty]⟩, fun i _ => ⟨?_, ?_⟩⟩
  · exact IndexData.Holds.nil.congr fun key id => by simp [TableDef.pairs, TableData.empty]
  · intro _ a member
    exact absurd member List.not_mem_nil

theorem Ordered.comparable {t : Table} {coming : List Row} (ordered : t.Ordered coming)
    {i : IndexDef} (member : i ∈ t.definition.indexes) :
    t.content.Comparable t.definition i coming :=
  (Value.totalOn_orderRows (ordered i member)).mono
    fun key there _ _ found => ⟨key, there, found⟩

theorem Ordered.rowKeys {t : Table} (ordered : t.Ordered []) {i : IndexDef}
    (member : i ∈ t.definition.indexes) :
    TotalOn Value.orderRows (· ∈ t.content.rowKeys t.definition i) := by
  refine (ordered.comparable member).mono fun key there => ?_
  obtain ⟨a, held, rfl⟩ := List.mem_map.mp there
  exact TableData.row_mem_keys held _ _ _

/-- A change keeps the content in accordance with the definition. -/
theorem Conforms.run {t : Table} (conforms : t.Conforms) (op : TableOp) (admits : t.Admits op) :
    (t.run op).2.Conforms := by
  obtain ⟨wellFormed, shape, indexed⟩ := conforms
  cases op with
  | insert row =>
      simp only [Table.run, TableData.run_insert]
      cases checked : t.content.check t.definition row none with
      | error e => exact ⟨wellFormed, shape, indexed⟩
      | ok _ =>
          obtain ⟨width, _, free⟩ := (TableData.check_eq_ok_iff _ _ _ _).mp checked
          exact ⟨wellFormed, shape.inserted wellFormed width, fun i member =>
            (indexed i member).inserted wellFormed shape (admits.comparable member) free member⟩
  | update id row =>
      simp only [Table.run, TableData.run_update]
      cases found : t.content.get? id with
      | none => exact ⟨wellFormed, shape, indexed⟩
      | some previous =>
          cases checked : t.content.check t.definition row (some id) with
          | error e => exact ⟨wellFormed, shape, indexed⟩
          | ok _ =>
              obtain ⟨width, _, free⟩ := (TableData.check_eq_ok_iff _ _ _ _).mp checked
              exact ⟨wellFormed, shape.updated wellFormed found width, fun i member =>
                (indexed i member).updated wellFormed shape (admits.comparable member) found free
                  member⟩
  | delete id =>
      simp only [Table.run, TableData.delete_eq]
      cases found : t.content.get? id with
      | none => exact ⟨wellFormed, shape, indexed⟩
      | some row =>
          exact ⟨wellFormed, shape.deleted wellFormed id, fun i member =>
            (indexed i member).deleted wellFormed shape (admits.comparable member) found member⟩
  | truncate => exact ⟨wellFormed, shape.truncate, fun i _ => TableData.Indexed.truncate _ _ i⟩
  | createIndex i =>
      obtain ⟨columns, fresh, ordered⟩ := admits
      simp only [Table.run, TableData.run_createIndex]
      cases built : t.content.buildIndex (t.definition.addIndexes [i]) i with
      | error e => exact ⟨wellFormed, shape, indexed⟩
      | ok data =>
          refine ⟨wellFormed.addIndex columns fresh, shape.putIndex data, fun j member => ?_⟩
          rcases List.mem_append.mp member with old | new
          · have other : j.id ≠ i.id := fun same => fresh (same ▸ List.mem_map_of_mem old)
            exact (indexed j old).putIndex shape other data
          · rw [List.mem_singleton.mp new] at member ⊢
            exact TableData.indexed_putIndex shape (ordered.rowKeys member) built
  | dropIndex id =>
      refine ⟨wellFormed.removeIndex id, shape.dropIndex id, fun i member => ?_⟩
      obtain ⟨old, other⟩ := List.mem_filter.mp member
      exact (indexed i old).dropIndex shape (by simpa using other)
  | addColumn column v =>
      exact ⟨wellFormed.addColumn column, shape.addColumn column v, fun i member =>
        (indexed i member).addColumn wellFormed shape member column v⟩
  | dropColumn position =>
      obtain ⟨bound, ordered⟩ := admits
      refine ⟨wellFormed.removeColumn bound, (shape.cut bound).reindex (wellFormed.removeColumn bound),
        fun j member => ?_⟩
      obtain ⟨i, old, kept, rfl⟩ := TableDef.mem_indexes_removeColumn.mp member
      exact (indexed i old).dropColumn wellFormed shape bound old kept (ordered.rowKeys old)
  | reindex =>
      have bare := TableData.Shape.bare shape.width shape.ascending shape.issued
      exact ⟨wellFormed, bare.reindex wellFormed, fun i member =>
        TableData.indexed_reindex wellFormed bare member (admits.rowKeys member)
          (indexed i member).unique⟩

theorem runAll_conforms : ∀ (ops : List TableOp) (t : Table), t.Conforms → Along Admits t ops →
    (t.runAll ops).2.Conforms := by
  intro ops
  induction ops with
  | nil => exact fun _ conforms _ => conforms
  | cons op rest ih =>
      exact fun t conforms along => ih _ (conforms.run op along.1) along.2

/-! ### Row numbers -/

/-- The numbers that a run gave to rows, in their order. -/
def issued (replies : List TableReply) : List RowId := replies.filterMap TableReply.issued?

/-- A change gives no number, or the next one. -/
theorem run_issues (t : Table) (op : TableOp) :
    ((t.run op).1.issued? = none ∧ (t.run op).2.content.nextRowId = t.content.nextRowId) ∨
      ((t.run op).1.issued? = some t.content.nextRowId ∧
        (t.run op).2.content.nextRowId = t.content.nextRowId + 1) := by
  cases op with
  | insert row =>
      simp only [run, TableData.run_insert]
      cases t.content.check t.definition row none with
      | error e => exact Or.inl ⟨rfl, rfl⟩
      | ok _ => exact Or.inr ⟨rfl, rfl⟩
  | update id row =>
      simp only [run, TableData.run_update]
      cases t.content.get? id with
      | none => exact Or.inl ⟨rfl, rfl⟩
      | some previous =>
          cases t.content.check t.definition row (some id) <;> exact Or.inl ⟨rfl, rfl⟩
  | delete id =>
      simp only [run, TableData.delete_eq]
      cases t.content.get? id <;> exact Or.inl ⟨rfl, rfl⟩
  | createIndex i =>
      simp only [run, TableData.run_createIndex]
      cases t.content.buildIndex (t.definition.addIndexes [i]) i <;> exact Or.inl ⟨rfl, rfl⟩
  | dropColumn position => exact Or.inl ⟨rfl, TableData.nextRowId_reindex _ _⟩
  | reindex => exact Or.inl ⟨rfl, TableData.nextRowId_reindex _ _⟩
  | _ => exact Or.inl ⟨rfl, rfl⟩

/-- A row after a change has its number from before, or was given it by the change. -/
theorem run_rows (t : Table) (op : TableOp) : ∀ e ∈ (t.run op).2.content.rows,
    (∃ old ∈ t.content.rows, old.1 = e.1) ∨ (t.run op).1.issued? = some e.1 := by
  cases op with
  | insert row =>
      simp only [run, TableData.run_insert]
      cases t.content.check t.definition row none with
      | error e => exact fun a member => Or.inl ⟨a, member, rfl⟩
      | ok _ =>
          intro a member
          rcases List.mem_append.mp member with old | new
          · exact Or.inl ⟨a, old, rfl⟩
          · rw [List.mem_singleton.mp new]
            exact Or.inr rfl
  | update id row =>
      simp only [run, TableData.run_update]
      cases t.content.get? id with
      | none => exact fun a member => Or.inl ⟨a, member, rfl⟩
      | some previous =>
          cases t.content.check t.definition row (some id) with
          | error e => exact fun a member => Or.inl ⟨a, member, rfl⟩
          | ok _ =>
              intro a member
              obtain ⟨old, held, rfl⟩ := List.mem_map.mp member
              refine Or.inl ⟨old, held, ?_⟩
              by_cases same : old.1 = id <;> simp [same]
  | delete id =>
      simp only [run, TableData.delete_eq]
      cases t.content.get? id with
      | none => exact fun a member => Or.inl ⟨a, member, rfl⟩
      | some row => exact fun a member => Or.inl ⟨a, (List.mem_filter.mp member).1, rfl⟩
  | truncate => exact fun a member => absurd member List.not_mem_nil
  | createIndex i =>
      simp only [run, TableData.run_createIndex]
      cases t.content.buildIndex (t.definition.addIndexes [i]) i <;>
        exact fun a member => Or.inl ⟨a, member, rfl⟩
  | dropIndex id => exact fun a member => Or.inl ⟨a, member, rfl⟩
  | addColumn column v =>
      intro a member
      obtain ⟨old, held, rfl⟩ := List.mem_map.mp member
      exact Or.inl ⟨old, held, rfl⟩
  | dropColumn position =>
      simp only [run, TableData.dropColumn_eq, TableData.rows_reindex]
      intro a member
      obtain ⟨old, held, rfl⟩ := List.mem_map.mp member
      exact Or.inl ⟨old, held, rfl⟩
  | reindex =>
      simp only [run, TableData.rows_reindex]
      exact fun a member => Or.inl ⟨a, member, rfl⟩

/-- The numbers that a run gives increase, and rows have the numbers that they were given. -/
theorem runAll_issues : ∀ (ops : List TableOp) (t : Table),
    (issued (t.runAll ops).1).Pairwise (· < ·) ∧
      t.content.nextRowId ≤ (t.runAll ops).2.content.nextRowId ∧
      (∀ id ∈ issued (t.runAll ops).1,
        t.content.nextRowId ≤ id ∧ id < (t.runAll ops).2.content.nextRowId) ∧
      ∀ e ∈ (t.runAll ops).2.content.rows,
        (∃ old ∈ t.content.rows, old.1 = e.1) ∨ e.1 ∈ issued (t.runAll ops).1 := by
  intro ops
  induction ops with
  | nil =>
      intro t
      exact ⟨List.Pairwise.nil, Nat.le_refl _, fun _ none => absurd none List.not_mem_nil,
        fun e member => Or.inl ⟨e, member, rfl⟩⟩
  | cons op rest ih =>
      intro t
      obtain ⟨ascending, grown, within, given⟩ := ih (t.run op).2
      have reply : issued (t.runAll (op :: rest)).1 =
          (t.run op).1.issued?.toList ++ issued ((t.run op).2.runAll rest).1 := by
        simp only [runAll, issued, List.filterMap_cons]
        cases (t.run op).1.issued? <;> rfl
      have last : (t.runAll (op :: rest)).2 = ((t.run op).2.runAll rest).2 := rfl
      rw [reply, last]
      have rows := run_rows t op
      rcases run_issues t op with ⟨none, next⟩ | ⟨some, next⟩
      · rw [none] at rows ⊢
        rw [next] at grown within
        refine ⟨ascending, grown, within, fun e member => ?_⟩
        rcases given e member with ⟨old, held, same⟩ | later
        · rcases rows old held with before | absent
          · exact Or.inl (same ▸ before)
          · cases absent
        · exact Or.inr later
      · rw [some] at rows ⊢
        rw [next] at grown within
        refine ⟨?_, Nat.le_of_succ_le grown, ?_, fun e member => ?_⟩
        · exact List.pairwise_cons.mpr ⟨fun id member => (within id member).1, ascending⟩
        · intro id member
          rcases List.mem_cons.mp member with rfl | later
          · exact ⟨Nat.le_refl _, grown⟩
          · exact ⟨Nat.le_of_succ_le (within id later).1, (within id later).2⟩
        · rcases given e member with ⟨old, held, same⟩ | later
          · rcases rows old held with before | fresh
            · exact Or.inl (same ▸ before)
            · exact Or.inr (List.mem_cons.mpr (Or.inl (same ▸ (Option.some.inj fresh).symm)))
          · exact Or.inr (List.mem_cons_of_mem _ later)

/-! ### Failures and missing values -/

/-- A change that fails changes nothing. -/
theorem run_failed {t : Table} {op : TableOp} {e : SqlError} (failed : (t.run op).1 = .failed e) :
    (t.run op).2 = t := by
  cases op with
  | insert row =>
      simp only [run, TableData.run_insert] at failed ⊢
      cases checked : t.content.check t.definition row none with
      | error e => rfl
      | ok _ => simp [checked] at failed
  | update id row =>
      simp only [run, TableData.run_update] at failed ⊢
      cases found : t.content.get? id with
      | none => rfl
      | some previous =>
          cases checked : t.content.check t.definition row (some id) with
          | error e => rfl
          | ok _ => simp [found, checked] at failed
  | delete id =>
      simp only [run, TableData.delete_eq] at failed
      cases found : t.content.get? id <;> simp [found] at failed
  | createIndex i =>
      simp only [run, TableData.run_createIndex] at failed ⊢
      cases built : t.content.buildIndex (t.definition.addIndexes [i]) i with
      | error e => rfl
      | ok data => simp [built] at failed
  | _ => cases failed

theorem run_inserted {t : Table} {row : Row} {id : RowId}
    (inserted : (t.run (.insert row)).1 = .inserted id) :
    (id, row) ∈ (t.run (.insert row)).2.content.rows ∧ t.definition.Complete row := by
  simp only [run, TableData.run_insert] at inserted ⊢
  cases checked : t.content.check t.definition row none with
  | error e => simp [checked] at inserted
  | ok _ =>
      simp only [checked, TableReply.inserted.injEq] at inserted
      subst inserted
      exact ⟨List.mem_append_right _ (List.mem_singleton.mpr rfl),
        ((TableData.check_eq_ok_iff _ _ _ _).mp checked).2.1⟩

theorem run_replaced {t : Table} (shape : t.content.Shape t.definition) {row previous : Row}
    {id : RowId} (replaced : (t.run (.update id row)).1 = .replaced previous) :
    (id, row) ∈ (t.run (.update id row)).2.content.rows ∧ t.definition.Complete row := by
  simp only [run, TableData.run_update] at replaced ⊢
  cases found : t.content.get? id with
  | none => simp [found] at replaced
  | some old =>
      cases checked : t.content.check t.definition row (some id) with
      | error e => simp [found, checked] at replaced
      | ok _ =>
          exact ⟨(TableData.mem_rows_updated shape found _).mpr (Or.inr rfl),
            ((TableData.check_eq_ok_iff _ _ _ _).mp checked).2.1⟩

/-- No row misses a value that its column needs. -/
def Filled (t : Table) : Prop := ∀ e ∈ t.content.rows, t.definition.Complete e.2

theorem Filled.run {t : Table} (filled : t.Filled) (shape : t.content.Shape t.definition)
    (op : TableOp) (fills : t.Fills op) : (t.run op).2.Filled := by
  cases op with
  | insert row =>
      simp only [Table.run, TableData.run_insert]
      cases checked : t.content.check t.definition row none with
      | error e => exact filled
      | ok _ =>
          intro a member
          rcases List.mem_append.mp member with old | new
          · exact filled a old
          · rw [List.mem_singleton.mp new]
            exact ((TableData.check_eq_ok_iff _ _ _ _).mp checked).2.1
  | update id row =>
      simp only [Table.run, TableData.run_update]
      cases found : t.content.get? id with
      | none => exact filled
      | some previous =>
          cases checked : t.content.check t.definition row (some id) with
          | error e => exact filled
          | ok _ =>
              intro a member
              rcases (TableData.mem_rows_updated shape found a).mp member with ⟨old, _⟩ | rfl
              · exact filled a old
              · exact ((TableData.check_eq_ok_iff _ _ _ _).mp checked).2.1
  | delete id =>
      simp only [Table.run, TableData.delete_eq]
      cases t.content.get? id with
      | none => exact filled
      | some row => exact fun a member => filled a (List.mem_filter.mp member).1
  | truncate => exact fun a member => absurd member List.not_mem_nil
  | createIndex i =>
      simp only [Table.run, TableData.run_createIndex]
      cases t.content.buildIndex (t.definition.addIndexes [i]) i <;> exact filled
  | dropIndex id => exact filled
  | addColumn column v =>
      intro a member
      obtain ⟨old, held, rfl⟩ := List.mem_map.mp member
      refine (filled old held).append (shape.width old held) fun needed => ?_
      exact fills needed (List.ne_nil_of_mem held)
  | dropColumn position =>
      simp only [Table.run, TableData.dropColumn_eq, Filled, TableData.rows_reindex]
      intro a member
      obtain ⟨old, held, rfl⟩ := List.mem_map.mp member
      exact (filled old held).eraseIdx position
  | reindex =>
      simp only [Table.run, Filled, TableData.rows_reindex]
      exact filled

theorem runAll_filled : ∀ (ops : List TableOp) (t : Table), t.Conforms → t.Filled →
    Along Admits t ops → Along Fills t ops → (t.runAll ops).2.Filled := by
  intro ops
  induction ops with
  | nil => exact fun _ _ filled _ _ => filled
  | cons op rest ih =>
      exact fun t conforms filled admits fills =>
        ih _ (conforms.run op admits.1) (filled.run conforms.shape op fills.1) admits.2 fills.2

/-! ### The main result -/

/-- Whatever changes are made, starting from an empty table: the content conforms to the definition
of the moment, row numbers are given once and increase, a change that fails changes nothing, and a
row that was written misses no value that it needs. -/
theorem storage_keeps_invariant (d : TableDef) (wellFormed : d.WellFormed) (ops : List TableOp)
    (admits : Along Admits ⟨d, .empty⟩ ops) :
    ∃ replies t, runAll ⟨d, .empty⟩ ops = (replies, t) ∧ t.Conforms ∧
      (issued replies).Pairwise (· < ·) ∧ (∀ id ∈ issued replies, id < t.content.nextRowId) ∧
      (∀ e ∈ t.content.rows, e.1 ∈ issued replies) ∧
      (∀ op e, (t.run op).1 = .failed e → (t.run op).2 = t) ∧
      (∀ row id, (t.run (.insert row)).1 = .inserted id →
        (id, row) ∈ (t.run (.insert row)).2.content.rows ∧ t.definition.Complete row) ∧
      (∀ id row previous, (t.run (.update id row)).1 = .replaced previous →
        (id, row) ∈ (t.run (.update id row)).2.content.rows ∧ t.definition.Complete row) ∧
      (Along Fills ⟨d, .empty⟩ ops → t.Filled) := by
  have start := conforms_empty wellFormed
  have conforms := runAll_conforms ops _ start admits
  obtain ⟨ascending, _, within, given⟩ := runAll_issues ops ⟨d, .empty⟩
  refine ⟨_, _, rfl, conforms, ascending, fun id member => (within id member).2,
    fun e member => ?_, fun _ _ => run_failed, fun _ _ => run_inserted,
    fun _ _ _ => run_replaced conforms.shape, fun fills => ?_⟩
  · rcases given e member with ⟨old, held, _⟩ | fresh
    · exact absurd held List.not_mem_nil
    · exact fresh
  · exact runAll_filled ops _ start (fun a member => absurd member List.not_mem_nil) admits fills

/-- Values with numbers of one kind are ordered. -/
theorem ordered_of_fits {t : Table} {coming : List Row} (real : Bool)
    (fits : (t.definition.indexes.all fun i =>
      (t.content.keys t.definition i coming).all (Value.fitsAll real)) = true) :
    t.Ordered coming := by
  intro i member position
  refine (Value.totalOn_fits real).mono ?_
  rintro v ⟨key, there, found⟩
  have keys := List.all_eq_true.mp (List.all_eq_true.mp fits i member) key there
  exact (Value.fitsAll_iff real key).mp keys v (List.mem_of_getElem? found)

def exampleDefinition : TableDef :=
  ⟨1, "public", "t", [⟨"a", .integer, true, none⟩], [], [⟨2, "t_a_key", [0], true, false⟩]⟩

/-- A run that meets a repeated key, moves a row to another key, and loses the indexed column. -/
def exampleRun : List TableOp :=
  [.insert [.int 1], .insert [.int 1], .update 0 [.int 2],
    .addColumn ⟨"b", .text none, false, none⟩ .null, .createIndex ⟨3, "t_b_idx", [1], false, false⟩,
    .insert [.int 1, .text "x"], .dropColumn 0, .delete 0, .reindex]

theorem exampleRun_conforms :
    exampleDefinition.WellFormed ∧ Along Admits ⟨exampleDefinition, .empty⟩ exampleRun ∧
      (runAll ⟨exampleDefinition, .empty⟩ exampleRun).2.Conforms ∧
      issued (runAll ⟨exampleDefinition, .empty⟩ exampleRun).1 = [0, 1] := by
  have wellFormed : exampleDefinition.WellFormed := ⟨by decide, by decide⟩
  have admits : Along Admits ⟨exampleDefinition, .empty⟩ exampleRun :=
    ⟨ordered_of_fits false rfl, ordered_of_fits false rfl, ordered_of_fits false rfl,
      ordered_of_fits false rfl, ⟨by decide, by decide, ordered_of_fits false rfl⟩,
      ordered_of_fits false rfl, ⟨by decide, ordered_of_fits false rfl⟩, ordered_of_fits false rfl,
      ordered_of_fits false rfl, trivial⟩
  obtain ⟨replies, t, ran, conforms, _⟩ :=
    storage_keeps_invariant exampleDefinition wellFormed exampleRun admits
  have last : (runAll ⟨exampleDefinition, .empty⟩ exampleRun).2 = t := congrArg Prod.snd ran
  exact ⟨wellFormed, admits, last ▸ conforms, rfl⟩

end Table

end SqlEngine
