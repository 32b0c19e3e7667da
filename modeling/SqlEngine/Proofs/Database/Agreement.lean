import SqlEngine.Proofs.Catalog.Soundness
import SqlEngine.Proofs.Transaction.MapStack
import SqlEngine.Proofs.Typing.Content

/-!
Data that agree with a catalog.

What is visible is read as a map from keys to data. It agrees with tables and sequences if the
content of each table goes with its definition and there are no data of anything else.
-/

namespace SqlEngine

abbrev DataView := DataKey → Option DataValue

namespace DataView

/-- The content of a table; one that was never written is empty. -/
def table (view : DataView) (id : Nat) : TableData :=
  match view (.table id) with
  | some (.table content) => content
  | _ => .empty

structure Agrees (tables : TableDef → Prop) (counts : Nat → Prop) (view : DataView) : Prop where
  contents : ∀ d, tables d → (view.table d.id).Conforms d
  tables : ∀ id, (view (.table id)).isSome → ∃ d, tables d ∧ d.id = id
  sequences : ∀ id, (view (.sequence id)).isSome → counts id

variable {tables others : TableDef → Prop} {counts more : Nat → Prop} {view : DataView} {id : Nat}

theorem Agrees.mono (agrees : view.Agrees tables counts) (same : ∀ d, others d ↔ tables d)
    (kept : ∀ id, counts id → more id) : view.Agrees others more where
  contents d held := agrees.contents d ((same d).mp held)
  tables id there := by
    obtain ⟨d, held, number⟩ := agrees.tables id there
    exact ⟨d, (same d).mpr held, number⟩
  sequences id there := kept id (agrees.sequences id there)

/-- Other definitions under one number, with which the content goes that is there. -/
theorem Agrees.redefine (agrees : view.Agrees tables counts)
    (elsewhere : ∀ d, d.id ≠ id → (others d ↔ tables d))
    (conforms : ∀ d, others d → d.id = id → (view.table id).Conforms d)
    (defined : (view (.table id)).isSome → ∃ d, others d ∧ d.id = id) : view.Agrees others counts where
  contents d held := by
    by_cases same : d.id = id
    · exact same ▸ conforms d held same
    · exact agrees.contents d ((elsewhere d same).mp held)
  tables number there := by
    by_cases same : number = id
    · exact same ▸ defined (same ▸ there)
    · obtain ⟨d, held, rfl⟩ := agrees.tables number there
      exact ⟨d, (elsewhere d same).mpr held, rfl⟩
  sequences := agrees.sequences

end DataView

namespace Store

open DataView (Agrees)

variable {tables others : TableDef → Prop} {counts : Nat → Prop} {s : Store} {id : Nat}
  {content : TableData} {d : TableDef}

theorem table_eq (s : Store) (id : Nat) : s.table id = DataView.table s.get? id := by
  rw [table, table?, DataView.table]
  rcases s.get? (.table id) with _ | (content | state | values) <;> rfl

theorem table_putTable : DataView.table (s.putTable id content).get? id = content := by
  simp [DataView.table, putTable, Transaction.get?_set]

/-- New content under one number, and definitions there with which it goes. -/
theorem agrees_putTable (agrees : Agrees tables counts s.get?)
    (elsewhere : ∀ d, d.id ≠ id → (others d ↔ tables d))
    (conforms : ∀ d, others d → d.id = id → content.Conforms d) (defined : ∃ d, others d ∧ d.id = id) :
    Agrees others counts (s.putTable id content).get? := by
  have untouched : ∀ key, key ≠ .table id → (s.putTable id content).get? key = s.get? key := by
    intro key different
    rw [putTable, Transaction.get?_set, if_neg different]
  constructor
  · intro d held
    by_cases same : d.id = id
    · rw [same, table_putTable]
      exact conforms d held same
    · have there := agrees.contents d ((elsewhere d same).mp held)
      rw [DataView.table, untouched _ (by simpa using same)]
      exact there
  · intro number there
    by_cases same : number = id
    · exact same ▸ defined
    · rw [untouched _ (by simpa using same)] at there
      obtain ⟨d, held, rfl⟩ := agrees.tables number there
      exact ⟨d, (elsewhere d same).mpr held, rfl⟩
  · intro number there
    rw [untouched _ (by simp)] at there
    exact agrees.sequences number there

/-- A table that is dropped takes its content with it. -/
theorem agrees_removeTable (agrees : Agrees tables counts s.get?)
    (same : ∀ d, others d ↔ tables d ∧ d.id ≠ id) :
    Agrees others counts (s.remove (.table id)).get? := by
  have untouched : ∀ key, key ≠ .table id → (s.remove (.table id)).get? key = s.get? key := by
    intro key different
    rw [Transaction.get?_remove, if_neg different]
  constructor
  · intro d held
    obtain ⟨before, different⟩ := (same d).mp held
    rw [DataView.table, untouched _ (by simpa using different)]
    exact agrees.contents d before
  · intro number there
    by_cases gone : number = id
    · simp [Transaction.get?_remove, gone] at there
    · rw [untouched _ (by simpa using gone)] at there
      obtain ⟨d, held, rfl⟩ := agrees.tables number there
      exact ⟨d, (same d).mpr ⟨held, gone⟩, rfl⟩
  · intro number there
    rw [untouched _ (by simp)] at there
    exact agrees.sequences number there

/-- What is written under no number of a table changes no table. -/
theorem agrees_of_tables {t : Store} (agrees : Agrees tables counts s.get?) {more : Nat → Prop}
    (same : ∀ id, t.get? (.table id) = s.get? (.table id))
    (sequences : ∀ id, (t.get? (.sequence id)).isSome → more id) : Agrees tables more t.get? where
  contents d held := by
    rw [DataView.table, same]
    exact agrees.contents d held
  tables id there := agrees.tables id (same id ▸ there)
  sequences := sequences

theorem agrees_putSequence (agrees : Agrees tables counts s.get?) (counted : counts id)
    (state : SequenceState) : Agrees tables counts (s.putSequence id state).get? := by
  refine agrees_of_tables agrees (fun number => ?_) fun number there => ?_
  · rw [putSequence, Transaction.get?_set, if_neg (by simp)]
  · rw [putSequence, Transaction.get?_set] at there
    by_cases same : number = id
    · exact same ▸ counted
    · rw [if_neg (by simpa using same)] at there
      exact agrees.sequences number there

theorem agrees_putSetting (agrees : Agrees tables counts s.get?) (name value : String) :
    Agrees tables counts (s.putSetting name value).get? := by
  refine agrees_of_tables agrees (fun number => ?_) fun number there => ?_
  · rw [putSetting, Transaction.get?_set, if_neg (by simp)]
  · rw [putSetting, Transaction.get?_set, if_neg (by simp)] at there
    exact agrees.sequences number there

theorem agrees_removeSequence {fewer : Nat → Prop} (agrees : Agrees tables counts s.get?)
    (kept : ∀ number, counts number → number ≠ id → fewer number) :
    Agrees tables fewer (s.remove (.sequence id)).get? := by
  refine agrees_of_tables agrees (fun number => ?_) fun number there => ?_
  · rw [Transaction.get?_remove, if_neg (by simp)]
  · rw [Transaction.get?_remove] at there
    by_cases same : number = id
    · simp [same] at there
    · rw [if_neg (by simpa using same)] at there
      exact kept number (agrees.sequences number there) same

end Store

/-- The data that are visible agree with the tables and sequences of the catalog. -/
abbrev Catalog.Agrees (c : Catalog) (view : DataView) : Prop := view.Agrees c.Table c.Counts

namespace EvalState

/-- The data agree with the catalog, and the levels below the newest one are the given ones. -/
structure Agrees (c : Catalog) (base : List (Level DataKey DataValue)) (s : EvalState) : Prop where
  below : s.store.below = base
  formed : s.store.WellFormed
  data : c.Agrees s.store.get?

variable {c : Catalog} {base : List (Level DataKey DataValue)} {s : EvalState} {d : TableDef}

theorem Agrees.set (agrees : s.Agrees c base) {key : DataKey} {value : DataValue}
    (data : c.Agrees (s.store.set key value).get?) :
    ({ s with store := s.store.set key value } : EvalState).Agrees c base :=
  ⟨agrees.below, agrees.formed.set key value, data⟩

/-- Content that goes with the definition of a table is put in its place. -/
theorem Agrees.putTable (agrees : s.Agrees c base) (sound : c.Sound) (held : c.Table d)
    {content : TableData} (conforms : content.Conforms d) :
    ({ s with store := s.store.putTable d.id content } : EvalState).Agrees c base := by
  refine agrees.set (Store.agrees_putTable agrees.data (fun _ _ => Iff.rfl) ?_ ⟨d, held, rfl⟩)
  intro e other same
  exact sound.table_unique held other same.symm ▸ conforms

theorem Agrees.content (agrees : s.Agrees c base) (held : c.Table d) :
    (s.store.table d.id).Conforms d := by
  rw [Store.table_eq]
  exact agrees.data.contents d held

theorem Agrees.stable (sound : c.Sound) (base : List (Level DataKey DataValue)) (now : Timestamp) :
    Eval.Stable ⟨c, now⟩ (Agrees c base) := by
  refine ⟨fun s count agrees => ⟨agrees.below, agrees.formed, agrees.data⟩, ?_⟩
  intro s name d state found _ agrees
  obtain ⟨schema, id, has⟩ := sound.ordered.sequence_has found
  have number : d.id = id := (sound.proper _ _ _ has).1
  exact agrees.set (Store.agrees_putSequence agrees.data ⟨schema, d, number ▸ has⟩ state)

theorem Agrees.typed (c : Catalog) (base : List (Level DataKey DataValue)) :
    Eval.Typed c.Table (Agrees c base) :=
  fun _ agrees _ held => (agrees.content held).fits

end EvalState

end SqlEngine
