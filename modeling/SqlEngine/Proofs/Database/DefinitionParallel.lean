import SqlEngine.Proofs.Database.Drafts
import SqlEngine.Proofs.Database.StatementParallel

/-!
Statements that define relations, in two drafts at once.

Two drafts with one catalog and data that look the same are taken through the same definitions:
these read the data by their keys, write the same and remove the same.
-/

namespace SqlEngine

open Run (Alike Respects)

/-- Related states also stay related when a key is removed from both. -/
structure Define.Mirrored (related : EvalState → EvalState → Prop) : Prop
    extends Eval.Mirrored related where
  removes : ∀ s t key, related s t →
    related { s with store := s.store.remove key } { t with store := t.store.remove key }

/-- Drafts with one catalog and related data. -/
structure Draft.Over (related : EvalState → EvalState → Prop) (d e : Draft) : Prop where
  catalog : e.catalog = d.catalog
  data : related d.data e.data

open Draft (Over)

variable {related : EvalState → EvalState → Prop}

namespace Define

/-! ### Reading and writing a draft -/

theorem catalog_respects : Respects (Over related) catalog := by
  refine Alike.get_bind fun d e paired => ?_
  rw [paired.catalog]
  exact Alike.pure _

theorem changeCatalog_respects (f : Catalog → Except SqlError Catalog) :
    Respects (Over related) (changeCatalog f) := by
  intro d e paired
  simp only [changeCatalog, Run.bind_run, Run.get_run, Run.lift_run, paired.catalog]
  cases f d.catalog with
  | error refused => exact ⟨rfl, paired⟩
  | ok c => exact ⟨rfl, rfl, paired.data⟩

theorem allocate_respects : Respects (Over related) allocate := by
  intro d e paired
  simp only [allocate, Run.bind_run, Run.get_run, Run.set_run, paired.catalog]
  exact ⟨rfl, rfl, paired.data⟩

theorem changeStore_respects {f g : Store → Store}
    (kept : ∀ s t, related s t →
      related { s with store := f s.store } { t with store := g t.store }) :
    Alike (Over related) (changeStore f) (changeStore g) :=
  Alike.modify fun d e paired => ⟨paired.catalog, kept d.data e.data paired.data⟩

theorem content_respects (mirrored : Mirrored related) (table : Nat) :
    Respects (Over related) (content table) := by
  refine Alike.get_bind fun d e paired => ?_
  rw [Store.table_congr (mirrored.reads d.data e.data paired.data _)]
  exact Alike.pure _

theorem putContent_respects (mirrored : Mirrored related) (table : Nat) (content : TableData) :
    Respects (Over related) (putContent table content) :=
  changeStore_respects fun s t same => mirrored.writes s t _ _ same

theorem remove_respects (mirrored : Mirrored related) (key : DataKey) :
    Respects (Over related) (changeStore (·.remove key)) :=
  changeStore_respects fun s t same => mirrored.removes s t key same

theorem changeContent_respects {α : Type} (mirrored : Mirrored related) (table : Nat)
    (m : ContentChange α) : Respects (Over related) (changeContent table m) :=
  (content_respects mirrored table).bind fun _ =>
    (putContent_respects mirrored table _).bind fun _ => Alike.lift _

theorem evaluate_respects {α : Type} (now : Timestamp) {m : Env → Eval α}
    (each : ∀ env, Respects related (m env)) : Respects (Over related) (evaluate now m) := by
  intro d e paired
  obtain ⟨results, states⟩ := each ⟨d.catalog, now⟩ d.data e.data paired.data
  simp only [evaluate, Run.bind_run, Run.get_run, paired.catalog]
  exact ⟨results, rfl, states⟩

theorem discard_respects (mirrored : Mirrored related) (id : Nat) :
    Respects (Over related) (discard id) :=
  (changeCatalog_respects _).bind fun _ => remove_respects mirrored _

theorem dropIndex_respects (mirrored : Mirrored related) (table index : Nat) :
    Respects (Over related) (dropIndex table index) :=
  (content_respects mirrored table).bind fun _ =>
    (putContent_respects mirrored table _).bind fun _ => changeCatalog_respects _

/-! ### Definitions -/

theorem allocateIndexes_respects (keys : List Key) :
    Respects (Over related) (allocateIndexes keys) :=
  Alike.mapM fun _ _ => allocate_respects.bind fun _ => Alike.pure _

theorem registerSerial_respects (d : TableDef) (s : SerialColumn) :
    Respects (Over related) (registerSerial d s) :=
  (Alike.lift _).bind fun _ => changeCatalog_respects _

theorem registerParts_respects (d : TableDef) (l : Layout) (indexes : List IndexDef) :
    Respects (Over related) (registerParts d l indexes) :=
  (Alike.forM fun _ _ => changeCatalog_respects _).bind fun _ =>
    Alike.forM fun s _ => registerSerial_respects d s

theorem fillIndexes_respects (mirrored : Mirrored related) (d : TableDef)
    (indexes : List IndexDef) : Respects (Over related) (fillIndexes d indexes) :=
  Alike.forM fun _ _ => changeContent_respects mirrored d.id _

theorem createTable_respects (mirrored : Mirrored related) (t : Sql.CreateTable) :
    Respects (Over related) (createTable t) := by
  unfold createTable
  dsimp only
  split
  · exact Alike.throw_bind _ _ _
  refine catalog_respects.bind fun c => (Alike.lift _).bind fun name => ?_
  split
  · split
    · exact Alike.pure _
    · exact Alike.throw_bind _ _ _
  · exact (Alike.lift _).bind fun l => (Alike.lift _).bind fun _ => allocate_respects.bind fun id =>
      (allocateIndexes_respects _).bind fun _ => (changeCatalog_respects _).bind fun _ =>
        (registerParts_respects _ _ _).bind fun _ =>
          (putContent_respects mirrored _ _).bind fun _ => Alike.pure _

theorem createIndex_respects (mirrored : Mirrored related) (o : DbOptions) (t : Sql.CreateIndex) :
    Respects (Over related) (createIndex o t) := by
  refine createIndex_cases o t (Alike.pure _) (fun _ => Alike.throw _) fun name => ?_
  refine catalog_respects.bind fun c => (Alike.lift _).bind fun _ => (Alike.lift _).bind fun d =>
    (Alike.lift _).bind fun columns => ?_
  dsimp only
  split
  · split
    · exact Alike.pure _
    · exact Alike.throw_bind _ _ _
  · exact allocate_respects.bind fun id => (fillIndexes_respects mirrored _ _).bind fun _ =>
      (changeCatalog_respects _).bind fun _ => (changeCatalog_respects _).bind fun _ =>
        Alike.pure _

theorem createSequence_respects (name : QName) (ifNotExists : Bool)
    (clauses : List SequenceClause) :
    Respects (Over related) (createSequence name ifNotExists clauses) := by
  refine catalog_respects.bind fun c => ?_
  dsimp only
  split
  · split
    · exact Alike.pure _
    · exact Alike.throw_bind _ _ _
  · exact (Alike.lift _).bind fun _ => (changeCatalog_respects _).bind fun _ => Alike.pure _

theorem restart_respects (mirrored : Mirrored related) (d : SequenceDef) (value : Option Int) :
    Respects (Over related)
      (changeStore fun s => s.putSequence d.id (d.restart (s.sequence d) value)) := by
  refine changeStore_respects fun s t same => ?_
  rw [Store.sequence_congr (mirrored.reads s t same _)]
  exact mirrored.writes s t _ _ same

theorem alterSequence_respects (mirrored : Mirrored related) (name : QName) (ifExists : Bool)
    (clauses : List SequenceClause) :
    Respects (Over related) (alterSequence name ifExists clauses) := by
  refine catalog_respects.bind fun c => ?_
  split
  · exact Alike.pure _
  · exact Alike.throw _
  · rename_i d _
    refine (Alike.lift _).bind fun ⟨options, restart⟩ => ?_
    refine (changeCatalog_respects _).bind fun _ => ?_
    dsimp only
    split
    · rename_i value
      exact (restart_respects mirrored { d with options } value).bind fun _ => Alike.pure _
    · exact Alike.pure _

theorem createEnum_respects (name : QName) (labels : List String) :
    Respects (Over related) (createEnum name labels) := by
  refine catalog_respects.bind fun c => ?_
  dsimp only
  split
  · exact Alike.throw_bind _ _ _
  · split
    · exact Alike.throw_bind _ _ _
    · exact allocate_respects.bind fun _ => (changeCatalog_respects _).bind fun _ => Alike.pure _

theorem createSchema_respects (name : Option (List Sql.Ident)) (ifNotExists : Bool) :
    Respects (Over related) (createSchema name ifNotExists) := by
  unfold createSchema
  split
  · exact catalog_respects.bind fun _ => (Alike.lift _).bind fun _ =>
      (changeCatalog_respects _).bind fun _ => Alike.pure _
  · exact Alike.throw _

theorem alterOwner_respects (name : QName) : Respects (Over related) (alterOwner name) :=
  catalog_respects.bind fun _ => (Alike.lift _).bind fun _ => Alike.pure _

/-! ### Changes of tables -/

theorem newValue_respects (mirrored : Mirrored related) (now : Timestamp) (l : Layout)
    (column : ColumnDef) (hasRows : Bool) :
    Respects (Over related) (newValue now l column hasRows) := by
  unfold newValue
  split
  · split
    · exact catalog_respects.bind fun _ => (Alike.lift _).bind fun _ => (Alike.lift _).bind fun e =>
        evaluate_respects now fun _ => e.eval_respects mirrored.toMirrored [] []
    · exact Alike.pure _
  · exact Alike.pure _

theorem addColumn_respects (mirrored : Mirrored related) (now : Timestamp) (d : TableDef)
    (t : Sql.ColumnTerm) : Respects (Over related) (addColumn now d t) := by
  refine catalog_respects.bind fun c => (Alike.lift _).bind fun l => ?_
  refine (Alike.lift _).bind fun _ => (Alike.lift _).bind fun _ => ?_
  refine (content_respects mirrored _).bind fun content => ?_
  dsimp only
  split
  · refine (newValue_respects mirrored now l _ _).bind fun value => ?_
    split
    · exact Alike.throw_bind _ _ _
    · exact (allocateIndexes_respects _).bind fun _ => (content_respects mirrored _).bind fun _ =>
        (putContent_respects mirrored _ _).bind fun _ => (fillIndexes_respects mirrored _ _).bind
          fun _ => (registerParts_respects _ _ _).bind fun _ => changeCatalog_respects _
  · exact Alike.pure _

theorem dropColumn_respects (mirrored : Mirrored related) (d : TableDef) (position : Nat)
    (column : String) : Respects (Over related) (dropColumn d position column) :=
  catalog_respects.bind fun _ => (content_respects mirrored _).bind fun _ =>
    (putContent_respects mirrored _ _).bind fun _ =>
      (Alike.forM fun _ _ => discard_respects mirrored _).bind fun _ => changeCatalog_respects _

theorem checkRows_respects (mirrored : Mirrored related) (now : Timestamp) (d : TableDef)
    (checks : List CheckDef) : Respects (Over related) (checkRows now d checks) := by
  refine catalog_respects.bind fun c => ?_
  refine (Alike.mapM fun _ _ => (Alike.lift _).bind fun _ => Alike.pure _).bind fun compiled => ?_
  refine (content_respects mirrored _).bind fun content => evaluate_respects now fun env => ?_
  refine Alike.forM fun check _ => Alike.forM fun row _ => ?_
  refine (check.2.eval_respects mirrored.toMirrored [] row).bind fun v => ?_
  split
  · exact Alike.throw _
  · exact Alike.pure _

theorem addConstraint_respects (mirrored : Mirrored related) (now : Timestamp) (d : TableDef)
    (constraint : Sql.Constraint) : Respects (Over related) (addConstraint now d constraint) := by
  refine (Alike.lift _).bind fun l => (Alike.lift _).bind fun _ => catalog_respects.bind fun c => ?_
  refine (Alike.lift _).bind fun _ => (checkRows_respects mirrored now d _).bind fun _ => ?_
  refine (content_respects mirrored _).bind fun content => ?_
  dsimp only
  split
  · exact Alike.throw_bind _ _ _
  · exact (allocateIndexes_respects _).bind fun _ => (fillIndexes_respects mirrored _ _).bind
      fun _ => (registerParts_respects _ _ _).bind fun _ => changeCatalog_respects _

theorem dropConstraint_respects (mirrored : Mirrored related) (d : TableDef) (name : String)
    (ifExists : Bool) : Respects (Over related) (dropConstraint d name ifExists) := by
  unfold dropConstraint
  split
  · exact (dropIndex_respects mirrored _ _).bind fun _ => changeCatalog_respects _
  · exact changeCatalog_respects _
  · split
    · exact Alike.throw _
    · exact Alike.pure _

theorem alterOne_respects (mirrored : Mirrored related) (now : Timestamp) (id : Nat)
    (change : Sql.TableChange) : Respects (Over related) (alterOne now id change) := by
  refine catalog_respects.bind fun c => (Alike.lift _).bind fun d => ?_
  cases change with
  | rename name => exact changeCatalog_respects _
  | addColumn t ifNotExists =>
      dsimp only
      split
      · exact addColumn_respects mirrored now d t
      · split
        · exact Alike.throw _
        · exact Alike.pure _
  | dropColumn name ifExists =>
      dsimp only
      split
      · exact dropColumn_respects mirrored d _ _
      · split
        · exact (Alike.lift _).bind fun _ => Alike.pure _
        · exact Alike.pure _
  | renameColumn before after =>
      refine (Alike.lift _).bind fun position => ?_
      dsimp only
      split
      · exact Alike.throw_bind _ _ _
      · exact changeCatalog_respects _
  | changeColumn name change =>
      exact (Alike.lift _).bind fun _ => (content_respects mirrored id).bind fun _ =>
        (Alike.lift _).bind fun _ => changeCatalog_respects _
  | addConstraint constraint => exact addConstraint_respects mirrored now d constraint
  | dropConstraint name ifExists => exact dropConstraint_respects mirrored d _ ifExists
  | unsupported text => exact Alike.throw _

theorem alterTable_respects (mirrored : Mirrored related) (now : Timestamp) (t : Sql.AlterTable) :
    Respects (Over related) (alterTable now t) := by
  refine catalog_respects.bind fun c => (Alike.lift _).bind fun name => ?_
  split
  · exact Alike.pure _
  · exact Alike.throw _
  · exact (Alike.forM fun change _ => alterOne_respects mirrored now _ change).bind
      fun _ => Alike.pure _

/-! ### Relations that go -/

theorem dropTable_respects (mirrored : Mirrored related) (c : Catalog) (d : TableDef) :
    Respects (Over related) (dropTable c d) :=
  (Alike.forM fun _ _ => changeCatalog_respects _).bind fun _ =>
    (Alike.forM fun _ _ => discard_respects mirrored _).bind fun _ =>
      (changeCatalog_respects _).bind fun _ => remove_respects mirrored _

theorem dropRelation_respects (mirrored : Mirrored related) (id : Nat) (r : Relation) :
    Respects (Over related) (dropRelation id r) := by
  refine catalog_respects.bind fun c => ?_
  cases r with
  | table d => exact dropTable_respects mirrored c d
  | index table name =>
      exact (Alike.lift _).bind fun _ => (dropIndex_respects mirrored _ _).bind fun _ =>
        changeCatalog_respects _
  | sequence s => exact discard_respects mirrored id
  | type t => exact Alike.pure _

theorem drop_respects (mirrored : Mirrored related) (t : Sql.Drop) :
    Respects (Over related) (drop t) := by
  refine (Alike.lift _).bind fun kind => catalog_respects.bind fun c => ?_
  refine (Alike.mapM fun _ _ => Alike.lift _).bind fun found => ?_
  dsimp only
  split
  · exact Alike.pure _
  · exact (Alike.forM fun e _ => dropRelation_respects mirrored e.1 e.2).bind fun _ => Alike.pure _

end Define

end SqlEngine
