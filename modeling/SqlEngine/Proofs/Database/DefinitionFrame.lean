import SqlEngine.Database.Alteration
import SqlEngine.Database.Removal
import SqlEngine.Proofs.Database.Drafts

/-!
What definitions may do to the catalog and the data.

Definitions that succeed are made of a few steps: numbers are taken, relations come, get another
definition or another name and go, contents of tables are written, keys are removed, and expressions
are evaluated. What survives these steps is kept by every definition, except the one that alters
a sequence, for it also moves a counter.
-/

namespace SqlEngine

/-- The condition survives the steps of definitions. -/
structure Define.Free (p : Draft → Prop) : Prop where
  raise : ∀ c data nextId, c.nextId ≤ nextId → p ⟨c, data⟩ → p ⟨{ c with nextId }, data⟩
  register : ∀ c next data schema id r, r.sequence? = none → c.register schema id r = .ok next →
    p ⟨c, data⟩ → p ⟨next, data⟩
  registerSequence : ∀ c next data schema name options, options.Valid →
    c.registerNext schema (fun id => .sequence ⟨id, schema, name, options⟩) = .ok next →
    p ⟨c, data⟩ → p ⟨next, data⟩
  replaceTable : ∀ c next data d, c.replaceTable d = .ok next → p ⟨c, data⟩ → p ⟨next, data⟩
  rename : ∀ c next data id name, c.rename id name = .ok next → p ⟨c, data⟩ → p ⟨next, data⟩
  drop : ∀ c next data id, c.drop id = .ok next → p ⟨c, data⟩ → p ⟨next, data⟩
  createSchema : ∀ c next data name ifNotExists created,
    c.createSchema name ifNotExists = .ok (created, next) → p ⟨c, data⟩ → p ⟨next, data⟩
  writes : ∀ c data id content, p ⟨c, data⟩ →
    p ⟨c, { data with store := data.store.putTable id content }⟩
  removes : ∀ c data key, p ⟨c, data⟩ → p ⟨c, { data with store := data.store.remove key }⟩
  evaluates : ∀ c now, Eval.Stable ⟨c, now⟩ fun data => p ⟨c, data⟩

namespace Define

/-- If it is started where the condition holds and succeeds, the program leaves a draft where it
holds. -/
def Keeps {α : Type} (p : Draft → Prop) (m : Define α) : Prop :=
  ∀ ⦃s t : Draft⦄ ⦃a : α⦄, p s → m.run s = (.ok a, t) → p t

variable {α β : Type} {p : Draft → Prop}

namespace Keeps

theorem pure (a : α) : Keeps p (pure a) := by
  intro s t b held ran
  cases ran
  exact held

theorem throw (e : SqlError) : Keeps p (throw e : Define α) := by
  intro s t a _ ran
  cases ran

theorem lift (x : Except SqlError α) : Keeps p (liftM x) := by
  intro s t a held ran
  obtain ⟨-, rfl⟩ := Run.lift_run_ok ran
  exact held

theorem bind {m : Define α} {f : α → Define β} (first : Keeps p m) (next : ∀ a, Keeps p (f a)) :
    Keeps p (m >>= f) := by
  intro s t b held ran
  obtain ⟨a, u, one, ran⟩ := Run.bind_run_ok ran
  exact next a (first held one) ran

/-- What is given without a change of the state may be counted on. -/
theorem lift_bind {x : Except SqlError α} {f : α → Define β}
    (next : ∀ a, x = .ok a → Keeps p (f a)) : Keeps p (liftM x >>= f) := by
  intro s t b held ran
  obtain ⟨a, given, ran⟩ := Run.lift_bind_ok ran
  exact next a given held ran

theorem throw_bind (e : SqlError) (f : α → Define β) : Keeps p (MonadExcept.throw e >>= f) := by
  intro s t b _ ran
  cases ran

theorem mapM {f : α → Define β} (each : ∀ a, Keeps p (f a)) :
    ∀ items : List α, Keeps p (items.mapM f)
  | [] => by
      rw [List.mapM_nil]
      exact pure _
  | a :: rest => by
      rw [List.mapM_cons]
      exact (each a).bind fun _ => (mapM each rest).bind fun _ => pure _

theorem forM_of_mem {f : α → Define PUnit} {items : List α} (each : ∀ a ∈ items, Keeps p (f a)) :
    Keeps p (items.forM f) :=
  fun _ _ _ held ran => Run.forM_run_keeps (fun a member _ _ => @each a member _ _ _) held ran

theorem forM {f : α → Define PUnit} (each : ∀ a, Keeps p (f a)) (items : List α) :
    Keeps p (items.forM f) :=
  forM_of_mem fun a _ => each a

theorem catalog : Keeps p catalog := by
  intro s t c held ran
  cases ran
  exact held

theorem content (table : Nat) : Keeps p (content table) := by
  intro s t content held ran
  cases ran
  exact held

theorem changeCatalog {f : Catalog → Except SqlError Catalog}
    (kept : ∀ c next data, f c = .ok next → p ⟨c, data⟩ → p ⟨next, data⟩) :
    Keeps p (changeCatalog f) := by
  intro s t _ held ran
  obtain ⟨next, given, rfl⟩ := changeCatalog_ok ran
  exact kept s.catalog next s.data given held

end Keeps

/-! ### Steps -/

section Steps

variable (free : Free p)
include free

theorem allocate_keeps : Keeps p allocate := by
  intro s t id held ran
  cases ran
  exact free.raise s.catalog s.data _ (Nat.le_succ _) held

theorem putContent_keeps (table : Nat) (content : TableData) :
    Keeps p (putContent table content) := by
  intro s t _ held ran
  cases ran
  exact free.writes s.catalog s.data table content held

theorem remove_keeps (key : DataKey) : Keeps p (changeStore (·.remove key)) := by
  intro s t _ held ran
  cases ran
  exact free.removes s.catalog s.data key held

theorem changeContent_keeps (table : Nat) (m : ContentChange α) : Keeps p (changeContent table m) :=
  (Keeps.content table).bind fun _ => (putContent_keeps free table _).bind fun _ => Keeps.lift _

theorem evaluate_keeps (now : Timestamp) {m : Env → Eval α}
    (each : ∀ env inv, Eval.Stable env inv → (m env).Keeps inv) : Keeps p (evaluate now m) := by
  intro s t a held ran
  obtain ⟨data, given, rfl⟩ := evaluate_ok ran
  obtain ⟨kept, -⟩ := each _ _ (free.evaluates s.catalog now) s.data held
  rwa [given] at kept

theorem dropOne_keeps (id : Nat) : Keeps p (changeCatalog (·.drop id)) :=
  Keeps.changeCatalog fun c next data => free.drop c next data id

theorem discard_keeps (id : Nat) : Keeps p (discard id) :=
  (dropOne_keeps free id).bind fun _ => remove_keeps free _

theorem dropIndex_keeps (table index : Nat) : Keeps p (dropIndex table index) :=
  (Keeps.content table).bind fun _ => (putContent_keeps free table _).bind fun _ =>
    dropOne_keeps free index

theorem register_keeps (schema : String) (id : Nat) {r : Relation} (other : r.sequence? = none) :
    Keeps p (changeCatalog (·.register schema id r)) :=
  Keeps.changeCatalog fun c next data => free.register c next data schema id r other

theorem replaceTable_keeps (d : TableDef) : Keeps p (changeCatalog (·.replaceTable d)) :=
  Keeps.changeCatalog fun c next data => free.replaceTable c next data d

/-! ### Parts of tables -/

theorem allocateIndexes_keeps (keys : List Key) : Keeps p (allocateIndexes keys) :=
  Keeps.mapM (fun _ => (allocate_keeps free).bind fun _ => Keeps.pure _) keys

theorem registerIndex_keeps (d : TableDef) (i : IndexDef) : Keeps p (registerIndex d i) :=
  register_keeps free d.schema i.id rfl

theorem registerSerial_keeps (d : TableDef) (s : SerialColumn) : Keeps p (registerSerial d s) :=
  Keeps.lift_bind fun options created => Keeps.changeCatalog fun c next data =>
    free.registerSequence c next data d.schema s.sequence options
      (SequenceOptions.create_valid created)

theorem registerParts_keeps (d : TableDef) (l : Layout) (indexes : List IndexDef) :
    Keeps p (registerParts d l indexes) :=
  (Keeps.forM (registerIndex_keeps free d) indexes).bind fun _ =>
    Keeps.forM (registerSerial_keeps free d) l.serials

theorem fillIndexes_keeps (d : TableDef) (indexes : List IndexDef) :
    Keeps p (fillIndexes d indexes) :=
  Keeps.forM (fun _ => changeContent_keeps free d.id _) indexes

/-! ### Statements -/

theorem createTable_keeps (t : Sql.CreateTable) : Keeps p (createTable t) := by
  unfold createTable
  dsimp only
  split
  · exact Keeps.throw_bind _ _
  refine Keeps.catalog.bind fun c => (Keeps.lift _).bind fun name => ?_
  split
  · split
    · exact Keeps.pure _
    · exact Keeps.throw_bind _ _
  · exact (Keeps.lift _).bind fun l => (Keeps.lift _).bind fun _ => (allocate_keeps free).bind
      fun id => (allocateIndexes_keeps free _).bind fun _ => (register_keeps free _ id rfl).bind
        fun _ => (registerParts_keeps free _ _ _).bind fun _ =>
          (putContent_keeps free _ _).bind fun _ => Keeps.pure _

theorem createIndex_keeps (o : DbOptions) (t : Sql.CreateIndex) : Keeps p (createIndex o t) := by
  refine createIndex_cases o t (Keeps.pure _) (fun _ => Keeps.throw _) fun name => ?_
  refine Keeps.catalog.bind fun c => (Keeps.lift _).bind fun _ => (Keeps.lift _).bind fun d =>
    (Keeps.lift _).bind fun columns => ?_
  dsimp only
  split
  · split
    · exact Keeps.pure _
    · exact Keeps.throw_bind _ _
  · exact (allocate_keeps free).bind fun id => (fillIndexes_keeps free _ _).bind fun _ =>
      (register_keeps free _ id rfl).bind fun _ => (replaceTable_keeps free _).bind fun _ =>
        Keeps.pure _

theorem createSequence_keeps (name : QName) (ifNotExists : Bool) (clauses : List SequenceClause) :
    Keeps p (createSequence name ifNotExists clauses) := by
  refine Keeps.catalog.bind fun c => ?_
  dsimp only
  split
  · split
    · exact Keeps.pure _
    · exact Keeps.throw_bind _ _
  · refine Keeps.lift_bind fun options created => Keeps.bind ?_ fun _ => Keeps.pure _
    exact Keeps.changeCatalog fun c next data =>
      free.registerSequence c next data _ _ options (SequenceOptions.create_valid created)

theorem createEnum_keeps (name : QName) (labels : List String) :
    Keeps p (createEnum name labels) := by
  refine Keeps.catalog.bind fun c => ?_
  dsimp only
  split
  · exact Keeps.throw_bind _ _
  · split
    · exact Keeps.throw_bind _ _
    · exact (allocate_keeps free).bind fun id => (register_keeps free _ id rfl).bind fun _ =>
        Keeps.pure _

theorem createSchema_keeps (name : Option (List Sql.Ident)) (ifNotExists : Bool) :
    Keeps p (createSchema name ifNotExists) := by
  intro s t outcome held ran
  unfold createSchema at ran
  split at ran
  · rw [catalog_bind_run] at ran
    obtain ⟨⟨created, next⟩, made, ran⟩ := Run.lift_bind_ok ran
    obtain ⟨_, given, done⟩ := changeCatalog_bind_ok ran
    cases given
    cases done
    exact free.createSchema s.catalog next s.data _ _ created made held
  · cases ran

omit free in
theorem alterOwner_keeps (name : QName) : Keeps p (alterOwner name) :=
  Keeps.catalog.bind fun _ => (Keeps.lift _).bind fun _ => Keeps.pure _

/-! ### Changes of tables -/

theorem newValue_keeps (now : Timestamp) (l : Layout) (column : ColumnDef) (hasRows : Bool) :
    Keeps p (newValue now l column hasRows) := by
  unfold newValue
  split
  · split
    · exact Keeps.catalog.bind fun _ => (Keeps.lift _).bind fun _ => (Keeps.lift _).bind fun e =>
        evaluate_keeps free now fun _ _ stable => e.eval_keeps stable [] []
    · exact Keeps.pure _
  · exact Keeps.pure _

theorem addColumn_keeps (now : Timestamp) (d : TableDef) (t : Sql.ColumnTerm) :
    Keeps p (addColumn now d t) := by
  refine Keeps.catalog.bind fun c => (Keeps.lift _).bind fun l => ?_
  refine (Keeps.lift _).bind fun _ => (Keeps.lift _).bind fun _ => ?_
  refine (Keeps.content _).bind fun content => ?_
  dsimp only
  split
  · refine (newValue_keeps free now l _ _).bind fun value => ?_
    split
    · exact Keeps.throw_bind _ _
    · exact (allocateIndexes_keeps free _).bind fun _ => (Keeps.content _).bind fun _ =>
        (putContent_keeps free _ _).bind fun _ => (fillIndexes_keeps free _ _).bind fun _ =>
          (registerParts_keeps free _ _ _).bind fun _ => replaceTable_keeps free _
  · exact Keeps.pure _

theorem dropColumn_keeps (d : TableDef) (position : Nat) (column : String) :
    Keeps p (dropColumn d position column) :=
  Keeps.catalog.bind fun _ => (Keeps.content _).bind fun _ => (putContent_keeps free _ _).bind
    fun _ => (Keeps.forM (discard_keeps free) _).bind fun _ => replaceTable_keeps free _

theorem checkRows_keeps (now : Timestamp) (d : TableDef) (checks : List CheckDef) :
    Keeps p (checkRows now d checks) := by
  refine Keeps.catalog.bind fun c => ?_
  refine (Keeps.mapM (fun _ => (Keeps.lift _).bind fun _ => Keeps.pure _) _).bind fun compiled => ?_
  refine (Keeps.content _).bind fun content => evaluate_keeps free now fun env inv stable => ?_
  refine Eval.Meets.forM fun check _ => Eval.Meets.forM fun row _ => ?_
  refine Eval.Keeps.bind (check.2.eval_keeps stable [] row) fun v => ?_
  split
  · exact Eval.Meets.throw _
  · exact Eval.Keeps.pure _

theorem addConstraint_keeps (now : Timestamp) (d : TableDef) (constraint : Sql.Constraint) :
    Keeps p (addConstraint now d constraint) := by
  refine (Keeps.lift _).bind fun l => (Keeps.lift _).bind fun _ => Keeps.catalog.bind fun c => ?_
  refine (Keeps.lift _).bind fun _ => (checkRows_keeps free now d _).bind fun _ => ?_
  refine (Keeps.content _).bind fun content => ?_
  dsimp only
  split
  · exact Keeps.throw_bind _ _
  · exact (allocateIndexes_keeps free _).bind fun _ => (fillIndexes_keeps free _ _).bind fun _ =>
      (registerParts_keeps free _ _ _).bind fun _ => replaceTable_keeps free _

theorem dropConstraint_keeps (d : TableDef) (name : String) (ifExists : Bool) :
    Keeps p (dropConstraint d name ifExists) := by
  unfold dropConstraint
  split
  · exact (dropIndex_keeps free _ _).bind fun _ => replaceTable_keeps free _
  · exact replaceTable_keeps free _
  · split
    · exact Keeps.throw _
    · exact Keeps.pure _

theorem alterOne_keeps (now : Timestamp) (id : Nat) (change : Sql.TableChange) :
    Keeps p (alterOne now id change) := by
  refine Keeps.catalog.bind fun c => (Keeps.lift _).bind fun d => ?_
  cases change with
  | rename name => exact Keeps.changeCatalog fun c next data => free.rename c next data id _
  | addColumn t ifNotExists =>
      dsimp only
      split
      · exact addColumn_keeps free now d t
      · split
        · exact Keeps.throw _
        · exact Keeps.pure _
  | dropColumn name ifExists =>
      dsimp only
      split
      · exact dropColumn_keeps free d _ _
      · split
        · exact (Keeps.lift _).bind fun _ => Keeps.pure _
        · exact Keeps.pure _
  | renameColumn before after =>
      refine (Keeps.lift _).bind fun position => ?_
      dsimp only
      split
      · exact Keeps.throw_bind _ _
      · exact replaceTable_keeps free _
  | changeColumn name change =>
      exact (Keeps.lift _).bind fun _ => (Keeps.content id).bind fun _ => (Keeps.lift _).bind
        fun _ => replaceTable_keeps free _
  | addConstraint constraint => exact addConstraint_keeps free now d constraint
  | dropConstraint name ifExists => exact dropConstraint_keeps free d _ ifExists
  | unsupported text => exact Keeps.throw _

theorem alterTable_keeps (now : Timestamp) (t : Sql.AlterTable) : Keeps p (alterTable now t) := by
  refine Keeps.catalog.bind fun c => (Keeps.lift _).bind fun name => ?_
  split
  · exact Keeps.pure _
  · exact Keeps.throw _
  · exact (Keeps.forM (alterOne_keeps free now _) t.changes).bind fun _ => Keeps.pure _

/-! ### Relations that go -/

theorem dropTable_keeps (c : Catalog) (d : TableDef) : Keeps p (dropTable c d) := by
  have indexes := Keeps.forM (fun i : IndexDef => dropOne_keeps free i.id) d.indexes
  have sequences := Keeps.forM (fun s : SequenceDef => discard_keeps free s.id) (c.ownedSequences d)
  exact indexes.bind fun _ => sequences.bind fun _ => (dropOne_keeps free d.id).bind fun _ =>
    remove_keeps free _

theorem dropRelation_keeps (id : Nat) (r : Relation) : Keeps p (dropRelation id r) := by
  refine Keeps.catalog.bind fun c => ?_
  cases r with
  | table d => exact dropTable_keeps free c d
  | index table name =>
      exact (Keeps.lift _).bind fun _ => (dropIndex_keeps free table id).bind fun _ =>
        replaceTable_keeps free _
  | sequence s => exact discard_keeps free id
  | type t => exact Keeps.pure _

theorem drop_keeps (t : Sql.Drop) : Keeps p (drop t) := by
  refine (Keeps.lift _).bind fun kind => Keeps.catalog.bind fun c => ?_
  refine (Keeps.mapM (fun _ => Keeps.lift _) _).bind fun found => ?_
  dsimp only
  split
  · exact Keeps.pure _
  · exact (Keeps.forM (fun e : Nat × Relation => dropRelation_keeps free e.1 e.2) _).bind
      fun _ => Keeps.pure _

end Steps

end Define

end SqlEngine
