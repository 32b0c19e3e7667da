import SqlEngine.Proofs.Database.Alterations
import SqlEngine.Proofs.Database.Rollback
import SqlEngine.Proofs.Database.Statements

/-!
Databases whose data agree with the catalog.

Every statement keeps the agreement, whether it succeeds or fails, if no subquery of an expression
that gives a value of a row has a `WITH` list. So in whatever database calls of such statements lead
to, each row has values of the types of its columns and all the values that its table demands, and
the indexes hold the keys of the rows.
-/

namespace SqlEngine

open Eval (Keeps Meets)
open EvalState (Agrees)

/-! ### Statements on rows -/

theorem Session.put_agrees {c : Catalog} (base : List (Level DataKey DataValue))
    (name value : String) : (Session.put name value).Keeps (Agrees c base) := by
  refine (Meets.changeStore fun s agrees => ?_).bind fun _ _ => Keeps.pure _
  exact agrees.set (Store.agrees_putSetting agrees.data name value)

theorem Session.truncate_agrees {c : Catalog} (sound : c.Sound) (now : Timestamp)
    (base : List (Level DataKey DataValue)) (table : List Sql.Ident) :
    (Session.truncate ⟨c, now⟩ table).Keeps (Agrees c base) := by
  refine (Keeps.lift _).bind fun name => (Meets.lift fun _ found => found).bind fun d found => ?_
  obtain ⟨schema, id, has⟩ := sound.ordered.table_has found
  have held := (sound.has_table has).2.2
  refine (Meets.changeStore fun s agrees => ?_).bind fun _ _ => Keeps.pure _
  exact agrees.putTable sound held (agrees.content held).truncate

namespace Database

open Sql (Statement)

/-- The program of the manner, if there is one, keeps data and catalog in agreement. -/
def Manner.Agreeing : Manner → Prop
  | rows m => ∀ env base, env.catalog.Sound → (m env).Keeps (Agrees env.catalog base)
  | definition m => ∀ o now, Define.Settles (m o now)
  | _ => True

end Database

theorem Sql.Statement.agreeing_manner (s : Statement) (flat : s.isFlat) : s.manner.Agreeing := by
  cases s with
  | query q => exact fun _ _ sound => q.run_agrees sound (fun _ => sound.flat) flat
  | change c =>
      exact fun _ _ sound =>
        (c.run_meets sound sound.outermost (fun _ => sound.flat) flat).keeps.bind fun _ => Keeps.pure _
  | truncate table marked => exact fun env base sound => Session.truncate_agrees sound _ base table
  | showVariable words => exact fun env _ _ => Session.shown_keeps env words
  | setVariable scope name values =>
      simp only [manner]
      split
      · trivial
      · exact fun _ base _ => Session.put_agrees base _ _
  | createTable t => exact fun _ _ => Define.createTable_settles flat
  | createIndex t => exact fun o _ => Define.createIndex_settles o t
  | createSchema name ifNotExists => exact fun _ _ => Define.createSchema_settles name ifNotExists
  | alterTable t => exact fun _ _ => Define.alterTable_settles flat
  | drop t => exact fun _ _ => Define.drop_settles t
  | createSequence name ifNotExists clauses =>
      exact fun _ _ => Define.createSequence_settles name ifNotExists clauses
  | alterSequence name ifExists clauses =>
      exact fun _ _ => Define.alterSequence_settles name ifExists clauses
  | createEnum name labels => exact fun _ _ => Define.createEnum_settles name labels
  | alterOwner table => exact fun _ _ => Define.alterOwner_settles table
  | _ => trivial

/-! ### Databases -/

namespace Database

open Sql (Statement)

/-- The visible data agree with the catalog, and so do the data that a rollback would bring back. -/
structure Consistent (db : Database) : Prop extends Live db where
  sound : db.catalog.Sound
  visible : db.catalog.Agrees db.store.get?
  hidden : db.inTransaction = true → db.catalog.Agrees fun key => Level.read key db.store.below

variable {db : Database}

namespace Consistent

theorem tick (consistent : db.Consistent) (now : Timestamp) : Consistent { db with now } :=
  ⟨consistent.toLive.tick now, consistent.sound, consistent.visible, consistent.hidden⟩

/-- No transaction is open, and the data are those of the levels that are left. -/
theorem closed (consistent : db.Consistent) {store : Store} (formed : store.WellFormed)
    (child : store.below ≠ []) (agrees : db.catalog.Agrees store.get?) :
    Consistent { db with store, inTransaction := false } :=
  ⟨⟨formed, child⟩, consistent.sound, agrees, fun opened => absurd opened Bool.false_ne_true⟩

theorem commitAll (consistent : db.Consistent) :
    Consistent { db.commitAll with inTransaction := false } := by
  have live := consistent.toLive.commitAll
  refine consistent.closed live.formed live.child ?_
  have same : db.store.commitAll.fork.get? = db.store.get? :=
    funext (Transaction.get?_commitAll consistent.formed)
  exact same ▸ consistent.visible

theorem endBatch (consistent : db.Consistent) : db.endBatch.Consistent := by
  unfold Database.endBatch
  split
  · exact consistent
  · rename_i unopened
    have closed := consistent.commitAll
    rw [Bool.not_eq_true] at unopened
    rwa [← unopened] at closed

theorem inSavepoint (consistent : db.Consistent) {m : Env → Eval Outcome}
    (agreeing : ∀ env base, env.catalog.Sound → (m env).Keeps (Agrees env.catalog base)) :
    (db.inSavepoint m).2.Consistent := by
  have start : Agrees db.catalog db.store.levels ⟨db.store.fork, db.drawn⟩ :=
    ⟨rfl, consistent.formed.fork, consistent.visible⟩
  have kept := (agreeing ⟨db.catalog, db.now⟩ db.store.levels consistent.sound _ start).1
  rcases ran : (m ⟨db.catalog, db.now⟩).run ⟨db.store.fork, db.drawn⟩ with ⟨result, s⟩
  rw [ran] at kept
  cases result with
  | error e =>
      rw [inSavepoint_failed ran kept.below]
      exact consistent
  | ok outcome =>
      obtain ⟨store, done, formed, below, visible⟩ :=
        inSavepoint_succeeded ran kept.below kept.formed
      rw [done]
      refine ⟨⟨formed, below ▸ consistent.child⟩, consistent.sound, ?_, ?_⟩
      · exact (funext visible : store.get? = s.store.get?) ▸ kept.data
      · exact below ▸ consistent.hidden

theorem define (consistent : db.Consistent) {m : Define Outcome} (blind : Define.Blind m)
    (settles : Define.Settles m) : (db.define m).2.Consistent := by
  obtain ⟨-, states⟩ := consistent.toLive.twins.definition_alike blind
  rcases ran : m.run ⟨db.catalog, ⟨db.store.commitAll.fork, db.drawn⟩⟩ with ⟨result, d⟩
  rw [ran] at states
  cases result with
  | error e =>
      rw [define_failed ran states.data.below]
      exact consistent.commitAll
  | ok outcome =>
      obtain ⟨store, done, formed, child, visible⟩ :=
        define_succeeded ran states.data.below states.data.formed
      have start := consistent.commitAll
      have settled := settles ⟨start.sound, start.formed, start.visible⟩ ran
      rw [done]
      refine ⟨⟨formed, child⟩, settled.catalog, ?_, fun opened => absurd opened Bool.false_ne_true⟩
      exact (funext visible : store.get? = d.data.store.get?) ▸ settled.data

theorem startTransaction (consistent : db.Consistent) : db.startTransaction.2.Consistent := by
  unfold Database.startTransaction
  split
  · exact consistent
  · exact ⟨⟨consistent.formed.fork, List.cons_ne_nil _ _⟩, consistent.sound, consistent.visible,
      fun _ => consistent.visible⟩

theorem reopened (consistent : db.Consistent) {parent : Store} (formed : parent.WellFormed)
    (agrees : db.catalog.Agrees parent.get?) :
    Consistent { db with store := Database.reopened parent, inTransaction := false } := by
  refine consistent.closed (wellFormed_reopened formed) (below_reopened parent) ?_
  exact (funext (get?_reopened parent) : (Database.reopened parent).get? = parent.get?) ▸ agrees

theorem commit (consistent : db.Consistent) : db.commit.2.Consistent := by
  cases opened : db.inTransaction with
  | false =>
      simp only [Database.commit, opened, Bool.false_eq_true, ↓reduceIte]
      exact consistent
  | true =>
      obtain ⟨parent, done, formed, visible⟩ := consistent.toLive.commit_eq opened
      rw [done]
      exact consistent.reopened formed
        ((funext visible : parent.get? = db.store.get?) ▸ consistent.visible)

theorem rollback (consistent : db.Consistent) : db.rollback.2.Consistent := by
  cases opened : db.inTransaction with
  | false =>
      simp only [Database.rollback, opened, Bool.false_eq_true, ↓reduceIte]
      exact consistent
  | true =>
      obtain ⟨parent, done, formed, visible⟩ := consistent.toLive.rollback_eq opened
      rw [done]
      have same : parent.get? = fun key => Level.read key db.store.below := funext visible
      exact consistent.reopened formed (same ▸ consistent.hidden opened)

/-- Another catalog with the same relations. -/
theorem recatalog (consistent : db.Consistent) {next : Catalog} (same : db.catalog.Same next) :
    Consistent { db with catalog := next } := by
  have agrees : ∀ view, db.catalog.Agrees view → next.Agrees view := fun view agrees =>
    agrees.mono (fun _ => same.table_iff) fun _ => same.counts_iff.mpr
  exact ⟨⟨consistent.formed, consistent.child⟩, same.sound consistent.sound,
    agrees _ consistent.visible, fun opened => agrees _ (consistent.hidden opened)⟩

theorem manner (consistent : db.Consistent) {m : Manner} (blind : m.Blind)
    (agreeing : m.Agreeing) : (m.run db).2.Consistent := by
  cases m with
  | rows m => exact consistent.inSavepoint agreeing
  | definition m => exact consistent.define (blind db.options db.now) (agreeing db.options db.now)
  | searchPath path =>
      exact consistent.recatalog (consistent.sound.ordered.same_setSearchPath path)
  | start => exact consistent.startTransaction
  | commit => exact consistent.commit
  | rollback => exact consistent.rollback
  | idle result => exact consistent

theorem run (consistent : db.Consistent) {s : Statement} (plain : s.isExtension = false)
    (flat : s.isFlat) (installer : Installer) : (db.run installer s).2.Consistent := by
  rw [s.run_eq plain]
  exact consistent.manner s.blind_manner (s.agreeing_manner flat)

theorem createSchema (consistent : db.Consistent) {name : String} {ifNotExists created : Bool}
    {after : Database} (made : db.createSchema name ifNotExists = .ok (created, after)) :
    after.Consistent := by
  obtain ⟨⟨_, next⟩, given, result⟩ := Run.bind_ok made
  cases result
  exact consistent.recatalog (consistent.sound.ordered.same_createSchema given)

/-- The content of a table that a name stands for goes with its definition. -/
theorem table_conforms (consistent : db.Consistent) {name : QName} {d : TableDef}
    (found : db.catalog.table name = .ok d) : (db.store.table d.id).Conforms d := by
  obtain ⟨schema, id, has⟩ := consistent.sound.ordered.table_has found
  rw [Store.table_eq]
  exact consistent.visible.contents d (consistent.sound.has_table has).2.2

end Consistent

theorem consistent_create {o : DbOptions} {now : Timestamp} (made : create o now = .ok db) :
    db.Consistent := by
  obtain ⟨_, -, result⟩ := Run.bind_ok made
  cases result
  have nothing : ∀ key, (Transaction.empty.fork : Store).get? key = none := fun _ => rfl
  refine ⟨⟨Transaction.wellFormed_empty.fork, List.cons_ne_nil _ _⟩, Catalog.sound_create o, ?_,
    fun opened => absurd opened Bool.false_ne_true⟩
  constructor
  · exact fun d held => absurd held (Catalog.no_table_create o d)
  · exact fun id there => by simp [nothing] at there
  · exact fun id there => by simp [nothing] at there

/-! ### Calls -/

theorem traced_consistent : Traced fun done db =>
    (∀ s ∈ done, s.isExtension = false ∧ s.isFlat) → db.Consistent where
  runs installer done db s consistent plain := by
    obtain ⟨before, last⟩ := List.forall_mem_append.mp plain
    obtain ⟨plainLast, flat⟩ := last s (List.mem_singleton_self s)
    exact (consistent before).run plainLast flat installer
  ends done db consistent plain := (consistent plain).endBatch
  ticks done db now consistent plain := (consistent plain).tick now

/-- Whatever calls do to a new database without extensions, data and catalog agree after them. -/
theorem callAll_consistent {o : DbOptions} {now : Timestamp} (made : create o now = .ok db)
    (calls : List Call)
    (plain : ∀ s ∈ db.carriedOutByAll calls, s.isExtension = false ∧ s.isFlat) :
    (db.callAll calls).Consistent := by
  have start : (∀ s ∈ [], Statement.isExtension s = false ∧ s.isFlat) → db.Consistent :=
    fun _ => consistent_create made
  exact traced_consistent.callAll calls [] db start plain

/-- A table that was created goes with its empty content, also in the transaction opened then. -/
example : exampleOpened.Consistent := by
  have made : create {} default = .ok exampleFresh := rfl
  have created := (consistent_create made).run (s := exampleTable) rfl rfl (executeWithin 0)
  exact created.run (s := .startTransaction "BEGIN") rfl rfl (executeWithin 0)

end Database

end SqlEngine
