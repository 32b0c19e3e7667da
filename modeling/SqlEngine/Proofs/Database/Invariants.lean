import SqlEngine.Proofs.Database.DefinitionFrame
import SqlEngine.Proofs.Database.Reachable
import SqlEngine.Proofs.Database.StatementFrame

/-!
Conditions on the catalog and the visible data that outlast statements.

A condition is looked at for each single change that a statement may make of the catalog or of the
data. If it survives all of them, it holds in every database that can be met, also of the data that a
rollback would bring back. Statements that alter sequences are left out: what they do to a counter
may break such a condition, so they are looked at one by one.
-/

namespace SqlEngine

namespace DataView

/-- The data with another value under a key. -/
def set (view : DataView) (key : DataKey) (value : DataValue) : DataView :=
  fun target => if target = key then some value else view target

/-- The data without what is under a key. -/
def remove (view : DataView) (key : DataKey) : DataView :=
  fun target => if target = key then none else view target

/-- The counter of a sequence; one that was never used stands at its start. -/
def sequence (view : DataView) (d : SequenceDef) : SequenceState :=
  match view (.sequence d.id) with
  | some (.sequence state) => state
  | _ => .fresh d.options

theorem set_get? (s : Store) (key : DataKey) (value : DataValue) :
    (s.set key value).get? = set s.get? key value :=
  funext fun target => Transaction.get?_set s key target value

theorem remove_get? (s : Store) (key : DataKey) : (s.remove key).get? = remove s.get? key :=
  funext (Transaction.get?_remove s key)

theorem sequence_get? (s : Store) (d : SequenceDef) : s.sequence d = sequence s.get? d := by
  rw [Store.sequence, Store.sequence?, sequence]
  rcases s.get? (.sequence d.id) with _ | (content | state | values) <;> rfl

/-- The condition survives every single change that statements other than those that alter sequences
make. -/
structure Robust (q : Catalog → DataView → Prop) : Prop where
  /-- Numbers are taken; search path and functions do not matter. -/
  recatalog : ∀ c next view, next.schemas = c.schemas → c.nextId ≤ next.nextId →
    q c view → q next view
  createSchema : ∀ c next view name ifNotExists created,
    c.createSchema name ifNotExists = .ok (created, next) → q c view → q next view
  register : ∀ c next view schema id r, r.sequence? = none → c.register schema id r = .ok next →
    q c view → q next view
  registerSequence : ∀ c next view schema name options, options.Valid →
    c.registerNext schema (fun id => .sequence ⟨id, schema, name, options⟩) = .ok next →
    q c view → q next view
  replaceTable : ∀ c next view d, c.replaceTable d = .ok next → q c view → q next view
  rename : ∀ c next view id name, c.rename id name = .ok next → q c view → q next view
  drop : ∀ c next view id, c.drop id = .ok next → q c view → q next view
  writes : ∀ c view key value, (∀ id, key ≠ .sequence id) → q c view → q c (view.set key value)
  moves : ∀ c view name d state, c.sequence name = .ok d → d.Moves (view.sequence d) state →
    q c view → q c (view.set (.sequence d.id) (.sequence state))
  removes : ∀ c view key, q c view → q c (view.remove key)

namespace Robust

variable {q : Catalog → DataView → Prop} (robust : Robust q)
include robust

theorem rows (env : Env) : Eval.Free env fun s => q env.catalog s.store.get? where
  draws _ _ held := held
  sequences s name d state found moves held := by
    rw [sequence_get?] at moves
    dsimp only
    rw [Store.putSequence, set_get?]
    exact robust.moves _ _ name d state found moves held
  tables s id content held := by
    dsimp only
    rw [Store.putTable, set_get?]
    exact robust.writes _ _ _ _ (by simp) held
  settings s name value held := by
    dsimp only
    rw [Store.putSetting, set_get?]
    exact robust.writes _ _ _ _ (by simp) held

theorem definitions : Define.Free fun s => q s.catalog s.data.store.get? where
  raise c data nextId later := robust.recatalog _ _ _ rfl later
  register c next data := robust.register c next _
  registerSequence c next data := robust.registerSequence c next _
  replaceTable c next data := robust.replaceTable c next _
  rename c next data := robust.rename c next _
  drop c next data := robust.drop c next _
  createSchema c next data := robust.createSchema c next _
  writes c data id content held := by
    dsimp only
    rw [Store.putTable, set_get?]
    exact robust.writes _ _ _ _ (by simp) held
  removes c data key held := by
    dsimp only
    rw [remove_get?]
    exact robust.removes _ _ _ held
  evaluates c now := (robust.rows ⟨c, now⟩).toStable

end Robust

end DataView

open DataView (Robust)

namespace Database

open Sql (Statement)

/-! ### What the manners of statements keep -/

/-- The program of the manner, if there is one, keeps the condition. -/
def Manner.Upholds (q : Catalog → DataView → Prop) : Manner → Prop
  | rows m => ∀ env, (m env).Keeps fun s => q env.catalog s.store.get?
  | definition m => ∀ o now, Define.Keeps (fun s => q s.catalog s.data.store.get?) (m o now)
  | searchPath path => ∀ c view, q c view → q (c.setSearchPath path) view
  | _ => True

end Database

namespace Sql.Statement

def isAlterSequence : Statement → Bool
  | alterSequence .. => true
  | _ => false

open Database (Manner)

theorem upholding_manner {q : Catalog → DataView → Prop} (robust : Robust q) (s : Statement)
    (other : s.isAlterSequence = false) : s.manner.Upholds q := by
  have free := robust.definitions
  cases s with
  | query statement =>
      exact fun env => statement.run_keeps (robust.rows env).toStable
        fun _ _ _ t _ => t.kept_of_free (robust.rows env)
  | change c =>
      exact fun env => Eval.Keeps.bind (c.run_keeps (robust.rows env).toStable
        fun _ _ t _ => t.kept_of_free (robust.rows env)) fun _ => Eval.Keeps.pure _
  | truncate table marked => exact fun env => Session.truncate_keeps (robust.rows env) table
  | showVariable words => exact fun env => Session.shown_keeps env words
  | setVariable scope name values =>
      simp only [manner]
      split
      · exact fun c view => robust.recatalog c _ view rfl (Nat.le_refl _)
      · exact fun env => Session.put_keeps (robust.rows env) _ _
  | createTable t => exact fun _ _ => Define.createTable_keeps free t
  | createIndex t => exact fun o _ => Define.createIndex_keeps free o t
  | createSchema name ifNotExists => exact fun _ _ => Define.createSchema_keeps free name ifNotExists
  | alterTable t => exact fun _ now => Define.alterTable_keeps free now t
  | drop t => exact fun _ _ => Define.drop_keeps free t
  | createSequence name ifNotExists clauses =>
      exact fun _ _ => Define.createSequence_keeps free name ifNotExists clauses
  | alterSequence name ifExists clauses => cases other
  | createEnum name labels => exact fun _ _ => Define.createEnum_keeps free name labels
  | alterOwner table => exact fun _ _ => Define.alterOwner_keeps table
  | _ => trivial

end Sql.Statement

namespace Database

open Sql (Statement LocatedStatement)

/-- The condition holds of the catalog with the data that are visible, and with those that a rollback
would bring back. -/
structure Upholds (q : Catalog → DataView → Prop) (db : Database) : Prop extends Live db where
  visible : q db.catalog db.store.get?
  hidden : db.inTransaction = true → q db.catalog fun key => Level.read key db.store.below

variable {db : Database} {q : Catalog → DataView → Prop}

namespace Upholds

theorem tick (upholds : db.Upholds q) (now : Timestamp) : Upholds q { db with now } :=
  ⟨upholds.toLive.tick now, upholds.visible, upholds.hidden⟩

theorem closed {store : Store} (formed : store.WellFormed) (child : store.below ≠ [])
    (held : q db.catalog store.get?) : Upholds q { db with store, inTransaction := false } :=
  ⟨⟨formed, child⟩, held, fun opened => absurd opened Bool.false_ne_true⟩

theorem commitAll (upholds : db.Upholds q) :
    Upholds q { db.commitAll with inTransaction := false } := by
  have live := upholds.toLive.commitAll
  refine closed live.formed live.child ?_
  have same : db.store.commitAll.fork.get? = db.store.get? :=
    funext (Transaction.get?_commitAll upholds.formed)
  exact same ▸ upholds.visible

theorem endBatch (upholds : db.Upholds q) : db.endBatch.Upholds q := by
  unfold Database.endBatch
  split
  · exact upholds
  · rename_i unopened
    have closed := upholds.commitAll
    rw [Bool.not_eq_true] at unopened
    rwa [← unopened] at closed

theorem inSavepoint (upholds : db.Upholds q) {m : Env → Eval Outcome} (blind : Eval.Blind m)
    (keeps : (m ⟨db.catalog, db.now⟩).Keeps fun s => q db.catalog s.store.get?) :
    (db.inSavepoint m).2.Upholds q := by
  obtain ⟨-, states⟩ := upholds.toLive.twins.rows_alike rfl blind
  have kept := (keeps ⟨db.store.fork, db.drawn⟩ upholds.visible).1
  rcases ran : (m ⟨db.catalog, db.now⟩).run ⟨db.store.fork, db.drawn⟩ with ⟨result, s⟩
  rw [ran] at states kept
  cases result with
  | error e =>
      rw [inSavepoint_failed ran states.below]
      exact upholds
  | ok outcome =>
      obtain ⟨store, done, formed, below, visible⟩ :=
        inSavepoint_succeeded ran states.below states.formed
      rw [done]
      refine ⟨⟨formed, below ▸ upholds.child⟩, ?_, below ▸ upholds.hidden⟩
      exact (funext visible : store.get? = s.store.get?) ▸ kept

/-- A definition that fails leaves the condition alone, and one that succeeds has to keep it. -/
theorem define (upholds : db.Upholds q) {m : Define Outcome} (blind : Define.Blind m)
    (keeps : ∀ outcome t, m.run ⟨db.catalog, ⟨db.store.commitAll.fork, db.drawn⟩⟩ = (.ok outcome, t) →
      q t.catalog t.data.store.get?) : (db.define m).2.Upholds q := by
  obtain ⟨-, states⟩ := upholds.toLive.twins.definition_alike blind
  rcases ran : m.run ⟨db.catalog, ⟨db.store.commitAll.fork, db.drawn⟩⟩ with ⟨result, d⟩
  rw [ran] at states
  cases result with
  | error e =>
      rw [define_failed ran states.data.below]
      exact upholds.commitAll
  | ok outcome =>
      obtain ⟨store, done, formed, child, visible⟩ :=
        define_succeeded ran states.data.below states.data.formed
      have kept := keeps outcome d ran
      rw [done]
      refine ⟨⟨formed, child⟩, ?_, fun opened => absurd opened Bool.false_ne_true⟩
      exact (funext visible : store.get? = d.data.store.get?) ▸ kept

theorem startTransaction (upholds : db.Upholds q) : db.startTransaction.2.Upholds q := by
  unfold Database.startTransaction
  split
  · exact upholds
  · exact ⟨⟨upholds.formed.fork, List.cons_ne_nil _ _⟩, upholds.visible, fun _ => upholds.visible⟩

theorem reopened {parent : Store} (formed : parent.WellFormed) (held : q db.catalog parent.get?) :
    Upholds q { db with store := Database.reopened parent, inTransaction := false } := by
  refine closed (wellFormed_reopened formed) (below_reopened parent) ?_
  exact (funext (get?_reopened parent) : (Database.reopened parent).get? = parent.get?) ▸ held

theorem commit (upholds : db.Upholds q) : db.commit.2.Upholds q := by
  cases opened : db.inTransaction with
  | false =>
      simp only [Database.commit, opened, Bool.false_eq_true, ↓reduceIte]
      exact upholds
  | true =>
      obtain ⟨parent, done, formed, visible⟩ := upholds.toLive.commit_eq opened
      rw [done]
      exact reopened formed ((funext visible : parent.get? = db.store.get?) ▸ upholds.visible)

theorem rollback (upholds : db.Upholds q) : db.rollback.2.Upholds q := by
  cases opened : db.inTransaction with
  | false =>
      simp only [Database.rollback, opened, Bool.false_eq_true, ↓reduceIte]
      exact upholds
  | true =>
      obtain ⟨parent, done, formed, visible⟩ := upholds.toLive.rollback_eq opened
      rw [done]
      have same : parent.get? = fun key => Level.read key db.store.below := funext visible
      exact reopened formed (same ▸ upholds.hidden opened)

theorem recatalog (upholds : db.Upholds q) {next : Catalog}
    (kept : ∀ view, q db.catalog view → q next view) : Upholds q { db with catalog := next } :=
  ⟨⟨upholds.formed, upholds.child⟩, kept _ upholds.visible,
    fun opened => kept _ (upholds.hidden opened)⟩

theorem manner (upholds : db.Upholds q) {m : Manner} (blind : m.Blind) (keeps : m.Upholds q) :
    (m.run db).2.Upholds q := by
  cases m with
  | rows m => exact upholds.inSavepoint blind (keeps ⟨db.catalog, db.now⟩)
  | definition m =>
      refine upholds.define (blind db.options db.now) fun outcome t => ?_
      exact keeps db.options db.now (upholds.commitAll.visible)
  | searchPath path => exact upholds.recatalog (keeps db.catalog)
  | start => exact upholds.startTransaction
  | commit => exact upholds.commit
  | rollback => exact upholds.rollback
  | idle result => exact upholds

theorem run (upholds : db.Upholds q) (robust : Robust q) {s : Statement}
    (plain : s.isExtension = false) (other : s.isAlterSequence = false) (installer : Installer) :
    (db.run installer s).2.Upholds q := by
  rw [s.run_eq plain]
  exact upholds.manner s.blind_manner (s.upholding_manner robust other)

end Upholds

/-! ### Databases that are met with care -/

/-- The databases that can be met when every statement is one that is allowed in the database that it
is carried out in. An extension is created by the steps that its creation is made of. -/
inductive Guarded (allowed : Database → Statement → Prop) : Database → Prop
  | created {o : DbOptions} {now : Timestamp} {db : Database} :
      create o now = .ok db → Guarded allowed db
  | tick {db : Database} (now : Timestamp) : Guarded allowed db → Guarded allowed { db with now }
  | run {db : Database} (installer : Installer) {s : Statement} : s.isExtension = false →
      allowed db s → Guarded allowed db → Guarded allowed (db.run installer s).2
  | close {db : Database} :
      Guarded allowed db → Guarded allowed { db.commitAll with inTransaction := false }
  | installed {db : Database} (names : List String) :
      Guarded allowed db → Guarded allowed { db.commitAll with installed := names }
  | setSearchPath {db : Database} (path : List String) :
      Guarded allowed db → Guarded allowed (db.setSearchPath path)
  | createSchema {db after : Database} {name : String} {ifNotExists created : Bool} :
      db.createSchema name ifNotExists = .ok (created, after) → Guarded allowed db →
        Guarded allowed after
  | registerFunction {db after : Database} {schema : Option String} {signature : Signature}
      {body : List Value → Except SqlError Value} :
      db.registerFunction schema signature body = .ok after → Guarded allowed db →
        Guarded allowed after
  | registerExtension {db : Database} (name : String) (x : Extension) :
      Guarded allowed db → Guarded allowed (db.registerExtension name x)

namespace Guarded

variable {allowed : Database → Statement → Prop}

theorem endBatch (guarded : db.Guarded allowed) : db.endBatch.Guarded allowed := by
  unfold Database.endBatch
  split
  · exact guarded
  · rename_i unopened
    have closed := guarded.close
    rw [Bool.not_eq_true] at unopened
    rwa [← unopened] at closed

/-- Where everything is allowed, every database that can be met is one of them. -/
theorem of_reachable (reachable : db.Reachable) : db.Guarded fun _ _ => True := by
  have lasting : Lasting fun db => db.Guarded fun _ _ => True := {
    plain := fun installer plain guarded => guarded.run installer plain trivial
    tick := fun now guarded => guarded.tick now
    close := fun guarded => guarded.close
    installed := fun names guarded => guarded.installed names
    setSearchPath := fun path guarded => guarded.setSearchPath path
    createSchema := fun made guarded => guarded.createSchema made
    registerFunction := fun registered guarded => guarded.registerFunction registered
    registerExtension := fun name x guarded => guarded.registerExtension name x }
  exact lasting.reachable .created reachable

/-- Calls whose statements are allowed everywhere lead to nothing else. -/
theorem callAll (guarded : db.Guarded allowed) (calls : List Call)
    (careful : ∀ s ∈ db.carriedOutByAll calls, s.isExtension = false ∧ ∀ db, allowed db s) :
    (db.callAll calls).Guarded allowed := by
  have traced : Traced fun done db =>
      (∀ s ∈ done, s.isExtension = false ∧ ∀ db, allowed db s) → db.Guarded allowed := {
    runs := fun installer done db s guarded careful => by
      obtain ⟨before, last⟩ := List.forall_mem_append.mp careful
      obtain ⟨plain, allowed⟩ := last s (List.mem_singleton_self s)
      exact (guarded before).run installer plain (allowed db)
    ends := fun done db guarded careful => (guarded careful).endBatch
    ticks := fun done db now guarded careful => (guarded careful).tick now }
  exact traced.callAll calls [] db (fun _ => guarded) careful

/-- A robust condition that holds at the start and survives the sequences that are altered holds all
the time. -/
theorem upholds (guarded : db.Guarded allowed) (robust : Robust q)
    (start : ∀ o, q (.create o) fun _ => none)
    (alters : ∀ db installer name ifExists clauses,
      allowed db (.alterSequence name ifExists clauses) → db.Upholds q →
        (db.run installer (.alterSequence name ifExists clauses)).2.Upholds q) :
    db.Upholds q := by
  induction guarded with
  | created made =>
      obtain ⟨_, -, result⟩ := Run.bind_ok made
      cases result
      exact ⟨⟨Transaction.wellFormed_empty.fork, List.cons_ne_nil _ _⟩, start _,
        fun opened => absurd opened Bool.false_ne_true⟩
  | tick now _ held => exact held.tick now
  | @run db installer s plain allowed _ held =>
      cases other : s.isAlterSequence with
      | false => exact held.run robust plain other installer
      | true =>
          -- the one statement that robustness says nothing about
          cases s with
          | alterSequence name ifExists clauses =>
              exact alters db installer name ifExists clauses allowed held
          | _ => cases other
  | close _ held => exact held.commitAll
  | @installed db names _ held =>
      have live := held.toLive.commitAll
      -- what a rollback would bring back is what was committed
      exact ⟨⟨live.formed, live.child⟩, held.commitAll.visible, fun _ => held.commitAll.visible⟩
  | setSearchPath path _ held =>
      exact held.recatalog fun view => robust.recatalog _ _ view rfl (Nat.le_refl _)
  | createSchema made _ held =>
      obtain ⟨⟨_, next⟩, given, result⟩ := Run.bind_ok made
      cases result
      exact held.recatalog fun view => robust.createSchema _ _ view _ _ _ given
  | registerFunction registered _ held =>
      obtain ⟨catalog, given, result⟩ := Run.bind_ok registered
      obtain ⟨_, -, given⟩ := Run.bind_ok given
      cases given
      cases result
      exact held.recatalog fun view => robust.recatalog _ _ view rfl (Nat.le_refl _)
  | registerExtension name x _ held =>
      exact ⟨⟨held.formed, held.child⟩, held.visible, held.hidden⟩

end Guarded

end Database

end SqlEngine
