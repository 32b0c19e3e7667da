import SqlEngine.Database.Execute
import SqlEngine.Proofs.Database.DefinitionParallel
import SqlEngine.Proofs.Transaction.MapStack

/-!
Databases that hold the same data at different levels.

Two databases are twins if they show the same data, also after a rollback of an open transaction,
however the data are spread over the levels. At the same time, a statement gives the same in both,
and they stay twins. A database is its own twin if the levels of its transaction are in order, so
that this also tells what a statement does to a single database.

Apart from the creation of extensions there are few manners in which statements are carried out: a
program on rows runs in a savepoint, a program on relations runs on top of the root, and what is
left changes the levels of the transaction, changes the search path, or changes nothing. What holds
of every manner holds of every statement, so nothing else needs to go through the kinds of
statements.
-/

namespace SqlEngine

/-! ### Manners of statements -/

open Run (Alike Respects)

/-- The program cannot tell states apart that show the same data. -/
def Eval.Blind (m : Env → Eval Outcome) : Prop :=
  ∀ (related : EvalState → EvalState → Prop), Mirrored related → ∀ env, Respects related (m env)

def Define.Blind (m : Define Outcome) : Prop :=
  ∀ (related : EvalState → EvalState → Prop), Mirrored related → Respects (Draft.Over related) m

namespace Database

open Sql (Statement)

inductive Manner where
  | rows (m : Env → Eval Outcome)
  /-- A definition, which may depend on options and on the time. -/
  | definition (m : DbOptions → Timestamp → Define Outcome)
  | searchPath (path : List String)
  | start
  | commit
  | rollback
  /-- The statement does nothing. -/
  | idle (result : Except SqlError Outcome)

namespace Manner

def run (db : Database) : Manner → Except SqlError Outcome × Database
  | rows m => db.inSavepoint m
  | definition m => db.define (m db.options db.now)
  | searchPath path => (.ok (.done "SET"), db.setSearchPath path)
  | start => (.ok db.startTransaction.1, db.startTransaction.2)
  | commit => (.ok db.commit.1, db.commit.2)
  | rollback => (.ok db.rollback.1, db.rollback.2)
  | idle result => (result, db)

/-- The program of the manner, if there is one, cannot tell states apart that show the same data. -/
def Blind : Manner → Prop
  | rows m => Eval.Blind m
  | definition m => ∀ o now, Define.Blind (m o now)
  | _ => True

def isDefinition : Manner → Bool
  | definition _ => true
  | _ => false

end Manner

end Database

namespace Sql.Statement

def isExtension : Statement → Bool
  | createExtension .. => true
  | _ => false

/-- Does the statement define, change or drop relations, schemas or types? -/
def isDefinition : Statement → Bool
  | createTable _ | createIndex _ | createSchema .. | alterTable _ | drop _ | createSequence ..
  | alterSequence .. | createEnum .. | alterOwner _ => true
  | _ => false

open Database (Manner)

/-- The manner in which a statement is carried out; extensions are created in none of them. -/
def manner : Statement → Manner
  | query q => .rows q.run
  | change c => .rows fun env => do return (← c.run env (.ofCatalog env.catalog)).outcome
  | truncate table _ => .rows (Session.truncate · table)
  | showVariable words => .rows (Session.shown · words)
  | setVariable _ name values =>
    if Session.settingName name == "search_path" then
      .searchPath (values.map Session.settingText)
    else
      .rows fun _ => Session.put (Session.settingName name)
        (", ".intercalate (values.map Session.settingText))
  | setTimeZone _ => .idle (.ok (.skipped "SET"))
  | startTransaction _ => .start
  | commit _ => .commit
  | rollback .. => .rollback
  | createTable t => .definition fun _ _ => Define.createTable t
  | createIndex t => .definition fun o _ => Define.createIndex o t
  | createSchema name ifNotExists => .definition fun _ _ => Define.createSchema name ifNotExists
  | alterTable t => .definition fun _ now => Define.alterTable now t
  | drop t => .definition fun _ _ => Define.drop t
  | createSequence name ifNotExists clauses =>
    .definition fun _ _ => Define.createSequence name ifNotExists clauses
  | alterSequence name ifExists clauses =>
    .definition fun _ _ => Define.alterSequence name ifExists clauses
  | createEnum name labels => .definition fun _ _ => Define.createEnum name labels
  | alterOwner table => .definition fun _ _ => Define.alterOwner table
  | createExtension .. => .idle (.ok (.skipped "CREATE EXTENSION"))
  | unsupported text => .idle (.error (.notSupported (firstWords text)))

theorem run_eq (s : Statement) (plain : s.isExtension = false) (installer : Database.Installer)
    (db : Database) : db.run installer s = s.manner.run db := by
  cases s with
  | setVariable scope name values =>
      simp only [Database.run, Database.setVariable, manner]
      split <;> rfl
  | createExtension name ifNotExists schema => cases plain
  | _ => rfl

theorem isDefinition_manner (s : Statement) : s.manner.isDefinition = s.isDefinition := by
  cases s with
  | setVariable scope name values =>
      simp only [manner]
      split <;> rfl
  | _ => rfl

theorem blind_manner (s : Statement) : s.manner.Blind := by
  cases s with
  | query q => exact fun _ mirrored _ => q.run_respects mirrored
  | change c =>
      exact fun _ mirrored _ => (c.run_respects mirrored _).bind fun _ => Alike.pure _
  | truncate table marked => exact fun _ mirrored env => Session.truncate_respects mirrored env table
  | showVariable words => exact fun _ mirrored env => Session.shown_respects mirrored env words
  | setVariable scope name values =>
      simp only [manner]
      split
      · trivial
      · exact fun _ mirrored _ => Session.put_respects mirrored _ _
  | createTable t => exact fun _ _ _ mirrored => Define.createTable_respects mirrored t
  | createIndex t => exact fun o _ _ mirrored => Define.createIndex_respects mirrored o t
  | createSchema name ifNotExists =>
      exact fun _ _ _ _ => Define.createSchema_respects name ifNotExists
  | alterTable t => exact fun _ now _ mirrored => Define.alterTable_respects mirrored now t
  | drop t => exact fun _ _ _ mirrored => Define.drop_respects mirrored t
  | createSequence name ifNotExists clauses =>
      exact fun _ _ _ _ => Define.createSequence_respects name ifNotExists clauses
  | alterSequence name ifExists clauses =>
      exact fun _ _ _ mirrored => Define.alterSequence_respects mirrored name ifExists clauses
  | createEnum name labels => exact fun _ _ _ _ => Define.createEnum_respects name labels
  | alterOwner table => exact fun _ _ _ _ => Define.alterOwner_respects table
  | _ => trivial

end Sql.Statement

/-! ### Savepoints -/

namespace Transaction

variable {κ ν ε α : Type} [DecidableEq κ] {t inner : Transaction κ ν}
  {body : Transaction κ ν → Except ε α × Transaction κ ν}

theorem savepoint_failed {e : ε} (ran : body t.fork = (.error e, inner))
    (opened : inner.below = t.levels) : t.savepoint body = (.error e, t) := by
  have below : inner.below = t.newest :: t.below := opened
  simp only [savepoint, ran, rollback?, below, Option.getD_some]

theorem savepoint_succeeded {a : α} (ran : body t.fork = (.ok a, inner))
    {parent : Transaction κ ν} (closes : inner.commit? = some parent) :
    t.savepoint body = (.ok a, parent) := by
  simp only [savepoint, ran, closes, Option.getD_some]

/-- What is visible at a level stays visible when the level is closed. -/
theorem commit?_opened (opened : inner.below = t.levels) (formed : inner.WellFormed) :
    ∃ parent, inner.commit? = some parent ∧ parent.WellFormed ∧ parent.below = t.below ∧
      ∀ key, parent.get? key = inner.get? key := by
  obtain ⟨newest, below⟩ := inner
  obtain rfl : below = t.newest :: t.below := opened
  refine ⟨_, rfl, ?_, rfl, fun key => ?_⟩
  · exact Level.Chain.merge formed
  · exact Level.read_merge t.newest newest t.below key formed.2.1

theorem get?_commitAll (formed : t.WellFormed) (key : κ) : t.commitAll.get? key = t.get? key :=
  Level.read_commitAll key t.below t.newest formed

theorem WellFormed.commitAll (formed : t.WellFormed) : t.commitAll.WellFormed :=
  Level.Chain.commitAll t.below t.newest formed

end Transaction

/-! ### States of evaluation -/

/-- The same is visible, at a level above the one chain of levels and at one above the other. -/
structure EvalState.Beside (base other : List (Level DataKey DataValue)) (s t : EvalState) :
    Prop where
  visible : ∀ key, t.store.get? key = s.store.get? key
  drawn : t.drawn = s.drawn
  below : s.store.below = base
  otherBelow : t.store.below = other
  formed : s.store.WellFormed
  otherFormed : t.store.WellFormed

theorem EvalState.Beside.mirrored (base other : List (Level DataKey DataValue)) :
    Define.Mirrored (Beside base other) where
  reads _ _ beside := beside.visible
  drawn _ _ beside := beside.drawn
  draws _ _ _ beside := { beside with drawn := rfl }
  writes s t key value beside := {
    visible := fun target => by
      simp only [Transaction.get?_set, beside.visible]
    drawn := beside.drawn
    below := beside.below
    otherBelow := beside.otherBelow
    formed := beside.formed.set key value
    otherFormed := beside.otherFormed.set key value }
  removes s t key beside := {
    visible := fun target => by
      simp only [Transaction.get?_remove, beside.visible]
    drawn := beside.drawn
    below := beside.below
    otherBelow := beside.otherBelow
    formed := beside.formed.remove key
    otherFormed := beside.otherFormed.remove key }

open EvalState (Beside)

namespace Database

open Sql (Statement)

/-- The levels of the transaction are in order, and there is one above the root. -/
structure Live (db : Database) : Prop where
  formed : db.store.WellFormed
  child : db.store.below ≠ []

structure Twins (db other : Database) : Prop where
  options : other.options = db.options
  catalog : other.catalog = db.catalog
  drawn : other.drawn = db.drawn
  inTransaction : other.inTransaction = db.inTransaction
  visible : ∀ key, other.store.get? key = db.store.get? key
  /-- What a rollback would bring back. -/
  hidden : db.inTransaction = true →
    ∀ key, Level.read key other.store.below = Level.read key db.store.below
  live : db.Live
  otherLive : other.Live

variable {db other : Database}

theorem Live.twins (live : db.Live) : Twins db db :=
  ⟨rfl, rfl, rfl, rfl, fun _ => rfl, fun _ _ => rfl, live, live⟩

theorem Live.tick (live : db.Live) (now : Timestamp) : Live { db with now } :=
  ⟨live.formed, live.child⟩

namespace Twins

theorem symm (twins : Twins db other) : Twins other db where
  options := twins.options.symm
  catalog := twins.catalog.symm
  drawn := twins.drawn.symm
  inTransaction := twins.inTransaction.symm
  visible key := (twins.visible key).symm
  hidden opened key := (twins.hidden (twins.inTransaction ▸ opened) key).symm
  live := twins.otherLive
  otherLive := twins.live

theorem trans {third : Database} (twins : Twins db other) (more : Twins other third) :
    Twins db third where
  options := more.options.trans twins.options
  catalog := more.catalog.trans twins.catalog
  drawn := more.drawn.trans twins.drawn
  inTransaction := more.inTransaction.trans twins.inTransaction
  visible key := (more.visible key).trans (twins.visible key)
  hidden opened key :=
    (more.hidden (twins.inTransaction.trans opened) key).trans (twins.hidden opened key)
  live := twins.live
  otherLive := more.otherLive

theorem tick (twins : Twins db other) (now later : Timestamp) :
    Twins { db with now } { other with now := later } :=
  { twins with live := twins.live.tick now, otherLive := twins.otherLive.tick later }

end Twins

/-! ### Closing levels -/

theorem Live.commitAll (live : db.Live) : Live { db.commitAll with inTransaction := false } :=
  ⟨live.formed.commitAll.fork, by simp [Database.commitAll, Transaction.fork, Transaction.levels]⟩

theorem hidden_of_closed (closed : db.inTransaction = false) : db.inTransaction = true →
    ∀ key, Level.read key other.store.below = Level.read key db.store.below :=
  fun opened => absurd (closed.symm.trans opened) Bool.false_ne_true

/-- Committing everything while no transaction is open is not seen. -/
theorem Live.twins_commitAll (live : db.Live) (closed : db.inTransaction = false) :
    Twins db db.commitAll where
  options := rfl
  catalog := rfl
  drawn := rfl
  inTransaction := rfl
  visible key := Transaction.get?_commitAll live.formed key
  hidden := hidden_of_closed closed
  live := live
  otherLive := ⟨live.formed.commitAll.fork, live.commitAll.child⟩

theorem Live.twins_endBatch (live : db.Live) : Twins db db.endBatch := by
  cases opened : db.inTransaction with
  | true =>
      simp only [endBatch, opened, ↓reduceIte]
      exact live.twins
  | false =>
      simp only [endBatch, opened, Bool.false_eq_true, ↓reduceIte]
      exact live.twins_commitAll opened

theorem wellFormed_reopened {s : Store} (formed : s.WellFormed) : (reopened s).WellFormed := by
  unfold reopened
  split
  · exact formed
  · exact formed.fork

theorem below_reopened (s : Store) : (reopened s).below ≠ [] := by
  unfold reopened
  split
  · rename_i child
    simpa [Transaction.isChild] using child
  · exact List.cons_ne_nil _ _

theorem get?_reopened (s : Store) (key : DataKey) : (reopened s).get? key = s.get? key := by
  unfold reopened
  split <;> rfl

/-! ### Statements -/

theorem inSavepoint_failed {m : Env → Eval Outcome} {e : SqlError} {s : EvalState}
    (ran : (m ⟨db.catalog, db.now⟩).run ⟨db.store.fork, db.drawn⟩ = (.error e, s))
    (opened : s.store.below = db.store.levels) : db.inSavepoint m = (.error e, db) := by
  simp only [inSavepoint]
  rw [Transaction.savepoint_failed (e := e) ?_ opened]
  simp only [ran]

theorem inSavepoint_succeeded {m : Env → Eval Outcome} {outcome : Outcome} {s : EvalState}
    (ran : (m ⟨db.catalog, db.now⟩).run ⟨db.store.fork, db.drawn⟩ = (.ok outcome, s))
    (opened : s.store.below = db.store.levels) (formed : s.store.WellFormed) :
    ∃ store, db.inSavepoint m = (.ok outcome, { db with store, drawn := s.drawn }) ∧
      store.WellFormed ∧ store.below = db.store.below ∧
        ∀ key, store.get? key = s.store.get? key := by
  obtain ⟨store, closes, kept⟩ := Transaction.commit?_opened opened formed
  refine ⟨store, ?_, kept⟩
  simp only [inSavepoint]
  rw [Transaction.savepoint_succeeded (a := (outcome, s.drawn)) ?_ closes]
  simp only [ran]

/-- The definition fails, and all that is seen of it is that the open transaction was committed. -/
theorem define_failed {m : Define Outcome} {e : SqlError} {d : Draft}
    (ran : m.run ⟨db.catalog, ⟨db.store.commitAll.fork, db.drawn⟩⟩ = (.error e, d))
    (opened : d.data.store.below = db.store.commitAll.levels) :
    db.define m = (.error e, { db.commitAll with inTransaction := false }) := by
  simp only [define]
  rw [Transaction.savepoint_failed (e := e) ?_ opened]
  · rfl
  · simp only [ran]

theorem define_succeeded {m : Define Outcome} {outcome : Outcome} {d : Draft}
    (ran : m.run ⟨db.catalog, ⟨db.store.commitAll.fork, db.drawn⟩⟩ = (.ok outcome, d))
    (opened : d.data.store.below = db.store.commitAll.levels) (formed : d.data.store.WellFormed) :
    ∃ store : Store, db.define m = (.ok outcome, { db with
        store, catalog := d.catalog, drawn := d.data.drawn, inTransaction := false }) ∧
      store.WellFormed ∧ store.below ≠ [] ∧ ∀ key, store.get? key = d.data.store.get? key := by
  obtain ⟨root, closes, wellFormed, -, visible⟩ := Transaction.commit?_opened opened formed
  refine ⟨root.fork, ?_, wellFormed.fork, List.cons_ne_nil _ _, visible⟩
  simp only [define]
  rw [Transaction.savepoint_succeeded (a := (outcome, d.catalog, d.data.drawn)) ?_ closes]
  simp only [ran]

namespace Twins

theorem rows_alike (twins : Twins db other) (clock : other.now = db.now) {m : Env → Eval Outcome}
    (blind : Eval.Blind m) :
    let left := (m ⟨db.catalog, db.now⟩).run ⟨db.store.fork, db.drawn⟩
    let right := (m ⟨other.catalog, other.now⟩).run ⟨other.store.fork, other.drawn⟩
    left.1 = right.1 ∧ Beside db.store.levels other.store.levels left.2 right.2 := by
  rw [twins.catalog, clock]
  refine blind _ (Beside.mirrored _ _).toMirrored ⟨db.catalog, db.now⟩ _ _ ?_
  exact ⟨twins.visible, twins.drawn, rfl, rfl, twins.live.formed.fork, twins.otherLive.formed.fork⟩

theorem visible_commitAll (twins : Twins db other) (key : DataKey) :
    other.store.commitAll.get? key = db.store.commitAll.get? key := by
  rw [Transaction.get?_commitAll twins.live.formed, Transaction.get?_commitAll twins.otherLive.formed]
  exact twins.visible key

theorem definition_alike (twins : Twins db other) {m : Define Outcome} (blind : Define.Blind m) :
    let left := m.run ⟨db.catalog, ⟨db.store.commitAll.fork, db.drawn⟩⟩
    let right := m.run ⟨other.catalog, ⟨other.store.commitAll.fork, other.drawn⟩⟩
    left.1 = right.1 ∧
      Draft.Over (Beside db.store.commitAll.levels other.store.commitAll.levels) left.2 right.2 :=
  blind _ (Beside.mirrored _ _) _ _ ⟨twins.catalog, twins.visible_commitAll, twins.drawn, rfl, rfl,
    twins.live.formed.commitAll.fork, twins.otherLive.formed.commitAll.fork⟩

theorem inSavepoint (twins : Twins db other) (clock : other.now = db.now)
    {m : Env → Eval Outcome} (blind : Eval.Blind m) :
    (other.inSavepoint m).1 = (db.inSavepoint m).1 ∧
      Twins (db.inSavepoint m).2 (other.inSavepoint m).2 := by
  obtain ⟨results, states⟩ := twins.rows_alike clock blind
  rcases ran : (m ⟨db.catalog, db.now⟩).run ⟨db.store.fork, db.drawn⟩ with ⟨result, s⟩
  rcases ranOther : (m ⟨other.catalog, other.now⟩).run ⟨other.store.fork, other.drawn⟩ with ⟨given, t⟩
  rw [ran, ranOther] at results states
  obtain rfl : result = given := results
  cases result with
  | error e =>
      rw [inSavepoint_failed ran states.below, inSavepoint_failed ranOther states.otherBelow]
      exact ⟨rfl, twins⟩
  | ok outcome =>
      obtain ⟨store, closed, formed, below, visible⟩ :=
        inSavepoint_succeeded ran states.below states.formed
      obtain ⟨otherStore, otherClosed, otherFormed, otherBelow, otherVisible⟩ :=
        inSavepoint_succeeded ranOther states.otherBelow states.otherFormed
      rw [closed, otherClosed]
      refine ⟨rfl, twins.options, twins.catalog, states.drawn, twins.inTransaction, ?_, ?_, ?_, ?_⟩
      · exact fun key =>
          (otherVisible key).trans ((states.visible key).trans (visible key).symm)
      · intro opened key
        dsimp only
        rw [below, otherBelow]
        exact twins.hidden opened key
      · exact ⟨formed, below ▸ twins.live.child⟩
      · exact ⟨otherFormed, otherBelow ▸ twins.otherLive.child⟩

theorem define (twins : Twins db other) {m : Define Outcome} (blind : Define.Blind m) :
    (other.define m).1 = (db.define m).1 ∧ Twins (db.define m).2 (other.define m).2 := by
  obtain ⟨results, states⟩ := twins.definition_alike blind
  rcases ran : m.run ⟨db.catalog, ⟨db.store.commitAll.fork, db.drawn⟩⟩ with ⟨result, d⟩
  rcases ranOther : m.run ⟨other.catalog, ⟨other.store.commitAll.fork, other.drawn⟩⟩ with ⟨given, e⟩
  rw [ran, ranOther] at results states
  obtain rfl : result = given := results
  cases result with
  | error refused =>
      rw [define_failed ran states.data.below, define_failed ranOther states.data.otherBelow]
      exact ⟨rfl, twins.options, twins.catalog, twins.drawn, rfl, twins.visible_commitAll,
        hidden_of_closed rfl, twins.live.commitAll, twins.otherLive.commitAll⟩
  | ok outcome =>
      obtain ⟨store, done, formed, child, visible⟩ :=
        define_succeeded ran states.data.below states.data.formed
      obtain ⟨otherStore, otherDone, otherFormed, otherChild, otherVisible⟩ :=
        define_succeeded ranOther states.data.otherBelow states.data.otherFormed
      rw [done, otherDone]
      refine ⟨rfl, twins.options, states.catalog, states.data.drawn, rfl, fun key => ?_,
        hidden_of_closed rfl, ⟨formed, child⟩, ⟨otherFormed, otherChild⟩⟩
      exact (otherVisible key).trans ((states.data.visible key).trans (visible key).symm)

theorem setSearchPath (twins : Twins db other) (path : List String) :
    Twins (db.setSearchPath path) (other.setSearchPath path) :=
  { twins with
    catalog := congrArg (·.setSearchPath path) twins.catalog
    live := ⟨twins.live.formed, twins.live.child⟩
    otherLive := ⟨twins.otherLive.formed, twins.otherLive.child⟩ }

theorem startTransaction (twins : Twins db other) :
    other.startTransaction.1 = db.startTransaction.1 ∧
      Twins db.startTransaction.2 other.startTransaction.2 := by
  simp only [Database.startTransaction, twins.inTransaction]
  split
  · exact ⟨rfl, twins⟩
  · refine ⟨rfl, twins.options, twins.catalog, twins.drawn, rfl, twins.visible, ?_, ?_, ?_⟩
    · exact fun _ key => twins.visible key
    · exact ⟨twins.live.formed.fork, List.cons_ne_nil _ _⟩
    · exact ⟨twins.otherLive.formed.fork, List.cons_ne_nil _ _⟩

end Twins

/-- A transaction that is closed leaves a parent to go on with. -/
theorem Live.commit_eq (live : db.Live) (opened : db.inTransaction = true) :
    ∃ parent : Store, db.commit =
        (.done "COMMIT", { db with store := reopened parent, inTransaction := false }) ∧
      parent.WellFormed ∧ ∀ key, parent.get? key = db.store.get? key := by
  obtain ⟨level, below, held⟩ := List.exists_cons_of_ne_nil live.child
  have closes : db.store.commit? = some ⟨Level.merge (!below.isEmpty) level db.store.newest, below⟩ := by
    simp only [Transaction.commit?, held]
  refine ⟨_, ?_, live.formed.commit? closes, fun key => ?_⟩
  · simp only [commit, opened, ↓reduceIte, Transaction.commit, closes]
  · have merged := Level.read_merge level db.store.newest below key live.formed.2.1
    rwa [← held] at merged

theorem Live.rollback_eq (live : db.Live) (opened : db.inTransaction = true) :
    ∃ parent : Store, db.rollback =
        (.done "ROLLBACK", { db with store := reopened parent, inTransaction := false }) ∧
      parent.WellFormed ∧ ∀ key, parent.get? key = Level.read key db.store.below := by
  obtain ⟨level, below, held⟩ := List.exists_cons_of_ne_nil live.child
  have closes : db.store.rollback? = some ⟨level, below⟩ := by
    simp only [Transaction.rollback?, held]
  refine ⟨_, ?_, live.formed.rollback? closes, fun key => ?_⟩
  · simp only [rollback, opened, ↓reduceIte, Transaction.rollback, closes]
  · rw [held]
    rfl

theorem Twins.closed (twins : Twins db other) {parent otherParent : Store}
    (formed : parent.WellFormed) (otherFormed : otherParent.WellFormed)
    (visible : ∀ key, otherParent.get? key = parent.get? key) :
    Twins { db with store := reopened parent, inTransaction := false }
      { other with store := reopened otherParent, inTransaction := false } where
  options := twins.options
  catalog := twins.catalog
  drawn := twins.drawn
  inTransaction := rfl
  visible key := by simp only [get?_reopened, visible]
  hidden := hidden_of_closed rfl
  live := ⟨wellFormed_reopened formed, below_reopened parent⟩
  otherLive := ⟨wellFormed_reopened otherFormed, below_reopened otherParent⟩

theorem Twins.commit (twins : Twins db other) :
    other.commit.1 = db.commit.1 ∧ Twins db.commit.2 other.commit.2 := by
  cases opened : db.inTransaction with
  | false =>
      simp only [Database.commit, twins.inTransaction, opened, Bool.false_eq_true, ↓reduceIte]
      exact ⟨trivial, twins⟩
  | true =>
      obtain ⟨parent, done, formed, visible⟩ := twins.live.commit_eq opened
      obtain ⟨otherParent, otherDone, otherFormed, otherVisible⟩ :=
        twins.otherLive.commit_eq (twins.inTransaction.trans opened)
      rw [done, otherDone]
      refine ⟨rfl, twins.closed formed otherFormed fun key => ?_⟩
      rw [visible, otherVisible]
      exact twins.visible key

theorem Twins.rollback (twins : Twins db other) :
    other.rollback.1 = db.rollback.1 ∧ Twins db.rollback.2 other.rollback.2 := by
  cases opened : db.inTransaction with
  | false =>
      simp only [Database.rollback, twins.inTransaction, opened, Bool.false_eq_true, ↓reduceIte]
      exact ⟨trivial, twins⟩
  | true =>
      obtain ⟨parent, done, formed, visible⟩ := twins.live.rollback_eq opened
      obtain ⟨otherParent, otherDone, otherFormed, otherVisible⟩ :=
        twins.otherLive.rollback_eq (twins.inTransaction.trans opened)
      rw [done, otherDone]
      refine ⟨rfl, twins.closed formed otherFormed fun key => ?_⟩
      rw [visible, otherVisible]
      exact twins.hidden opened key

theorem Twins.manner (twins : Twins db other) (clock : other.now = db.now) {m : Manner}
    (blind : m.Blind) : (m.run other).1 = (m.run db).1 ∧ Twins (m.run db).2 (m.run other).2 := by
  cases m with
  | rows m => exact twins.inSavepoint clock blind
  | definition m =>
      simp only [Manner.run, twins.options, clock]
      exact twins.define (blind db.options db.now)
  | searchPath path => exact ⟨rfl, twins.setSearchPath path⟩
  | start => exact ⟨congrArg Except.ok twins.startTransaction.1, twins.startTransaction.2⟩
  | commit => exact ⟨congrArg Except.ok twins.commit.1, twins.commit.2⟩
  | rollback => exact ⟨congrArg Except.ok twins.rollback.1, twins.rollback.2⟩
  | idle result => exact ⟨rfl, twins⟩

/-- At one time, a statement gives the same in twins and leaves twins. -/
theorem Twins.run (twins : Twins db other) (clock : other.now = db.now) {s : Statement}
    (plain : s.isExtension = false) (installer otherInstaller : Installer) :
    (other.run otherInstaller s).1 = (db.run installer s).1 ∧
      Twins (db.run installer s).2 (other.run otherInstaller s).2 := by
  rw [s.run_eq plain, s.run_eq plain]
  exact twins.manner clock s.blind_manner

theorem Live.run (live : db.Live) {s : Statement} (plain : s.isExtension = false)
    (installer : Installer) : (db.run installer s).2.Live :=
  (live.twins.run rfl plain installer installer).2.live

theorem Twins.endBatch (twins : Twins db other) : Twins db other.endBatch :=
  twins.trans twins.otherLive.twins_endBatch

end Database

end SqlEngine
