import SqlEngine.Proofs.Database.Reachable
import SqlEngine.Proofs.Database.StatementFrame
import SqlEngine.Proofs.Evaluation.Parallel
import SqlEngine.Proofs.Transaction.MapStack

/-!
Rolling back.

Between `BEGIN` and `ROLLBACK`, every statement runs in a level above the one that `BEGIN` opened,
and neither statements nor ends of batches touch the levels below that one. So what was visible at
`BEGIN` is visible again when it is closed.
-/

namespace SqlEngine

open Eval (Keeps Free)

/-- The levels below the newest one are the given ones. -/
def EvalState.Above (base : List (Level DataKey DataValue)) (s : EvalState) : Prop :=
  s.store.below = base

theorem EvalState.free_above (env : Env) (base : List (Level DataKey DataValue)) :
    Free env (Above base) :=
  ⟨⟨fun _ _ hs => hs, fun _ _ _ _ _ _ hs => hs⟩, fun _ _ _ hs => hs, fun _ _ _ hs => hs⟩

/-- A savepoint leaves the levels alone that are below the one it is opened in. -/
theorem Transaction.below_savepoint {κ ν ε α : Type} [DecidableEq κ] (t : Transaction κ ν)
    {body : Transaction κ ν → Except ε α × Transaction κ ν}
    (kept : (body t.fork).2.below = t.levels) : (t.savepoint body).2.below = t.below := by
  rw [savepoint]
  rcases ran : body t.fork with ⟨result, inner⟩
  rw [ran] at kept
  have opened : inner.below = t.newest :: t.below := kept
  cases result with
  | error e => simp only [rollback?, opened, Option.getD_some]
  | ok a => simp only [commit?, opened, Option.getD_some]

namespace Sql.Statement

/-- Can what the statement does be undone? -/
def isUndoable : Statement → Bool
  | .query _ | .change _ | .truncate .. | .showVariable _ | .setTimeZone _
  | .startTransaction _ => true
  | .setVariable _ name _ => Session.settingName name != "search_path"
  | _ => false

/-- The first statement is `BEGIN`, the last one is `ROLLBACK`, and those between can be undone. -/
def Undoes (done : List Statement) : Prop :=
  ∃ verb middle chained savepoint,
    done = .startTransaction verb :: (middle ++ [.rollback chained savepoint]) ∧
      ∀ s ∈ middle, s.isUndoable

def undoes? : List Statement → Bool
  | .startTransaction _ :: rest =>
    match rest.getLast? with
    | some (.rollback ..) => rest.dropLast.all isUndoable
    | _ => false
  | _ => false

theorem undoes?_iff (done : List Statement) : undoes? done = true ↔ Undoes done := by
  constructor
  · intro found
    unfold undoes? at found
    split at found
    · rename_i verb rest
      split at found
      · rename_i chained savepoint last
        refine ⟨verb, rest.dropLast, chained, savepoint, ?_, by simpa using found⟩
        rw [List.dropLast_append_getLast? _ last]
      · cases found
    · cases found
  · rintro ⟨verb, middle, chained, savepoint, rfl, undoable⟩
    simpa [undoes?] using undoable

instance : DecidablePred Undoes := fun done => decidable_of_iff _ (undoes?_iff done)

end Sql.Statement

namespace Database

open Sql (Statement LocatedStatement)

/-! ### Levels below the held one -/

theorem inSavepoint_kept (db : Database) {statement : Env → Eval Outcome}
    (kept : ∀ env base, (statement env).Keeps (EvalState.Above base)) :
    (db.inSavepoint statement).2.store.below = db.store.below ∧
      (db.inSavepoint statement).2.catalog = db.catalog ∧
      (db.inSavepoint statement).2.inTransaction = db.inTransaction := by
  have above := (kept ⟨db.catalog, db.now⟩ db.store.levels ⟨db.store.fork, db.drawn⟩ rfl).1
  simp only [inSavepoint]
  generalize closed : db.store.savepoint _ = outcome
  have below : outcome.2.below = db.store.below := by
    rw [← closed]
    refine Transaction.below_savepoint _ ?_
    rcases ran : (statement ⟨db.catalog, db.now⟩).run ⟨db.store.fork, db.drawn⟩ with ⟨result, s⟩
    rw [ran] at above
    cases result <;> exact above
  obtain ⟨result, store⟩ := outcome
  cases result with
  | error e => exact ⟨below, rfl, rfl⟩
  | ok given => exact ⟨below, rfl, rfl⟩

/-- Statements that can be undone leave everything alone that is below the held level. -/
theorem run_kept (installer : Installer) (db : Database) (opened : db.inTransaction = true)
    {s : Statement} (undoable : s.isUndoable) :
    (db.run installer s).2.store.below = db.store.below ∧
      (db.run installer s).2.catalog = db.catalog ∧
      (db.run installer s).2.inTransaction = db.inTransaction := by
  have free := EvalState.free_above
  cases s with
  | query q =>
      refine db.inSavepoint_kept fun env base => ?_
      exact q.run_keeps (free env base).toStable fun _ _ _ t _ => t.kept_of_free (free env base)
  | change c =>
      refine db.inSavepoint_kept fun env base => Keeps.bind ?_ fun _ => Keeps.pure _
      exact c.run_keeps (free env base).toStable fun _ _ t _ => t.kept_of_free (free env base)
  | truncate table marked =>
      exact db.inSavepoint_kept fun env base => Session.truncate_keeps (free env base) table
  | showVariable words => exact db.inSavepoint_kept fun env _ => Session.shown_keeps env words
  | setVariable scope name values =>
      have other : (Session.settingName name == "search_path") = false :=
        beq_eq_false_iff_ne.mpr (bne_iff_ne.mp undoable)
      simp only [run, setVariable, other, Bool.false_eq_true, ↓reduceIte]
      exact db.inSavepoint_kept fun env base => Session.put_keeps (free env base) _ _
  | setTimeZone scope => exact ⟨rfl, rfl, rfl⟩
  | startTransaction verb =>
      simp only [run, startTransaction, opened, ↓reduceIte, and_self]
  | _ => cases undoable

/-! ### From `BEGIN` to `ROLLBACK` -/

/-- Nothing is open, and what is visible is what was visible in `base`. -/
structure Restored (base db : Database) : Prop where
  closed : db.inTransaction = false
  catalog : db.catalog = base.catalog
  formed : db.store.WellFormed
  visible : ∀ key, db.store.get? key = base.store.get? key

/-- A transaction is open, and below its level is what was visible in `base`. -/
structure Pending (base db : Database) : Prop where
  opened : db.inTransaction = true
  catalog : db.catalog = base.catalog
  below : ∃ held : Store, held.WellFormed ∧ (∀ key, held.get? key = base.store.get? key) ∧
    db.store.below = held.levels

variable {base db : Database}

theorem Restored.endBatch (restored : Restored base db) : Restored base db.endBatch := by
  simp only [Database.endBatch, restored.closed, Bool.false_eq_true, ↓reduceIte]
  have formed : db.store.commitAll.WellFormed := Level.Chain.commitAll _ _ restored.formed
  refine ⟨restored.closed, restored.catalog, formed.fork, fun key => ?_⟩
  exact (Level.read_commitAll key _ _ restored.formed).trans (restored.visible key)

theorem Restored.tick (restored : Restored base db) (now : Timestamp) :
    Restored base { db with now } :=
  ⟨restored.closed, restored.catalog, restored.formed, restored.visible⟩

theorem Restored.start (restored : Restored base db) (installer : Installer) (verb : String) :
    Pending base (db.run installer (.startTransaction verb)).2 := by
  simp only [run, startTransaction, restored.closed, Bool.false_eq_true, ↓reduceIte]
  exact ⟨rfl, restored.catalog, db.store, restored.formed, restored.visible, rfl⟩

theorem Pending.endBatch (pending : Pending base db) : Pending base db.endBatch := by
  simp only [Database.endBatch, pending.opened, ↓reduceIte]
  exact pending

theorem Pending.tick (pending : Pending base db) (now : Timestamp) :
    Pending base { db with now } :=
  ⟨pending.opened, pending.catalog, pending.below⟩

theorem Pending.run (pending : Pending base db) (installer : Installer) {s : Statement}
    (undoable : s.isUndoable) : Pending base (db.run installer s).2 := by
  obtain ⟨below, catalog, open_⟩ := run_kept installer db pending.opened undoable
  obtain ⟨held, formed, visible, levels⟩ := pending.below
  exact ⟨open_.trans pending.opened, catalog.trans pending.catalog, held, formed, visible,
    below.trans levels⟩

theorem Pending.rollback (pending : Pending base db) (installer : Installer) (chained : Bool)
    (savepoint : Option Sql.Ident) :
    Restored base (db.run installer (.rollback chained savepoint)).2 := by
  obtain ⟨held, formed, visible, levels⟩ := pending.below
  have opened : db.store.below = held.newest :: held.below := levels
  simp only [Database.run, Database.rollback, pending.opened, ↓reduceIte, Transaction.rollback,
    Transaction.rollback?, opened]
  refine ⟨rfl, pending.catalog, ?_, fun key => ?_⟩
  all_goals
    simp only [reopened]
    split
  · exact formed
  · exact formed.fork
  · exact visible key
  · exact visible key

/-- What is known while the statements behind `BEGIN` are allowed ones, up to a `ROLLBACK`. What is
found again after it may depend on the statements that were carried out before it. -/
structure Course (allowed : Statement → Bool) (found : List Statement → Database)
    (done : List Statement) (db : Database) : Prop where
  unbegun : done = [] → Restored (found []) db
  begun : ∀ verb middle, done = .startTransaction verb :: middle → (∀ s ∈ middle, allowed s) →
    Pending (found middle) db
  undone : ∀ verb middle chained savepoint,
    done = .startTransaction verb :: (middle ++ [.rollback chained savepoint]) →
      (∀ s ∈ middle, allowed s) → Restored (found middle) db

/-- It is enough to know of the allowed statements what they do while a transaction is open. -/
theorem traced_course {allowed : Statement → Bool} {found : List Statement → Database}
    (step : ∀ installer middle s db, allowed s → Pending (found middle) db →
      Pending (found (middle ++ [s])) (db.run installer s).2) :
    Traced (Course allowed found) := by
  constructor
  · intro installer done db s course
    constructor
    · intro none
      exact absurd none (by simp)
    · intro verb middle first within
      cases done with
      | nil =>
          obtain ⟨rfl, rfl⟩ := List.cons.inj first
          exact (course.unbegun rfl).start installer verb
      | cons begin_ before =>
          obtain ⟨rfl, rfl⟩ := List.cons.inj first
          have pending := course.begun verb before rfl fun t member =>
            within t (List.mem_append_left _ member)
          exact step installer before s db (within s (by simp)) pending
    · intro verb middle chained savepoint whole within
      have split : done ++ [s] =
          (.startTransaction verb :: middle) ++ [.rollback chained savepoint] := whole
      obtain ⟨rfl, last⟩ := List.append_inj' split rfl
      cases last
      exact (course.begun verb middle rfl within).rollback installer chained savepoint
  · intro done db course
    constructor
    · exact fun none => (course.unbegun none).endBatch
    · exact fun verb middle first within => (course.begun verb middle first within).endBatch
    · exact fun verb middle chained savepoint whole within =>
        (course.undone verb middle chained savepoint whole within).endBatch
  · intro done db now course
    constructor
    · exact fun none => (course.unbegun none).tick now
    · exact fun verb middle first within => (course.begun verb middle first within).tick now
    · exact fun verb middle chained savepoint whole within =>
        (course.undone verb middle chained savepoint whole within).tick now

theorem Course.start {allowed : Statement → Bool} {found : List Statement → Database}
    (restored : Restored (found []) db) : Course allowed found [] db :=
  ⟨fun _ => restored, by simp, by simp⟩

theorem Restored.refl (closed : base.inTransaction = false) (formed : base.store.WellFormed) :
    Restored base base :=
  ⟨closed, rfl, formed, fun _ => rfl⟩

/-- What is known after some statements were carried out in `base`. -/
structure Progress (base : Database) (done : List Statement) (db : Database) : Prop where
  unbegun : done = [] → Restored base db
  begun : ∀ verb middle, done = .startTransaction verb :: middle → (∀ s ∈ middle, s.isUndoable) →
    Pending base db
  undone : Statement.Undoes done → Restored base db

theorem progress_eq_course (base : Database) :
    Progress base = Course Statement.isUndoable fun _ => base := by
  funext done db
  refine propext ⟨fun progress => ?_, fun course => ?_⟩
  · exact ⟨progress.unbegun, progress.begun, fun verb middle chained savepoint whole within =>
      progress.undone ⟨verb, middle, chained, savepoint, whole, within⟩⟩
  · exact ⟨course.unbegun, course.begun, fun ⟨verb, middle, chained, savepoint, whole, within⟩ =>
      course.undone verb middle chained savepoint whole within⟩

theorem traced_progress (base : Database) : Traced (Progress base) := by
  rw [progress_eq_course]
  exact traced_course fun installer _ _ _ undoable pending => pending.run installer undoable

/-- What is visible in `base` is visible again, in a level above the root. -/
theorem rollback_restores (base : Database) (batch : List LocatedStatement) (calls : List Call)
    (closed : base.inTransaction = false) (formed : base.store.WellFormed)
    (undoes : Statement.Undoes (base.carriedOutFrom batch calls)) :
    let final := base.resume batch calls
    (∀ table, final.store.table? table = base.store.table? table) ∧
      (∀ sequence, final.store.sequence? sequence = base.store.sequence? sequence) ∧
      final.store.settings = base.store.settings ∧
      final.catalog = base.catalog ∧
      final.inTransaction = false ∧
      ∃ root, final.store.below = [root] := by
  have start : Progress base [] base := by
    rw [progress_eq_course]
    exact .start (.refl closed formed)
  have progress := (traced_progress base).resume start batch calls
  have restored := progress.undone undoes
  refine ⟨fun table => ?_, fun sequence => ?_, ?_, restored.catalog, restored.closed,
    resting_resume base batch calls restored.closed⟩
  · simp only [Store.table?, restored.visible]
  · simp only [Store.sequence?, restored.visible]
  · simp only [Store.settings, restored.visible]

/-- A database in which nothing was done yet. -/
def exampleFresh : Database where
  options := {}
  catalog := .create {}
  store := Transaction.empty.fork
  drawn := 0
  inTransaction := false
  now := default
  extensions := []
  installed := []

/-- `BEGIN; SET pace = slow` -/
def exampleOpening : List LocatedStatement :=
  [⟨.startTransaction "BEGIN", ⟨1, 1⟩, "BEGIN"⟩,
    ⟨.setVariable "" [.bare "pace"] [.name (.bare "slow")], ⟨1, 8⟩, "SET pace = slow"⟩]

/-- Further calls: one that fails, one that cannot be read, one that stops before its end. -/
def exampleCalls : List Call :=
  [⟨default, "SELECT missing"⟩, ⟨default, "SELECT ("⟩, ⟨default, "BEGIN; TRUNCATE missing; COMMIT"⟩,
    ⟨default, "ROLLBACK"⟩]

theorem exampleOpening_undone :
    Statement.Undoes (exampleFresh.carriedOutFrom exampleOpening exampleCalls) ∧
      (exampleFresh.resume exampleOpening exampleCalls).store.settings = [] := by
  have undoes : Statement.Undoes (exampleFresh.carriedOutFrom exampleOpening exampleCalls) := by
    decide +kernel
  have formed : exampleFresh.store.WellFormed := Transaction.wellFormed_empty.fork
  obtain ⟨-, -, settings, -⟩ :=
    rollback_restores exampleFresh exampleOpening exampleCalls rfl formed undoes
  exact ⟨undoes, settings⟩

end Database

/-! ### Statements that fail

A failing statement may have written rows, drawn numbers, or changed the catalog by then. Data are
written at levels above the one that the statement found, so they go with these levels, and the
catalog is the one that the statement found. Only what a definition does first is left: it closes
the open transaction and commits everything. -/

namespace Database

open Sql (Statement)

variable {db : Database}

theorem Live.inSavepoint_atomic (live : db.Live) {m : Env → Eval Outcome} (blind : Eval.Blind m)
    {e : SqlError} (failed : (db.inSavepoint m).1 = .error e) : (db.inSavepoint m).2 = db := by
  -- beside itself, the database tells above which levels the program ends
  obtain ⟨-, state⟩ := live.twins.rows_alike rfl blind
  rcases ran : (m ⟨db.catalog, db.now⟩).run ⟨db.store.fork, db.drawn⟩ with ⟨result, s⟩
  rw [ran] at state
  cases result with
  | error given => rw [inSavepoint_failed ran state.below]
  | ok outcome =>
      obtain ⟨store, done, -⟩ := inSavepoint_succeeded ran state.below state.formed
      rw [done] at failed
      cases failed

theorem Live.define_atomic (live : db.Live) {m : Define Outcome} (blind : Define.Blind m)
    {e : SqlError} (failed : (db.define m).1 = .error e) :
    (db.define m).2 = { db.commitAll with inTransaction := false } := by
  obtain ⟨-, state⟩ := live.twins.definition_alike blind
  rcases ran : m.run ⟨db.catalog, ⟨db.store.commitAll.fork, db.drawn⟩⟩ with ⟨result, d⟩
  rw [ran] at state
  cases result with
  | error given => rw [define_failed ran state.data.below]
  | ok outcome =>
      obtain ⟨store, done, -⟩ := define_succeeded ran state.data.below state.data.formed
      rw [done] at failed
      cases failed

theorem Live.manner_atomic (live : db.Live) {m : Manner} (blind : m.Blind) {e : SqlError}
    (failed : (m.run db).1 = .error e) :
    (m.run db).2 = if m.isDefinition then { db.commitAll with inTransaction := false } else db := by
  cases m with
  | rows m => exact live.inSavepoint_atomic blind failed
  | definition m => exact live.define_atomic (blind db.options db.now) failed
  | idle result => rfl
  | searchPath path => cases failed
  | start => cases failed
  | commit => cases failed
  | rollback => cases failed

/-- A statement that fails leaves the database as it was. If it is a definition, it closes the
open transaction, whose data stay. In both cases the catalog and the visible data are unchanged. -/
theorem failed_run_unseen (reachable : db.Reachable) (installer : Installer) {s : Statement}
    (plain : s.isExtension = false) {e : SqlError}
    (failed : (db.run installer s).1 = .error e) :
    let after := (db.run installer s).2
    (s.isDefinition = false → after = db) ∧
      (s.isDefinition = true → after = { db.commitAll with inTransaction := false }) ∧
      after.catalog = db.catalog ∧ ∀ key, after.store.get? key = db.store.get? key := by
  have left := reachable.live.manner_atomic s.blind_manner ((s.run_eq plain installer db) ▸ failed)
  rw [s.isDefinition_manner, ← s.run_eq plain installer] at left
  cases kind : s.isDefinition with
  | false =>
      obtain unchanged : (db.run installer s).2 = db := by rwa [kind] at left
      exact ⟨fun _ => unchanged, by simp, by rw [unchanged], fun key => by rw [unchanged]⟩
  | true =>
      obtain closed : (db.run installer s).2 = { db.commitAll with inTransaction := false } := by
        rwa [kind] at left
      refine ⟨by simp, fun _ => closed, by rw [closed]; rfl, fun key => ?_⟩
      rw [closed]
      exact Transaction.get?_commitAll reachable.live.formed key

theorem reachable_exampleFresh : exampleFresh.Reachable := by
  have made : create {} default = .ok exampleFresh := rfl
  exact .created made

/-- `CREATE TABLE t (a INTEGER UNIQUE)` -/
def exampleTable : Statement :=
  .createTable ⟨[.bare "t"], [⟨.bare "a", "INTEGER", [⟨none, .unique false⟩]⟩], [], false, false, ""⟩

/-- A database with a table and an open transaction. -/
def exampleOpened : Database :=
  let installer := executeWithin 0
  ((exampleFresh.run installer exampleTable).2.run installer (.startTransaction "BEGIN")).2

theorem reachable_exampleOpened : exampleOpened.Reachable :=
  .run 0 (.startTransaction "BEGIN") (.run 0 exampleTable reachable_exampleFresh)

/-- `INSERT INTO t VALUES (1), (1)`, which writes the first row. -/
def exampleInsert : Statement :=
  let row : List Sql.Term := [.constant (.number "1" false)]
  let rows : Sql.Query := .mk false [] (.values false [row, row]) [] none none .absent .empty
  .change (.insert ⟨" INTO", [.bare "t"], [], [], [], some rows, .absent, none⟩)

/-- `ALTER TABLE t ADD COLUMN b INTEGER, DROP COLUMN c`, which adds the column. -/
def exampleAlter : Statement :=
  .alterTable ⟨[.bare "t"], false,
    [.addColumn ⟨.bare "b", "INTEGER", []⟩ false, .dropColumn (.bare "c") false]⟩

theorem exampleOpened_unseen :
    (exampleOpened.run (executeWithin 0) exampleInsert).1.isOk = false ∧
      (exampleOpened.run (executeWithin 0) exampleInsert).2 = exampleOpened ∧
      (exampleOpened.run (executeWithin 0) exampleAlter).1.isOk = false ∧
      (exampleOpened.run (executeWithin 0) exampleAlter).2.catalog = exampleOpened.catalog := by
  have refused : (exampleOpened.run (executeWithin 0) exampleInsert).1.isOk = false ∧
      (exampleOpened.run (executeWithin 0) exampleAlter).1.isOk = false := by
    decide +kernel
  refine ⟨refused.1, ?_, refused.2, ?_⟩
  · cases failed : (exampleOpened.run (executeWithin 0) exampleInsert).1 with
    | error e => exact (failed_run_unseen reachable_exampleOpened (executeWithin 0) rfl failed).1 rfl
    | ok outcome =>
        rw [failed] at refused
        cases refused.1
  · cases failed : (exampleOpened.run (executeWithin 0) exampleAlter).1 with
    | error e => exact (failed_run_unseen reachable_exampleOpened (executeWithin 0) rfl failed).2.2.1
    | ok outcome =>
        rw [failed] at refused
        cases refused.2

end Database

/-! ### Settings between BEGIN and ROLLBACK

What is set is kept among the data, so a rollback takes it back; only the search path is part of
the catalog, which has no levels. After a rollback the path is therefore the one that was set last,
and with it names without a schema may stand for other relations than they did before `BEGIN`.
Everything else is found again.
-/

namespace Catalog

variable {c : Catalog}

/-- Paths that are set one after the other change neither what there is nor where it is. -/
theorem foldl_setSearchPath (paths : List (List String)) :
    (paths.foldl setSearchPath c).schemas = c.schemas ∧
      (paths.foldl setSearchPath c).nextId = c.nextId ∧
      (paths.foldl setSearchPath c).functions = c.functions ∧
      (paths.foldl setSearchPath c).searchPath = paths.getLast?.getD c.searchPath := by
  induction paths generalizing c with
  | nil => exact ⟨rfl, rfl, rfl, rfl⟩
  | cons path rest ih =>
      obtain ⟨schemas, nextId, functions, last⟩ := ih (c := c.setSearchPath path)
      refine ⟨schemas, nextId, functions, last.trans ?_⟩
      rw [List.getLast?_cons, Option.getD_some]
      rfl

/-- A name that tells its schema needs no path. -/
theorem find?_of_schema {d : Catalog} (same : d.schemas = c.schemas) {name : QName}
    {schema : String} (given : name.schema = some schema) : d.find? name = c.find? name := by
  simp only [find?, given, schema?, same]

end Catalog

theorem Settings.read_of_ne {name : String} (other : Text.lower name ≠ "search_path") (s : Store)
    (c d : Catalog) : read s d name = read s c name := by
  have looked : (defaults d).lookup (Text.lower name) = (defaults c).lookup (Text.lower name) := by
    have unlike : (Text.lower name == "search_path") = false := beq_eq_false_iff_ne.mpr other
    simp only [defaults, List.lookup_cons, unlike]
  simp only [read, looked]

/-! ### Statements that set the path -/

namespace Sql.Statement

/-- The search path that the statement sets, if it sets one. -/
def searchPath? : Statement → Option (List String)
  | .setVariable _ name values =>
    if Session.settingName name == "search_path" then some (values.map Session.settingText)
    else none
  | _ => none

/-- Can all that the statement does be undone, but for a search path that it sets? -/
def isSession (s : Statement) : Bool := s.isUndoable || s.searchPath?.isSome

theorem isUndoable_of_searchPath? {s : Statement} (unset : s.searchPath? = none)
    (session : s.isSession) : s.isUndoable := by
  simpa [isSession, unset] using session

theorem run_searchPath {s : Statement} {path : List String} (sets : s.searchPath? = some path)
    (installer : Database.Installer) (db : Database) :
    (db.run installer s).2 = db.setSearchPath path := by
  cases s with
  | setVariable scope name values =>
      simp only [searchPath?, Option.ite_none_right_eq_some, Option.some.injEq] at sets
      obtain ⟨named, rfl⟩ := sets
      simp only [Database.run, Database.setVariable, named, ↓reduceIte]
  | _ => cases sets

end Sql.Statement

namespace Database

open Sql (Statement LocatedStatement)

variable {base db : Database}

/-- The database with the paths that the statements set, and with nothing else of what they do. -/
def repathed (base : Database) (middle : List Statement) : Database :=
  { base with
    catalog := (middle.filterMap Statement.searchPath?).foldl .setSearchPath base.catalog }

theorem Pending.setSearchPath (pending : Pending base db) (path : List String) :
    Pending (base.setSearchPath path) (db.setSearchPath path) where
  opened := pending.opened
  catalog := congrArg (·.setSearchPath path) pending.catalog
  below := pending.below

theorem repathed_concat (middle : List Statement) (s : Statement) :
    base.repathed (middle ++ [s]) = match s.searchPath? with
      | some path => (base.repathed middle).setSearchPath path
      | none => base.repathed middle := by
  unfold repathed
  rw [List.filterMap_append, List.foldl_append]
  cases sets : s.searchPath? with
  | none => simp only [List.filterMap_cons, sets, List.filterMap_nil, List.foldl_nil]
  | some path =>
      simp only [List.filterMap_cons, sets, List.filterMap_nil, List.foldl_cons, List.foldl_nil]
      rfl

theorem Pending.run_session {middle : List Statement} {s : Statement} (session : s.isSession)
    (pending : Pending (base.repathed middle) db) (installer : Installer) :
    Pending (base.repathed (middle ++ [s])) (db.run installer s).2 := by
  rw [repathed_concat]
  cases sets : s.searchPath? with
  | none => exact pending.run installer (Statement.isUndoable_of_searchPath? sets session)
  | some path =>
      rw [Statement.run_searchPath sets]
      exact pending.setSearchPath path

/-- The data, the settings and what names with a schema stand for are what they were at `BEGIN`.
The search path is the last one that was set; if none was, names without a schema stand for what
they did as well. -/
theorem rollback_restores_settings (base : Database) (batch : List LocatedStatement)
    (calls : List Call) (closed : base.inTransaction = false) (formed : base.store.WellFormed)
    {verb : String} {middle : List Statement} {chained : Bool} {savepoint : Option Sql.Ident}
    (whole : base.carriedOutFrom batch calls =
      .startTransaction verb :: (middle ++ [.rollback chained savepoint]))
    (session : ∀ s ∈ middle, s.isSession) :
    let final := base.resume batch calls
    let paths := middle.filterMap Statement.searchPath?
    final.inTransaction = false ∧
      (∀ key, final.store.get? key = base.store.get? key) ∧
      (∀ name, Text.lower name ≠ "search_path" →
        Settings.read final.store final.catalog name = Settings.read base.store base.catalog name) ∧
      final.catalog = paths.foldl .setSearchPath base.catalog ∧
      final.catalog.searchPath = paths.getLast?.getD base.catalog.searchPath ∧
      (∀ name, name.schema.isSome → final.catalog.find? name = base.catalog.find? name) ∧
      (paths = [] → final.catalog = base.catalog ∧ ∀ name,
        Settings.read final.store final.catalog name =
          Settings.read base.store base.catalog name) := by
  intro final paths
  have traced : Traced (Course Statement.isSession base.repathed) :=
    traced_course fun installer _ _ _ session pending => pending.run_session session installer
  have course := traced.resume (.start (.refl closed formed)) batch calls
  have restored : Restored (base.repathed middle) final :=
    course.undone verb middle chained savepoint whole session
  have catalog : final.catalog = paths.foldl .setSearchPath base.catalog := restored.catalog
  obtain ⟨schemas, -, -, last⟩ := Catalog.foldl_setSearchPath (c := base.catalog) paths
  have settings (name : String) :
      Settings.read final.store final.catalog name = Settings.read base.store final.catalog name :=
    Settings.read_congr (restored.visible .settings) _ name
  refine ⟨restored.closed, restored.visible, fun name other => ?_, catalog, ?_, ?_, fun none => ?_⟩
  · exact (settings name).trans (Settings.read_of_ne other _ _ _)
  · rw [catalog, last]
  · intro name given
    obtain ⟨schema, given⟩ := Option.isSome_iff_exists.mp given
    exact Catalog.find?_of_schema (by rw [catalog, schemas]) given
  · have unchanged : final.catalog = base.catalog := by rw [catalog, none, List.foldl_nil]
    exact ⟨unchanged, fun name => by rw [settings name, unchanged]⟩

/-- `BEGIN; SET search_path = pg_catalog; ROLLBACK` -/
example :
    let final := exampleFresh.resume
      [⟨.startTransaction "BEGIN", ⟨1, 1⟩, "BEGIN"⟩,
        ⟨.setVariable "" [.bare "search_path"] [.name (.bare "pg_catalog")], ⟨1, 8⟩, ""⟩]
      [⟨default, "ROLLBACK"⟩]
    final.inTransaction = false ∧ final.catalog.searchPath = ["pg_catalog"] ∧
      exampleFresh.catalog.searchPath = ["pg_catalog", "public"] := by
  decide +kernel

end Database

end SqlEngine
