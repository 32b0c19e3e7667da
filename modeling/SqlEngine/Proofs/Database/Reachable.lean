import SqlEngine.Database.Execute
import SqlEngine.Proofs.Database.Twins

/-!
The databases that can be met.

Which statements are carried out when calls follow one another is told first, with what follows for a
database from what each statement and each end of a batch do to it. The databases that can be met are
those between calls, those between the statements of a batch, and those in which an extension is being
installed. In all of them the levels of the transaction are in order, and there is one above the root.
-/

namespace SqlEngine

namespace Database

open Sql (Statement LocatedStatement)

/-- The statements of a batch that are carried out, the one that fails being the last. -/
def carriedOut (installer : Installer) (db : Database) : List LocatedStatement → List Statement
  | [] => []
  | s :: rest =>
    s.statement ::
      match db.run installer s.statement with
      | (.ok _, db) => carriedOut installer db rest
      | (.error _, _) => []

/-- A text that is submitted, and the time at which it is. -/
structure Call where
  now : Timestamp
  text : String

def call (db : Database) (c : Call) : Except ExecError (List Result) × Database :=
  { db with now := c.now }.execute c.text

/-- The statements of a text that are carried out; there are none if it cannot be read. -/
def carriedOutBy (db : Database) (c : Call) : List Statement :=
  match Sql.Batch.ofText c.text with
  | .ok batch => { db with now := c.now }.carriedOut (executeWithin db.extensions.length) batch
  | .error _ => []

/-- The database after calls, one after the other. -/
def callAll (db : Database) : List Call → Database
  | [] => db
  | c :: rest => (db.call c).2.callAll rest

def carriedOutByAll (db : Database) : List Call → List Statement
  | [] => []
  | c :: rest => db.carriedOutBy c ++ (db.call c).2.carriedOutByAll rest

/-- The database after the statements that are left of a batch and the calls behind it. -/
def resume (db : Database) (batch : List LocatedStatement) (calls : List Call) : Database :=
  (db.runAll (executeWithin db.extensions.length) batch).2.callAll calls

def carriedOutFrom (db : Database) (batch : List LocatedStatement) (calls : List Call) :
    List Statement :=
  let installer := executeWithin db.extensions.length
  db.carriedOut installer batch ++ (db.runAll installer batch).2.carriedOutByAll calls

/-- A call carries out the statements of its text. -/
theorem callAll_eq_resume (db : Database) {c : Call} {batch : List LocatedStatement}
    (reads : Sql.Batch.ofText c.text = .ok batch) (rest : List Call) :
    db.callAll (c :: rest) = { db with now := c.now }.resume batch rest := by
  simp only [callAll, call, resume, execute, executeWithin, reads]

/-! ### What statements and ends of batches do -/

/-- What is said of a database by the statements that were carried out so far: every further
statement and every end of a batch keep it true. -/
structure Traced (holds : List Statement → Database → Prop) : Prop where
  runs : ∀ installer done db s, holds done db → holds (done ++ [s]) (db.run installer s).2
  ends : ∀ done db, holds done db → holds done db.endBatch
  ticks : ∀ done db now, holds done db → holds done { db with now }

variable {holds : List Statement → Database → Prop}

theorem Traced.runAll (traced : Traced holds) (installer : Installer) :
    ∀ (batch : List LocatedStatement) (done : List Statement) (db : Database), holds done db →
      holds (done ++ db.carriedOut installer batch) (db.runAll installer batch).2 := by
  intro batch
  induction batch with
  | nil =>
      intro done db held
      rw [carriedOut, List.append_nil]
      exact traced.ends done db held
  | cons s rest ih =>
      intro done db held
      have stepped := traced.runs installer done db s.statement held
      rw [carriedOut, Database.runAll]
      rcases ran : db.run installer s.statement with ⟨outcome, next⟩
      rw [ran] at stepped
      cases outcome with
      | error e => exact traced.ends _ next stepped
      | ok outcome =>
          have later := ih _ next stepped
          rwa [List.append_assoc] at later

theorem Traced.call (traced : Traced holds) {done : List Statement} {db : Database}
    (held : holds done db) (c : Call) :
    holds (done ++ db.carriedOutBy c) (db.call c).2 := by
  have ticked := traced.ticks done db c.now held
  simp only [carriedOutBy, Database.call, Database.execute, executeWithin]
  cases Sql.Batch.ofText c.text with
  | ok batch => exact traced.runAll _ batch done _ ticked
  | error e => rwa [List.append_nil]

theorem Traced.callAll (traced : Traced holds) :
    ∀ (calls : List Call) (done : List Statement) (db : Database), holds done db →
      holds (done ++ db.carriedOutByAll calls) (db.callAll calls) := by
  intro calls
  induction calls with
  | nil =>
      intro done db held
      rwa [carriedOutByAll, List.append_nil]
  | cons c rest ih =>
      intro done db held
      have later := ih _ _ (traced.call held c)
      rwa [List.append_assoc] at later

theorem Traced.resume (traced : Traced holds) {db : Database} (held : holds [] db)
    (batch : List LocatedStatement) (calls : List Call) :
    holds (db.carriedOutFrom batch calls) (db.resume batch calls) :=
  traced.callAll calls _ _ (traced.runAll _ batch [] db held)

/-! ### The held transaction between batches -/

/-- The transaction has one level above its root, unless `BEGIN` opened more. -/
def Resting (db : Database) : Prop := db.inTransaction = false → ∃ root, db.store.below = [root]

theorem resting_endBatch (db : Database) : db.endBatch.Resting := by
  rw [endBatch]
  split
  · rename_i opened
    intro closed
    rw [opened] at closed
    contradiction
  · exact fun _ => ⟨_, rfl⟩

theorem resting_runAll (installer : Installer) : ∀ (batch : List LocatedStatement)
    (db : Database), (db.runAll installer batch).2.Resting := by
  intro batch
  induction batch with
  | nil => exact resting_endBatch
  | cons s rest ih =>
      intro db
      rw [Database.runAll]
      rcases db.run installer s.statement with ⟨outcome, next⟩
      cases outcome with
      | error e => exact resting_endBatch next
      | ok outcome => exact ih next

theorem Resting.call {db : Database} (resting : db.Resting) (c : Call) :
    (db.call c).2.Resting := by
  simp only [Database.call, Database.execute, executeWithin]
  split
  · exact resting
  · exact resting_runAll _ _ _

theorem Resting.callAll {db : Database} (resting : db.Resting) (calls : List Call) :
    (db.callAll calls).Resting := by
  induction calls generalizing db with
  | nil => exact resting
  | cons c rest ih => exact ih (resting.call c)

theorem resting_resume (db : Database) (batch : List LocatedStatement) (calls : List Call) :
    (db.resume batch calls).Resting :=
  (resting_runAll _ batch db).callAll calls

/-! ### The databases -/

/-- The databases that can be met, in calls as well as between them. -/
inductive Reachable : Database → Prop
  | created {o : DbOptions} {now : Timestamp} {db : Database} : create o now = .ok db → Reachable db
  | tick {db : Database} (now : Timestamp) : Reachable db → Reachable { db with now }
  | run {db : Database} (depth : Nat) (s : Statement) :
      Reachable db → Reachable (db.run (executeWithin depth) s).2
  | endBatch {db : Database} : Reachable db → Reachable db.endBatch
  /-- What the installation of an extension starts from. -/
  | install {db : Database} : Reachable db → Reachable { db.commitAll with inTransaction := false }
  | setSearchPath {db : Database} (path : List String) :
      Reachable db → Reachable (db.setSearchPath path)
  | createSchema {db after : Database} {name : String} {ifNotExists created : Bool} :
      Reachable db → db.createSchema name ifNotExists = .ok (created, after) → Reachable after
  | registerFunction {db after : Database} {schema : Option String} {signature : Signature}
      {body : List Value → Except SqlError Value} :
      Reachable db → db.registerFunction schema signature body = .ok after → Reachable after
  | registerExtension {db : Database} (name : String) (x : Extension) :
      Reachable db → Reachable (db.registerExtension name x)

/-! ### What calls lead to -/

variable {db : Database}

theorem Reachable.runAll (depth : Nat) : ∀ (batch : List LocatedStatement) {db : Database},
    db.Reachable → (db.runAll (executeWithin depth) batch).2.Reachable := by
  intro batch
  induction batch with
  | nil => exact fun reachable => reachable.endBatch
  | cons s rest ih =>
      intro db reachable
      have stepped := reachable.run depth s.statement
      rw [Database.runAll]
      rcases ran : db.run (executeWithin depth) s.statement with ⟨outcome, next⟩
      rw [ran] at stepped
      cases outcome with
      | error e => exact stepped.endBatch
      | ok outcome => exact ih stepped

theorem Reachable.call (reachable : db.Reachable) (c : Call) : (db.call c).2.Reachable := by
  simp only [Database.call, execute, executeWithin]
  cases Sql.Batch.ofText c.text with
  | error e => exact reachable.tick c.now
  | ok batch => exact Reachable.runAll _ batch (reachable.tick c.now)

theorem Reachable.callAll (reachable : db.Reachable) (calls : List Call) :
    (db.callAll calls).Reachable := by
  induction calls generalizing db with
  | nil => exact reachable
  | cons c rest ih => exact ih (reachable.call c)

/-- What holds whenever a function was registered holds after any number of them. -/
theorem registerAll_keeps {p : Database → Prop}
    (each : ∀ {db after : Database} {schema : Option String} {signature : Signature}
      {body : List Value → Except SqlError Value},
      db.registerFunction schema signature body = .ok after → p db → p after) (schema : String) :
    ∀ (functions : List (Signature × (List Value → Except SqlError Value))) {db : Database},
      p db → p (db.registerAll schema functions).2 := by
  intro functions
  induction functions with
  | nil => exact fun held => held
  | cons first rest ih =>
      intro db held
      obtain ⟨signature, body⟩ := first
      rw [Database.registerAll]
      split
      · rename_i registered
        exact ih (each registered held)
      · exact held

theorem Reachable.registerAll (reachable : db.Reachable) (schema : String)
    (functions : List (Signature × (List Value → Except SqlError Value))) :
    (db.registerAll schema functions).2.Reachable :=
  registerAll_keeps (fun registered reachable => reachable.registerFunction registered) schema
    functions reachable

/-! ### What all of them have in common -/

/-- A property that no step takes away. The creation of an extension is made of other steps, which
may be texts that create extensions in turn. -/
structure Lasting (p : Database → Prop) : Prop where
  plain {db : Database} {s : Statement} (installer : Installer) :
    s.isExtension = false → p db → p (db.run installer s).2
  tick {db : Database} (now : Timestamp) : p db → p { db with now }
  close {db : Database} : p db → p { db.commitAll with inTransaction := false }
  installed {db : Database} (names : List String) : p db → p { db.commitAll with installed := names }
  setSearchPath {db : Database} (path : List String) : p db → p (db.setSearchPath path)
  createSchema {db after : Database} {name : String} {ifNotExists created : Bool} :
    db.createSchema name ifNotExists = .ok (created, after) → p db → p after
  registerFunction {db after : Database} {schema : Option String} {signature : Signature}
    {body : List Value → Except SqlError Value} :
    db.registerFunction schema signature body = .ok after → p db → p after
  registerExtension {db : Database} (name : String) (x : Extension) :
    p db → p (db.registerExtension name x)

namespace Lasting

variable {p : Database → Prop} (lasting : Lasting p) {installer : Installer}
include lasting

theorem endBatch (held : p db) : p db.endBatch := by
  unfold Database.endBatch
  split
  · exact held
  · rename_i unopened
    have closed := lasting.close held
    rw [Bool.not_eq_true] at unopened
    rwa [← unopened] at closed

theorem registerAll (schema : String)
    (functions : List (Signature × (List Value → Except SqlError Value))) (held : p db) :
    p (db.registerAll schema functions).2 :=
  registerAll_keeps lasting.registerFunction schema functions held

theorem install (carries : ∀ (db : Database) (text : String), p db → p (installer db text).2)
    (held : p db) (schema : String) (x : Extension) : p (db.install installer schema x).2 := by
  have registered := lasting.registerAll schema x.functions held
  unfold Database.install
  split
  · rename_i next sql ran _
    rw [ran] at registered
    have carried := carries next sql registered
    split <;> (rename_i done; rw [done] at carried; exact carried)
  · rename_i result _ _
    exact registered

theorem createExtension (carries : ∀ (db : Database) (text : String), p db → p (installer db text).2)
    (held : p db) (name : String) (ifNotExists : Bool) (schema : Option String) :
    p (createExtension installer db name ifNotExists schema).2 := by
  unfold Database.createExtension
  split
  · exact held
  · exact held
  · split
    · split <;> exact held
    · rename_i x schema _ _ _
      have installed := lasting.install carries (lasting.close held) schema x
      split
      · rename_i done
        rw [done] at installed
        exact lasting.installed _ installed
      · rename_i done
        rwa [done] at installed

theorem run (carries : ∀ (db : Database) (text : String), p db → p (installer db text).2)
    (held : p db) (s : Statement) : p (db.run installer s).2 := by
  cases plain : s.isExtension with
  | false => exact lasting.plain installer plain held
  | true =>
      cases s with
      | createExtension name ifNotExists schema =>
          exact lasting.createExtension carries held name ifNotExists schema
      | _ => cases plain

theorem runAll (carries : ∀ (db : Database) (text : String), p db → p (installer db text).2) :
    ∀ (batch : List LocatedStatement) {db : Database}, p db → p (db.runAll installer batch).2 := by
  intro batch
  induction batch with
  | nil => exact fun held => lasting.endBatch held
  | cons s rest ih =>
      intro db held
      have stepped := lasting.run carries held s.statement
      rw [Database.runAll]
      rcases ran : db.run installer s.statement with ⟨outcome, next⟩
      rw [ran] at stepped
      cases outcome with
      | error e => exact lasting.endBatch stepped
      | ok outcome => exact ih stepped

theorem executeWithin (depth : Nat) :
    ∀ (db : Database) (text : String), p db → p (executeWithin depth db text).2 := by
  -- an extension is installed by texts that may create extensions, one depth below
  induction depth with
  | zero => exact fun _ _ held => held
  | succ depth ih =>
      intro db text held
      rw [Database.executeWithin]
      split
      · exact held
      · exact lasting.runAll ih _ held

theorem reachable (start : ∀ {o now db}, create o now = .ok db → p db) (reachable : db.Reachable) :
    p db := by
  induction reachable with
  | created made => exact start made
  | tick now _ held => exact lasting.tick now held
  | run depth s _ held => exact lasting.run (lasting.executeWithin depth) held s
  | endBatch _ held => exact lasting.endBatch held
  | install _ held => exact lasting.close held
  | setSearchPath path _ held => exact lasting.setSearchPath path held
  | createSchema _ made held => exact lasting.createSchema made held
  | registerFunction _ registered held => exact lasting.registerFunction registered held
  | registerExtension name x _ held => exact lasting.registerExtension name x held

end Lasting

/-! ### The levels of the transaction -/

theorem lasting_live : Lasting Live where
  plain installer plain live := live.run plain installer
  tick now live := live.tick now
  close live := live.commitAll
  installed _ live := ⟨live.formed.commitAll.fork, List.cons_ne_nil _ _⟩
  setSearchPath _ live := ⟨live.formed, live.child⟩
  createSchema made live := by
    obtain ⟨changed, -, result⟩ := Run.bind_ok made
    cases result
    exact ⟨live.formed, live.child⟩
  registerFunction registered live := by
    obtain ⟨catalog, -, result⟩ := Run.bind_ok registered
    cases result
    exact ⟨live.formed, live.child⟩
  registerExtension _ _ live := ⟨live.formed, live.child⟩

theorem Reachable.live (reachable : db.Reachable) : db.Live :=
  lasting_live.reachable (fun made => by
    obtain ⟨_, -, result⟩ := Run.bind_ok made
    cases result
    exact ⟨Transaction.wellFormed_empty.fork, List.cons_ne_nil _ _⟩) reachable

end Database

end SqlEngine
