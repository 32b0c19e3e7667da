import SqlEngine.Proofs.Database.Rollback

/-!
Extensions whose creation fails.

The creation of an extension first commits everything. Then it registers functions and carries out
a text, and both are done as if the user had asked for them one by one: a failure ends the creation
and takes nothing back but the statement that failed. So the functions stay, and so does what the
statements before that one did. Nothing stays where there was nothing of either.
-/

namespace SqlEngine

namespace Sql.Statement

/-- Does the statement open a transaction? -/
def begins : Statement → Bool
  | startTransaction _ => true
  | _ => false

theorem manner_ne_start {s : Statement} (unbegun : s.begins = false) : s.manner ≠ .start := by
  intro starts
  cases s with
  | startTransaction verb => cases unbegun
  | setVariable scope name values =>
      simp only [manner] at starts
      split at starts <;> cases starts
  | _ => cases starts

end Sql.Statement

/-- The statements of a text; there are none if it cannot be read. -/
def Sql.statementsOf (text : String) : List LocatedStatement :=
  (Batch.ofText text).toOption.getD []

theorem Sql.statementsOf_of_ofText {text : String} {batch : List LocatedStatement}
    (reads : Batch.ofText text = .ok batch) : statementsOf text = batch := by
  rw [statementsOf, reads]
  rfl

/-- The statements that an extension brings. -/
def Extension.statements (x : Extension) : List Sql.LocatedStatement :=
  (x.sql.map Sql.statementsOf).getD []

theorem Extension.statements_of_sql {x : Extension} {text : String} (brings : x.sql = some text) :
    x.statements = Sql.statementsOf text := by
  rw [statements, brings]
  rfl

namespace Database

open Sql (Statement LocatedStatement)

variable {db after : Database} {installer : Installer}

/-- Nothing can be told of what happened: the catalog, the data and the extensions that were created
are the same. -/
structure Unseen (db after : Database) : Prop where
  catalog : after.catalog = db.catalog
  visible : ∀ key, after.store.get? key = db.store.get? key
  installed : after.installed = db.installed

theorem Unseen.refl (db : Database) : Unseen db db := ⟨rfl, fun _ => rfl, rfl⟩

theorem Unseen.trans {last : Database} (unseen : Unseen db after) (more : Unseen after last) :
    Unseen db last where
  catalog := more.catalog.trans unseen.catalog
  visible key := (more.visible key).trans (unseen.visible key)
  installed := more.installed.trans unseen.installed

/-- The database in which an extension is installed. -/
def cleared (db : Database) : Database := { db.commitAll with inTransaction := false }

theorem Live.unseen_cleared (live : db.Live) : Unseen db db.cleared :=
  ⟨rfl, fun key => Transaction.get?_commitAll live.formed key, rfl⟩

theorem Live.unseen_endBatch (live : db.Live) : Unseen db db.endBatch where
  catalog := live.twins_endBatch.catalog
  visible := live.twins_endBatch.visible
  installed := by
    unfold endBatch
    split <;> rfl

/-! ### Plain statements -/

theorem Manner.installed_run (m : Manner) (db : Database) :
    (m.run db).2.installed = db.installed := by
  cases m with
  | rows m =>
      simp only [Manner.run, inSavepoint]
      split <;> rfl
  | definition m =>
      simp only [Manner.run, define]
      split <;> rfl
  | searchPath path => rfl
  | start =>
      simp only [Manner.run, startTransaction]
      split <;> rfl
  | commit =>
      simp only [Manner.run, Database.commit]
      split <;> rfl
  | rollback =>
      simp only [Manner.run, Database.rollback]
      split <;> rfl
  | idle result => rfl

/-- A statement that fails is not seen. -/
theorem Reachable.unseen_run (reachable : db.Reachable) {s : Statement}
    (plain : s.isExtension = false) {e : SqlError} (failed : (db.run installer s).1 = .error e) :
    Unseen db (db.run installer s).2 := by
  obtain ⟨-, -, catalog, visible⟩ := failed_run_unseen reachable installer plain failed
  refine ⟨catalog, visible, ?_⟩
  rw [s.run_eq plain]
  exact s.manner.installed_run db

theorem Manner.unopened_run {m : Manner} (unbegun : m ≠ .start)
    (unopened : db.inTransaction = false) : (m.run db).2.inTransaction = false := by
  cases m with
  | rows m =>
      simp only [Manner.run, inSavepoint]
      split <;> exact unopened
  | definition m =>
      simp only [Manner.run, define]
      split <;> rfl
  | searchPath path => exact unopened
  | start => exact absurd rfl unbegun
  | commit => simp only [Manner.run, Database.commit, unopened, Bool.false_eq_true, ↓reduceIte]
  | rollback => simp only [Manner.run, Database.rollback, unopened, Bool.false_eq_true, ↓reduceIte]
  | idle result => exact unopened

theorem unopened_run {s : Statement} (plain : s.isExtension = false) (unbegun : s.begins = false)
    (unopened : db.inTransaction = false) : (db.run installer s).2.inTransaction = false := by
  rw [s.run_eq plain]
  exact Manner.unopened_run (Statement.manner_ne_start unbegun) unopened

theorem inTransaction_endBatch (db : Database) : db.endBatch.inTransaction = db.inTransaction := by
  unfold endBatch
  split <;> rfl

/-! ### Functions -/

/-- The functions of an extension as the catalog has them. -/
def registered (db : Database) (schema : String)
    (functions : List (Signature × (List Value → Except SqlError Value))) : Database :=
  let hosts := functions.mapIdx fun i f => ⟨db.catalog.functions.length + i, schema, f.1, f.2⟩
  { db with catalog := { db.catalog with functions := db.catalog.functions ++ hosts } }

theorem registered_cons (schema : String) (signature : Signature)
    (body : List Value → Except SqlError Value)
    (rest : List (Signature × (List Value → Except SqlError Value))) :
    db.registered schema ((signature, body) :: rest) =
      (db.registered schema [(signature, body)]).registered schema rest := by
  simp only [registered, List.mapIdx_cons, List.mapIdx_nil, List.append_assoc, List.cons_append,
    List.nil_append, List.length_append, List.length_cons, List.length_nil, Nat.add_zero]
  congr 6
  funext i f
  congr 1
  omega

theorem registered_nil (db : Database) (schema : String) : db.registered schema [] = db := by
  simp only [registered, List.mapIdx_nil, List.append_nil]

/-- Functions are refused for the schema that they are registered in. What is registered is no
reason to refuse another, so that either all of them are or none is. -/
theorem registerAll_eq (schema : String) :
    ∀ (functions : List (Signature × (List Value → Except SqlError Value))) (db : Database),
      db.registerAll schema functions =
        match functions, db.catalog.writable schema with
        | _ :: _, .error e => (.error e, db)
        | _, _ => (.ok (), db.registered schema functions) := by
  intro functions
  induction functions with
  | nil =>
      intro db
      simp only [registerAll, registered_nil]
  | cons first rest ih =>
      intro db
      obtain ⟨signature, body⟩ := first
      cases found : db.catalog.writable schema with
      | error e =>
          have refused : db.registerFunction (some schema) signature body = .error e := by
            simp only [registerFunction, Catalog.registerFunction, Option.getD_some, found]
            rfl
          simp only [registerAll, refused]
      | ok there =>
          have accepted : db.registerFunction (some schema) signature body =
              .ok (db.registered schema [(signature, body)]) := by
            simp only [registerFunction, Catalog.registerFunction, Option.getD_some, found]
            rfl
          have still : (db.registered schema [(signature, body)]).catalog.writable schema =
              .ok there := found
          simp only [registerAll, accepted, ih, still, registered_cons schema signature body rest]

/-! ### Texts -/

/-- The statements succeed one after the other, and lead from the first database to the other. -/
inductive Succeeds (installer : Installer) : Database → List LocatedStatement → Database → Prop
  | nil (db : Database) : Succeeds installer db [] db
  | cons {db next last : Database} {s : LocatedStatement} {rest : List LocatedStatement}
      {outcome : Outcome} : db.run installer s.statement = (.ok outcome, next) →
      Succeeds installer next rest last → Succeeds installer db (s :: rest) last

theorem Succeeds.reachable {depth : Nat} {batch : List LocatedStatement}
    (succeeds : Succeeds (executeWithin depth) db batch after) (reachable : db.Reachable) :
    after.Reachable := by
  induction succeeds with
  | nil => exact reachable
  | @cons _ _ _ s _ _ ran _ ih =>
      have stepped := reachable.run depth s.statement
      rw [ran] at stepped
      exact ih stepped

theorem Succeeds.unopened {batch : List LocatedStatement}
    (succeeds : Succeeds installer db batch after)
    (plain : ∀ s ∈ batch, s.statement.isExtension = false)
    (unbegun : ∀ s ∈ batch, s.statement.begins = false) (unopened : db.inTransaction = false) :
    after.inTransaction = false := by
  induction succeeds with
  | nil => exact unopened
  | @cons db _ _ s _ _ ran _ ih =>
      obtain ⟨firstPlain, restPlain⟩ := List.forall_mem_cons.mp plain
      obtain ⟨firstUnbegun, restUnbegun⟩ := List.forall_mem_cons.mp unbegun
      have stepped : (db.run installer s.statement).2.inTransaction = false :=
        unopened_run firstPlain firstUnbegun unopened
      rw [ran] at stepped
      exact ih restPlain restUnbegun stepped

/-- A batch that fails is cut in two by the statement that failed. -/
theorem runAll_failed {e : ExecError} : ∀ {batch : List LocatedStatement} {db : Database},
    db.runAll installer batch = (.error e, after) →
      ∃ before s rest next failed, batch = before ++ s :: rest ∧
        Succeeds installer db before next ∧
        next.run installer s.statement = (.error e.error, failed) ∧ after = failed.endBatch := by
  intro batch
  induction batch with
  | nil => intro db stopped; cases stopped
  | cons s rest ih =>
      intro db stopped
      rw [runAll] at stopped
      rcases ran : db.run installer s.statement with ⟨outcome, next⟩
      rw [ran] at stopped
      cases outcome with
      | error given =>
          cases stopped
          exact ⟨[], s, rest, db, next, rfl, .nil db, ran, rfl⟩
      | ok outcome =>
          rcases later : next.runAll installer rest with ⟨results, last⟩
          simp only [later] at stopped
          cases results with
          | ok results => cases stopped
          | error given =>
              cases stopped
              obtain ⟨before, t, others, found, failed, rfl, succeeds, failing, ended⟩ := ih later
              exact ⟨s :: before, t, others, found, failed, rfl, .cons ran succeeds, failing, ended⟩

/-- A text fails that is brought by too many extensions inside each other, or that cannot be read,
or of which a statement fails. -/
inductive Stops : Nat → Database → String → SqlError → Database → Prop
  | deep (db : Database) (text : String) :
      Stops 0 db text (.internal "extensions are nested too deeply") db
  | unread {depth : Nat} {db : Database} {text : String} {e : SqlError} :
      Sql.Batch.ofText text = .error e → Stops (depth + 1) db text e db
  | failed {depth : Nat} {db next last : Database} {text : String} {e : SqlError}
      {before rest : List LocatedStatement} {s : LocatedStatement} :
      Sql.Batch.ofText text = .ok (before ++ s :: rest) →
      Succeeds (executeWithin depth) db before next →
      next.run (executeWithin depth) s.statement = (.error e, last) →
      Stops (depth + 1) db text e last.endBatch

theorem stops_of_failed {depth : Nat} {text : String} {e : ExecError}
    (failed : executeWithin depth db text = (.error e, after)) :
    Stops depth db text e.error after := by
  cases depth with
  | zero =>
      cases failed
      exact .deep db text
  | succ depth =>
      rw [executeWithin] at failed
      cases read : Sql.Batch.ofText text with
      | error given =>
          rw [read] at failed
          cases failed
          exact .unread read
      | ok batch =>
          rw [read] at failed
          obtain ⟨before, s, rest, next, last, rfl, succeeds, failing, rfl⟩ := runAll_failed failed
          exact .failed read succeeds failing

theorem begins_of_failed {s : Statement} {e : SqlError}
    (failed : (db.run installer s).1 = .error e) : s.begins = false := by
  cases s with
  | startTransaction verb => cases failed
  | _ => rfl

namespace Stops

variable {depth : Nat} {text : String} {e : SqlError}

/-- What is left is what the statements before the one that failed did. -/
theorem leaves (stops : Stops depth db text e after) (reachable : db.Reachable)
    (plain : ∀ s ∈ Sql.statementsOf text, s.statement.isExtension = false) :
    ∃ inner before next, before <+: (Sql.statementsOf text).dropLast ∧
      Succeeds (executeWithin inner) db before next ∧ Unseen next after := by
  cases stops with
  | deep => exact ⟨0, [], db, List.nil_prefix, .nil db, .refl db⟩
  | unread unreadable => exact ⟨0, [], db, List.nil_prefix, .nil db, .refl db⟩
  | @failed depth _ next last _ _ before rest s reads succeeds failing =>
      have whole := Sql.statementsOf_of_ofText reads
      have simple : s.statement.isExtension = false := plain s (by rw [whole]; simp)
      have found := succeeds.reachable reachable
      have unseen := found.unseen_run simple (congrArg Prod.fst failing)
      have live := found.live.run simple (executeWithin depth)
      rw [failing] at unseen live
      refine ⟨depth, before, next, ?_, succeeds, unseen.trans live.unseen_endBatch⟩
      rw [whole, List.dropLast_append_of_ne_nil (List.cons_ne_nil s rest)]
      exact List.prefix_append before _

/-- A transaction is left open only by a statement that succeeded, which the last one did not. -/
theorem unopened (stops : Stops depth db text e after) (closed : db.inTransaction = false)
    (plain : ∀ s ∈ Sql.statementsOf text, s.statement.isExtension = false)
    (unbegun : ∀ s ∈ (Sql.statementsOf text).dropLast, s.statement.begins = false) :
    after.inTransaction = false := by
  cases stops with
  | deep => exact closed
  | unread unreadable => exact closed
  | @failed depth _ next last _ _ before rest s reads succeeds failing =>
      rw [Sql.statementsOf_of_ofText reads] at plain unbegun
      rw [List.dropLast_append_of_ne_nil (List.cons_ne_nil s rest)] at unbegun
      obtain ⟨beforePlain, restPlain⟩ := List.forall_mem_append.mp plain
      have found := succeeds.unopened beforePlain (List.forall_mem_append.mp unbegun).1 closed
      have stepped : (next.run (executeWithin depth) s.statement).2.inTransaction = false :=
        unopened_run (restPlain s List.mem_cons_self)
          (begins_of_failed (congrArg Prod.fst failing)) found
      rw [failing] at stepped
      rw [inTransaction_endBatch, stepped]

end Stops

/-! ### What a failed creation leaves -/

section Creation

variable {depth : Nat} {name : String} {ifNotExists : Bool} {schema : Option String} {e : SqlError}

/-- None of the functions are accepted, or all of them are and the text fails. -/
theorem install_failed {target : String} {x : Extension}
    (failed : db.install (executeWithin depth) target x = (.error e, after)) :
    (x.functions ≠ [] ∧ db.catalog.writable target = .error e ∧ after = db) ∨
      ∃ text, x.sql = some text ∧
        db.registerAll target x.functions = (.ok (), db.registered target x.functions) ∧
          Stops depth (db.registered target x.functions) text e after := by
  rw [install] at failed
  have registering := registerAll_eq target x.functions db
  split at registering
  · rename_i first rest given listed refused
    rw [registering] at failed
    cases failed
    exact .inl ⟨by rw [listed]; exact List.cons_ne_nil _ _, refused, rfl⟩
  · rw [registering] at failed
    cases brought : x.sql with
    | none =>
        rw [brought] at failed
        cases failed
    | some text =>
        refine .inr ⟨text, rfl, registering, ?_⟩
        rcases ran : executeWithin depth (db.registered target x.functions) text with
          ⟨result, last⟩
        simp only [brought, ran] at failed
        cases result with
        | ok results => cases failed
        | error given =>
            cases failed
            exact stops_of_failed ran

/-- A creation is refused, or none of its functions are accepted, or all of them are and its text
fails. -/
theorem createExtension_failed
    (failed : createExtension (executeWithin depth) db name ifNotExists schema =
      (.error e, after)) :
    after = db ∨ ∃ x target, db.extensions.lookup name = some x ∧
      db.extensionSchema schema = .ok target ∧
        (after = db.cleared ∨ ∃ text, x.sql = some text ∧
          db.cleared.registerAll target x.functions =
              (.ok (), db.cleared.registered target x.functions) ∧
            Stops depth (db.cleared.registered target x.functions) text e after) := by
  unfold createExtension at failed
  split at failed
  · exact .inl (Prod.mk.inj failed).2.symm
  · exact .inl (Prod.mk.inj failed).2.symm
  · rename_i x target found located
    split at failed
    · split at failed
      · cases failed
      · exact .inl (Prod.mk.inj failed).2.symm
    · rcases done : db.cleared.install (executeWithin depth) target x with ⟨result, last⟩
      rw [cleared] at done
      rw [done] at failed
      cases result with
      | ok _ => cases failed
      | error given =>
          cases failed
          refine .inr ⟨x, target, found, located, ?_⟩
          obtain ⟨-, -, unchanged⟩ | stopped := install_failed done
          · exact .inl unchanged
          · exact .inr stopped

variable (failed : createExtension (executeWithin depth) db name ifNotExists schema =
    (.error e, after))
  (plain : ∀ x, db.extensions.lookup name = some x →
    ∀ s ∈ x.statements, s.statement.isExtension = false)
include failed plain

/-- A failed creation leaves what was there, with the open transaction committed, or what the
functions and the statements before the one that failed made of it. -/
theorem createExtension_leaves (reachable : db.Reachable) :
    after = db ∨ after = db.cleared ∨ ∃ x target inner before next,
      db.extensions.lookup name = some x ∧ db.extensionSchema schema = .ok target ∧
        x.sql.isSome ∧ before <+: x.statements.dropLast ∧
          Succeeds (executeWithin inner) (db.cleared.registered target x.functions) before next ∧
            Unseen next after := by
  obtain same | ⟨x, target, found, located, same | ⟨text, brings, registers, stops⟩⟩ :=
    createExtension_failed failed
  · exact .inl same
  · exact .inr (.inl same)
  · have ready := reachable.install.registerAll target x.functions
    rw [← cleared, registers] at ready
    have simple := plain x found
    rw [Extension.statements_of_sql brings] at simple
    obtain ⟨inner, before, next, cut, succeeds, unseen⟩ := stops.leaves ready simple
    rw [← Extension.statements_of_sql brings] at cut
    refine .inr (.inr ⟨x, target, inner, before, next, found, located, ?_, cut, succeeds, unseen⟩)
    rw [brings, Option.isSome_some]

/-- If the extension neither opens a transaction nor creates another extension, no transaction is
left open. -/
theorem createExtension_unopened
    (unbegun : ∀ x, db.extensions.lookup name = some x →
      ∀ s ∈ x.statements.dropLast, s.statement.begins = false) :
    after = db ∨ after.inTransaction = false := by
  obtain same | ⟨x, target, found, located, same | ⟨text, brings, -, stops⟩⟩ :=
    createExtension_failed failed
  · exact .inl same
  · exact .inr (by rw [same]; rfl)
  · have simple := plain x found
    have before := unbegun x found
    rw [Extension.statements_of_sql brings] at simple before
    exact .inr (stops.unopened rfl simple before)

/-- The creation of an extension of functions only, or of a single statement only, leaves nothing
when it fails. -/
theorem createExtension_atomic (reachable : db.Reachable)
    (single : ∀ x, db.extensions.lookup name = some x →
      x.sql = none ∨ x.functions = [] ∧ x.statements.length ≤ 1) :
    Unseen db after ∧ (after = db ∨ after.inTransaction = false) := by
  have short (x : Extension) (found : db.extensions.lookup name = some x) :
      x.statements.dropLast = [] := by
    refine List.eq_nil_of_length_eq_zero ?_
    obtain silent | ⟨-, short⟩ := single x found
    · simp only [Extension.statements, silent, Option.map_none, Option.getD_none,
        List.dropLast_nil, List.length_nil]
    · rw [List.length_dropLast]
      omega
  refine ⟨?_, createExtension_unopened failed plain fun x found => by simp [short x found]⟩
  obtain rfl | rfl | ⟨x, target, inner, before, next, found, -, brings, cut, succeeds, unseen⟩ :=
    createExtension_leaves failed plain reachable
  · exact .refl _
  · exact reachable.live.unseen_cleared
  · rw [short x found, List.prefix_nil] at cut
    subst cut
    cases succeeds
    obtain silent | ⟨bare, -⟩ := single x found
    · rw [silent] at brings
      cases brings
    · rw [bare, registered_nil] at unseen
      exact reachable.live.unseen_cleared.trans unseen

end Creation

/-- What `CREATE SCHEMA made; SELECT missing` leaves as the text of an extension. -/
example :
    let db := exampleFresh.registerExtension "x" ⟨[], some "CREATE SCHEMA made; SELECT missing"⟩
    let created := createExtension (executeWithin 1) db "x" false none
    created.1.isOk = false ∧ (db.catalog.schema? "made").isSome = false ∧
      (created.2.catalog.schema? "made").isSome = true := by
  decide +kernel

end Database

end SqlEngine
