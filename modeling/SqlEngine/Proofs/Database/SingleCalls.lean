import SqlEngine.Proofs.Database.Rollback

/-!
A batch against its statements in calls of their own.

A batch keeps what it writes at the level it found, up to its end; calls commit after every
statement. The two are twins after every statement. Calls are made at different times, so no
statement may depend on the time at which it is carried out.
-/

namespace SqlEngine

namespace Database

open Sql (Statement LocatedStatement)

/-- Makes calls, one after the other, up to the first that fails. -/
def callEach (db : Database) : List Call → Except ExecError (List Result) × Database
  | [] => (.ok [], db)
  | c :: rest =>
    match db.call c with
    | (.error e, db) => (.error e, db)
    | (.ok results, db) =>
      let (later, db) := db.callEach rest
      (later.map (results ++ ·), db)

/-- The text of the call is this one statement, wherever it stands. -/
def Call.Brings (c : Call) (s : LocatedStatement) : Prop :=
  ∃ place, Sql.Batch.ofText c.text = .ok [{ s with place }]

/-- The statement does the same at any other time. -/
def IgnoresTime (installer : Installer) (db : Database) (s : Statement) : Prop :=
  ∀ now, { db with now }.run installer s =
    ((db.run installer s).1, { (db.run installer s).2 with now })

/-- The statements of the batch that are carried out do the same at any other time. -/
def Timeless (installer : Installer) (db : Database) : List LocatedStatement → Prop
  | [] => True
  | s :: rest =>
    db.IgnoresTime installer s.statement ∧
      match db.run installer s.statement with
      | (.ok _, next) => Timeless installer next rest
      | (.error _, _) => True

/-- Results without their places. -/
def unplaced : Except ExecError (List Result) → Except ExecError (List Outcome)
  | .ok results => .ok (results.map (·.outcome))
  | .error e => .error { e with place := none }

variable {db other : Database} {installer : Installer}

theorem Twins.tick_left (twins : Twins db other) (now : Timestamp) :
    Twins { db with now } other :=
  twins.tick now other.now

theorem Twins.of_tick_left {now : Timestamp} (twins : Twins { db with now } other) :
    Twins db other :=
  twins.tick db.now other.now

theorem call_single (db : Database) {c : Call} {s : LocatedStatement} (brings : c.Brings s) :
    ∃ place, db.call c =
      match { db with now := c.now }.run (executeWithin db.extensions.length) s.statement with
      | (.ok outcome, next) => (.ok [⟨outcome, place⟩], next.endBatch)
      | (.error e, next) => (.error (next.diagnosed { s with place } e), next.endBatch) := by
  obtain ⟨place, reads⟩ := brings
  refine ⟨place, ?_⟩
  simp only [call, execute, executeWithin, reads, runAll]
  split <;> simp_all [Except.map]

theorem unplaced_map (outcome : Outcome) (place : Place) (results : Except ExecError (List Result)) :
    unplaced (results.map (⟨outcome, place⟩ :: ·)) = (unplaced results).map (outcome :: ·) := by
  cases results <;> rfl

theorem Twins.call (twins : Twins db other) {c : Call} {s : LocatedStatement}
    (brings : c.Brings s) (plain : s.statement.isExtension = false)
    (ignores : db.IgnoresTime installer s.statement) :
    match db.run installer s.statement with
    | (.ok outcome, next) =>
      ∃ place after, other.call c = (.ok [⟨outcome, place⟩], after) ∧ Twins next after
    | (.error e, next) =>
      ∃ place after, other.call c = (.error { next.diagnosed s e with place }, after) ∧
        Twins next after := by
  -- the statement runs at the time of the call on both sides; the batch does not notice
  have together := twins.tick c.now c.now
  obtain ⟨results, states⟩ :=
    together.run rfl plain installer (executeWithin other.extensions.length)
  rw [ignores c.now] at results states
  obtain ⟨place, called⟩ := call_single other brings
  rcases ranOther : { other with now := c.now }.run (executeWithin other.extensions.length)
    s.statement with ⟨given, after⟩
  rcases ran : db.run installer s.statement with ⟨result, next⟩
  rw [ranOther, ran] at results states
  obtain rfl : given = result := results
  have kept : Twins next after := states.of_tick_left
  rw [ranOther] at called
  cases given with
  | ok outcome => exact ⟨place, after.endBatch, called, kept.endBatch⟩
  | error e =>
      have options := kept.options
      refine ⟨some place, after.endBatch, called.trans ?_, kept.endBatch⟩
      simp only [diagnosed, options]

theorem Twins.runAll_callEach : ∀ (batch : List LocatedStatement) (calls : List Call)
    {db other : Database}, Twins db other → List.Forall₂ Call.Brings calls batch →
      (∀ s ∈ batch, s.statement.isExtension = false) → Timeless installer db batch →
      unplaced (other.callEach calls).1 = unplaced (db.runAll installer batch).1 ∧
        Twins (db.runAll installer batch).2 (other.callEach calls).2 := by
  intro batch
  induction batch with
  | nil =>
      intro calls db other twins brings _ _
      cases brings
      exact ⟨rfl, twins.live.twins_endBatch.symm.trans twins⟩
  | cons s rest ih =>
      intro calls db other twins brings plain timeless
      cases brings with
      | cons first later =>
      obtain ⟨firstPlain, restPlain⟩ := List.forall_mem_cons.mp plain
      -- the call ends its batch where the long one goes on, so only twins go into the induction
      have stepped := twins.call first firstPlain timeless.1
      have remaining := timeless.2
      rw [callEach, Database.runAll]
      rcases ran : db.run installer s.statement with ⟨result, next⟩
      rw [ran] at stepped remaining
      cases result with
      | error e =>
          obtain ⟨place, after, called, kept⟩ := stepped
          rw [called]
          exact ⟨rfl, kept.live.twins_endBatch.symm.trans kept⟩
      | ok outcome =>
          obtain ⟨place, after, called, kept⟩ := stepped
          obtain ⟨results, states⟩ := ih _ kept later restPlain remaining
          rw [called]
          refine ⟨?_, states⟩
          calc
            _ = (unplaced (after.callEach _).1).map (outcome :: ·) := unplaced_map outcome place _
            _ = (unplaced (runAll installer next rest).1).map (outcome :: ·) := by rw [results]
            _ = _ := (unplaced_map outcome s.place _).symm

/-- A batch does what its statements do in calls of their own, up to the first that fails: the
results are the same but for their places, and so are the catalog, the visible data, whether a
transaction is open, and the data that a rollback of it brings back. -/
theorem call_eq_callEach (reachable : db.Reachable) {c : Call} {batch : List LocatedStatement}
    (reads : Sql.Batch.ofText c.text = .ok batch)
    (plain : ∀ s ∈ batch, s.statement.isExtension = false)
    (timeless : Timeless (executeWithin db.extensions.length) { db with now := c.now } batch)
    {calls : List Call} (brings : List.Forall₂ Call.Brings calls batch) :
    let whole := db.call c
    let parts := db.callEach calls
    unplaced parts.1 = unplaced whole.1 ∧
      parts.2.catalog = whole.2.catalog ∧
      parts.2.inTransaction = whole.2.inTransaction ∧
      (∀ key, parts.2.store.get? key = whole.2.store.get? key) ∧
      ∀ key, parts.2.rollback.2.store.get? key = whole.2.rollback.2.store.get? key := by
  have whole : db.call c =
      runAll (executeWithin db.extensions.length) { db with now := c.now } batch := by
    simp only [call, execute, executeWithin, reads]
  obtain ⟨results, twins⟩ :=
    (reachable.live.twins.tick_left c.now).runAll_callEach batch calls brings plain timeless
  rw [← whole] at results twins
  exact ⟨results, twins.catalog, twins.inTransaction, twins.visible, twins.rollback.2.visible⟩

/-! ### Statements that cannot read the time -/

/-- The program of the manner, if there is one, is the same at all times. -/
def Manner.Steady : Manner → Prop
  | .rows m => ∀ catalog now later, m ⟨catalog, now⟩ = m ⟨catalog, later⟩
  | .definition m => ∀ o now later, m o now = m o later
  | _ => True

theorem ignoresTime_of_steady {s : Statement} (plain : s.isExtension = false)
    (steady : s.manner.Steady) : db.IgnoresTime installer s := by
  intro now
  rw [s.run_eq plain, s.run_eq plain]
  cases made : s.manner with
  | rows m =>
      rw [made] at steady
      simp only [Manner.run, inSavepoint, steady db.catalog now db.now]
      split <;> rfl
  | definition m =>
      rw [made] at steady
      simp only [Manner.run, define, steady db.options now db.now]
      split <;> rfl
  | start =>
      simp only [Manner.run, startTransaction]
      split <;> rfl
  | commit =>
      simp only [Manner.run, Database.commit]
      split <;> rfl
  | rollback =>
      simp only [Manner.run, Database.rollback]
      split <;> rfl
  | searchPath path => rfl
  | idle result => rfl

/-- Queries and changes may read the time, and so may the defaults of columns that are added. -/
def mayReadTime : Statement → Bool
  | .query _ | .change _ | .alterTable _ => true
  | _ => false

theorem steady_manner {s : Statement} (blind : mayReadTime s = false) : s.manner.Steady := by
  cases s with
  | query q => cases blind
  | change c => cases blind
  | alterTable t => cases blind
  | setVariable scope name values =>
      simp only [Statement.manner]
      split
      · trivial
      · exact fun _ _ _ => rfl
  | _ => first | trivial | exact fun _ _ _ => rfl

theorem timeless_of_mayReadTime : ∀ {batch : List LocatedStatement} {db : Database},
    (∀ s ∈ batch, s.statement.isExtension = false) →
      (∀ s ∈ batch, mayReadTime s.statement = false) → Timeless installer db batch := by
  intro batch
  induction batch with
  | nil => exact fun _ _ => trivial
  | cons s rest ih =>
      intro db plain blind
      obtain ⟨firstPlain, restPlain⟩ := List.forall_mem_cons.mp plain
      obtain ⟨firstBlind, restBlind⟩ := List.forall_mem_cons.mp blind
      refine ⟨ignoresTime_of_steady firstPlain (steady_manner firstBlind), ?_⟩
      split
      · exact ih restPlain restBlind
      · trivial

/-! ### An example -/

deriving instance DecidableEq for Sql.Drop

/-- Are these the same statement, of those that consist of names? -/
def agrees : Statement → Statement → Bool
  | .startTransaction verb, .startTransaction other => verb == other
  | .rollback chained savepoint, .rollback chain name => chained == chain && savepoint == name
  | .truncate table marked, .truncate name mark => table == name && marked == mark
  | .drop d, .drop e => d == e
  | _, _ => false

theorem eq_of_agrees {s t : Statement} (same : agrees s t = true) : s = t := by
  unfold agrees at same
  split at same <;> simp_all

def agreesAll : List LocatedStatement → List LocatedStatement → Bool
  | [], [] => true
  | ⟨s, place, text⟩ :: rest, ⟨t, other, words⟩ :: others =>
    agrees s t && place == other && text == words && agreesAll rest others
  | _, _ => false

theorem eq_of_agreesAll : ∀ {found batch : List LocatedStatement},
    agreesAll found batch = true → found = batch := by
  intro found
  induction found with
  | nil =>
      intro batch same
      cases batch with
      | nil => rfl
      | cons t others => cases same
  | cons s rest ih =>
      intro batch same
      cases batch with
      | nil => cases same
      | cons t others =>
          obtain ⟨statement, place, text⟩ := s
          simp only [agreesAll, Bool.and_eq_true, beq_iff_eq] at same
          obtain ⟨⟨⟨agreed, rfl⟩, rfl⟩, later⟩ := same
          rw [eq_of_agrees agreed, ih later]

def readsAs (text : String) (batch : List LocatedStatement) : Bool :=
  match Sql.Batch.ofText text with
  | .ok found => agreesAll found batch
  | .error _ => false

theorem ofText_of_readsAs {text : String} {batch : List LocatedStatement}
    (same : readsAs text batch = true) : Sql.Batch.ofText text = .ok batch := by
  unfold readsAs at same
  split at same
  · rename_i found read
    rw [read, eq_of_agreesAll same]
  · cases same

/-- The last of these statements fails, in a transaction that is open by then. -/
def exampleText : String := "TRUNCATE t; ROLLBACK; DROP TABLE t; BEGIN; TRUNCATE t"

def exampleBatch : List LocatedStatement :=
  [⟨.truncate [.bare "t"] false, ⟨1, 1⟩, "TRUNCATE t"⟩, ⟨.rollback false none, ⟨1, 13⟩, "ROLLBACK"⟩,
    ⟨.drop ⟨.table, false, [[.bare "t"]]⟩, ⟨1, 23⟩, "DROP TABLE t"⟩,
    ⟨.startTransaction "BEGIN", ⟨1, 37⟩, "BEGIN"⟩,
    ⟨.truncate [.bare "t"] false, ⟨1, 44⟩, "TRUNCATE t"⟩]

def exampleCallEach : List Call := exampleBatch.map fun s => ⟨default, s.text⟩

theorem exampleText_eq_callEach :
    let whole := exampleOpened.call ⟨default, exampleText⟩
    let parts := exampleOpened.callEach exampleCallEach
    unplaced parts.1 = unplaced whole.1 ∧ parts.2.catalog = whole.2.catalog ∧
      parts.2.inTransaction = whole.2.inTransaction := by
  have read : readsAs exampleText exampleBatch = true := by decide +kernel
  have single : ∀ s ∈ exampleBatch, readsAs s.text [{ s with place := ⟨1, 1⟩ }] = true := by
    decide +kernel
  have plain : ∀ s ∈ exampleBatch, s.statement.isExtension = false := by decide
  have blind : ∀ s ∈ exampleBatch, mayReadTime s.statement = false := by decide
  have brings : List.Forall₂ Call.Brings exampleCallEach exampleBatch := by
    refine List.forall₂_map_left_iff.mpr (List.forall₂_same.mpr fun s member => ?_)
    exact ⟨⟨1, 1⟩, ofText_of_readsAs (single s member)⟩
  obtain ⟨results, catalog, opened, -⟩ := call_eq_callEach reachable_exampleOpened
    (c := ⟨default, exampleText⟩) (ofText_of_readsAs read) plain (timeless_of_mayReadTime plain blind)
    brings
  exact ⟨results, catalog, opened⟩

end Database

end SqlEngine
