import Mathlib.Data.List.TakeWhile
import SqlEngine.Proofs.Catalog.Linking
import SqlEngine.Proofs.Database.DefinitionFrame
import SqlEngine.Proofs.Database.SerialColumns

/-!
New tables and their names.

A name without a schema is free for a new table if the current schema has no relation of the name;
other schemas are not asked. Looked up, the name stands for the first relation along the search path.
So the new table is what its name stands for exactly where no schema that is searched before the
current one has a relation of the name, be it a type of the system.
-/

namespace SqlEngine

open Run (bind_ok)

/-! ### Names along the search path -/

namespace Catalog

variable {c : Catalog} {schema name : String} {id : Nat} {r : Relation} {d : TableDef}

/-- The schemas in which a name without a schema is looked up before the current one. -/
def ahead (c : Catalog) : List String := c.visibleSchemas.takeWhile (· != c.current)

theorem visibleSchemas_split (c : Catalog) :
    ∃ behind, c.visibleSchemas = c.ahead ++ c.current :: behind := by
  have member : c.current ∈ c.visibleSchemas :=
    List.mem_append_right _ (List.mem_singleton_self _)
  obtain ⟨front, behind, split, before⟩ := List.eq_append_cons_of_mem member
  have each : ∀ s ∈ front, (s != c.current) = true := fun s there =>
    bne_iff_ne.mpr fun same => before (same ▸ there)
  have stops : (c.current :: behind).takeWhile (· != c.current) = [] := by simp
  refine ⟨behind, ?_⟩
  rw [ahead, split, List.takeWhile_append_of_pos each, stops, List.append_nil]

theorem ne_current_of_mem_ahead (member : schema ∈ c.ahead) : schema ≠ c.current := by
  have differs : (schema != c.current) = true :=
    List.mem_takeWhile_imp (p := (· != c.current)) member
  exact bne_iff_ne.mp differs

theorem Registered.find?_iff (registered : c.Registered) :
    c.find? ⟨some schema, name⟩ = some (id, r) ↔ c.Has schema id r ∧ r.name = name := by
  rw [find?]
  dsimp only
  cases found : c.schema? schema with
  | none =>
      refine iff_of_false (by simp) ?_
      rintro ⟨⟨s, there, _⟩, _⟩
      rw [registered.ordered.schema?_iff.mpr there] at found
      cases found
  | some s =>
      rw [Option.bind_some, (registered.maps_of found).named?_iff, registered.ordered.get?_iff found]

/-- A relation of the current schema gives way to one of its name that is found earlier. -/
theorem find?_of_current {e : Nat × Relation} (found : c.find? ⟨some c.current, name⟩ = some e) :
    c.find? ⟨none, name⟩ = some ((c.ahead.findSome? fun s => c.find? ⟨some s, name⟩).getD e) := by
  obtain ⟨behind, split⟩ := c.visibleSchemas_split
  have walked : c.find? ⟨none, name⟩ = c.visibleSchemas.findSome? fun s => c.find? ⟨some s, name⟩ := rfl
  rw [walked, split, List.findSome?_append, List.findSome?_cons, found]
  cases c.ahead.findSome? fun s => c.find? ⟨some s, name⟩ <;> rfl

/-- A table of the current schema is what its name stands for if and only if no schema that is
searched earlier has a relation of the name. -/
theorem Registered.table_iff (registered : c.Registered) (has : c.Has c.current d.id (.table d)) :
    c.table ⟨none, d.name⟩ = .ok d ↔ ∀ s ∈ c.ahead, c.find? ⟨some s, d.name⟩ = none := by
  have here : c.find? ⟨some c.current, d.name⟩ = some (d.id, .table d) :=
    registered.find?_iff.mpr ⟨has, rfl⟩
  have found := find?_of_current here
  rw [← List.findSome?_eq_none_iff]
  cases earlier : c.ahead.findSome? fun s => c.find? ⟨some s, d.name⟩ with
  | none =>
      rw [earlier] at found
      simp [table, findKind, found, Relation.table?]
  | some e =>
      obtain ⟨s, member, first⟩ := List.exists_of_findSome?_eq_some earlier
      rw [earlier] at found
      refine iff_of_false (fun given => ?_) (Option.some_ne_none e)
      -- the table knows its schema, so what is found in another one is something else
      obtain ⟨number, r, there, part⟩ := findKind_ok given
      obtain rfl := table?_eq_some.mp part
      cases found.symm.trans there
      obtain ⟨elsewhere, -⟩ := registered.find?_iff.mp first
      have away : d.schema = s := (registered.placed _ _ _ elsewhere).2.1
      have home : d.schema = c.current := (registered.placed _ _ _ has).2.1
      exact ne_current_of_mem_ahead member (away.symm.trans home)

end Catalog

namespace Define

variable {s t : Draft} {c next : Catalog} {d : TableDef} {statement : Sql.CreateTable}

/-! ### Definitions and the search path -/

/-- No definition sets the search path or the current schema. -/
theorem free_path (path : List String) (current : String) :
    Free fun s => s.catalog.searchPath = path ∧ s.catalog.current = current where
  raise _ _ _ _ held := held
  register c next _ _ _ _ _ made held := by
    obtain ⟨_, -, made⟩ := bind_ok made
    obtain ⟨_, -, made⟩ := bind_ok made
    cases made
    exact held
  registerSequence c next _ _ _ _ _ made held := by
    obtain ⟨_, -, made⟩ := bind_ok made
    obtain ⟨_, -, made⟩ := bind_ok made
    obtain ⟨_, -, made⟩ := bind_ok made
    cases made
    exact held
  replaceTable c next _ _ made held := by
    obtain ⟨_, -, made⟩ := bind_ok made
    split at made <;> cases made
    exact held
  rename c next _ _ _ made held := by
    obtain ⟨_, -, made⟩ := bind_ok made
    obtain ⟨_, -, made⟩ := bind_ok made
    cases made
    exact held
  drop c next _ _ made held := by
    obtain ⟨_, -, made⟩ := bind_ok made
    cases made
    exact held
  createSchema c next _ _ _ _ made held := by
    unfold Catalog.createSchema at made
    split at made <;> cases made <;> exact held
  writes _ _ _ _ held := held
  removes _ _ _ held := held
  evaluates _ _ := ⟨fun _ _ held => held, fun _ _ _ _ _ _ held => held⟩

theorem ahead_of_keeps {α : Type} {m : Define α} {a : α} (keeps : ∀ p, Free p → Keeps p m)
    (ran : m.run s = (.ok a, t)) :
    t.catalog.current = s.catalog.current ∧ t.catalog.ahead = s.catalog.ahead := by
  obtain ⟨path, current⟩ := keeps _ (free_path _ _) ⟨rfl, rfl⟩ ran
  exact ⟨current, by rw [Catalog.ahead, Catalog.ahead, Catalog.visibleSchemas,
    Catalog.visibleSchemas, path, current]⟩

/-! ### A table that comes -/

/-- A statement that succeeds creates a table, or finds the name taken and does nothing. -/
theorem createTable_ok {outcome : Outcome} (ran : (createTable statement).run s = (.ok outcome, t)) :
    outcome = .done "CREATE TABLE" ∨
      (outcome = .skipped "CREATE TABLE" ∧ statement.ifNotExists ∧ t = s ∧
        ∃ name, QName.ofParts statement.name = .ok name ∧
          ¬s.catalog.isFree (s.catalog.targetSchema name) name.name) := by
  unfold createTable at ran
  dsimp only at ran
  split at ran
  · cases ran
  · rw [catalog_bind_run] at ran
    obtain ⟨name, named, ran⟩ := Run.lift_bind_ok ran
    split at ran
    · rename_i taken
      split at ran
      · rename_i told
        cases ran
        exact .inr ⟨rfl, told, rfl, name, named, by simpa using taken⟩
      · cases ran
    · obtain ⟨_, -, ran⟩ := Run.lift_bind_ok ran
      obtain ⟨_, -, ran⟩ := Run.lift_bind_ok ran
      obtain ⟨_, _, -, ran⟩ := Run.bind_run_ok ran
      obtain ⟨_, _, -, ran⟩ := Run.bind_run_ok ran
      obtain ⟨_, -, ran⟩ := changeCatalog_bind_ok ran
      obtain ⟨_, _, -, ran⟩ := Run.bind_run_ok ran
      cases ran
      exact .inl rfl

/-- A table comes with its indexes and its sequences into one schema. -/
theorem Creates.has_elsewhere {columns : List String} (creates : Creates c next d columns)
    (before : c.Linked) (after : next.Linked) {schema : String} (away : schema ≠ d.schema) {id : Nat}
    {r : Relation} : next.Has schema id r ↔ c.Has schema id r := by
  refine ⟨fun has => ?_, creates.kept schema id r⟩
  rcases creates.origin _ _ _ has with old | ⟨same, -⟩ | ⟨table, name, rfl⟩ | ⟨_, _, _, -, -, same, -⟩
  · exact old
  · exact absurd same away
  · -- an index is in the schema of its table
    obtain ⟨e, holder, lists⟩ := (after.indexes _ _ _ _).mp has
    rcases creates.origin _ _ _ holder with old | ⟨same, -⟩ | ⟨_, _, other⟩ | ⟨_, _, _, -, -, same, -⟩
    · exact (before.indexes _ _ _ _).mpr ⟨e, old, lists⟩
    · exact absurd same away
    · cases other
    · exact absurd same away
  · exact absurd same away

theorem createTable_visible {name : String} (linked : s.catalog.Linked)
    (unqualified : QName.ofParts statement.name = .ok ⟨none, name⟩)
    (ran : (createTable statement).run s = (.ok (.done "CREATE TABLE"), t)) :
    ∃ d, LaidOut s.catalog statement d ∧ d.id = s.catalog.nextId ∧
      t.catalog.find? ⟨some s.catalog.current, name⟩ = some (d.id, .table d) ∧
      (t.catalog.table ⟨none, name⟩ = .ok d ↔
        ∀ schema ∈ s.catalog.ahead, s.catalog.find? ⟨some schema, name⟩ = none) := by
  have later := createTable_links statement linked ran
  obtain ⟨current, ahead⟩ := ahead_of_keeps (fun _ free => createTable_keeps free statement) ran
  obtain ⟨d, laid, -, creates⟩ := createTable_creates linked ran
  obtain ⟨schema, named⟩ : d.schema = s.catalog.current ∧ d.name = name := by
    obtain ⟨_, _, given, -, schema, named, -⟩ := laid
    cases unqualified.symm.trans given
    exact ⟨schema, named⟩
  have has : t.catalog.Has s.catalog.current d.id (.table d) := schema ▸ creates.table
  have elsewhere : ∀ other ∈ s.catalog.ahead,
      t.catalog.find? ⟨some other, name⟩ = s.catalog.find? ⟨some other, name⟩ := by
    intro other member
    have away : other ≠ d.schema := schema ▸ Catalog.ne_current_of_mem_ahead member
    refine Option.ext fun e => ?_
    rw [later.registered.find?_iff, linked.registered.find?_iff,
      creates.has_elsewhere linked later away]
  refine ⟨d, laid, creates.number, later.registered.find?_iff.mpr ⟨has, named⟩, ?_⟩
  rw [← current] at has
  rw [← named, later.registered.table_iff has, ahead, named]
  exact forall₂_congr fun other member => by rw [elsewhere other member]

end Define

namespace Database

open Define (LaidOut)

variable {db after : Database}

/-- A statement that creates a table under a name without a schema adds the table to the current
schema, and right afterwards the name stands for this very table if and only if no schema that is
searched before the current one has a relation of the name, of whatever kind. Where the statement
succeeds without creating a table, a relation of the name was there and nothing is changed. -/
theorem created_table_found (reachable : db.Reachable) (installer : Installer)
    {statement : Sql.CreateTable} {name : String}
    (unqualified : QName.ofParts statement.name = .ok ⟨none, name⟩) {outcome : Outcome}
    (ran : db.run installer (.createTable statement) = (.ok outcome, after)) :
    (outcome = .done "CREATE TABLE" ∧
      ∃ d, LaidOut db.catalog statement d ∧ d.id = db.catalog.nextId ∧
        after.catalog.find? ⟨some db.catalog.current, name⟩ = some (d.id, .table d) ∧
        (after.catalog.table ⟨none, name⟩ = .ok d ↔
          ∀ schema ∈ db.catalog.ahead, db.catalog.find? ⟨some schema, name⟩ = none)) ∨
    (outcome = .skipped "CREATE TABLE" ∧ statement.ifNotExists ∧
      ¬db.catalog.isFree db.catalog.current name ∧ after.catalog = db.catalog) := by
  obtain ⟨data, t, done, catalog⟩ := define_ok ran
  rw [catalog]
  rcases Define.createTable_ok done with rfl | ⟨rfl, told, rfl, _, given, taken⟩
  · exact .inl ⟨rfl, Define.createTable_visible (s := ⟨db.catalog, data⟩) reachable.linked
      unqualified done⟩
  · cases unqualified.symm.trans given
    exact .inr ⟨rfl, told, taken, rfl⟩

/-- A schema that is searched first and came too late to be the current one. -/
def exampleApart : Database :=
  ((exampleFresh.setSearchPath ["other", "public"]).run (executeWithin 0)
    (.createSchema (some [.bare "other"]) false)).2

theorem exampleApart_found :
    exampleApart.catalog.ahead = ["other"] ∧
      ∃ d, ((exampleApart.run (executeWithin 0) exampleTable).2.catalog.table ⟨none, "t"⟩) = .ok d ∧
        d.id = 16384 := by
  have reachable : exampleApart.Reachable :=
    .run 0 _ (.setSearchPath ["other", "public"] reachable_exampleFresh)
  have facts : exampleApart.catalog.ahead = ["other"] ∧ exampleApart.catalog.nextId = 16384 ∧
      (exampleApart.catalog.find? ⟨some "other", "t"⟩).isNone ∧
      ((exampleApart.run (executeWithin 0) exampleTable).1.toOption.map (·.ignored)) = some false := by
    decide +kernel
  obtain ⟨ahead, number, absent, done⟩ := facts
  rcases ran : exampleApart.run (executeWithin 0) exampleTable with ⟨result, after⟩
  rw [ran] at done
  cases result with
  | error e => cases done
  | ok outcome =>
      refine ⟨ahead, ?_⟩
      have unqualified : QName.ofParts [.bare "t"] = .ok ⟨none, "t"⟩ := rfl
      rcases created_table_found reachable (executeWithin 0) unqualified ran with
        ⟨-, d, -, first, -, found⟩ | ⟨rfl, -⟩
      · refine ⟨d, found.mpr ?_, first.trans number⟩
        rw [ahead]
        exact List.forall_mem_singleton.mpr (Option.isNone_iff_eq_none.mp absent)
      · cases done

/-- `CREATE TABLE date (a INTEGER)` -/
def exampleDate : Sql.CreateTable :=
  ⟨[.bare "date"], [⟨.bare "a", "INTEGER", []⟩], [], false, false, ""⟩

/-- It is not enough that no schema that is searched earlier has a table of the name: the types of
the system hide tables as well. -/
theorem created_table_hidden :
    ¬∀ (db : Database) (installer : Installer) (statement : Sql.CreateTable) (name : String)
      (outcome : Outcome) (after : Database), db.Reachable →
        QName.ofParts statement.name = .ok ⟨none, name⟩ →
        db.run installer (.createTable statement) = (.ok outcome, after) → outcome.ignored = false →
        db.catalog.current ∈ db.catalog.searchPath →
        (∀ schema ∈ db.catalog.ahead,
          ((after.catalog.find? ⟨some schema, name⟩).bind (·.2.table?)).isNone) →
          ∃ d, after.catalog.table ⟨none, name⟩ = .ok d := by
  intro claimed
  have facts : ((exampleFresh.run (executeWithin 0) (.createTable exampleDate)).1.toOption.map
        (·.ignored)) = some false ∧
      exampleFresh.catalog.current ∈ exampleFresh.catalog.searchPath ∧
      (∀ schema ∈ exampleFresh.catalog.ahead,
        (((exampleFresh.run (executeWithin 0) (.createTable exampleDate)).2.catalog.find?
          ⟨some schema, "date"⟩).bind (·.2.table?)).isNone) ∧
      ((exampleFresh.run (executeWithin 0) (.createTable exampleDate)).2.catalog.table
        ⟨none, "date"⟩).toOption.isNone := by
    decide +kernel
  rcases ran : exampleFresh.run (executeWithin 0) (.createTable exampleDate) with ⟨result, after⟩
  rw [ran] at facts
  obtain ⟨done, current, tableless, hidden⟩ := facts
  cases result with
  | error e => cases done
  | ok outcome =>
      obtain ⟨d, found⟩ := claimed exampleFresh (executeWithin 0) exampleDate "date" outcome after
        reachable_exampleFresh rfl ran (Option.some.inj done) current tableless
      rw [found] at hidden
      cases hidden

end Database

end SqlEngine
