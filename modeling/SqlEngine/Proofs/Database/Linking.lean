import SqlEngine.Database.Removal
import SqlEngine.Proofs.Catalog.Changes
import SqlEngine.Proofs.Database.Drafts

/-!
Definitions keep the registries of the catalog in agreement.

Only definitions that succeed count; the catalog is put back after the others.
-/

namespace SqlEngine

namespace Define

open Catalog (Linked Focused Kept Unused Concerns)

variable {s t : Draft} {d e : TableDef} {p : Nat → String → Prop} {outcome : Outcome}

/-- The program, if it succeeds, goes from a catalog whose registries agree to such a catalog. -/
def Links {α : Type} (m : Define α) : Prop :=
  ∀ ⦃s t : Draft⦄ ⦃a : α⦄, s.catalog.Linked → m.run s = (.ok a, t) → t.catalog.Linked

/-! ### Numbers -/

theorem allocate_kept {number : Nat} (registered : s.catalog.Registered)
    (ran : allocate.run s = (.ok number, t)) :
    s.catalog.Kept t.catalog ∧ t.catalog.Unused number := by
  cases ran
  exact ⟨.of_schemas registered.ordered (Nat.le_succ _) rfl, registered.unused_allocate⟩

theorem allocateIndexes_kept {keys : List Key} {indexes : List IndexDef}
    (registered : s.catalog.Registered)
    (ran : (allocateIndexes keys).run s = (.ok indexes, t)) :
    s.catalog.Kept t.catalog ∧
      (∀ i ∈ indexes, t.catalog.Unused i.id ∧ s.catalog.nextId ≤ i.id) ∧
      (indexes.map (·.id)).Nodup := by
  obtain ⟨between, distinct⟩ := allocateIndexes_numbers ran
  obtain ⟨rfl, _, _⟩ := allocateIndexes_run ran
  refine ⟨.of_schemas registered.ordered (Nat.le_add_right _ _) rfl, fun i member => ?_, distinct⟩
  obtain ⟨above, below⟩ := between i member
  exact ⟨registered.unused_raise above below, above⟩

/-! ### Parts of a table that come -/

/-- Is one of the indexes of the number and the name? -/
def AnyOf (indexes : List IndexDef) (id : Nat) (name : String) : Prop :=
  ∃ i ∈ indexes, i.id = id ∧ i.name = name

/-- Indexes are registered for the table, whatever definition of it lists them. -/
theorem registerIndexes_focused (id : e.id = d.id) (schema : e.schema = d.schema) :
    ∀ {indexes : List IndexDef} {s : Draft} {p : Nat → String → Prop},
      s.catalog.Focused d p → (∀ i ∈ indexes, s.catalog.Unused i.id) → (indexes.map (·.id)).Nodup →
      (indexes.forM (registerIndex e)).run s = (.ok ⟨⟩, t) →
        t.catalog.Focused d fun id name => AnyOf indexes id name ∨ p id name := by
  intro indexes
  induction indexes with
  | nil =>
      intro s p focused _ _ ran
      cases ran
      exact focused.mono fun id name => by simp [AnyOf]
  | cons i rest ih =>
      intro s p focused unused distinct ran
      obtain ⟨first, others⟩ := List.forall_mem_cons.mp unused
      obtain ⟨fresh, distinctRest⟩ := List.nodup_cons.mp distinct
      obtain ⟨_, u, one, ran⟩ := Run.bind_run_ok ran
      obtain ⟨next, registered, rfl⟩ := changeCatalog_ok one
      rw [id, schema] at registered
      obtain ⟨later, kept⟩ := focused.registerIndex first registered
      have unusedLater : ∀ j ∈ rest, next.Unused j.id := by
        intro j member
        refine kept j.id (fun equal => fresh ?_) (others j member)
        exact List.mem_map.mpr ⟨j, member, equal⟩
      refine (ih later unusedLater distinctRest ran).mono fun number name => ?_
      simp only [AnyOf, List.exists_mem_cons_iff, or_assoc]
      rw [or_left_comm, eq_comm (a := i.id)]

theorem registerSerials_focused {serials : List SerialColumn} (schema : e.schema = d.schema)
    (focused : s.catalog.Focused d p) (ran : (serials.forM (registerSerial e)).run s = (.ok ⟨⟩, t)) :
    t.catalog.Focused d p := by
  refine Run.forM_run_keeps (p := fun u => u.catalog.Focused d p) ?_ focused ran
  intro serial _ u v focused one
  obtain ⟨options, _, created, changed⟩ := Run.bind_run_ok one
  obtain ⟨_, rfl⟩ := Run.lift_run_ok created
  obtain ⟨next, registered, rfl⟩ := changeCatalog_ok changed
  rw [schema] at registered
  exact focused.registerNext (fun _ => ⟨rfl, rfl⟩) registered

theorem registerParts_focused {l : Layout} {indexes : List IndexDef} (id : e.id = d.id)
    (schema : e.schema = d.schema) (focused : s.catalog.Focused d p)
    (unused : ∀ i ∈ indexes, s.catalog.Unused i.id) (distinct : (indexes.map (·.id)).Nodup)
    (ran : (registerParts e l indexes).run s = (.ok (), t)) :
    t.catalog.Focused d fun id name => AnyOf indexes id name ∨ p id name := by
  obtain ⟨_, u, first, second⟩ := Run.bind_run_ok ran
  exact registerSerials_focused schema
    (registerIndexes_focused id schema focused unused distinct first) second

theorem distinct_append {c : Catalog} {indexes : List IndexDef} (focused : c.Focused d d.Lists)
    (unused : ∀ i ∈ indexes, c.Unused i.id) (distinct : (indexes.map (·.id)).Nodup) :
    ((d.indexes ++ indexes).map (·.id)).Nodup := by
  have before : (d.indexes.map (·.id)).Nodup := (focused.registered.placed _ _ _ focused.held).2.2
  rw [List.map_append]
  refine List.nodup_append.mpr ⟨before, distinct, ?_⟩
  rintro number old other new rfl
  obtain ⟨i, listed, rfl⟩ := List.mem_map.mp old
  obtain ⟨j, member, same⟩ := List.mem_map.mp new
  exact focused.unlisted (same ▸ unused j member) i.name ⟨i, listed, rfl, rfl⟩

/-- The new definition of a table lists the indexes that were registered for it. -/
theorem extend_linked {c next : Catalog} {indexes : List IndexDef}
    (focused : c.Focused d fun id name => AnyOf indexes id name ∨ d.Lists id name)
    (id : e.id = d.id) (schema : e.schema = d.schema) (name : e.name = d.name)
    (listed : e.indexes = d.indexes ++ indexes) (distinct : ((d.indexes ++ indexes).map (·.id)).Nodup)
    (replaced : c.replaceTable e = .ok next) : next.Linked := by
  refine (focused.replaceTable id schema name (listed ▸ distinct) replaced).settle fun id name => ?_
  simp only [AnyOf, TableDef.Lists, listed, List.mem_append, or_and_right, exists_or]
  exact or_comm

/-! ### Relations that are no tables -/

theorem alterOwner_links (name : QName) : Links (alterOwner name) := by
  intro s t outcome linked ran
  rw [alterOwner, catalog_bind_run] at ran
  obtain ⟨_, _, done⟩ := Run.lift_bind_ok ran
  cases done
  exact linked

theorem createSchema_links (name : Option (List Sql.Ident)) (ifNotExists : Bool) :
    Links (createSchema name ifNotExists) := by
  intro s t outcome linked ran
  unfold createSchema at ran
  split at ran
  · rw [catalog_bind_run] at ran
    obtain ⟨⟨created, next⟩, made, ran⟩ := Run.lift_bind_ok ran
    obtain ⟨_, given, done⟩ := changeCatalog_bind_ok ran
    cases given
    cases done
    exact (Kept.createSchema linked.registered.ordered made).linked linked
  · cases ran

theorem createEnum_links (name : QName) (labels : List String) :
    Links (createEnum name labels) := by
  intro s t outcome linked ran
  rw [createEnum, catalog_bind_run] at ran
  dsimp only at ran
  split at ran
  · cases ran
  · split at ran
    · cases ran
    · obtain ⟨id, u, taken, ran⟩ := Run.bind_run_ok ran
      obtain ⟨next, registered, done⟩ := changeCatalog_bind_ok ran
      cases done
      obtain ⟨kept, unused⟩ := allocate_kept linked.registered taken
      let declared : EnumDef := ⟨id, name.name, labels⟩
      exact (kept.linked linked).register (r := .type (.enum declared)) unused rfl rfl registered

theorem createSequence_links (name : QName) (ifNotExists : Bool) (clauses : List SequenceClause) :
    Links (createSequence name ifNotExists clauses) := by
  intro s t outcome linked ran
  rw [createSequence, catalog_bind_run] at ran
  dsimp only at ran
  split at ran
  · split at ran
    · cases ran
      exact linked
    · cases ran
  · obtain ⟨options, _, ran⟩ := Run.lift_bind_ok ran
    obtain ⟨next, made, done⟩ := changeCatalog_bind_ok ran
    cases done
    obtain ⟨_, _, registered⟩ := Run.bind_ok made
    have kept : s.catalog.Kept s.catalog.allocate.2 :=
      .of_schemas linked.registered.ordered (Nat.le_succ _) rfl
    let d : SequenceDef := ⟨s.catalog.nextId, s.catalog.targetSchema name, name.name, options⟩
    exact (kept.linked linked).register (r := .sequence d) linked.registered.unused_allocate
      ⟨rfl, rfl⟩ rfl registered

theorem alterSequence_links (name : QName) (ifExists : Bool) (clauses : List SequenceClause) :
    Links (alterSequence name ifExists clauses) := by
  intro s t outcome linked ran
  rw [alterSequence, catalog_bind_run] at ran
  split at ran
  · cases ran
    exact linked
  · cases ran
  · rename_i d found
    obtain ⟨⟨options, restart⟩, _, ran⟩ := Run.lift_bind_ok ran
    obtain ⟨next, replaced, ran⟩ := changeCatalog_bind_ok ran
    obtain ⟨schema, id, has⟩ := linked.registered.ordered.sequence_has found
    obtain ⟨rfl, rfl⟩ := linked.registered.placed _ _ _ has
    obtain ⟨registered, altered⟩ :=
      linked.registered.replaceSequence (d := { d with options }) has rfl replaced
    have later : next.Linked := by
      refine linked.alter altered registered (linked.registered.alone has) (fun other r there => ?_) ?_
      · cases linked.registered.relation_unique there has
        rfl
      · rintro _ ⟨⟩
        rfl
    cases restart <;> cases ran <;> exact later

/-! ### Tables and indexes that come -/

theorem createTable_links (statement : Sql.CreateTable) : Links (createTable statement) := by
  intro s t outcome linked ran
  unfold createTable at ran
  dsimp only at ran
  split at ran
  · cases ran
  · rw [catalog_bind_run] at ran
    obtain ⟨name, _, ran⟩ := Run.lift_bind_ok ran
    split at ran
    · split at ran
      · cases ran
        exact linked
      · cases ran
    · obtain ⟨l, _, ran⟩ := Run.lift_bind_ok ran
      obtain ⟨_, _, ran⟩ := Run.lift_bind_ok ran
      obtain ⟨id, u, taken, ran⟩ := Run.bind_run_ok ran
      obtain ⟨indexes, v, allocated, ran⟩ := Run.bind_run_ok ran
      obtain ⟨next, registered, ran⟩ := changeCatalog_bind_ok ran
      obtain ⟨_, w, parts, done⟩ := Run.bind_run_ok ran
      cases done
      let d : TableDef :=
        ⟨id, s.catalog.targetSchema name, name.name, l.columns, l.checks, indexes⟩
      obtain ⟨kept, unused⟩ := allocate_kept linked.registered taken
      obtain ⟨more, numbers, distinct⟩ :=
        allocateIndexes_kept (kept.registered linked.registered) allocated
      obtain ⟨focused, others⟩ := ((kept.trans more).linked linked).registerTable (d := d)
        (more.unused unused) distinct registered
      have different : ∀ i ∈ indexes, i.id ≠ d.id := fun i member =>
        Nat.ne_of_gt (Nat.lt_of_lt_of_le unused.given (numbers i member).2)
      have saved : ∀ i ∈ indexes, next.Unused i.id := fun i member =>
        others i.id (different i member) (numbers i member).1
      have parted := registerParts_focused rfl rfl focused saved distinct parts
      exact parted.settle fun id name => by simp [AnyOf, TableDef.Lists]

theorem defineIndex_links (table : List Sql.Ident) (keys : List Sql.OrderTerm)
    (name : TableDef → List (String × Nat) → String) (unique ifNotExists : Bool) :
    Links (defineIndex table keys name unique ifNotExists) := by
  intro s t outcome linked ran
  rw [defineIndex, catalog_bind_run] at ran
  obtain ⟨qualified, _, ran⟩ := Run.lift_bind_ok ran
  obtain ⟨d, found, ran⟩ := Run.lift_bind_ok ran
  obtain ⟨columns, _, ran⟩ := Run.lift_bind_ok ran
  obtain ⟨schema, _, has⟩ := linked.registered.ordered.table_has found
  dsimp only at ran
  split at ran
  · split at ran
    · cases ran
      exact linked
    · cases ran
  · obtain ⟨id, u, taken, ran⟩ := Run.bind_run_ok ran
    obtain ⟨_, v, filled, ran⟩ := Run.bind_run_ok ran
    obtain ⟨later, registered, ran⟩ := changeCatalog_bind_ok ran
    obtain ⟨next, replaced, done⟩ := changeCatalog_bind_ok ran
    cases done
    obtain ⟨kept, unused⟩ := allocate_kept linked.registered taken
    obtain ⟨_, focused⟩ := linked.focus has
    have there := focused.keep kept
    rw [fillIndexes_catalog filled] at registered
    obtain ⟨focusedLater, _⟩ := there.registerIndex unused registered
    let index : IndexDef := ⟨id, name d columns, columns.map (·.2), unique, false⟩
    have fresh : ∀ i ∈ [index], u.catalog.Unused i.id := List.forall_mem_singleton.mpr unused
    have distinct := distinct_append there fresh (List.nodup_singleton id)
    exact extend_linked (e := d.addIndexes [index]) (focusedLater.mono fun number other => by
      simp [AnyOf, index, eq_comm (a := id)]) rfl rfl rfl rfl distinct replaced

theorem createIndex_links (o : DbOptions) (statement : Sql.CreateIndex) :
    Links (createIndex o statement) := by
  refine createIndex_cases o statement ?_ (fun _ => ?_) fun name => defineIndex_links _ _ name _ _
  · intro s t outcome linked ran
    cases ran
    exact linked
  · intro s t outcome _ ran
    cases ran

/-! ### Relations that go -/

theorem discard_drops {id : Nat} (ran : (discard id).run s = (.ok (), t)) :
    s.catalog.drop id = .ok t.catalog := by
  obtain ⟨_, u, changed, ran⟩ := Run.bind_run_ok ran
  obtain ⟨next, dropped, rfl⟩ := changeCatalog_ok changed
  cases ran
  exact dropped

theorem dropOne_drops {id : Nat} (ran : (changeCatalog (·.drop id)).run s = (.ok (), t)) :
    s.catalog.drop id = .ok t.catalog := by
  obtain ⟨_, gone, rfl⟩ := changeCatalog_ok ran
  exact gone

section Drops

variable {α : Type} {step : α → Define Unit} (number : α → Nat)
  (drops : ∀ {a : α} {u v : Draft}, (step a).run u = (.ok (), v) →
    u.catalog.drop (number a) = .ok v.catalog)
include drops

theorem drops_fewer {items : List α} (ordered : s.catalog.Ordered)
    (ran : (items.forM step).run s = (.ok ⟨⟩, t)) :
    t.catalog.Ordered ∧ s.catalog.Fewer t.catalog := by
  refine Run.forM_run_keeps (p := fun u => u.catalog.Ordered ∧ s.catalog.Fewer u.catalog) ?_
    ⟨ordered, .same _⟩ ran
  rintro a _ u v ⟨orderedThen, fewer⟩ one
  obtain ⟨orderedLater, more⟩ := orderedThen.drop_fewer (drops one)
  exact ⟨orderedLater, fewer.trans more⟩

/-- What belongs to a table goes, one after the other. -/
theorem drops_focused : ∀ {items : List α} {s : Draft} {p : Nat → String → Prop},
    (items.forM step).run s = (.ok ⟨⟩, t) → s.catalog.Focused d p →
      (∀ a ∈ items, s.catalog.Belongs d (number a)) →
        t.catalog.Focused d fun id name => id ∉ items.map number ∧ p id name := by
  intro items
  induction items with
  | nil =>
      intro s p ran focused _
      cases ran
      exact focused.mono fun id name => by simp
  | cons a rest ih =>
      intro s p ran focused belongs
      obtain ⟨first, others⟩ := List.forall_mem_cons.mp belongs
      obtain ⟨_, u, one, ran⟩ := Run.bind_run_ok ran
      have dropped := drops one
      obtain ⟨_, fewer⟩ := focused.registered.ordered.drop_fewer dropped
      have focusedLater := focused.drop first dropped
      refine (ih ran focusedLater fun b member => (others b member).fewer fewer).mono fun id name => ?_
      simp only [List.map_cons, List.mem_cons, not_or]
      rw [and_assoc, and_left_comm]

/-- The relations that are left are those that were not to go. -/
theorem drops_has : ∀ {items : List α} {s : Draft}, (items.forM step).run s = (.ok ⟨⟩, t) →
    s.catalog.Registered →
      t.catalog.Registered ∧ ∀ schema id r,
        t.catalog.Has schema id r ↔ id ∉ items.map number ∧ s.catalog.Has schema id r := by
  intro items
  induction items with
  | nil =>
      intro s ran registered
      cases ran
      exact ⟨registered, fun _ _ _ => by simp⟩
  | cons a rest ih =>
      intro s ran registered
      obtain ⟨_, u, one, ran⟩ := Run.bind_run_ok ran
      obtain ⟨still, first⟩ := registered.drop_has (drops one)
      obtain ⟨later, others⟩ := ih ran still
      refine ⟨later, fun schema id r => ?_⟩
      rw [others, first, List.map_cons, List.mem_cons, not_or, ← and_assoc, and_comm (a := id ∉ _)]

end Drops

theorem dropTable_links (linked : s.catalog.Linked) (recalls : s.catalog.Recalls d.id (.table d))
    (ran : (dropTable s.catalog d).run s = (.ok (), t)) :
    t.catalog.Linked ∧ s.catalog.Fewer t.catalog := by
  obtain ⟨_, u, first, ran⟩ := Run.bind_run_ok ran
  obtain ⟨_, v, second, ran⟩ := Run.bind_run_ok ran
  obtain ⟨next, dropped, done⟩ := changeCatalog_bind_ok ran
  cases done
  obtain ⟨ordered, fewer⟩ := drops_fewer IndexDef.id dropOne_drops linked.registered.ordered first
  obtain ⟨orderedThen, fewerThen⟩ :=
    drops_fewer SequenceDef.id discard_drops ordered second
  obtain ⟨_, fewerLast⟩ := orderedThen.drop_fewer dropped
  refine ⟨?_, (fewer.trans fewerThen).trans fewerLast⟩
  -- the table was there from the beginning, or it could not go at the end
  obtain ⟨schema, r, has, _⟩ := orderedThen.drop_altered dropped
  have before := (fewer.trans fewerThen) schema _ r has
  obtain rfl := recalls schema r before
  obtain ⟨_, focused⟩ := linked.focus before
  have unindexed := drops_focused IndexDef.id dropOne_drops first focused
    fun i member => focused.belongs_index ⟨i, member, rfl, rfl⟩
  have bare := drops_focused SequenceDef.id discard_drops second unindexed
    fun q owned => (focused.belongs_owned owned).fewer fewer
  refine bare.dropTable ?_ dropped
  rintro id name ⟨_, gone, i, member, rfl, _⟩
  exact gone (List.mem_map_of_mem member)

/-- A table that was there goes with its indexes and with the sequences whose owner it seems to
be. -/
theorem dropTable_has (registered : s.catalog.Registered)
    (ran : (dropTable s.catalog d).run s = (.ok (), t)) :
    (∃ schema r, s.catalog.Has schema d.id r) ∧
      ∀ schema id r, t.catalog.Has schema id r ↔ id ≠ d.id ∧
        id ∉ (s.catalog.ownedSequences d).map (·.id) ∧ id ∉ d.indexes.map (·.id) ∧
          s.catalog.Has schema id r := by
  obtain ⟨_, u, first, ran⟩ := Run.bind_run_ok ran
  obtain ⟨_, v, second, ran⟩ := Run.bind_run_ok ran
  obtain ⟨next, dropped, done⟩ := changeCatalog_bind_ok ran
  cases done
  obtain ⟨registeredThen, unindexed⟩ := drops_has IndexDef.id dropOne_drops first registered
  obtain ⟨registeredLast, bare⟩ := drops_has SequenceDef.id discard_drops second registeredThen
  obtain ⟨-, gone⟩ := registeredLast.drop_has dropped
  obtain ⟨-, schema, r, there, -⟩ := registeredLast.drop dropped
  refine ⟨⟨schema, r, ((unindexed _ _ _).mp ((bare _ _ _).mp there).2).2⟩, fun schema id r => ?_⟩
  rw [gone, bare, unindexed]

theorem dropIndex_focused {index : Nat} {name : String} (linked : s.catalog.Linked)
    (focused : s.catalog.Focused d d.Lists) (recalls : s.catalog.Recalls index (.index d.id name))
    (ran : (dropIndex d.id index).run s = (.ok (), t)) :
    (t.catalog.Focused d fun id name => id ≠ index ∧ d.Lists id name) ∧
      s.catalog.Fewer t.catalog := by
  rw [dropIndex, content_bind_run, putContent_bind_run] at ran
  obtain ⟨next, dropped, rfl⟩ := changeCatalog_ok ran
  obtain ⟨schema, r, has, _⟩ := linked.registered.ordered.drop_altered dropped
  obtain rfl := recalls schema r has
  have belongs := focused.belongs_index ((focused.own _ _ _).mp has).2
  exact ⟨focused.drop belongs dropped, (linked.registered.ordered.drop_fewer dropped).2⟩

/-- The new definition of a table does not list the index that was dropped. -/
theorem reduce_linked {c next : Catalog} {index : Nat}
    (focused : c.Focused d fun id name => id ≠ index ∧ d.Lists id name)
    (replaced : c.replaceTable (d.removeIndex index) = .ok next) : next.Linked := by
  have before : (d.indexes.map (·.id)).Nodup := (focused.registered.placed _ _ _ focused.held).2.2
  have distinct : ((d.removeIndex index).indexes.map (·.id)).Nodup :=
    before.sublist (List.filter_sublist.map _)
  have reduced := focused.replaceTable (e := d.removeIndex index) rfl rfl rfl distinct replaced
  refine reduced.settle fun id name => ?_
  simp only [TableDef.Lists, TableDef.removeIndex, List.mem_filter, bne_iff_ne]
  constructor
  · rintro ⟨different, i, member, rfl, rfl⟩
    exact ⟨i, ⟨member, different⟩, rfl, rfl⟩
  · rintro ⟨i, ⟨member, different⟩, rfl, rfl⟩
    exact ⟨different, i, member, rfl, rfl⟩

theorem dropRelation_links {schema : String} {id : Nat} {r : Relation} (linked : s.catalog.Linked)
    (placed : r.Placed schema id) (recalls : s.catalog.Recalls id r)
    (ran : (dropRelation id r).run s = (.ok (), t)) :
    t.catalog.Linked ∧ ∀ number q, q.kind = r.kind → s.catalog.Recalls number q →
      t.catalog.Recalls number q := by
  rw [dropRelation, catalog_bind_run] at ran
  cases r with
  | table d =>
      obtain ⟨rfl, _⟩ := placed
      obtain ⟨linkedLater, fewer⟩ := dropTable_links linked recalls ran
      exact ⟨linkedLater, fun number q _ known => known.fewer fewer⟩
  | index table name =>
      obtain ⟨d, found, ran⟩ := Run.lift_bind_ok ran
      obtain ⟨schema, has⟩ := linked.registered.ordered.tableById_has found
      obtain ⟨rfl, focused⟩ := linked.focus has
      obtain ⟨_, u, dropped, ran⟩ := Run.bind_run_ok ran
      obtain ⟨next, replaced, rfl⟩ := changeCatalog_ok ran
      obtain ⟨reduced, fewer⟩ := dropIndex_focused linked focused recalls dropped
      refine ⟨reduce_linked reduced replaced, fun number q kind known other x there => ?_⟩
      obtain ⟨altered, _⟩ := reduced.registered.ordered.replaceTable_altered replaced
      rw [altered.has] at there
      split at there
      · rename_i here
        obtain ⟨_, rfl⟩ := here
        obtain rfl := known _ _ focused.held
        simp [Relation.kind] at kind
      · exact known _ _ (fewer _ _ _ there)
  | sequence d =>
      have dropped := discard_drops ran
      obtain ⟨registered, schema, r, has, altered⟩ := linked.registered.drop dropped
      obtain rfl := recalls schema r has
      have alone := linked.registered.alone has
      have fewer := (linked.registered.ordered.drop_fewer dropped).2
      refine ⟨linked.alter altered registered alone (fun other q there => ?_) (by simp),
        fun number q _ known => known.fewer fewer⟩
      rw [recalls other q there]
      rfl
  | type t =>
      cases ran
      exact ⟨linked, fun _ _ _ known => known⟩

theorem drop_links (statement : Sql.Drop) : Links (drop statement) := by
  intro s t outcome linked ran
  obtain ⟨kind, _, ran⟩ := Run.lift_bind_ok ran
  rw [catalog_bind_run, Run.mapM_lift] at ran
  obtain ⟨found, given, ran⟩ := Run.lift_bind_ok ran
  have there := found_relations linked.registered.ordered given
  dsimp only at ran
  split at ran
  · cases ran
    exact linked
  · obtain ⟨_, v, all, done⟩ := Run.bind_run_ok ran
    cases done
    -- while relations go, those that are still to go stay what they were
    refine (Run.forM_run_keeps (p := fun v => v.catalog.Linked ∧
      ∀ e ∈ found.filterMap id, v.catalog.Recalls e.1 e.2) ?_ ⟨linked, ?_⟩ all).1
    · rintro ⟨number, r⟩ member u w ⟨linkedThen, recalls⟩ one
      obtain ⟨expected, schema, has⟩ := there _ member
      obtain ⟨linkedLater, kept⟩ := dropRelation_links linkedThen
        (linked.registered.placed _ _ _ has) (recalls _ member) one
      exact ⟨linkedLater, fun e listed =>
        kept e.1 e.2 ((there e listed).1.trans expected.symm) (recalls e listed)⟩
    · rintro e listed schema q has
      obtain ⟨_, _, held⟩ := there e listed
      exact linked.registered.relation_unique has held

end Define

end SqlEngine
