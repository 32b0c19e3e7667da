import SqlEngine.Proofs.Database.Faultless

/-!
Relations that go.

A relation that is there goes, with what depends on it. One that is gone is missed, which is an internal
error. As `DROP` looks all its relations up before the first one goes, it fails so exactly when it names
a relation twice.
-/

namespace SqlEngine

open Run (bind_ok)

namespace Catalog

variable {c next : Catalog} {schema : String} {id : Nat} {r : Relation} {d : TableDef}

theorem Registered.owned_nodup (registered : c.Registered) (d : TableDef) :
    ((c.ownedSequences d).map (·.id)).Nodup := by
  unfold ownedSequences
  cases found : c.schema? d.schema with
  | none => exact List.nodup_nil
  | some s =>
      refine List.Nodup.sublist (List.filter_sublist.map _) ?_
      have increasing := registered.ordered.relations _ (registered.ordered.schema?_iff.mp found)
      have numbers : ∀ e ∈ s.relations, ∀ q ∈ e.2.sequence?, q.id = e.1 := by
        intro e member q part
        have has := (registered.ordered.has_iff found).mpr member
        rw [sequence?_eq_some.mp part] at has
        exact (registered.placed _ _ _ has).1
      rw [List.Nodup, List.pairwise_map, List.pairwise_filterMap]
      refine increasing.imp_of_mem fun {a b} left right less p fromA q fromB same => ?_
      rw [numbers a left p fromA, numbers b right q fromB] at same
      rw [same] at less
      simp at less

/-- No relation has the number. -/
def Lacks (c : Catalog) (id : Nat) : Prop := ∀ schema r, ¬c.Has schema id r

theorem Recalls.has_or_lacks (recalls : c.Recalls id r) : (∃ schema, c.Has schema id r) ∨ c.Lacks id := by
  by_cases held : ∃ schema, c.Has schema id r
  · exact .inl held
  · exact .inr fun schema q has => held ⟨schema, recalls schema q has ▸ has⟩

end Catalog

/-- The program fails with an internal error. -/
def Define.Faults {α : Type} (m : Define α) (s : Draft) : Prop :=
  ∃ what t, m.run s = (.error (.internal what), t)

namespace Define

open Catalog (Linked Open Registered Recalls Lacks)

variable {α β : Type} {s t : Draft} {d : TableDef} {id : Nat} {r : Relation}

theorem free_open : Free fun s => s.catalog.Ordered ∧ s.catalog.Open :=
  Catalog.robust_open.definitions

theorem Faults.bind {m : Define α} (faults : m.Faults s) (f : α → Define β) : (m >>= f).Faults s := by
  obtain ⟨what, t, ran⟩ := faults
  exact ⟨what, t, by rw [Run.bind_run, ran]⟩

theorem Faults.after {m : Define α} {a : α} {f : α → Define β} (ran : m.run s = (.ok a, t))
    (faults : (f a).Faults t) : (m >>= f).Faults s := by
  rwa [Faults, Run.bind_of_run ran]

theorem changeCatalog_of_ok {f : Catalog → Except SqlError Catalog} {next : Catalog}
    (given : f s.catalog = .ok next) : (changeCatalog f).run s = (.ok (), ⟨next, s.data⟩) := by
  refine (Run.bind_of_run (Run.get_run s)).trans ?_
  rw [given]
  rfl

theorem changeCatalog_faults {f : Catalog → Except SqlError Catalog} {what : String}
    (given : f s.catalog = .error (.internal what)) : (changeCatalog f).Faults s := by
  refine ⟨what, s, (Run.bind_of_run (Run.get_run s)).trans ?_⟩
  rw [given]
  rfl

theorem dropOne_lacks (ordered : s.catalog.Ordered) (lacks : s.catalog.Lacks id) :
    (changeCatalog (·.drop id)).Faults s := by
  obtain ⟨what, failed⟩ := ordered.drop_gone lacks
  exact changeCatalog_faults failed

/-! ### Relations that go -/

section Drops

variable {step : α → Define Unit} (number : α → Nat)
  (drops : ∀ {a : α} {u v : Draft}, (step a).run u = (.ok (), v) →
    u.catalog.drop (number a) = .ok v.catalog)
  (runs : ∀ {a : α} {u : Draft} {next : Catalog}, u.catalog.drop (number a) = .ok next →
    ∃ v, (step a).run u = (.ok (), v))
include drops runs

theorem drops_run : ∀ {items : List α} {s : Draft}, s.catalog.Registered → s.catalog.Open →
    (∀ a ∈ items, ∃ schema r, s.catalog.Has schema (number a) r ∧ r.type? = none) →
    (items.map number).Nodup →
      ∃ t, (items.forM step).run s = (.ok ⟨⟩, t) ∧ t.catalog.Registered ∧ t.catalog.Open ∧
        ∀ schema id r, t.catalog.Has schema id r ↔
          id ∉ items.map number ∧ s.catalog.Has schema id r := by
  intro items
  induction items with
  | nil => exact fun {s} registered writable _ _ => ⟨s, rfl, registered, writable, by simp⟩
  | cons a rest ih =>
      intro s registered writable there distinct
      obtain ⟨⟨schema, r, has, user⟩, others⟩ := List.forall_mem_cons.mp there
      obtain ⟨fresh, distinct⟩ := List.nodup_cons.mp distinct
      obtain ⟨next, dropped⟩ := registered.drop_of_has writable has user
      obtain ⟨u, one⟩ := runs dropped
      obtain ⟨still, left⟩ := registered.drop_has (drops one)
      have later : ∀ b ∈ rest, ∃ schema r, u.catalog.Has schema (number b) r ∧ r.type? = none := by
        intro b member
        obtain ⟨other, q, held, own⟩ := others b member
        refine ⟨other, q, (left _ _ _).mpr ⟨fun same => fresh ?_, held⟩, own⟩
        exact List.mem_map.mpr ⟨b, member, same⟩
      obtain ⟨t, ran, last, stays, has⟩ :=
        ih still (writable.drop registered.ordered (drops one)) later distinct
      refine ⟨t, (Run.bind_of_run one).trans ran, last, stays, fun schema id r => ?_⟩
      rw [has, left, List.map_cons, List.mem_cons, not_or, ← and_assoc, and_comm (a := id ∉ _)]

end Drops

theorem dropOne_runs {next : Catalog} (dropped : s.catalog.drop id = .ok next) :
    ∃ t, (changeCatalog (·.drop id)).run s = (.ok (), t) :=
  ⟨_, changeCatalog_of_ok dropped⟩

theorem discard_runs {next : Catalog} (dropped : s.catalog.drop id = .ok next) :
    ∃ t, (discard id).run s = (.ok (), t) :=
  ⟨_, (Run.bind_of_run (changeCatalog_of_ok (f := (·.drop id)) dropped)).trans rfl⟩

/-- What a table takes with it goes, and then the table has to go. -/
theorem dropTable_reaches (registered : s.catalog.Registered) (writable : s.catalog.Open)
    (indexes : ∀ i ∈ d.indexes, ∃ schema r, s.catalog.Has schema i.id r ∧ r.type? = none)
    (distinct : (d.indexes.map (·.id)).Nodup)
    (apart : ∀ q ∈ s.catalog.ownedSequences d, q.id ∉ d.indexes.map (·.id)) :
    ∃ v, (dropTable s.catalog d).run s = (do
        changeCatalog (·.drop d.id)
        changeStore (·.remove (.table d.id)) : Define Unit).run v ∧
      v.catalog.Registered ∧ v.catalog.Open ∧ ∀ schema id r, v.catalog.Has schema id r ↔
        id ∉ (s.catalog.ownedSequences d).map (·.id) ∧ id ∉ d.indexes.map (·.id) ∧
          s.catalog.Has schema id r := by
  obtain ⟨u, first, registeredThen, openThen, unindexed⟩ :=
    drops_run IndexDef.id dropOne_drops dropOne_runs registered writable indexes distinct
  have sequences : ∀ q ∈ s.catalog.ownedSequences d,
      ∃ schema r, u.catalog.Has schema q.id r ∧ r.type? = none := by
    intro q owned
    have has := (registered.mem_ownedSequences.mp owned).1
    exact ⟨_, _, (unindexed _ _ _).mpr ⟨apart q owned, has⟩, rfl⟩
  -- the sequences were not among the indexes, so they are still there
  obtain ⟨v, second, last, stays, bare⟩ := drops_run SequenceDef.id discard_drops discard_runs
    registeredThen openThen sequences (registered.owned_nodup d)
  refine ⟨v, (Run.bind_of_run first).trans (Run.bind_of_run second), last, stays, fun schema id r => ?_⟩
  rw [bare, unindexed]

theorem dropTable_runs (linked : s.catalog.Linked) (writable : s.catalog.Open) {schema : String}
    (held : s.catalog.Has schema id (.table d)) : ∃ t, (dropTable s.catalog d).run s = (.ok (), t) := by
  have registered := linked.registered
  obtain ⟨rfl, rfl, distinct⟩ := registered.placed _ _ _ held
  obtain ⟨v, ran, last, stays, bare⟩ := dropTable_reaches registered writable (fun i member =>
    ⟨_, _, (linked.indexes _ i.id _ i.name).mpr ⟨d, held, i, member, rfl, rfl⟩, rfl⟩) distinct
    fun q owned => linked.not_mem_indexes held (registered.mem_ownedSequences.mp owned).1 (by simp)
  have standing : v.catalog.Has d.schema d.id (.table d) := (bare _ _ _).mpr
    ⟨registered.not_mem_owned held (by simp), linked.not_mem_indexes held held (by simp), held⟩
  obtain ⟨next, dropped⟩ := last.drop_of_has stays standing rfl
  obtain ⟨w, gone⟩ := dropOne_runs dropped
  exact ⟨_, ran.trans ((Run.bind_of_run gone).trans rfl)⟩

/-- A table that is gone cannot go. Its indexes went with it, so an index is missed first. -/
theorem dropTable_faults (linked : s.catalog.Linked) (writable : s.catalog.Open)
    (lacks : s.catalog.Lacks d.id)
    (recalls : ∀ i ∈ d.indexes, s.catalog.Recalls i.id (.index d.id i.name)) :
    (dropTable s.catalog d).Faults s := by
  cases indexes : d.indexes with
  | cons i rest =>
      have first : i ∈ d.indexes := indexes ▸ List.mem_cons_self
      have missing : s.catalog.Lacks i.id := by
        intro schema r has
        obtain rfl := recalls i first schema r has
        obtain ⟨e, there, _⟩ := (linked.indexes _ _ _ _).mp has
        exact lacks _ _ there
      -- the indexes go first
      rw [dropTable, indexes]
      exact ((dropOne_lacks linked.registered.ordered missing).bind _).bind _
  | nil =>
      obtain ⟨v, ran, last, stays, bare⟩ := dropTable_reaches (d := d) linked.registered writable
        (by simp [indexes]) (by simp [indexes]) (by simp [indexes])
      have missing : v.catalog.Lacks d.id := fun schema r has =>
        lacks schema r ((bare _ _ _).mp has).2.2
      obtain ⟨what, t, failed⟩ := (dropOne_lacks last.ordered missing).bind _
      exact ⟨what, t, ran.trans failed⟩

theorem dropIndex_drops {table index : Nat} (ran : (dropIndex table index).run s = (.ok (), t)) :
    s.catalog.drop index = .ok t.catalog := by
  rw [dropIndex, content_bind_run, putContent_bind_run] at ran
  have dropped := dropOne_drops ran
  exact dropped

theorem dropIndex_runs (table : Nat) {index : Nat} {next : Catalog} (dropped : s.catalog.drop index = .ok next) :
    ∃ t, (dropIndex table index).run s = (.ok (), t) := by
  rw [dropIndex, content_bind_run, putContent_bind_run]
  exact dropOne_runs dropped

theorem dropIndex_lacks {table index : Nat} (ordered : s.catalog.Ordered)
    (lacks : s.catalog.Lacks index) : (dropIndex table index).Faults s := by
  rw [dropIndex, Faults, content_bind_run, putContent_bind_run]
  exact dropOne_lacks ordered lacks

theorem dropRelation_runs (linked : s.catalog.Linked) (writable : s.catalog.Open) {schema : String}
    (held : s.catalog.Has schema id r) (user : r.type? = none) :
    ∃ t, (dropRelation id r).run s = (.ok (), t) := by
  have registered := linked.registered
  rw [dropRelation, catalog_bind_run]
  cases r with
  | table d => exact dropTable_runs linked writable held
  | index table name =>
      obtain ⟨d, there, lists⟩ := (linked.indexes _ _ _ _).mp held
      obtain ⟨next, dropped⟩ := registered.drop_of_has writable held rfl
      obtain ⟨u, gone⟩ := dropIndex_runs table dropped
      obtain ⟨still, left⟩ := registered.drop_has (dropIndex_drops gone)
      have changeable := writable.drop registered.ordered (dropIndex_drops gone)
      have different : table ≠ id := by
        rintro rfl
        cases registered.relation_unique there held
      obtain ⟨rfl, rfl, -⟩ := registered.placed _ _ _ there
      obtain ⟨last, replaced⟩ := changeable.replaceTable_of_has still.ordered
        (d := d.removeIndex id) ((left _ _ _).mpr ⟨different, there⟩)
      refine ⟨⟨last, u.data⟩, ?_⟩
      dsimp only
      rw [registered.tableById_of_has there]
      exact (Run.bind_of_run gone).trans (changeCatalog_of_ok replaced)
  | sequence q =>
      obtain ⟨next, dropped⟩ := registered.drop_of_has writable held rfl
      exact discard_runs dropped
  | type t => cases user

/-- What is known of a relation that is to go, before and after it went. -/
structure Known (c : Catalog) (id : Nat) (r : Relation) : Prop where
  user : r.type? = none
  placed : ∃ schema, r.Placed schema id
  recalls : c.Recalls id r
  indexes : ∀ d, r = .table d → ∀ i ∈ d.indexes, c.Recalls i.id (.index d.id i.name)

theorem dropRelation_faults (linked : s.catalog.Linked) (writable : s.catalog.Open)
    (known : Known s.catalog id r) (lacks : s.catalog.Lacks id) : (dropRelation id r).Faults s := by
  rw [dropRelation, Faults, catalog_bind_run]
  obtain ⟨user, ⟨schema, placed⟩, -, indexes⟩ := known
  cases r with
  | table d =>
      obtain ⟨rfl, -⟩ := placed
      exact dropTable_faults linked writable lacks (indexes d rfl)
  | index table name =>
      dsimp only
      cases found : s.catalog.tableById table with
      | error e =>
          unfold Catalog.tableById at found
          split at found <;> cases found
          exact ⟨_, s, rfl⟩
      | ok d => exact (dropIndex_lacks linked.registered.ordered lacks).bind _
  | sequence q => exact (dropOne_lacks linked.registered.ordered lacks).bind _
  | type t => cases user

/-- The relation is gone, no number is used that was not, and the others of the kind stay. -/
theorem dropRelation_has (linked : s.catalog.Linked) {schema : String}
    (held : s.catalog.Has schema id r) (user : r.type? = none)
    (ran : (dropRelation id r).run s = (.ok (), t)) :
    t.catalog.Lacks id ∧ (∀ number, s.catalog.Lacks number → t.catalog.Lacks number) ∧
      ∀ schema number q, number ≠ id → q.kind = r.kind →
        s.catalog.Has schema number q → t.catalog.Has schema number q := by
  have registered := linked.registered
  rw [dropRelation, catalog_bind_run] at ran
  cases r with
  | table d =>
      obtain ⟨rfl, rfl, -⟩ := registered.placed _ _ _ held
      obtain ⟨-, left⟩ := dropTable_has registered ran
      refine ⟨fun schema q there => ((left _ _ _).mp there).1 rfl, fun number lacks schema q there =>
        lacks _ _ ((left _ _ _).mp there).2.2.2, fun schema number q other kind has => ?_⟩
      have apart : (∀ p, q ≠ .sequence p) ∧ ∀ table name, q ≠ .index table name := by
        cases q <;> simp [Relation.kind] at kind ⊢
      exact (left _ _ _).mpr ⟨other, registered.not_mem_owned has apart.1,
        linked.not_mem_indexes held has apart.2, has⟩
  | index table name =>
      obtain ⟨d, found, ran⟩ := Run.lift_bind_ok ran
      obtain ⟨_, u, gone, ran⟩ := Run.bind_run_ok ran
      obtain ⟨next, replaced, rfl⟩ := changeCatalog_ok ran
      obtain ⟨still, left⟩ := registered.drop_has (dropIndex_drops gone)
      obtain ⟨altered, old, before⟩ := still.ordered.replaceTable_altered replaced
      obtain ⟨different, owner⟩ := (left _ _ _).mp before
      refine ⟨fun schema q there => ?_, fun number lacks schema q there => ?_,
        fun schema number q other kind has => ?_⟩
      · rw [altered.has, if_neg fun same => different same.2.symm] at there
        exact ((left _ _ _).mp there).1 rfl
      · rw [altered.has] at there
        split at there
        · rename_i same
          exact lacks _ _ (same.2 ▸ owner)
        · exact lacks _ _ ((left _ _ _).mp there).2
      · have stays := (left _ _ _).mpr ⟨other, has⟩
        rw [altered.has, if_neg]
        · exact stays
        · rintro ⟨rfl, rfl⟩
          cases still.ordered.relation_unique stays before
          simp [Relation.kind] at kind
  | sequence q =>
      obtain ⟨-, left⟩ := registered.drop_has (discard_drops ran)
      exact ⟨fun schema q there => ((left _ _ _).mp there).1 rfl,
        fun number lacks schema q there => lacks _ _ ((left _ _ _).mp there).2,
        fun schema number q other _ has => (left _ _ _).mpr ⟨other, has⟩⟩
  | type t => cases user

theorem dropRelation_known (linked : s.catalog.Linked) {schema : String}
    (held : s.catalog.Has schema id r) (ran : (dropRelation id r).run s = (.ok (), t)) {number : Nat}
    {q : Relation} (kind : q.kind = r.kind) (known : Known s.catalog number q) :
    t.catalog.Linked ∧ Known t.catalog number q := by
  have registered := linked.registered
  have recalls : s.catalog.Recalls id r := fun _ _ has => registered.relation_unique has held
  have placed := registered.placed _ _ _ held
  obtain ⟨linkedLater, kept⟩ := dropRelation_links linked placed recalls ran
  refine ⟨linkedLater, known.user, known.placed, kept number q kind known.recalls, ?_⟩
  rintro d rfl i member
  cases r with
  | table e =>
      obtain ⟨rfl, -⟩ := placed
      obtain ⟨-, fewer⟩ := dropTable_links linked recalls ran
      exact (known.indexes d rfl i member).fewer fewer
  | _ => simp [Relation.kind] at kind

/-- The relations are all there, and none is listed twice. -/
structure Droppable (c : Catalog) (items : List (Nat × Relation)) : Prop where
  distinct : (items.map (·.1)).Nodup
  there : ∀ e ∈ items, ∃ schema, c.Has schema e.1 e.2

/-- When a relation went, the others can go if all of them could go before. -/
theorem droppable_cons {e : Nat × Relation} {rest : List (Nat × Relation)} {schema : String}
    (linked : s.catalog.Linked) (has : s.catalog.Has schema e.1 e.2) (user : e.2.type? = none)
    (others : ∀ f ∈ rest, f.2.kind = e.2.kind ∧ s.catalog.Recalls f.1 f.2)
    (ran : (dropRelation e.1 e.2).run s = (.ok (), t)) :
    Droppable s.catalog (e :: rest) ↔ Droppable t.catalog rest := by
  obtain ⟨gone, fewer, kept⟩ := dropRelation_has linked has user ran
  constructor
  · rintro ⟨distinct, there⟩
    obtain ⟨fresh, distinct⟩ := List.nodup_cons.mp distinct
    refine ⟨distinct, fun f member => ?_⟩
    obtain ⟨other, held⟩ := there f (List.mem_cons_of_mem _ member)
    have different : f.1 ≠ e.1 := fun same => fresh (List.mem_map.mpr ⟨f, member, same⟩)
    exact ⟨other, kept other f.1 f.2 different (others f member).1 held⟩
  · rintro ⟨distinct, there⟩
    refine ⟨List.nodup_cons.mpr ⟨fun listed => ?_, distinct⟩, List.forall_mem_cons.mpr
      ⟨⟨schema, has⟩, fun f member => ?_⟩⟩
    · obtain ⟨f, member, same⟩ := List.mem_map.mp listed
      obtain ⟨other, held⟩ := there f member
      exact gone _ _ (same ▸ held)
    · refine (others f member).2.has_or_lacks.resolve_right fun lacks => ?_
      obtain ⟨other, held⟩ := there f member
      exact fewer _ lacks _ _ held

/-- Relations of one kind go if they can; otherwise the first that is gone is missed. -/
theorem dropAll_run (kind : String) : ∀ {items : List (Nat × Relation)} {s : Draft},
    s.catalog.Linked → s.catalog.Open → (∀ e ∈ items, e.2.kind = kind ∧ Known s.catalog e.1 e.2) →
      (Droppable s.catalog items →
        ∃ t, (items.forM fun (id, r) => dropRelation id r).run s = (.ok ⟨⟩, t)) ∧
      (¬Droppable s.catalog items → Faults (items.forM fun (id, r) => dropRelation id r) s) := by
  intro items
  induction items with
  | nil =>
      intro s _ _ _
      exact ⟨fun _ => ⟨s, rfl⟩, fun impossible =>
        absurd ⟨List.nodup_nil, List.forall_mem_nil _⟩ impossible⟩
  | cons e rest ih =>
      intro s linked writable all
      obtain ⟨⟨rfl, known⟩, others⟩ := List.forall_mem_cons.mp all
      rcases known.recalls.has_or_lacks with ⟨schema, has⟩ | lacks
      · -- the first can go, and the others can go then exactly if all could go before
        obtain ⟨u, one⟩ := dropRelation_runs linked writable has known.user
        have linkedLater := (dropRelation_known linked has one rfl known).1
        have changeable := (dropRelation_keeps free_open e.1 e.2
          ⟨linked.registered.ordered, writable⟩ one).2
        obtain ⟨runs, faults⟩ := ih linkedLater changeable fun f member =>
          ⟨(others f member).1, (dropRelation_known linked has one (others f member).1
            (others f member).2).2⟩
        rw [droppable_cons linked has known.user (fun f member =>
          ⟨(others f member).1, (others f member).2.recalls⟩) one]
        refine ⟨fun fine => ?_, fun wrong => Faults.after one (faults wrong)⟩
        obtain ⟨t, ran⟩ := runs fine
        exact ⟨t, (Run.bind_of_run one).trans ran⟩
      · refine ⟨fun fine => ?_, fun _ => (dropRelation_faults linked writable known lacks).bind _⟩
        obtain ⟨schema, has⟩ := fine.there e List.mem_cons_self
        exact absurd has (lacks _ _)

end Define

/-! ### The statement -/

namespace Define

variable {s : Draft}

/-- The relations that a statement drops, as often as they are named. -/
def named (c : Catalog) (t : Sql.Drop) : Except SqlError (List (Nat × Relation)) := do
  let kind ← droppedKind t.kind
  return (← t.names.mapM (dropped? c kind t.ifExists)).filterMap id

theorem named_faultless {what : String} (c : Catalog) (t : Sql.Drop) : Faultless what (named c t) := by
  refine Faultless.bind ?_ fun kind _ => (Faultless.mapM (fun parts => ?_) _).bind fun _ _ => .ok _
  · unfold droppedKind
    split <;> rintro ⟨⟩
  · refine (Faultless.ofParts parts).bind fun name _ => ?_
    repeat' split
    all_goals rintro ⟨⟩

/-- A statement that names something that cannot be dropped fails before the first relation goes. -/
theorem drop_named (statement : Sql.Drop) (s : Draft) : (drop statement).run s = (do
    let found ← liftM (named s.catalog statement)
    if found.isEmpty then return .skipped ("DROP " ++ statement.kind.name)
    found.forM fun (id, r) => dropRelation id r
    return .done ("DROP " ++ statement.kind.name) : Define Outcome).run s := by
  rw [drop, named]
  cases droppedKind statement.kind with
  | error e => rfl
  | ok kind =>
      refine (Run.bind_of_run (a := kind) (t := s) rfl).trans ?_
      rw [catalog_bind_run, Run.mapM_lift]
      cases looked : statement.names.mapM (dropped? s.catalog kind statement.ifExists) with
      | error e => simp only [bind, Except.bind, looked]; rfl
      | ok found => simp only [bind, Except.bind, looked]; rfl

/-- The relations that are named are there, and they are of the kind of the statement. -/
theorem named_ok {statement : Sql.Drop} {found : List (Nat × Relation)} (ordered : s.catalog.Ordered)
    (given : named s.catalog statement = .ok found) :
    ∃ kind, (∀ r : Relation, r.kind = kind → r.type? = none) ∧
      ∀ e ∈ found, e.2.kind = kind ∧ ∃ schema, s.catalog.Has schema e.1 e.2 := by
  obtain ⟨kind, choice, given⟩ := bind_ok given
  obtain ⟨looked, mapped, given⟩ := bind_ok given
  cases given
  refine ⟨kind, ?_, found_relations ordered mapped⟩
  rintro r rfl
  cases r with
  | type t =>
      unfold droppedKind at choice
      split at choice <;> simp [Relation.kind] at choice
  | _ => rfl

/-- A `DROP` of relations that are there succeeds if it names none of them twice, and fails with an
internal error if it does. -/
theorem drop_run {statement : Sql.Drop} {found : List (Nat × Relation)} (linked : s.catalog.Linked)
    (writable : s.catalog.Open) (given : named s.catalog statement = .ok found) :
    ((found.map (·.1)).Nodup → ∃ outcome t, (drop statement).run s = (.ok outcome, t)) ∧
      (¬(found.map (·.1)).Nodup → (drop statement).Faults s) := by
  have run : (drop statement).run s = _ := drop_named statement s
  rw [given] at run
  obtain ⟨kind, user, there⟩ := named_ok linked.registered.ordered given
  rw [Faults, run.trans (Run.bind_of_run (a := found) (t := s) rfl)]
  split
  · rename_i none
    rw [List.isEmpty_iff.mp none]
    exact ⟨fun _ => ⟨_, s, rfl⟩, fun impossible => absurd List.nodup_nil impossible⟩
  · have droppable : Droppable s.catalog found ↔ (found.map (·.1)).Nodup :=
      ⟨fun fine => fine.distinct, fun distinct => ⟨distinct, fun e member => (there e member).2⟩⟩
    obtain ⟨runs, faults⟩ := dropAll_run kind (s := s) linked writable fun e member => by
      obtain ⟨expected, schema, has⟩ := there e member
      refine ⟨expected, user _ expected, ⟨schema, linked.registered.placed _ _ _ has⟩,
        fun _ _ also => linked.registered.relation_unique also has, ?_⟩
      intro d same i listed other r also
      rw [same] at has
      obtain ⟨number, -⟩ := linked.registered.placed _ _ _ has
      have index := (linked.indexes schema i.id e.1 i.name).mpr ⟨d, has, i, listed, rfl, rfl⟩
      exact number ▸ linked.registered.relation_unique also index
    rw [droppable] at runs faults
    refine ⟨fun distinct => ?_, fun repeated => (faults repeated).bind _⟩
    obtain ⟨t, all⟩ := runs distinct
    exact ⟨_, _, (Run.bind_of_run all).trans rfl⟩

/-- `DROP` raises an internal error exactly when it names a relation twice. -/
theorem drop_internal_iff {statement : Sql.Drop} (linked : s.catalog.Linked)
    (writable : s.catalog.Open) :
    (∃ what, ((drop statement).run s).1 = .error (.internal what)) ↔
      ∃ found, named s.catalog statement = .ok found ∧ ¬(found.map (·.1)).Nodup := by
  cases given : named s.catalog statement with
  | error e =>
      refine iff_of_false (fun ⟨what, raised⟩ => ?_) fun ⟨_, impossible, _⟩ => nomatch impossible
      rw [drop_named, given] at raised
      cases raised
      exact named_faultless s.catalog statement given
  | ok found =>
      obtain ⟨runs, faults⟩ := drop_run linked writable given
      constructor
      · rintro ⟨what, raised⟩
        refine ⟨found, rfl, fun distinct => ?_⟩
        obtain ⟨outcome, t, ran⟩ := runs distinct
        rw [ran] at raised
        cases raised
      · rintro ⟨_, ⟨⟩, repeated⟩
        obtain ⟨what, t, ran⟩ := faults repeated
        exact ⟨what, congrArg Prod.fst ran⟩

end Define

end SqlEngine
