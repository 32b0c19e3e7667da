import SqlEngine.Database.Alteration
import SqlEngine.Database.Removal
import SqlEngine.Database.Target
import SqlEngine.Proofs.Database.Agreement
import SqlEngine.Proofs.Evaluation.Frame

/-!
Catalog and data while a definition works on them.

A definition changes the data of a table before the catalog says so, and it changes the catalog in
several steps. Between them the data agree with tables that the catalog will have. Only definitions
that succeed count: those that fail leave nothing.
-/

namespace SqlEngine

/-- The data agree with some tables and with the sequences of the catalog. -/
structure Draft.Holds (tables : TableDef → Prop) (s : Draft) : Prop where
  catalog : s.catalog.Sound
  formed : s.data.store.WellFormed
  data : DataView.Agrees tables s.catalog.Counts s.data.store.get?

namespace Draft

/-- The data agree with the catalog. -/
abbrev Settled (s : Draft) : Prop := s.Holds s.catalog.Table

/-- The data agree with the catalog but for one table, for which they have another definition. -/
abbrev Ahead (d : TableDef) (s : Draft) : Prop :=
  s.Holds fun e => e = d ∨ (s.catalog.Table e ∧ e.id ≠ d.id)

variable {tables others : TableDef → Prop} {s : Draft} {d e : TableDef} {next : Catalog} {id : Nat}

theorem Settled.ahead (settled : s.Settled) (held : s.catalog.Table d) : s.Ahead d := by
  refine ⟨settled.catalog, settled.formed, settled.data.mono (fun e => ?_) fun _ counted => counted⟩
  constructor
  · rintro (rfl | ⟨there, _⟩)
    · exact held
    · exact there
  · intro there
    by_cases same : e.id = d.id
    · exact .inl (settled.catalog.table_unique there held same)
    · exact .inr ⟨there, same⟩

/-! ### The catalog -/

theorem Holds.recatalog (holds : s.Holds tables) (sound : next.Sound)
    (same : ∀ d, others d ↔ tables d) (counts : ∀ id, s.catalog.Counts id → next.Counts id) :
    Holds others ⟨next, s.data⟩ :=
  ⟨sound, holds.formed, holds.data.mono same counts⟩

theorem Settled.grow {table : Nat} (settled : s.Settled) (grows : Catalog.Grows table s.catalog next) :
    Settled ⟨next, s.data⟩ :=
  Holds.recatalog settled grows.sound grows.tables grows.counts

theorem Ahead.grow {table : Nat} (ahead : s.Ahead d) (grows : Catalog.Grows table s.catalog next) :
    Ahead d ⟨next, s.data⟩ :=
  Holds.recatalog ahead grows.sound
    (fun e => or_congr Iff.rfl (and_congr (grows.tables e) Iff.rfl)) grows.counts

/-- The definition that the data have is put into the catalog. -/
theorem Ahead.replaceTable (ahead : s.Ahead d) (given : s.catalog.replaceTable d = .ok next)
    (wellFormed : d.WellFormed) (flat : d.Flat)
    (listed : ∀ i ∈ d.indexes, s.catalog.Reserves d.id i.id) : Settled ⟨next, s.data⟩ := by
  obtain ⟨sound, tables, counts⟩ := ahead.catalog.replaceTable given wellFormed flat listed
  exact Holds.recatalog ahead sound tables fun id => (counts id).mpr

/-! ### The content of a table -/

theorem Ahead.content (ahead : s.Ahead d) : (s.data.store.table d.id).Conforms d := by
  rw [Store.table_eq]
  exact ahead.data.contents d (.inl rfl)

theorem elsewhere_iff (same : e.id = d.id) {other : TableDef} (different : other.id ≠ d.id) :
    (other = e ∨ (tables other ∧ other.id ≠ e.id)) ↔
      (other = d ∨ (tables other ∧ other.id ≠ d.id)) := by
  rw [same]
  refine or_congr ⟨?_, ?_⟩ Iff.rfl
  · rintro rfl
    exact absurd same different
  · rintro rfl
    exact absurd rfl different

theorem conforms_at (same : e.id = d.id) {content : TableData} (conforms : content.Conforms e) :
    ∀ other, other = e ∨ (tables other ∧ other.id ≠ e.id) → other.id = d.id →
      content.Conforms other := by
  rintro other (rfl | ⟨_, different⟩) number
  · exact conforms
  · exact absurd (number.trans same.symm) different

/-- The content also goes with another definition. -/
theorem Ahead.redefine (ahead : s.Ahead d) (same : e.id = d.id)
    (conforms : (s.data.store.table d.id).Conforms e) : s.Ahead e := by
  rw [Store.table_eq] at conforms
  exact ⟨ahead.catalog, ahead.formed, ahead.data.redefine (fun _ => elsewhere_iff same)
    (conforms_at same conforms) fun _ => ⟨e, .inl rfl, same⟩⟩

theorem Ahead.putContent (ahead : s.Ahead d) (same : e.id = d.id) {content : TableData}
    (conforms : content.Conforms e) :
    Ahead e ⟨s.catalog, { s.data with store := s.data.store.putTable d.id content }⟩ :=
  ⟨ahead.catalog, ahead.formed.set _ _, Store.agrees_putTable ahead.data
    (fun _ => elsewhere_iff same) (conforms_at same conforms) ⟨e, .inl rfl, same⟩⟩

/-- A table without rows comes under a number that nothing had. -/
theorem Settled.addTable (settled : s.Settled) (sound : next.Sound)
    (unused : ∀ e, s.catalog.Table e → e.id ≠ d.id)
    (tables : ∀ e, next.Table e ↔ e = d ∨ s.catalog.Table e)
    (counts : ∀ id, s.catalog.Counts id → next.Counts id) :
    Settled ⟨next, { s.data with store := s.data.store.putTable d.id .empty }⟩ := by
  refine ⟨sound, settled.formed.set _ _, Store.agrees_putTable
    (settled.data.mono (fun _ => Iff.rfl) counts) ?_ ?_ ⟨d, (tables d).mpr (.inl rfl), rfl⟩⟩
  · intro e different
    refine (tables e).trans ⟨?_, .inr⟩
    rintro (rfl | held)
    · exact absurd rfl different
    · exact held
  · intro e held same
    rcases (tables e).mp held with rfl | old
    · exact TableData.conforms_empty e
    · exact absurd same (unused e old)

/-- What a sequence counted goes when nothing is registered under its number any more. -/
theorem Holds.removeSequence (holds : s.Holds tables) (sound : next.Sound)
    (kept : ∀ number, s.catalog.Counts number → number ≠ id → next.Counts number) :
    Holds tables ⟨next, { s.data with store := s.data.store.remove (.sequence id) }⟩ :=
  ⟨sound, holds.formed.remove _, Store.agrees_removeSequence holds.data kept⟩

end Draft

/-! ### Steps of a definition -/

namespace Define

open Draft (Holds Settled Ahead)

variable {tables : TableDef → Prop} {s t : Draft} {d e : TableDef} {id table : Nat}

theorem changeCatalog_ok {f : Catalog → Except SqlError Catalog}
    (ran : (changeCatalog f).run s = (.ok (), t)) :
    ∃ next, f s.catalog = .ok next ∧ t = ⟨next, s.data⟩ := by
  obtain ⟨_, _, read, ran⟩ := Run.bind_run_ok ran
  cases read
  obtain ⟨next, _, changed, ran⟩ := Run.bind_run_ok ran
  obtain ⟨changed, rfl⟩ := Run.lift_run_ok changed
  cases ran
  exact ⟨next, changed, rfl⟩

theorem catalog_bind_run {α : Type} (f : Catalog → Define α) (s : Draft) :
    (catalog >>= f).run s = (f s.catalog).run s := rfl

theorem content_bind_run {α : Type} (f : TableData → Define α) (s : Draft) :
    (content id >>= f).run s = (f (s.data.store.table id)).run s := rfl

theorem putContent_bind_run {α : Type} (content : TableData) (f : Unit → Define α) (s : Draft) :
    (putContent id content >>= f).run s =
      (f ()).run ⟨s.catalog, { s.data with store := s.data.store.putTable id content }⟩ := rfl

theorem changeCatalog_bind_ok {α : Type} {a : α} {f : Catalog → Except SqlError Catalog}
    {g : Unit → Define α} (ran : (changeCatalog f >>= g).run s = (.ok a, t)) :
    ∃ next, f s.catalog = .ok next ∧ (g ()).run ⟨next, s.data⟩ = (.ok a, t) := by
  obtain ⟨_, u, changed, rest⟩ := Run.bind_run_ok ran
  obtain ⟨next, given, rfl⟩ := changeCatalog_ok changed
  exact ⟨next, given, rest⟩

theorem changeContent_ok {α : Type} {m : ContentChange α} {a : α}
    (ran : (changeContent id m).run s = (.ok a, t)) :
    ∃ content, m.run (s.data.store.table id) = (.ok a, content) ∧
      t = ⟨s.catalog, { s.data with store := s.data.store.putTable id content }⟩ := by
  obtain ⟨_, _, read, ran⟩ := Run.bind_run_ok ran
  cases read
  obtain ⟨_, _, stored, ran⟩ := Run.bind_run_ok ran
  cases stored
  obtain ⟨result, rfl⟩ := Prod.mk.inj ran
  exact ⟨_, Prod.ext result rfl, rfl⟩

theorem evaluate_ok {α : Type} {now : Timestamp} {m : Env → Eval α} {a : α}
    (ran : (evaluate now m).run s = (.ok a, t)) :
    ∃ data, (m ⟨s.catalog, now⟩).run s.data = (.ok a, data) ∧ t = ⟨s.catalog, data⟩ := by
  obtain ⟨_, _, state, ran⟩ := Run.bind_run_ok ran
  cases state
  obtain ⟨_, _, stored, ran⟩ := Run.bind_run_ok ran
  cases stored
  obtain ⟨result, rfl⟩ := Prod.mk.inj ran
  exact ⟨_, Prod.ext result rfl, rfl⟩

/-- An evaluation leaves data that agree with the catalog, and gives what it gives over them. -/
theorem evaluate_settled {α : Type} {now : Timestamp} {m : Env → Eval α} {a : α} {p : α → Prop}
    (settled : s.Settled)
    (meets : ∀ base, (m ⟨s.catalog, now⟩).Meets (EvalState.Agrees s.catalog base) p)
    (ran : (evaluate now m).run s = (.ok a, t)) :
    t.Settled ∧ t.catalog = s.catalog ∧ p a := by
  obtain ⟨data, given, rfl⟩ := evaluate_ok ran
  obtain ⟨agrees, gives⟩ := meets _ s.data ⟨rfl, settled.formed, settled.data⟩
  rw [given] at agrees gives
  exact ⟨⟨settled.catalog, agrees.formed, agrees.data⟩, rfl, gives a rfl⟩

/-- Checks are compiled for the catalog that is there, and then evaluated over the rows. -/
theorem checkRows_run_ok {now : Timestamp} {checks : List CheckDef}
    (ran : (checkRows now d checks).run s = (.ok (), t)) :
    ∃ compiled, checks.mapM (Target.compileCheck (.ofCatalog s.catalog)
        (Scope.ofColumns (TypedPlan.scan d none).columns)) = .ok compiled ∧
      (evaluate now fun env => compiled.forM fun check =>
        ((s.data.store.table d.id).rows.map (·.2)).forM fun row => do
          if (← check.2.eval env [] row).bool? == some false then
            throw (.query (.checkViolatedByRow check.1 d.name))).run s = (.ok (), t) := by
  rw [checkRows, catalog_bind_run] at ran
  have lifts : (fun check : CheckDef => (do
      return (check.name, ← liftM (check.condition.condition (.ofCatalog s.catalog)
        (Scope.ofColumns (TypedPlan.scan d none).columns))) : Define (String × Expr))) =
      fun check => liftM (Target.compileCheck (.ofCatalog s.catalog)
        (Scope.ofColumns (TypedPlan.scan d none).columns) check) := by
    funext check
    rw [Target.compileCheck]
    cases check.condition.condition (.ofCatalog s.catalog)
      (Scope.ofColumns (TypedPlan.scan d none).columns) <;> rfl
  dsimp only at ran
  rw [lifts, Run.mapM_lift] at ran
  obtain ⟨compiled, compilation, ran⟩ := Run.lift_bind_ok ran
  rw [content_bind_run] at ran
  exact ⟨compiled, compilation, ran⟩

theorem allocate_ok {number : Nat} (sound : s.catalog.Sound)
    (ran : allocate.run s = (.ok number, t)) :
    t.data = s.data ∧ s.catalog.Same t.catalog ∧ t.catalog.Free number := by
  cases ran
  exact ⟨rfl, sound.ordered.same_allocate, sound.free_allocate⟩

/-- The indexes of keys take the next numbers, in order. -/
theorem allocateIndexes_run : ∀ {keys : List Key} {s : Draft} {indexes : List IndexDef},
    (allocateIndexes keys).run s = (.ok indexes, t) →
      t = ⟨{ s.catalog with nextId := s.catalog.nextId + keys.length }, s.data⟩ ∧
        indexes.map (·.id) = List.range' s.catalog.nextId keys.length ∧
        indexes.map (·.columns) = keys.map (·.columns) := by
  intro keys
  induction keys with
  | nil =>
      intro s indexes ran
      cases ran
      exact ⟨rfl, rfl, rfl⟩
  | cons k rest ih =>
      intro s indexes ran
      rw [allocateIndexes, List.mapM_cons] at ran
      obtain ⟨i, u, one, ran⟩ := Run.bind_run_ok ran
      obtain ⟨number, v, taken, made⟩ := Run.bind_run_ok one
      cases taken
      cases made
      obtain ⟨others, w, more, ran⟩ := Run.bind_run_ok ran
      cases ran
      obtain ⟨rfl, numbers, columns⟩ := ih more
      refine ⟨?_, ?_, ?_⟩
      · rw [List.length_cons, Nat.add_comm rest.length, ← Nat.add_assoc]
      · rw [List.map_cons, numbers]
        rfl
      · rw [List.map_cons, columns]
        rfl

theorem allocateIndexes_numbers {keys : List Key} {indexes : List IndexDef}
    (ran : (allocateIndexes keys).run s = (.ok indexes, t)) :
    (∀ i ∈ indexes, s.catalog.nextId ≤ i.id ∧ i.id < t.catalog.nextId) ∧
      (indexes.map (·.id)).Nodup := by
  obtain ⟨rfl, numbers, _⟩ := allocateIndexes_run ran
  refine ⟨fun i member => ?_, numbers ▸ List.nodup_range'⟩
  have taken : i.id ∈ List.range' s.catalog.nextId keys.length :=
    numbers ▸ List.mem_map_of_mem member
  exact List.mem_range'_1.mp taken

theorem allocateIndexes_ok {keys : List Key} {indexes : List IndexDef} (sound : s.catalog.Sound)
    (ran : (allocateIndexes keys).run s = (.ok indexes, t)) :
    t.data = s.data ∧ s.catalog.Same t.catalog ∧
      (∀ i ∈ indexes, s.catalog.nextId ≤ i.id ∧ t.catalog.Free i.id) ∧
      (indexes.map (·.id)).Nodup ∧ ∀ i ∈ indexes, ∃ k ∈ keys, i.columns = k.columns := by
  obtain ⟨between, distinct⟩ := allocateIndexes_numbers ran
  obtain ⟨rfl, _, columns⟩ := allocateIndexes_run ran
  refine ⟨rfl, sound.ordered.same_raise (Nat.le_add_right _ _), fun i member => ?_, distinct,
    fun i member => ?_⟩
  · obtain ⟨above, below⟩ := between i member
    exact ⟨above, sound.free_raise above below⟩
  · have covered : i.columns ∈ keys.map (·.columns) := columns ▸ List.mem_map_of_mem member
    obtain ⟨k, inside, same⟩ := List.mem_map.mp covered
    exact ⟨k, inside, same.symm⟩

theorem registerIndexes_ok : ∀ {indexes : List IndexDef} {s : Draft}, s.catalog.Sound →
    (∀ i ∈ indexes, s.catalog.Saves d.id i.id) → (indexes.map (·.id)).Nodup →
      (indexes.forM (registerIndex d)).run s = (.ok ⟨⟩, t) →
        t.data = s.data ∧ Catalog.Grows d.id s.catalog t.catalog := by
  intro indexes
  induction indexes with
  | nil =>
      intro s sound _ _ ran
      cases ran
      exact ⟨rfl, sound.grows _⟩
  | cons i rest ih =>
      intro s sound saves distinct ran
      obtain ⟨first, others⟩ := List.forall_mem_cons.mp saves
      obtain ⟨fresh, distinctRest⟩ := List.nodup_cons.mp distinct
      obtain ⟨_, u, one, ran⟩ := Run.bind_run_ok ran
      obtain ⟨next, registered, rfl⟩ := changeCatalog_ok one
      obtain ⟨grows, kept⟩ := sound.registerIndex first registered
      have saved : ∀ j ∈ rest, next.Saves d.id j.id := by
        intro j member
        refine kept j.id (fun equal => fresh ?_) (others j member)
        exact List.mem_map.mpr ⟨j, member, equal⟩
      obtain ⟨data, more⟩ := ih grows.sound saved distinctRest ran
      exact ⟨data, grows.trans more⟩

theorem registerSerials_ok {serials : List SerialColumn} (sound : s.catalog.Sound)
    (ran : (serials.forM (registerSerial d)).run s = (.ok ⟨⟩, t)) :
    t.data = s.data ∧ Catalog.Grows d.id s.catalog t.catalog := by
  refine Run.forM_run_keeps (p := fun u => u.data = s.data ∧ Catalog.Grows d.id s.catalog u.catalog)
    ?_ ⟨rfl, sound.grows _⟩ ran
  rintro serial _ u v ⟨data, grows⟩ one
  obtain ⟨options, _, created, changed⟩ := Run.bind_run_ok one
  obtain ⟨_, rfl⟩ := Run.lift_run_ok created
  obtain ⟨next, registered, rfl⟩ := changeCatalog_ok changed
  exact ⟨data, grows.trans (grows.sound.registerNext d.id registered (fun _ => ⟨rfl, rfl⟩) (by simp))⟩

theorem registerParts_ok {l : Layout} {indexes : List IndexDef} (sound : s.catalog.Sound)
    (saves : ∀ i ∈ indexes, s.catalog.Saves d.id i.id) (distinct : (indexes.map (·.id)).Nodup)
    (ran : (registerParts d l indexes).run s = (.ok (), t)) :
    t.data = s.data ∧ Catalog.Grows d.id s.catalog t.catalog := by
  obtain ⟨_, u, first, second⟩ := Run.bind_run_ok ran
  obtain ⟨data, grows⟩ := registerIndexes_ok sound saves distinct first
  obtain ⟨dataLater, more⟩ := registerSerials_ok grows.sound second
  exact ⟨dataLater.trans data, grows.trans more⟩

theorem fillIndexes_catalog {indexes : List IndexDef}
    (ran : (fillIndexes d indexes).run s = (.ok (), t)) : t.catalog = s.catalog := by
  refine Run.forM_run_keeps (p := fun u => u.catalog = s.catalog) ?_ rfl ran
  intro i _ u v same one
  obtain ⟨content, _, rfl⟩ := changeContent_ok one
  exact same

/-- New indexes are filled from the rows. -/
theorem fillIndexes_ok : ∀ {indexes : List IndexDef} {s : Draft} {d : TableDef}, s.Ahead d →
    e.id = d.id → e.columns = d.columns → (∀ i ∈ indexes, i.id ∉ d.indexes.map (·.id)) →
      (indexes.map (·.id)).Nodup → (fillIndexes e indexes).run s = (.ok (), t) →
        t.Ahead (d.addIndexes indexes) := by
  intro indexes
  induction indexes with
  | nil =>
      intro s d ahead _ _ _ _ ran
      cases ran
      have unchanged : d.addIndexes [] = d := by simp [TableDef.addIndexes]
      rwa [unchanged]
  | cons i rest ih =>
      intro s d ahead same columns fresh distinct ran
      obtain ⟨firstFresh, restFresh⟩ := List.forall_mem_cons.mp fresh
      obtain ⟨apart, distinctRest⟩ := List.nodup_cons.mp distinct
      obtain ⟨_, u, one, ran⟩ := Run.bind_run_ok ran
      obtain ⟨content, filled, rfl⟩ := changeContent_ok one
      rw [same, TableData.run_createIndex, TableData.buildIndex_congr columns] at filled
      cases built : (s.data.store.table d.id).buildIndex d i with
      | error refused =>
          rw [built] at filled
          cases filled
      | ok data =>
          rw [built] at filled
          cases filled
          have conforms := ahead.content.putIndex firstFresh
            ((TableData.buildIndex_congr rfl _ i).trans built)
          have unlisted : ∀ j ∈ rest, j.id ∉ (d.addIndexes [i]).indexes.map (·.id) := by
            intro j member listed
            rw [TableDef.addIndexes, List.map_append, List.mem_append] at listed
            rcases listed with old | new
            · exact restFresh j member old
            · exact apart (List.mem_singleton.mp new ▸ List.mem_map_of_mem member)
          have put := ahead.putContent (e := d.addIndexes [i]) rfl conforms
          replace ran : (fillIndexes e rest).run _ = (.ok (), t) := ran
          rw [same] at ran
          have filled := ih put same columns unlisted distinctRest ran
          have together : (d.addIndexes [i]).addIndexes rest = d.addIndexes (i :: rest) := by
            simp [TableDef.addIndexes]
          exact together ▸ filled

/-! ### Relations that go -/

/-- What a definition leaves that takes away relations that are no tables: data that agree with the
same tables, in a catalog that has them all. -/
structure Trims (tables : TableDef → Prop) (s t : Draft) : Prop where
  holds : t.Holds tables
  tables : ∀ d, t.catalog.Table d ↔ s.catalog.Table d
  sheds : s.catalog.Sheds t.catalog

theorem Trims.same (holds : s.Holds tables) : Trims tables s s :=
  ⟨holds, fun _ => Iff.rfl, .same _⟩

theorem Trims.trans {u : Draft} (trims : Trims tables s t) (more : Trims tables t u) :
    Trims tables s u :=
  ⟨more.holds, fun d => (more.tables d).trans (trims.tables d), trims.sheds.trans more.sheds⟩

theorem Trims.settled (trims : Trims s.catalog.Table s t) : t.Settled :=
  trims.holds.recatalog trims.holds.catalog trims.tables fun _ counted => counted

theorem Trims.ahead (trims : Trims (fun e => e = d ∨ (s.catalog.Table e ∧ e.id ≠ d.id)) s t) :
    t.Ahead d :=
  trims.holds.recatalog trims.holds.catalog
    (fun e => or_congr Iff.rfl (and_congr (trims.tables e) Iff.rfl)) fun _ counted => counted

theorem discard_ok (holds : s.Holds tables) (noTable : ∀ d, s.catalog.Table d → d.id ≠ id)
    (ran : (discard id).run s = (.ok (), t)) : Trims tables s t := by
  obtain ⟨_, u, changed, ran⟩ := Run.bind_run_ok ran
  obtain ⟨next, dropped, rfl⟩ := changeCatalog_ok changed
  cases ran
  obtain ⟨sound, fewer, counts, sheds, _⟩ := holds.catalog.drop dropped
  refine ⟨holds.removeSequence sound fun number counted different => ?_, fun d => ?_, sheds⟩
  · exact (counts number).mpr ⟨different, counted⟩
  · exact (fewer d).trans ⟨fun both => both.1, fun held => ⟨held, noTable d held⟩⟩

/-- The data of the definition know nothing of the catalog entry of an index. -/
theorem dropIndex_trims {next : Catalog} (holds : s.Holds tables)
    (index : ∀ schema r, s.catalog.Has schema id r → r.kind = "index")
    (dropped : s.catalog.drop id = .ok next) : Trims tables s ⟨next, s.data⟩ := by
  obtain ⟨sound, fewer, counts, sheds, schema, r, has⟩ := holds.catalog.drop dropped
  obtain ⟨table, name, rfl⟩ := Relation.kind_eq_index.mp (index schema r has)
  refine ⟨holds.recatalog sound (fun _ => Iff.rfl) fun number counted => ?_, fun d => ?_, sheds⟩
  · refine (counts number).mpr ⟨?_, counted⟩
    rintro rfl
    obtain ⟨other, d, sequence⟩ := counted
    cases holds.catalog.relation_unique has sequence
  · refine (fewer d).trans ⟨fun both => both.1, fun held => ⟨held, ?_⟩⟩
    rintro rfl
    cases holds.catalog.relation_unique has held

theorem dropIndexes_ok {indexes : List IndexDef} (holds : s.Holds tables)
    (reserved : ∀ i ∈ indexes, s.catalog.Reserves table i.id)
    (ran : (indexes.forM fun i => changeCatalog (·.drop i.id)).run s = (.ok ⟨⟩, t)) :
    Trims tables s t := by
  refine Run.forM_run_keeps (p := Trims tables s) ?_ (.same holds) ran
  intro i member u v trims one
  obtain ⟨next, dropped, rfl⟩ := changeCatalog_ok one
  refine trims.trans (dropIndex_trims trims.holds (fun schema r has => ?_) dropped)
  obtain ⟨name, same⟩ := (trims.sheds.reserves _ _ (reserved i member)).index schema r has
  exact same ▸ rfl

theorem discardAll_ok {α : Type} {items : List α} {number : α → Nat} (holds : s.Holds tables)
    (noTable : ∀ a ∈ items, ∀ d, s.catalog.Table d → d.id ≠ number a)
    (ran : (items.forM fun a => discard (number a)).run s = (.ok ⟨⟩, t)) : Trims tables s t := by
  refine Run.forM_run_keeps (p := Trims tables s) ?_ (.same holds) ran
  intro a member u v trims one
  refine trims.trans (discard_ok trims.holds (fun d held => ?_) one)
  exact noTable a member d ((trims.tables d).mp held)

/-- A new index of a table, behind the choice of a method; the name depends on the table and on the
columns. -/
def defineIndex (table : List Sql.Ident) (keys : List Sql.OrderTerm)
    (name : TableDef → List (String × Nat) → String) (unique ifNotExists : Bool) :
    Define Outcome := do
  let c ← catalog
  let d ← c.table (← QName.ofParts table)
  let columns ← indexedColumns d keys
  if !c.isFree d.schema (name d columns) then
    if ifNotExists then return .skipped "CREATE INDEX"
    throw (.query (.relationExists (name d columns)))
  let index : IndexDef := ⟨← allocate, name d columns, columns.map (·.2), unique, false⟩
  let d := d.addIndexes [index]
  fillIndexes d [index]
  registerIndex d index
  changeCatalog (·.replaceTable d)
  return .done "CREATE INDEX"

/-- A statement that defines an index passes it over, refuses its method or defines it. -/
theorem createIndex_cases {p : Define Outcome → Prop} (o : DbOptions) (t : Sql.CreateIndex)
    (skipped : p (return .skipped "CREATE INDEX"))
    (refused : ∀ feature, p (throw (.notSupported feature)))
    (defined : ∀ name, p (defineIndex t.table t.keys name t.unique t.ifNotExists)) :
    p (createIndex o t) := by
  unfold createIndex
  dsimp only
  split
  · split
    · split
      · exact skipped
      · exact refused _
    · exact defined _
  · exact defined _

end Define

/-! ### Relations that a statement names -/

namespace Define

theorem dropped?_ok {c : Catalog} {kind : String} {ifExists : Bool} {parts : List Sql.Ident}
    {id : Nat} {r : Relation} (ordered : c.Ordered)
    (found : dropped? c kind ifExists parts = .ok (some (id, r))) :
    r.kind = kind ∧ ∃ schema, c.Has schema id r := by
  obtain ⟨name, _, found⟩ := Run.bind_ok found
  split at found
  · rename_i there
    split at found
    · rename_i expected
      cases found
      exact ⟨by simpa using expected, ordered.find?_has there⟩
    · cases found
  · split at found <;> cases found

theorem found_relations {c : Catalog} {kind : String} {ifExists : Bool}
    {names : List (List Sql.Ident)} {found : List (Option (Nat × Relation))} (ordered : c.Ordered)
    (given : names.mapM (dropped? c kind ifExists) = .ok found) :
    ∀ e ∈ found.filterMap id, e.2.kind = kind ∧ ∃ schema, c.Has schema e.1 e.2 := by
  rintro ⟨number, r⟩ member
  obtain ⟨_, listed, rfl⟩ := List.mem_filterMap.mp member
  exact Run.mapM_ok (p := fun o => ∀ e, o = some e →
      e.2.kind = kind ∧ ∃ schema, c.Has schema e.1 e.2)
    (fun name _ o looked e same => dropped?_ok ordered (same ▸ looked)) given _ listed (number, r) rfl

end Define

end SqlEngine
