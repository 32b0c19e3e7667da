import SqlEngine.Database.Alteration
import SqlEngine.Database.Definition
import SqlEngine.Database.Removal
import SqlEngine.Proofs.Database.Drafts
import SqlEngine.Proofs.Run
import SqlEngine.Proofs.Typing.Flat

/-!
Definitions that succeed leave data that agree with the catalog.

While a table is laid out, keys name columns that are there, and no default has a `WITH` list if the
statement has none. A column comes behind the others, and a constraint changes nothing of the
columns but what they demand.
-/

namespace SqlEngine

/-! ### Layouts -/

namespace Layout

open Run (bind_ok)

/-- The keys name columns before the bound. -/
def Within (l : Layout) (bound : Nat) : Prop := ∀ k ∈ l.keys, ∀ column ∈ k.columns, column < bound

/-- Indexes of the keys cover columns before the bound. -/
theorem Within.indexes {l : Layout} {bound : Nat} {indexes : List IndexDef} (within : l.Within bound)
    (keys : ∀ i ∈ indexes, ∃ k ∈ l.keys, i.columns = k.columns) :
    ∀ i ∈ indexes, ∀ column ∈ i.columns, column < bound := by
  intro i member column covered
  obtain ⟨k, there, same⟩ := keys i member
  exact within k there column (same ▸ covered)

structure Sound (l : Layout) : Prop where
  keys : l.Within l.columns.length
  flat : ∀ c ∈ l.columns, Sql.Term.optionFlat c.default

variable {l next : Layout} {c : Catalog} {schema : String} {column changed : ColumnDef}

theorem within_addKey {bound : Nat} {k : Key} (within : l.Within bound)
    (named : ∀ column ∈ k.columns, column < bound) : (l.addKey k).Within bound := by
  intro key member
  rcases List.mem_append.mp member with old | new
  · exact within key old
  · exact List.mem_singleton.mp new ▸ named

/-! ### Columns -/

theorem startColumn_ok {t : Sql.ColumnTerm}
    (given : l.startColumn c schema t = .ok (column, next)) :
    next.columns = l.columns ∧ next.keys = l.keys ∧ Sql.Term.optionFlat column.default := by
  unfold startColumn at given
  dsimp only at given
  split at given
  · cases given
    exact ⟨rfl, rfl, rfl⟩
  · obtain ⟨type, _, given⟩ := bind_ok given
    cases given
    exact ⟨rfl, rfl, rfl⟩

/-- A rule of a column changes nothing about the other columns. -/
theorem addRule_ok {position : Nat} {o : Sql.ColumnOption} (flat : o.rule.isFlat)
    (given : addRule position column l o = .ok (changed, next)) (within : l.Within (position + 1))
    (before : Sql.Term.optionFlat column.default) :
    next.columns = l.columns ∧ next.Within (position + 1) ∧
      Sql.Term.optionFlat changed.default := by
  unfold addRule at given
  split at given
  · cases given
    exact ⟨rfl, within, before⟩
  · cases given
    exact ⟨rfl, within, before⟩
  · rename_i value rule
    cases given
    rw [rule] at flat
    exact ⟨rfl, within, flat⟩
  · cases given
    refine ⟨rfl, within_addKey within ?_, before⟩
    simp [key]
  · cases given
    exact ⟨rfl, within, before⟩
  · cases given
  · cases given

theorem addColumn_ok {t : Sql.ColumnTerm} (flat : t.isFlat) (within : l.Within l.columns.length)
    (given : addColumn c schema l t = .ok next) :
    ∃ column, next.columns = l.columns ++ [column] ∧ next.Within next.columns.length ∧
      Sql.Term.optionFlat column.default := by
  unfold addColumn at given
  split at given
  · cases given
  · obtain ⟨⟨first, started⟩, start, given⟩ := bind_ok given
    obtain ⟨⟨column, ruled⟩, folded, given⟩ := bind_ok given
    cases given
    obtain ⟨columns, keys, default⟩ := startColumn_ok start
    have startWithin : started.Within (l.columns.length + 1) := fun k member position named =>
      Nat.lt_succ_of_lt (within k (keys ▸ member) position named)
    have kept : ruled.columns = l.columns ∧ ruled.Within (l.columns.length + 1) ∧
        Sql.Term.optionFlat column.default := by
      refine Run.foldlM_ok (p := fun state : ColumnDef × Layout => state.2.columns = l.columns ∧
        state.2.Within (l.columns.length + 1) ∧ Sql.Term.optionFlat state.1.default)
        ?_ ⟨columns, startWithin, default⟩ folded
      -- every rule is applied at the place that the column will have
      rintro ⟨before, layout⟩ ⟨same, keysWithin, flatBefore⟩ o member ⟨after, result⟩ applied
      dsimp only at same keysWithin flatBefore applied ⊢
      rw [same] at applied
      have rule : o.rule.isFlat := List.all_eq_true.mp flat o member
      obtain ⟨unchanged, keysAfter, flatAfter⟩ := addRule_ok rule applied keysWithin flatBefore
      exact ⟨unchanged.trans same, keysAfter, flatAfter⟩
    obtain ⟨same, keysWithin, flatDefault⟩ := kept
    refine ⟨column, congrArg (· ++ [column]) same, ?_, flatDefault⟩
    intro k member position named
    rw [List.length_append, same]
    exact keysWithin k member position named

theorem Sound.addColumn {t : Sql.ColumnTerm} (sound : l.Sound) (flat : t.isFlat)
    (given : Layout.addColumn c schema l t = .ok next) : next.Sound := by
  obtain ⟨column, columns, within, default⟩ := addColumn_ok flat sound.keys given
  refine ⟨within, fun held member => ?_⟩
  rw [columns] at member
  rcases List.mem_append.mp member with old | new
  · exact sound.flat held old
  · exact List.mem_singleton.mp new ▸ default

/-! ### Constraints -/

theorem keyColumn_ok {name : String} {position : Nat} (given : l.keyColumn name = .ok position) :
    position < l.columns.length := by
  unfold keyColumn at given
  split at given
  · rename_i found
    cases given
    exact (List.findIdx?_eq_some_iff_getElem.mp found).1
  · cases given

/-- The layout demands more of its columns, and that is all that it changes about them. -/
structure Demands (l next : Layout) : Prop where
  types : next.columns.map (·.type) = l.columns.map (·.type)
  defaults : next.columns.map (·.default) = l.columns.map (·.default)

theorem demands_demand (l : Layout) (positions : List Nat) : l.Demands (l.demand positions) := by
  constructor <;>
    · refine List.ext_getElem (by simp [demand]) fun position before after => ?_
      simp only [demand, List.getElem_map, List.getElem_mapIdx]
      split <;> rfl

theorem Demands.width (demands : l.Demands next) : next.columns.length = l.columns.length := by
  simpa using congrArg List.length demands.types

theorem addConstraint_ok {constraint : Sql.Constraint} (within : l.Within l.columns.length)
    (given : l.addConstraint constraint = .ok next) :
    l.Demands next ∧ next.Within next.columns.length := by
  unfold addConstraint at given
  split at given
  · rename_i name columns primary
    obtain ⟨positions, found, given⟩ := bind_ok given
    cases given
    have named : ∀ position ∈ positions, position < l.columns.length :=
      Run.mapM_ok (fun _ _ _ => keyColumn_ok) found
    cases primary with
    | false => exact ⟨⟨rfl, rfl⟩, within_addKey within named⟩
    | true =>
        have demands := l.demands_demand positions
        refine ⟨⟨demands.types, demands.defaults⟩, ?_⟩
        refine within_addKey (l := l.demand positions) ?_ ?_
        · exact fun k member position here => demands.width.symm ▸ within k member position here
        · exact fun position member => demands.width.symm ▸ named position member
  · cases given
    exact ⟨⟨rfl, rfl⟩, within⟩
  · cases given

theorem flat_of_defaults {columns others : List ColumnDef}
    (same : others.map (·.default) = columns.map (·.default))
    (flat : ∀ c ∈ columns, Sql.Term.optionFlat c.default) :
    ∀ c ∈ others, Sql.Term.optionFlat c.default := by
  intro c member
  have there : c.default ∈ columns.map (·.default) := same ▸ List.mem_map_of_mem member
  obtain ⟨old, held, equal⟩ := List.mem_map.mp there
  exact equal ▸ flat old held

theorem Sound.addConstraint {constraint : Sql.Constraint} (sound : l.Sound)
    (given : l.addConstraint constraint = .ok next) : next.Sound := by
  obtain ⟨demands, within⟩ := addConstraint_ok sound.keys given
  exact ⟨within, flat_of_defaults demands.defaults sound.flat⟩

theorem within_empty (table : String) (bound : Nat) : (empty table).Within bound :=
  fun _ member => absurd member List.not_mem_nil

theorem sound_empty (table : String) : (empty table).Sound :=
  ⟨within_empty table _, fun _ member => absurd member List.not_mem_nil⟩

end Layout

/-- The layout of a new table is sound. -/
theorem Define.layoutOf_sound {c : Catalog} {schema name : String} {t : Sql.CreateTable}
    {l : Layout} (flat : t.columns.all (·.isFlat)) (given : layoutOf c schema name t = .ok l) :
    l.Sound := by
  obtain ⟨columns, added, given⟩ := Run.bind_ok given
  obtain ⟨constrained, more, given⟩ := Run.bind_ok given
  obtain ⟨_, _, given⟩ := Run.bind_ok given
  cases given
  have start : columns.Sound :=
    Run.foldlM_ok (p := Layout.Sound) (fun l sound t member next given =>
      sound.addColumn (List.all_eq_true.mp flat t member) given) (Layout.sound_empty name) added
  exact Run.foldlM_ok (p := Layout.Sound)
    (fun l sound constraint _ next given => sound.addConstraint given) start more

/-! ### Definitions -/

namespace Define

open Draft (Holds Settled Ahead)

variable {s t : Draft} {d : TableDef} {outcome : Outcome}

/-- The program, if it succeeds, goes from data that agree with the catalog to such data. -/
def Settles {α : Type} (m : Define α) : Prop :=
  ∀ ⦃s t : Draft⦄ ⦃a : α⦄, s.Settled → m.run s = (.ok a, t) → t.Settled

/-! ### Relations that are no tables -/

theorem alterOwner_settles (name : QName) : Settles (alterOwner name) := by
  intro s t outcome settled ran
  rw [alterOwner, catalog_bind_run] at ran
  obtain ⟨_, _, done⟩ := Run.lift_bind_ok ran
  cases done
  exact settled

theorem createSchema_settles (name : Option (List Sql.Ident)) (ifNotExists : Bool) :
    Settles (createSchema name ifNotExists) := by
  intro s t outcome settled ran
  unfold createSchema at ran
  split at ran
  · rw [catalog_bind_run] at ran
    obtain ⟨⟨created, next⟩, made, ran⟩ := Run.lift_bind_ok ran
    obtain ⟨_, given, done⟩ := changeCatalog_bind_ok ran
    cases given
    cases done
    have same := settled.catalog.ordered.same_createSchema made
    exact settled.grow (same.grows settled.catalog 0)
  · cases ran

theorem createEnum_settles (name : QName) (labels : List String) :
    Settles (createEnum name labels) := by
  intro s t outcome settled ran
  rw [createEnum, catalog_bind_run] at ran
  dsimp only at ran
  split at ran
  · cases ran
  · split at ran
    · cases ran
    · obtain ⟨id, u, taken, ran⟩ := Run.bind_run_ok ran
      obtain ⟨next, registered, done⟩ := changeCatalog_bind_ok ran
      cases done
      obtain ⟨data, same, free⟩ := allocate_ok settled.catalog taken
      have sound := same.sound settled.catalog
      obtain ⟨later, tables, counts, _⟩ :=
        sound.register (free.saves 0) registered trivial (by simp) (.inr free)
      rw [data]
      exact Holds.recatalog settled later (fun d => (tables d).trans same.table_iff)
        fun id counted => counts id (same.counts_iff.mpr counted)

theorem createSequence_settles (name : QName) (ifNotExists : Bool) (clauses : List SequenceClause) :
    Settles (createSequence name ifNotExists clauses) := by
  intro s t outcome settled ran
  rw [createSequence, catalog_bind_run] at ran
  dsimp only at ran
  split at ran
  · split at ran
    · cases ran
      exact settled
    · cases ran
  · obtain ⟨options, _, ran⟩ := Run.lift_bind_ok ran
    obtain ⟨next, registered, done⟩ := changeCatalog_bind_ok ran
    cases done
    exact settled.grow (settled.catalog.registerNext 0 registered (fun _ => ⟨rfl, rfl⟩) (by simp))

theorem alterSequence_settles (name : QName) (ifExists : Bool) (clauses : List SequenceClause) :
    Settles (alterSequence name ifExists clauses) := by
  intro s t outcome settled ran
  rw [alterSequence, catalog_bind_run] at ran
  split at ran
  · cases ran
    exact settled
  · cases ran
  · obtain ⟨⟨options, restart⟩, _, ran⟩ := Run.lift_bind_ok ran
    obtain ⟨next, replaced, ran⟩ := changeCatalog_bind_ok ran
    obtain ⟨sound, tables, counts, counted⟩ := settled.catalog.replaceSequence replaced
    have kept : Settled ⟨next, s.data⟩ :=
      Holds.recatalog settled sound tables fun id => (counts id).mpr
    cases restart with
    | none =>
        cases ran
        exact kept
    | some value =>
        cases ran
        exact ⟨sound, settled.formed.set _ _,
          Store.agrees_putSequence kept.data ((counts _).mpr counted) _⟩

/-! ### Tables that come -/

theorem createTable_settles {statement : Sql.CreateTable}
    (flat : statement.columns.all (·.isFlat)) : Settles (createTable statement) := by
  intro s t outcome settled ran
  unfold createTable at ran
  dsimp only at ran
  split at ran
  · cases ran
  · rw [catalog_bind_run] at ran
    obtain ⟨name, _, ran⟩ := Run.lift_bind_ok ran
    split at ran
    · split at ran
      · cases ran
        exact settled
      · cases ran
    · obtain ⟨l, laid, ran⟩ := Run.lift_bind_ok ran
      obtain ⟨_, _, ran⟩ := Run.lift_bind_ok ran
      have layout := layoutOf_sound flat laid
      obtain ⟨id, u, taken, ran⟩ := Run.bind_run_ok ran
      obtain ⟨dataTaken, same, free⟩ := allocate_ok settled.catalog taken
      obtain ⟨indexes, v, allocated, ran⟩ := Run.bind_run_ok ran
      have soundTaken := same.sound settled.catalog
      obtain ⟨dataGiven, more, numbers, distinct, keys⟩ := allocateIndexes_ok soundTaken allocated
      obtain ⟨next, registered, ran⟩ := changeCatalog_bind_ok ran
      obtain ⟨_, w, parts, done⟩ := Run.bind_run_ok ran
      cases done
      let d : TableDef :=
        ⟨id, s.catalog.targetSchema name, name.name, l.columns, l.checks, indexes⟩
      have wellFormed : d.WellFormed := ⟨layout.keys.indexes keys, distinct⟩
      have listed : ∀ i ∈ d.indexes, i.id ≠ d.id ∧ v.catalog.Free i.id := by
        intro i member
        obtain ⟨above, unused⟩ := numbers i member
        exact ⟨Nat.ne_of_gt (Nat.lt_of_lt_of_le free.given above), unused⟩
      have together := same.trans more
      obtain ⟨sound, tables, counts, saves⟩ := (together.sound settled.catalog).registerTable
        (d := d) (more.free free) registered wellFormed layout.flat listed
      obtain ⟨dataLater, grows⟩ := registerParts_ok sound saves distinct parts
      have data : w.data = s.data := dataLater.trans (dataGiven.trans dataTaken)
      dsimp only
      rw [data]
      refine settled.addTable (d := d) grows.sound (fun e held => ?_) (fun e => ?_) ?_
      · exact free.not_table (same.table_iff.mpr held)
      · exact (grows.tables e).trans ((tables e).trans (or_congr Iff.rfl together.table_iff))
      · exact fun number counted =>
          grows.counts number ((counts number).mpr (together.counts_iff.mpr counted))

/-! ### Indexes that come -/

/-- A table gets columns that the content has already, and indexes that are filled from the rows. -/
theorem extend_settled {u v w : Draft} {next : Catalog} {columns : List ColumnDef}
    {checks : List CheckDef} {indexes : List IndexDef} {extended : TableDef}
    (shape : { d with columns, checks }.addIndexes indexes = extended)
    (held : u.catalog.Table d) (ahead : u.Ahead { d with columns, checks })
    (wider : d.columns.length ≤ columns.length)
    (flat : ∀ c ∈ columns, Sql.Term.optionFlat c.default)
    (covered : ∀ i ∈ indexes, ∀ c ∈ i.columns, c < columns.length)
    (free : ∀ i ∈ indexes, u.catalog.Free i.id) (distinct : (indexes.map (·.id)).Nodup)
    (filled : (fillIndexes extended indexes).run u = (.ok (), v)) (data : w.data = v.data)
    (grows : Catalog.Grows d.id v.catalog w.catalog)
    (replaced : w.catalog.replaceTable extended = .ok next) : Settled ⟨next, w.data⟩ := by
  subst shape
  have sound := ahead.catalog
  have fresh : ∀ i ∈ indexes, i.id ∉ d.indexes.map (·.id) := fun i member =>
    (free i member).unlisted d held
  have catalog := fillIndexes_catalog filled
  have filledAhead := fillIndexes_ok ahead rfl rfl fresh distinct filled
  have before : ({ d with columns, checks } : TableDef).WellFormed := by
    refine ⟨fun i member c indexed => ?_, (sound.wellFormed held).distinct⟩
    exact Nat.lt_of_lt_of_le ((sound.wellFormed held).columns i member c indexed) wider
  have listed : ∀ i ∈ d.indexes ++ indexes, u.catalog.Reserves d.id i.id := by
    intro i member
    rcases List.mem_append.mp member with old | new
    · exact sound.listed _ _ _ held i old
    · exact ((free i new).saves d.id).reserves
  rw [data]
  refine (filledAhead.grow grows).replaceTable replaced ?_ flat fun i member => ?_
  · exact before.addIndexes covered fresh distinct
  · exact grows.reserves _ (catalog ▸ listed i member)

theorem indexedColumns_ok {keys : List Sql.OrderTerm} {columns : List (String × Nat)}
    (given : indexedColumns d keys = .ok columns) : ∀ e ∈ columns, e.2 < d.columns.length := by
  refine Run.mapM_ok (fun key _ e named => ?_) given
  obtain ⟨name, _, named⟩ := Run.bind_ok named
  obtain ⟨position, found, named⟩ := Run.bind_ok named
  cases named
  unfold TableDef.position at found
  split at found
  · rename_i there
    cases found
    exact (List.findIdx?_eq_some_iff_getElem.mp there).1
  · cases found

/-- An index comes for a table of the catalog, unless its name is taken. -/
theorem defineIndex_settles (table : List Sql.Ident) (keys : List Sql.OrderTerm)
    (name : TableDef → List (String × Nat) → String) (unique ifNotExists : Bool) :
    Settles (defineIndex table keys name unique ifNotExists) := by
  intro s t outcome settled ran
  rw [defineIndex, catalog_bind_run] at ran
  obtain ⟨qualified, _, ran⟩ := Run.lift_bind_ok ran
  obtain ⟨d, found, ran⟩ := Run.lift_bind_ok ran
  obtain ⟨columns, named, ran⟩ := Run.lift_bind_ok ran
  obtain ⟨schema, _, has⟩ := settled.catalog.ordered.table_has found
  have held := (settled.catalog.has_table has).2.2
  dsimp only at ran
  split at ran
  · split at ran
    · cases ran
      exact settled
    · cases ran
  · obtain ⟨id, u, taken, ran⟩ := Run.bind_run_ok ran
    obtain ⟨data, same, free⟩ := allocate_ok settled.catalog taken
    have renewed : u.Settled := by
      have grown := settled.grow (same.grows settled.catalog d.id)
      rwa [← data] at grown
    obtain ⟨_, v, filled, ran⟩ := Run.bind_run_ok ran
    obtain ⟨registered, given, ran⟩ := changeCatalog_bind_ok ran
    obtain ⟨next, replaced, done⟩ := changeCatalog_bind_ok ran
    cases done
    have heldThen := same.table_iff.mpr held
    have catalog := fillIndexes_catalog filled
    have sound : v.catalog.Sound := catalog ▸ renewed.catalog
    obtain ⟨grows, _⟩ := sound.registerIndex (catalog ▸ free.saves d.id) given
    refine extend_settled (w := ⟨registered, v.data⟩) rfl heldThen (renewed.ahead heldThen)
      (Nat.le_refl _) (renewed.catalog.flat heldThen) ?_ (by simpa using free) (by simp) filled rfl
      grows replaced
    refine List.forall_mem_singleton.mpr fun c indexed => ?_
    obtain ⟨e, listed, rfl⟩ := List.mem_map.mp indexed
    exact indexedColumns_ok named e listed

theorem createIndex_settles (o : DbOptions) (statement : Sql.CreateIndex) :
    Settles (createIndex o statement) := by
  refine createIndex_cases o statement ?_ (fun _ => ?_) fun name => defineIndex_settles _ _ name _ _
  · intro s t outcome settled ran
    cases ran
    exact settled
  · intro s t outcome _ ran
    cases ran

/-! ### Relations that go -/

theorem tableById_ok (sound : s.catalog.Sound) {id : Nat} (found : s.catalog.tableById id = .ok d) :
    s.catalog.Table d ∧ d.id = id := by
  obtain ⟨schema, has⟩ := sound.ordered.tableById_has found
  obtain ⟨_, same, held⟩ := sound.has_table has
  exact ⟨held, same.symm⟩

theorem dropTable_settled (settled : s.Settled) (remembers : s.catalog.Remembers d.id (.table d))
    (ran : (dropTable s.catalog d).run s = (.ok (), t)) :
    t.Settled ∧ s.catalog.Sheds t.catalog := by
  obtain ⟨_, u, indexes, ran⟩ := Run.bind_run_ok ran
  have first := dropIndexes_ok settled (remembers.table d rfl).2 indexes
  obtain ⟨_, v, sequences, ran⟩ := Run.bind_run_ok ran
  have second := discardAll_ok first.holds (fun sequence owned e held =>
    settled.catalog.owned_not_table owned ((first.tables e).mp held)) sequences
  have trims := first.trans second
  obtain ⟨next, dropped, done⟩ := changeCatalog_bind_ok ran
  cases done
  obtain ⟨sound, tables, counts, sheds, _⟩ := trims.holds.catalog.drop dropped
  refine ⟨⟨sound, trims.holds.formed.remove _, ?_⟩, trims.sheds.trans sheds⟩
  refine Store.agrees_removeTable
    (trims.holds.data.mono (fun _ => Iff.rfl) fun number counted => ?_) fun e => ?_
  · refine (counts number).mpr ⟨?_, counted⟩
    rintro rfl
    obtain ⟨schema, sequence, has⟩ := counted
    exact absurd ((remembers.sheds trims.sheds).kind schema _ has) (by simp [Relation.kind])
  · exact (tables e).trans (and_congr (trims.tables e) Iff.rfl)

theorem dropIndex_ok {index : Nat} (settled : s.Settled) (held : s.catalog.Table d)
    (other : ∀ schema r, s.catalog.Has schema index r → r.kind = "index")
    (ran : (dropIndex d.id index).run s = (.ok (), t)) :
    t.Ahead (d.removeIndex index) ∧ s.catalog.Sheds t.catalog := by
  rw [dropIndex, content_bind_run, putContent_bind_run] at ran
  obtain ⟨next, dropped, rfl⟩ := changeCatalog_ok ran
  have ahead := settled.ahead held
  have put := ahead.putContent (e := d.removeIndex index) rfl (ahead.content.dropIndex index)
  have trims := dropIndex_trims put other dropped
  exact ⟨trims.ahead, trims.sheds⟩

theorem dropRelation_settled {id : Nat} {r : Relation} (settled : s.Settled)
    (remembers : s.catalog.Remembers id r) (ran : (dropRelation id r).run s = (.ok (), t)) :
    t.Settled ∧ s.catalog.Sheds t.catalog := by
  rw [dropRelation, catalog_bind_run] at ran
  cases r with
  | table d =>
      obtain ⟨rfl, _⟩ := remembers.table d rfl
      exact dropTable_settled settled remembers ran
  | index table name =>
      obtain ⟨d, found, ran⟩ := Run.lift_bind_ok ran
      obtain ⟨held, rfl⟩ := tableById_ok settled.catalog found
      obtain ⟨_, u, dropped, ran⟩ := Run.bind_run_ok ran
      obtain ⟨ahead, sheds⟩ := dropIndex_ok settled held remembers.kind dropped
      obtain ⟨next, replaced, rfl⟩ := changeCatalog_ok ran
      have wellFormed := (settled.catalog.wellFormed held).removeIndex id
      have flat : (d.removeIndex id).Flat := fun c => settled.catalog.flat held c
      refine ⟨ahead.replaceTable replaced wellFormed flat fun i member => ?_,
        sheds.trans (ahead.catalog.sheds_replaceTable replaced)⟩
      exact sheds.reserves _ _ (settled.catalog.listed _ _ _ held i (List.mem_filter.mp member).1)
  | sequence d =>
      have trims := discard_ok settled (fun e => remembers.not_table (by simp [Relation.kind])) ran
      exact ⟨trims.settled, trims.sheds⟩
  | type t =>
      cases ran
      exact ⟨settled, .same _⟩

theorem drop_settles (statement : Sql.Drop) : Settles (drop statement) := by
  intro s t outcome settled ran
  obtain ⟨kind, _, ran⟩ := Run.lift_bind_ok ran
  rw [catalog_bind_run, Run.mapM_lift] at ran
  obtain ⟨found, given, ran⟩ := Run.lift_bind_ok ran
  have there := found_relations settled.catalog.ordered given
  dsimp only at ran
  split at ran
  · cases ran
    exact settled
  · obtain ⟨_, v, all, done⟩ := Run.bind_run_ok ran
    have kept : v.Settled ∧ s.catalog.Sheds v.catalog := by
      refine Run.forM_run_keeps (p := fun v => v.Settled ∧ s.catalog.Sheds v.catalog) ?_
        ⟨settled, .same _⟩ all
      rintro ⟨number, r⟩ member u w ⟨settledThen, sheds⟩ one
      obtain ⟨_, schema, has⟩ := there _ member
      obtain ⟨after, more⟩ :=
        dropRelation_settled settledThen ((settled.catalog.remembers has).sheds sheds) one
      exact ⟨after, sheds.trans more⟩
    cases done
    exact kept.1

end Define

end SqlEngine
