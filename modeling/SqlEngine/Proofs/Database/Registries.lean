import SqlEngine.Proofs.Database.Alterations
import SqlEngine.Proofs.Database.Linking
import SqlEngine.Proofs.Database.Rollback

/-!
The registries agree in every database that can be met.

Statements that define relations keep the agreement if they succeed, and leave the catalog as it was
if they fail. No other statement touches a relation.
-/

namespace SqlEngine

namespace Define

open Catalog (Linked Focused)

variable {s t : Draft} {d e : TableDef} {now : Timestamp} {position : Nat}

/-! ### Programs that leave the catalog as it is -/

theorem evaluate_catalog {α : Type} {m : Env → Eval α} {a : α}
    (ran : (evaluate now m).run s = (.ok a, t)) : t.catalog = s.catalog := by
  obtain ⟨_, _, rfl⟩ := evaluate_ok ran
  rfl

theorem newValue_catalog {l : Layout} {column : ColumnDef} {hasRows : Bool} {v : Value}
    (ran : (newValue now l column hasRows).run s = (.ok v, t)) : t.catalog = s.catalog := by
  unfold newValue at ran
  split at ran
  · split at ran
    · rw [catalog_bind_run] at ran
      obtain ⟨_, _, ran⟩ := Run.lift_bind_ok ran
      obtain ⟨_, _, ran⟩ := Run.lift_bind_ok ran
      exact evaluate_catalog ran
    · cases ran
      rfl
  · cases ran
    rfl

theorem checkRows_catalog {checks : List CheckDef}
    (ran : (checkRows now d checks).run s = (.ok (), t)) : t.catalog = s.catalog := by
  obtain ⟨_, _, ran⟩ := checkRows_run_ok ran
  exact evaluate_catalog ran

/-! ### Columns and constraints that come -/

/-- A table gets the keys of a layout, under numbers that were taken for them. -/
theorem layOut_linked {l : Layout} {indexes : List IndexDef}
    (ran : (do
      fillIndexes e indexes
      registerParts e l indexes
      changeCatalog (·.replaceTable e) : Define Unit).run s = (.ok (), t))
    (focused : s.catalog.Focused d d.Lists) (unused : ∀ i ∈ indexes, s.catalog.Unused i.id)
    (distinct : (indexes.map (·.id)).Nodup) (id : e.id = d.id) (schema : e.schema = d.schema)
    (name : e.name = d.name) (listed : e.indexes = d.indexes ++ indexes) : t.catalog.Linked := by
  obtain ⟨_, u, filled, ran⟩ := Run.bind_run_ok ran
  obtain ⟨_, v, registered, ran⟩ := Run.bind_run_ok ran
  obtain ⟨next, replaced, rfl⟩ := changeCatalog_ok ran
  have same := fillIndexes_catalog filled
  have parted := registerParts_focused id schema (same ▸ focused) (same ▸ unused) distinct registered
  exact extend_linked parted id schema name listed (distinct_append focused unused distinct) replaced

theorem addColumn_linked {c : Sql.ColumnTerm} (linked : s.catalog.Linked)
    (focused : s.catalog.Focused d d.Lists) (ran : (addColumn now d c).run s = (.ok (), t)) :
    t.catalog.Linked := by
  rw [addColumn, catalog_bind_run] at ran
  obtain ⟨l, _, ran⟩ := Run.lift_bind_ok ran
  obtain ⟨_, _, ran⟩ := Run.lift_bind_ok ran
  obtain ⟨_, _, ran⟩ := Run.lift_bind_ok ran
  rw [content_bind_run] at ran
  dsimp only at ran
  split at ran
  · obtain ⟨v, u, found, ran⟩ := Run.bind_run_ok ran
    have catalog := newValue_catalog found
    split at ran
    · cases ran
    · obtain ⟨indexes, w, allocated, ran⟩ := Run.bind_run_ok ran
      rw [← catalog] at linked focused
      obtain ⟨kept, numbers, distinct⟩ := allocateIndexes_kept linked.registered allocated
      rw [content_bind_run, putContent_bind_run] at ran
      exact layOut_linked ran (focused.keep kept) (fun i member => (numbers i member).1) distinct rfl
        rfl rfl rfl
  · cases ran
    exact linked

theorem addConstraint_linked {constraint : Sql.Constraint} (linked : s.catalog.Linked)
    (focused : s.catalog.Focused d d.Lists)
    (ran : (addConstraint now d constraint).run s = (.ok (), t)) : t.catalog.Linked := by
  obtain ⟨l, _, ran⟩ := Run.lift_bind_ok ran
  obtain ⟨_, _, ran⟩ := Run.lift_bind_ok ran
  rw [catalog_bind_run] at ran
  obtain ⟨_, _, ran⟩ := Run.lift_bind_ok ran
  obtain ⟨_, u, checked, ran⟩ := Run.bind_run_ok ran
  rw [content_bind_run] at ran
  dsimp only at ran
  split at ran
  · cases ran
  · obtain ⟨indexes, w, allocated, ran⟩ := Run.bind_run_ok ran
    rw [← checkRows_catalog checked] at linked focused
    obtain ⟨kept, numbers, distinct⟩ := allocateIndexes_kept linked.registered allocated
    exact layOut_linked ran (focused.keep kept) (fun i member => (numbers i member).1) distinct rfl
      rfl rfl rfl

/-! ### Other definitions with the same indexes -/

theorem redefine_linked {c next : Catalog} (replaced : c.replaceTable e = .ok next)
    (focused : c.Focused d d.Lists) (id : e.id = d.id) (schema : e.schema = d.schema)
    (name : e.name = d.name) (indexes : e.indexes = d.indexes) : next.Linked := by
  have distinct := (focused.registered.placed _ _ _ focused.held).2.2
  refine (focused.replaceTable id schema name (indexes ▸ distinct) replaced).settle fun id name => ?_
  rw [TableDef.Lists, TableDef.Lists, indexes]

theorem changedColumn_eq {content : TableData} {column : String} {change : Sql.ColumnChange}
    (given : changedColumn d position content column change = .ok e) :
    ∃ f, e = changeColumn d position f := by
  unfold changedColumn at given
  split at given
  · split at given <;> cases given
    exact ⟨_, rfl⟩
  · split at given <;> cases given
    exact ⟨_, rfl⟩
  · cases given
    exact ⟨_, rfl⟩
  · cases given
    exact ⟨_, rfl⟩
  · cases given

/-! ### Columns and constraints that go -/

/-- The indexes that a column leaves are those that do not go with it. -/
theorem lists_removeColumn (distinct : (d.indexes.map (·.id)).Nodup) {id : Nat} {name : String} :
    (d.removeColumn position).Lists id name ↔
      id ∉ (d.indexes.filter (·.columns.contains position)).map (·.id) ∧ d.Lists id name := by
  constructor
  · rintro ⟨j, member, rfl, rfl⟩
    obtain ⟨i, old, kept, rfl⟩ := TableDef.mem_indexes_removeColumn.mp member
    refine ⟨fun gone => ?_, i, old, rfl, rfl⟩
    obtain ⟨other, chosen, same⟩ := List.mem_map.mp gone
    obtain ⟨there, has⟩ := List.mem_filter.mp chosen
    obtain rfl := List.inj_on_of_nodup_map distinct there old same
    exact kept (List.contains_iff_mem.mp has)
  · rintro ⟨stays, i, old, rfl, rfl⟩
    refine ⟨i.withoutPosition position, TableDef.mem_indexes_removeColumn.mpr ⟨i, old, ?_, rfl⟩,
      rfl, rfl⟩
    exact fun has => stays (List.mem_map_of_mem (List.mem_filter.mpr ⟨old, List.contains_iff_mem.mpr has⟩))

theorem dropColumn_linked {column : String} (focused : s.catalog.Focused d d.Lists)
    (ran : (dropColumn d position column).run s = (.ok (), t)) : t.catalog.Linked := by
  rw [dropColumn, catalog_bind_run, content_bind_run, putContent_bind_run] at ran
  obtain ⟨_, u, discarded, ran⟩ := Run.bind_run_ok ran
  obtain ⟨next, replaced, rfl⟩ := changeCatalog_ok ran
  have belongs : ∀ number ∈ (d.indexes.filter (·.columns.contains position)).map (·.id) ++
      ((s.catalog.ownedSequences d).filter
        (·.options.ownedBy == some (d.name ++ "." ++ column))).map (·.id),
      s.catalog.Belongs d number := by
    intro number member
    rcases List.mem_append.mp member with index | sequence
    · obtain ⟨i, gone, rfl⟩ := List.mem_map.mp index
      exact focused.belongs_index ⟨i, (List.mem_filter.mp gone).1, rfl, rfl⟩
    · obtain ⟨q, chosen, rfl⟩ := List.mem_map.mp sequence
      exact focused.belongs_owned (List.mem_filter.mp chosen).1
  have left := drops_focused id discard_drops discarded focused belongs
  have before := (focused.registered.placed _ _ _ focused.held).2.2
  have distinct := before.sublist (d.removeColumn_ids position)
  let reduced : TableDef := { d.removeColumn position with
    checks := d.checks.filter fun check => !mentions check.condition column }
  refine (left.replaceTable (e := reduced) rfl rfl rfl distinct replaced).settle fun id name => ?_
  refine Iff.trans ?_ (lists_removeColumn before).symm
  rw [List.map_id, List.mem_append, not_or, and_assoc]
  refine and_congr_right fun _ => and_iff_right_of_imp fun listed member => ?_
  -- the number of an index is not that of a sequence
  obtain ⟨q, chosen, rfl⟩ := List.mem_map.mp member
  exact focused.owned_unlisted (List.mem_filter.mp chosen).1 name listed

theorem dropConstraint_linked {name : String} {ifExists : Bool} (linked : s.catalog.Linked)
    (focused : s.catalog.Focused d d.Lists)
    (ran : (dropConstraint d name ifExists).run s = (.ok (), t)) : t.catalog.Linked := by
  unfold dropConstraint at ran
  split at ran
  · rename_i index found
    obtain ⟨_, u, dropped, ran⟩ := Run.bind_run_ok ran
    obtain ⟨next, replaced, rfl⟩ := changeCatalog_ok ran
    have listed : d.Lists index.id index.name :=
      ⟨index, List.mem_of_find?_eq_some found, rfl, rfl⟩
    have recalls : s.catalog.Recalls index.id (.index d.id index.name) := fun _ _ has =>
      linked.registered.relation_unique has ((focused.own _ _ _).mpr ⟨rfl, listed⟩)
    obtain ⟨reduced, _⟩ := dropIndex_focused linked focused recalls dropped
    have distinct := (focused.registered.placed _ _ _ focused.held).2.2
    rw [eraseP_eq_filter distinct found] at replaced
    exact reduce_linked reduced replaced
  · obtain ⟨next, replaced, rfl⟩ := changeCatalog_ok ran
    exact redefine_linked replaced focused rfl rfl rfl rfl
  · split at ran
    · cases ran
    · cases ran
      exact linked

/-! ### The statement -/

theorem alterOne_links (now : Timestamp) (id : Nat) (change : Sql.TableChange) :
    Links (alterOne now id change) := by
  intro s t _ linked ran
  rw [alterOne, catalog_bind_run] at ran
  obtain ⟨d, found, ran⟩ := Run.lift_bind_ok ran
  obtain ⟨schema, has⟩ := linked.registered.ordered.tableById_has found
  obtain ⟨rfl, focused⟩ := linked.focus has
  cases change with
  | rename name =>
      obtain ⟨next, renamed, rfl⟩ := changeCatalog_ok ran
      exact (focused.rename renamed).settle fun _ _ => Iff.rfl
  | addColumn c ifNotExists =>
      dsimp only at ran
      split at ran
      · exact addColumn_linked linked focused ran
      · split at ran
        · cases ran
        · cases ran
          exact linked
  | dropColumn name ifExists =>
      dsimp only at ran
      split at ran
      · exact dropColumn_linked focused ran
      · split at ran
        · obtain ⟨_, _, done⟩ := Run.lift_bind_ok ran
          cases done
          exact linked
        · cases ran
          exact linked
  | renameColumn before after =>
      obtain ⟨position, _, ran⟩ := Run.lift_bind_ok ran
      dsimp only at ran
      split at ran
      · cases ran
      · obtain ⟨next, replaced, rfl⟩ := changeCatalog_ok ran
        exact redefine_linked replaced focused rfl rfl rfl rfl
  | changeColumn name change =>
      obtain ⟨position, _, ran⟩ := Run.lift_bind_ok ran
      rw [content_bind_run] at ran
      obtain ⟨changed, given, ran⟩ := Run.lift_bind_ok ran
      obtain ⟨next, replaced, rfl⟩ := changeCatalog_ok ran
      obtain ⟨f, rfl⟩ := changedColumn_eq given
      exact redefine_linked replaced focused rfl rfl rfl rfl
  | addConstraint constraint => exact addConstraint_linked linked focused ran
  | dropConstraint name ifExists => exact dropConstraint_linked linked focused ran
  | unsupported text => cases ran

theorem alterTable_links (now : Timestamp) (statement : Sql.AlterTable) :
    Links (alterTable now statement) := by
  intro s t outcome linked ran
  rw [alterTable, catalog_bind_run] at ran
  obtain ⟨name, _, ran⟩ := Run.lift_bind_ok ran
  split at ran
  · cases ran
    exact linked
  · cases ran
  · obtain ⟨_, u, altered, done⟩ := Run.bind_run_ok ran
    cases done
    exact Run.forM_run_keeps (p := fun u => u.catalog.Linked)
      (fun change _ u v linkedThen one => alterOne_links now _ change linkedThen one) linked altered

end Define

/-! ### Databases -/

namespace Database

open Sql (Statement)

variable {db after : Database}

theorem inSavepoint_catalog (db : Database) (m : Env → Eval Outcome) :
    (db.inSavepoint m).2.catalog = db.catalog := by
  simp only [inSavepoint]
  split <;> rfl

/-- The catalog after a definition is the one that it leaves, or the one from before it failed. -/
theorem define_catalog (db : Database) (m : Define Outcome) :
    (db.define m).2.catalog = db.catalog ∨ ∃ data outcome t,
      m.run ⟨db.catalog, data⟩ = (.ok outcome, t) ∧ (db.define m).2.catalog = t.catalog := by
  simp only [define, Transaction.savepoint]
  rcases ran : m.run ⟨db.catalog, ⟨db.store.commitAll.fork, db.drawn⟩⟩ with ⟨result, t⟩
  cases result with
  | error e => exact .inl rfl
  | ok outcome => exact .inr ⟨_, outcome, t, ran, rfl⟩

/-- A definition that succeeds leaves the catalog that its program leaves. -/
theorem define_ok {m : Define Outcome} {outcome : Outcome}
    (done : db.define m = (.ok outcome, after)) :
    ∃ data t, m.run ⟨db.catalog, data⟩ = (.ok outcome, t) ∧ after.catalog = t.catalog := by
  simp only [define, Transaction.savepoint] at done
  rcases ran : m.run ⟨db.catalog, ⟨db.store.commitAll.fork, db.drawn⟩⟩ with ⟨result, t⟩
  rw [ran] at done
  cases result with
  | error e => cases done
  | ok given =>
      cases done
      exact ⟨_, t, ran, rfl⟩

/-- The catalog after a statement: another search path, what a definition leaves, or the same. -/
theorem manner_catalog (db : Database) (m : Manner) :
    (m.run db).2.catalog = db.catalog ∨
      (∃ path, m = .searchPath path ∧ (m.run db).2.catalog = db.catalog.setSearchPath path) ∨
      ∃ program, m = .definition program ∧ ∃ data outcome t,
        (program db.options db.now).run ⟨db.catalog, data⟩ = (.ok outcome, t) ∧
          (m.run db).2.catalog = t.catalog := by
  cases m with
  | rows m => exact .inl (db.inSavepoint_catalog m)
  | definition program =>
      exact (db.define_catalog _).imp_right fun made => .inr ⟨program, rfl, made⟩
  | searchPath path => exact .inr (.inl ⟨path, rfl, rfl⟩)
  | start =>
      refine .inl ?_
      change db.startTransaction.2.catalog = _
      unfold startTransaction
      split <;> rfl
  | commit =>
      refine .inl ?_
      change db.commit.2.catalog = _
      unfold commit
      split <;> rfl
  | rollback =>
      refine .inl ?_
      change db.rollback.2.catalog = _
      unfold rollback
      split <;> rfl
  | idle result => exact .inl rfl

/-- The program of the manner keeps the registries in agreement, if it defines anything. -/
def Manner.Linking : Manner → Prop
  | definition m => ∀ o now, Define.Links (m o now)
  | _ => True

theorem manner_linked {m : Manner} (linking : m.Linking) (linked : db.catalog.Linked) :
    (m.run db).2.catalog.Linked := by
  obtain same | ⟨path, rfl, same⟩ | ⟨program, rfl, data, outcome, t, ran, same⟩ :=
    db.manner_catalog m
  · exact same ▸ linked
  · exact same ▸ linked.of_schemas rfl (Nat.le_refl _)
  · exact same ▸ linking db.options db.now (s := ⟨db.catalog, data⟩) linked ran

end Database

theorem Sql.Statement.linking_manner (s : Statement) : s.manner.Linking := by
  cases s with
  | setVariable scope name values =>
      simp only [manner]
      split <;> trivial
  | createTable t => exact fun _ _ => Define.createTable_links t
  | createIndex t => exact fun o _ => Define.createIndex_links o t
  | createSchema name ifNotExists => exact fun _ _ => Define.createSchema_links name ifNotExists
  | alterTable t => exact fun _ now => Define.alterTable_links now t
  | drop t => exact fun _ _ => Define.drop_links t
  | createSequence name ifNotExists clauses =>
      exact fun _ _ => Define.createSequence_links name ifNotExists clauses
  | alterSequence name ifExists clauses =>
      exact fun _ _ => Define.alterSequence_links name ifExists clauses
  | createEnum name labels => exact fun _ _ => Define.createEnum_links name labels
  | alterOwner table => exact fun _ _ => Define.alterOwner_links table
  | _ => trivial

namespace Database

variable {db : Database}

theorem lasting_linked : Lasting fun db => db.catalog.Linked where
  plain {db s} installer plain linked := by
    rw [s.run_eq plain]
    exact manner_linked s.linking_manner linked
  tick _ linked := linked
  close linked := linked
  installed _ linked := linked
  setSearchPath _ linked := linked.of_schemas rfl (Nat.le_refl _)
  createSchema made linked := by
    obtain ⟨⟨_, next⟩, given, result⟩ := Run.bind_ok made
    cases result
    exact (Catalog.Kept.createSchema linked.registered.ordered given).linked linked
  registerFunction registered linked := by
    obtain ⟨catalog, given, result⟩ := Run.bind_ok registered
    obtain ⟨_, _, given⟩ := Run.bind_ok given
    cases given
    cases result
    exact linked.of_schemas rfl (Nat.le_refl _)
  registerExtension _ _ linked := linked

theorem Reachable.linked (reachable : db.Reachable) : db.catalog.Linked :=
  lasting_linked.reachable (fun {o _ _} made => by
    obtain ⟨_, -, result⟩ := Run.bind_ok made
    cases result
    exact Catalog.linked_create o) reachable

end Database

end SqlEngine
