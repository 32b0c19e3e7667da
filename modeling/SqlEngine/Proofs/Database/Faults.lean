import SqlEngine.Proofs.Database.Drops
import SqlEngine.Proofs.Database.Registries

/-!
Statements that raise internal errors.

Among the statements that neither run a query nor change rows there are two. `DROP` does when it names
a relation twice. `ALTER TABLE` does when a term that it evaluates for the rows of the table does: the
rest of it cannot, as the table stays where it is from one change to the next.
-/

namespace SqlEngine

/-- The change evaluates terms that raise the error: the default of a column that comes, or the
condition of a check that comes. -/
def Sql.TableChange.Raises (now : Timestamp) (e : SqlError) : Sql.TableChange → Prop
  | .addColumn t _ => ∃ (s : Draft) (d : TableDef) (l : Layout) (column : ColumnDef) (hasRows : Bool),
      Layout.addColumn s.catalog d.schema { Layout.empty d.name with columns := d.columns } t = .ok l ∧
        l.columns[d.columns.length]? = some column ∧
        ((Define.newValue now l column hasRows).run s).1 = .error e
  | .addConstraint constraint => ∃ (s : Draft) (d : TableDef) (l : Layout),
      Layout.addConstraint { Layout.empty d.name with columns := d.columns, checks := d.checks }
        constraint = .ok l ∧
        ((Define.checkRows now d (l.checks.drop d.checks.length)).run s).1 = .error e
  | _ => False

namespace Define

open Catalog (Linked Open Registered Focused)

variable {what : String} {α β : Type} {s t : Draft} {d e : TableDef} {p : Draft → Prop}
  {now : Timestamp} {position : Nat}

/-- The run does not end in the internal error, and what it leaves when it succeeds meets a
condition. -/
structure Safe (what : String) {α : Type} (run : Except SqlError α × Draft) (p : Draft → Prop) :
    Prop where
  faultless : Faultless what run.1
  leaves : ∀ a t, run = (.ok a, t) → p t

theorem Safe.bind {m : Define α} {f : α → Define β} (first : Faultless what (m.run s).1)
    (next : ∀ a t, m.run s = (.ok a, t) → Safe what ((f a).run t) p) :
    Safe what ((m >>= f).run s) p where
  faultless := Faultless.run_bind first fun a t ran => (next a t ran).faultless
  leaves b t ran := by
    obtain ⟨a, u, one, ran⟩ := Run.bind_run_ok ran
    exact (next a u one).leaves b t ran

theorem Safe.lift_bind {x : Except SqlError α} {f : α → Define β} (first : Faultless what x)
    (next : ∀ a, x = .ok a → Safe what ((f a).run s) p) : Safe what ((liftM x >>= f).run s) p :=
  .bind first fun a t ran => by
    obtain ⟨given, rfl⟩ := Run.lift_run_ok ran
    exact next a given

theorem Safe.pure (a : α) (held : p s) : Safe what ((pure a : Define α).run s) p :=
  ⟨nofun, fun _ _ ran => by cases ran; exact held⟩

theorem Safe.query (e : QueryError) : Safe what ((throw (SqlError.query e) : Define α).run s) p :=
  ⟨nofun, nofun⟩

theorem Safe.notSupported (text : String) :
    Safe what ((throw (SqlError.notSupported text) : Define α).run s) p := ⟨nofun, nofun⟩

/-- The table of the number is there, under whatever definition. -/
def Stands (id : Nat) (s : Draft) : Prop := ∃ schema d, s.catalog.Has schema id (.table d)

theorem replaceTable_safe (ordered : s.catalog.Ordered) (writable : s.catalog.Open)
    (held : s.catalog.Has d.schema d.id (.table e)) :
    Safe what ((changeCatalog (·.replaceTable d)).run s) (Stands d.id) where
  faultless := replaceTable_faultless ordered writable held
  leaves _ t ran := by
    obtain ⟨next, replaced, rfl⟩ := changeCatalog_ok ran
    obtain ⟨altered, -⟩ := ordered.replaceTable_altered replaced
    exact ⟨d.schema, d, (altered.has _ _ _).mpr (by simp)⟩

theorem layOut_safe {l : Layout} {indexes : List IndexDef} (focused : s.catalog.Focused d d.Lists)
    (writable : s.catalog.Open) (unused : ∀ i ∈ indexes, s.catalog.Unused i.id)
    (distinct : (indexes.map (·.id)).Nodup) (id : e.id = d.id) (schema : e.schema = d.schema) :
    Safe what ((do
      fillIndexes e indexes
      registerParts e l indexes
      changeCatalog (·.replaceTable e) : Define Unit).run s) (Stands e.id) := by
  refine .bind (fillIndexes_faultless e indexes s) fun _ u filled => ?_
  refine .bind (registerParts_faultless e l indexes u) fun _ v registered => ?_
  have same := fillIndexes_catalog filled
  have parted := registerParts_focused id schema (same ▸ focused) (same ▸ unused) distinct registered
  have changeable := (registerParts_keeps free_open e l indexes
    (same ▸ ⟨focused.registered.ordered, writable⟩) registered).2
  exact replaceTable_safe parted.registered.ordered changeable (id ▸ schema ▸ parted.held)

theorem addColumn_safe {c : Sql.ColumnTerm} {ifNotExists : Bool} (linked : s.catalog.Linked)
    (writable : s.catalog.Open) (held : s.catalog.Has d.schema d.id (.table d))
    (spared : ¬(Sql.TableChange.addColumn c ifNotExists).Raises now (.internal what)) :
    Safe what ((addColumn now d c).run s) (Stands d.id) := by
  rw [addColumn, catalog_bind_run]
  refine .lift_bind (.addColumn _ _ _ _) fun l laid => ?_
  refine .lift_bind (.validate _ _) fun _ _ => .lift_bind (.ensureFree _ _ _ _) fun _ _ => ?_
  rw [content_bind_run]
  dsimp only
  split
  · rename_i column last
    -- only the value for the rows that are there can raise the error
    refine .bind (fun raised => spared ⟨s, d, l, column, _, laid, last, raised⟩) fun v u found => ?_
    have catalog := newValue_catalog found
    split
    · exact .query _
    refine .bind (allocateIndexes_faultless _ _) fun indexes w allocated => ?_
    rw [content_bind_run, putContent_bind_run]
    have focused := (linked.focus held).2
    have changeable := newValue_keeps free_open now l column _ ⟨linked.registered.ordered, writable⟩ found
    obtain ⟨kept, numbers, distinct⟩ := allocateIndexes_kept (catalog ▸ linked.registered) allocated
    exact layOut_safe (d := d) ((catalog ▸ focused).keep kept) (allocateIndexes_keeps free_open _ changeable allocated).2
      (fun i member => (numbers i member).1) distinct rfl rfl
  · exact .pure _ ⟨_, d, held⟩

theorem addConstraint_safe {constraint : Sql.Constraint} (linked : s.catalog.Linked)
    (writable : s.catalog.Open) (held : s.catalog.Has d.schema d.id (.table d))
    (spared : ¬(Sql.TableChange.addConstraint constraint).Raises now (.internal what)) :
    Safe what ((addConstraint now d constraint).run s) (Stands d.id) := by
  refine .lift_bind (.addConstraint _ _) fun l laid => .lift_bind (.validate _ _) fun _ _ => ?_
  rw [catalog_bind_run]
  refine .lift_bind (.ensureFree _ _ _ _) fun _ _ => ?_
  refine .bind (fun raised => spared ⟨s, d, l, laid, raised⟩) fun _ u checked => ?_
  have catalog := checkRows_catalog checked
  rw [content_bind_run]
  dsimp only
  split
  · exact .query _
  refine .bind (allocateIndexes_faultless _ _) fun indexes w allocated => ?_
  have focused := (linked.focus held).2
  have changeable := checkRows_keeps free_open now d _ ⟨linked.registered.ordered, writable⟩ checked
  obtain ⟨kept, numbers, distinct⟩ := allocateIndexes_kept (catalog ▸ linked.registered) allocated
  exact layOut_safe (d := d) ((catalog ▸ focused).keep kept) (allocateIndexes_keeps free_open _ changeable allocated).2
    (fun i member => (numbers i member).1) distinct rfl rfl

theorem trim_safe {numbers : List Nat} (registered : s.catalog.Registered) (writable : s.catalog.Open)
    (held : s.catalog.Has d.schema d.id (.table d)) (stays : d.id ∉ numbers)
    (there : ∀ number ∈ numbers, ∃ schema r, s.catalog.Has schema number r ∧ r.type? = none)
    (distinct : numbers.Nodup) (id : e.id = d.id) (schema : e.schema = d.schema) :
    Safe what ((do
      numbers.forM discard
      changeCatalog (·.replaceTable e) : Define Unit).run s) (Stands e.id) := by
  obtain ⟨u, ran, still, changeable, left⟩ := drops_run (fun number => number) discard_drops
    discard_runs registered writable there (by rwa [List.map_id'])
  rw [Run.bind_of_run ran]
  have standing := (left _ _ _).mpr ⟨by rwa [List.map_id'], held⟩
  exact replaceTable_safe still.ordered changeable (id ▸ schema ▸ standing)

/-- The indexes on a column and the sequence that fills it are there, and none of them is the
table. -/
theorem dropColumn_safe {column : String} (linked : s.catalog.Linked) (writable : s.catalog.Open)
    (held : s.catalog.Has d.schema d.id (.table d)) :
    Safe what ((dropColumn d position column).run s) (Stands d.id) := by
  have registered := linked.registered
  rw [dropColumn, catalog_bind_run, content_bind_run, putContent_bind_run]
  have indexes := (List.filter_sublist (p := (·.columns.contains position)) (l := d.indexes)).map
    IndexDef.id
  have sequences := (List.filter_sublist (l := s.catalog.ownedSequences d)
    (p := (·.options.ownedBy == some (d.name ++ "." ++ column)))).map SequenceDef.id
  refine trim_safe (d := d) registered writable held (fun member => ?_) (fun number member => ?_) ?_
    rfl rfl
  · rcases List.mem_append.mp member with index | sequence
    · exact linked.not_mem_indexes held held (by simp) (indexes.subset index)
    · exact registered.not_mem_owned held (by simp) (sequences.subset sequence)
  · rcases List.mem_append.mp member with index | sequence
    · obtain ⟨i, listed, rfl⟩ := List.mem_map.mp (indexes.subset index)
      exact ⟨_, _, (linked.indexes _ _ _ _).mpr ⟨d, held, i, listed, rfl, rfl⟩, rfl⟩
    · obtain ⟨q, owned, rfl⟩ := List.mem_map.mp (sequences.subset sequence)
      exact ⟨_, _, (registered.mem_ownedSequences.mp owned).1, rfl⟩
  · refine List.nodup_append.mpr ⟨(registered.placed _ _ _ held).2.2.sublist indexes,
      (registered.owned_nodup d).sublist sequences, ?_⟩
    rintro number index _ sequence rfl
    obtain ⟨q, owned, same⟩ := List.mem_map.mp (sequences.subset sequence)
    have has := (registered.mem_ownedSequences.mp owned).1
    exact linked.not_mem_indexes held has (by simp) (same ▸ indexes.subset index)

theorem dropConstraint_safe {name : String} {ifExists : Bool} (linked : s.catalog.Linked)
    (writable : s.catalog.Open) (held : s.catalog.Has d.schema d.id (.table d)) :
    Safe what ((dropConstraint d name ifExists).run s) (Stands d.id) := by
  have registered := linked.registered
  unfold dropConstraint
  split
  · rename_i i found
    have listed := List.mem_of_find?_eq_some found
    have there := (linked.indexes _ _ _ _).mpr ⟨d, held, i, listed, rfl, rfl⟩
    obtain ⟨next, dropped⟩ := registered.drop_of_has writable there rfl
    obtain ⟨u, ran⟩ := dropIndex_runs d.id dropped
    rw [Run.bind_of_run ran]
    obtain ⟨still, left⟩ := registered.drop_has (dropIndex_drops ran)
    have changeable := writable.drop registered.ordered (dropIndex_drops ran)
    have other : d.id ≠ i.id := fun same =>
      linked.not_mem_indexes held held (by simp) (List.mem_map.mpr ⟨i, listed, same.symm⟩)
    exact replaceTable_safe still.ordered changeable ((left _ _ _).mpr ⟨other, held⟩)
  · exact replaceTable_safe registered.ordered writable held
  · split
    · exact .query _
    · exact .pure _ ⟨_, d, held⟩

/-! ### Changes of tables -/

/-- A change of a table that is there raises an internal error only if a term raises it. -/
theorem alterOne_safe {id : Nat} {change : Sql.TableChange} (linked : s.catalog.Linked)
    (writable : s.catalog.Open) (stands : Stands id s)
    (spared : ¬change.Raises now (.internal what)) :
    Safe what ((alterOne now id change).run s) (Stands id) := by
  obtain ⟨schema, d, held⟩ := stands
  have registered := linked.registered
  obtain ⟨rfl, rfl, -⟩ := registered.placed _ _ _ held
  rw [alterOne, catalog_bind_run, registered.tableById_of_has held]
  refine .lift_bind (.ok _) fun _ same => ?_
  cases same
  cases change with
  | rename name =>
      refine ⟨changeCatalog_faultless ?_, fun _ t ran => ?_⟩
      · obtain ⟨s, found⟩ := registered.writableRelation_of_has writable held rfl
        rw [Catalog.rename, found]
        exact Faultless.bind (.ok _) fun _ _ => (Faultless.insert _ _ _).bind fun _ _ => .ok _
      · obtain ⟨next, renamed, rfl⟩ := changeCatalog_ok ran
        obtain ⟨-, altered⟩ := registered.rename held renamed
        exact ⟨d.schema, { d with name := Sql.lastName name }, (altered.has _ _ _).mpr (by simp)⟩
  | addColumn c ifNotExists =>
      dsimp only
      split
      · exact addColumn_safe linked writable held spared
      · split
        · exact .query _
        · exact .pure _ ⟨_, d, held⟩
  | dropColumn name ifExists =>
      dsimp only
      split
      · exact dropColumn_safe linked writable held
      · split
        · exact .lift_bind (.position _ _) fun _ _ => .pure _ ⟨_, d, held⟩
        · exact .pure _ ⟨_, d, held⟩
  | renameColumn before after =>
      refine .lift_bind (.position _ _) fun position _ => ?_
      dsimp only
      split
      · exact .query _
      · exact replaceTable_safe registered.ordered writable held
  | changeColumn name change =>
      refine .lift_bind (.position _ _) fun position _ => ?_
      rw [content_bind_run]
      refine .lift_bind ?_ fun changed given => ?_
      · unfold changedColumn
        repeat' split
        all_goals rintro ⟨⟩
      · obtain ⟨f, rfl⟩ := changedColumn_eq given
        exact replaceTable_safe registered.ordered writable held
  | addConstraint constraint => exact addConstraint_safe linked writable held spared
  | dropConstraint name ifExists => exact dropConstraint_safe linked writable held
  | unsupported text => exact .notSupported _

theorem alterAll_faultless {id : Nat} : ∀ {changes : List Sql.TableChange} {s : Draft},
    s.catalog.Linked → s.catalog.Open → Stands id s →
      (∀ change ∈ changes, ¬change.Raises now (.internal what)) →
        Faultless what ((changes.forM (alterOne now id)).run s).1 := by
  intro changes
  induction changes with
  | nil => exact fun _ _ _ _ => .ok _
  | cons change rest ih =>
      intro s linked writable stands spared
      obtain ⟨first, others⟩ := List.forall_mem_cons.mp spared
      obtain ⟨faultless, leaves⟩ := alterOne_safe linked writable stands first
      refine Faultless.run_bind faultless fun _ t ran => ?_
      have changeable := alterOne_keeps free_open now id change ⟨linked.registered.ordered, writable⟩ ran
      exact ih (alterOne_links now id change linked ran) changeable.2 (leaves _ _ ran) others

theorem alterTable_faultless {statement : Sql.AlterTable} (linked : s.catalog.Linked)
    (writable : s.catalog.Open)
    (spared : ∀ change ∈ statement.changes, ¬change.Raises now (.internal what)) :
    Faultless what ((alterTable now statement).run s).1 := by
  rw [alterTable, catalog_bind_run]
  refine Faultless.run_lift_bind (.ofParts _) fun name _ => ?_
  split
  · rintro ⟨⟩
  · rename_i e missing _
    have known : Faultless what (s.catalog.table name) := .findKind _ _ _ _
    rw [missing] at known
    rintro ⟨⟩
    exact known rfl
  · rename_i d found
    obtain ⟨schema, id, has⟩ := linked.registered.ordered.table_has found
    obtain ⟨rfl, rfl, -⟩ := linked.registered.placed _ _ _ has
    exact Faultless.run_bind (alterAll_faultless linked writable ⟨_, d, has⟩ spared) fun _ _ _ => .ok _

end Define

/-! ### Statements -/

namespace Session

variable {what : String}

theorem truncate_faultless (env : Env) (table : List Sql.Ident) (s : EvalState) :
    Faultless what ((truncate env table).run s).1 :=
  Faultless.run_lift_bind (.ofParts _) fun _ _ =>
    Faultless.run_lift_bind (.findKind _ _ _ _) fun _ _ => .ok _

theorem shown_faultless (env : Env) (words : List Sql.Ident) (s : EvalState) :
    Faultless what ((shown env words).run s).1 := by
  refine Faultless.run_bind (.ok _) fun store t _ => Faultless.run_lift_bind ?_ fun _ _ => .ok _
  unfold Settings.read
  dsimp only
  split <;> rintro ⟨⟩

end Session

/-- The statement runs a query or changes rows. -/
def Sql.Statement.isRows : Statement → Bool
  | query _ | change _ => true
  | _ => false

namespace Database

open Sql (Statement)

variable {db : Database} {what : String}

theorem define_result (db : Database) (m : Define Outcome) :
    (db.define m).1 = (m.run ⟨db.catalog, ⟨db.store.commitAll.fork, db.drawn⟩⟩).1 := by
  simp only [define, Transaction.savepoint]
  rcases m.run ⟨db.catalog, ⟨db.store.commitAll.fork, db.drawn⟩⟩ with ⟨_ | _, _⟩ <;> rfl

theorem inSavepoint_result (db : Database) (m : Env → Eval Outcome) :
    (db.inSavepoint m).1 = ((m ⟨db.catalog, db.now⟩).run ⟨db.store.fork, db.drawn⟩).1 := by
  simp only [inSavepoint, Transaction.savepoint]
  rcases (m ⟨db.catalog, db.now⟩).run ⟨db.store.fork, db.drawn⟩ with ⟨_ | _, _⟩ <;> rfl

/-- `DROP` raises an internal error exactly when it names a relation twice. -/
theorem Reachable.drop_internal_iff (reachable : db.Reachable) (installer : Installer)
    (t : Sql.Drop) :
    (∃ what, (db.run installer (.drop t)).1 = .error (.internal what)) ↔
      ∃ found, Define.named db.catalog t = .ok found ∧ ¬(found.map (·.1)).Nodup := by
  have result : (db.run installer (.drop t)).1 = _ := define_result db (Define.drop t)
  rw [result]
  exact Define.drop_internal_iff reachable.linked reachable.open

/-- A statement that neither runs a query nor changes rows raises an internal error only as a `DROP`
that names a relation twice, or as an `ALTER TABLE` that evaluates a term which raises it. -/
theorem Reachable.internal_cases (reachable : db.Reachable) (installer : Installer) {s : Statement}
    (plain : s.isExtension = false) (rowless : s.isRows = false)
    (raised : (db.run installer s).1 = .error (.internal what)) :
    (∃ t found, s = .drop t ∧ Define.named db.catalog t = .ok found ∧ ¬(found.map (·.1)).Nodup) ∨
      ∃ t, s = .alterTable t ∧ ∃ change ∈ t.changes, change.Raises db.now (.internal what) := by
  have linked := reachable.linked
  have writable := reachable.open
  rw [s.run_eq plain] at raised
  have defined : ∀ {m : Define Outcome}, Faultless what
      (m.run ⟨db.catalog, ⟨db.store.commitAll.fork, db.drawn⟩⟩).1 → Faultless what (db.define m).1 :=
    fun faultless => (define_result db _).symm ▸ faultless
  have evaluated : ∀ {m : Env → Eval Outcome}, Faultless what
      ((m ⟨db.catalog, db.now⟩).run ⟨db.store.fork, db.drawn⟩).1 → Faultless what (db.inSavepoint m).1 :=
    fun faultless => (inSavepoint_result db _).symm ▸ faultless
  cases s with
  | drop t =>
      obtain ⟨found, named, repeated⟩ := (reachable.drop_internal_iff installer t).mp ⟨what, raised⟩
      exact .inl ⟨t, found, rfl, named, repeated⟩
  | alterTable t =>
      refine .inr ⟨t, rfl, by_contra fun none => ?_⟩
      refine absurd raised (defined (Define.alterTable_faultless linked writable fun change member => ?_))
      exact fun raises => none ⟨change, member, raises⟩
  | createTable t => exact absurd raised (defined (Define.createTable_faultless t _))
  | createIndex t => exact absurd raised (defined (Define.createIndex_faultless linked writable _ t))
  | createSchema name ifNotExists =>
      exact absurd raised (defined (Define.createSchema_faultless name ifNotExists _))
  | createSequence name ifNotExists clauses =>
      exact absurd raised (defined (Define.createSequence_faultless name ifNotExists clauses _))
  | alterSequence name ifExists clauses =>
      exact absurd raised (defined
        (Define.alterSequence_faultless linked writable name ifExists clauses))
  | createEnum name labels => exact absurd raised (defined (Define.createEnum_faultless name labels _))
  | alterOwner name => exact absurd raised (defined (Define.alterOwner_faultless name _))
  | truncate table marked => exact absurd raised (evaluated (Session.truncate_faultless _ table _))
  | showVariable words => exact absurd raised (evaluated (Session.shown_faultless _ words _))
  | setVariable scope name values =>
      simp only [Statement.manner] at raised
      split at raised <;> cases raised
  | query q => cases rowless
  | change c => cases rowless
  | createExtension name ifNotExists schema => cases plain
  | _ => cases raised

end Database

end SqlEngine
