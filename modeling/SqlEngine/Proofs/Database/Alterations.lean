import SqlEngine.Proofs.Database.Definitions
import SqlEngine.Proofs.Database.Targets
import SqlEngine.Proofs.Evaluation.Parallel

/-!
Changes of tables that hold rows: the rows still go with the definition that a change leaves.

A change first makes the content go with the definition to come and then puts the definition into
the catalog.
-/

namespace SqlEngine

namespace Define

open Draft (Holds Settled Ahead)
open EvalState (Agrees)

variable {s t : Draft} {d : TableDef} {now : Timestamp} {position : Nat}

/-! ### Definitions of columns -/

/-- Evaluation changes no table. -/
theorem stable_table (env : Env) (id : Nat) (content : TableData) :
    Eval.Stable env fun s => s.store.table id = content where
  draws _ _ same := same
  sequences s _ d state _ _ same := by
    refine Eq.trans (Store.table_congr ?_) same
    rw [Store.putSequence, Transaction.get?_set, if_neg (by simp)]

/-- The value that rows get for a new column is of its type, and it is found without a change of the
rows. -/
theorem newValue_ok {l : Layout} {column : ColumnDef} {hasRows : Bool} {v : Value}
    (settled : s.Settled) (flat : Sql.Term.optionFlat column.default)
    (ran : (newValue now l column hasRows).run s = (.ok v, t)) :
    t.Settled ∧ t.catalog = s.catalog ∧
      (∀ id, t.data.store.table id = s.data.store.table id) ∧ column.type.Admits v := by
  unfold newValue at ran
  split at ran
  · rename_i term default
    split at ran
    · rw [catalog_bind_run] at ran
      obtain ⟨built, given, ran⟩ := Run.lift_bind_ok ran
      obtain ⟨e, coerced, ran⟩ := Run.lift_bind_ok ran
      have names := settled.catalog.outermost
      rw [default] at flat
      have apart : built.Typed s.catalog.Table (.apart ((Names.ofCatalog s.catalog).seen [])) :=
        Sql.Term.build_apart names.sound flat given
      obtain ⟨typed, type⟩ := Expr.coerce_typed coerced apart
      obtain ⟨kept, catalog, admitted⟩ := evaluate_settled settled (fun base =>
        typed.eval (Agrees.stable settled.catalog base now) (Agrees.typed s.catalog base)
          (.apart [] .nil)) ran
      refine ⟨kept, catalog, fun id => ?_, type ▸ admitted⟩
      obtain ⟨data, given, rfl⟩ := evaluate_ok ran
      have untouched := e.eval_keeps (stable_table ⟨s.catalog, now⟩ id _) [] [] s.data rfl
      rw [given] at untouched
      exact untouched.1
    · cases ran
      exact ⟨settled, rfl, fun _ => rfl, SqlType.admits_null⟩
  · cases ran
    exact ⟨settled, rfl, fun _ => rfl, SqlType.admits_null⟩

/-! ### Columns and constraints that come -/

theorem allocateIndexes_settled {keys : List Key} {indexes : List IndexDef} (settled : s.Settled)
    (ran : (allocateIndexes keys).run s = (.ok indexes, t)) :
    t.Settled ∧ t.data = s.data ∧ s.catalog.Same t.catalog ∧
      (∀ i ∈ indexes, t.catalog.Free i.id) ∧ (indexes.map (·.id)).Nodup ∧
      ∀ i ∈ indexes, ∃ k ∈ keys, i.columns = k.columns := by
  obtain ⟨data, same, numbers, distinct, covered⟩ := allocateIndexes_ok settled.catalog ran
  have grown := settled.grow (same.grows settled.catalog 0)
  rw [← data] at grown
  exact ⟨grown, data, same, fun i member => (numbers i member).2, distinct, covered⟩

/-- A table whose content has the columns of a layout gets the keys of the layout. -/
theorem layOut_settled {l : Layout} {checks : List CheckDef} {indexes : List IndexDef}
    {extended : TableDef}
    (ahead : s.Ahead { d with columns := l.columns, checks }) (held : s.catalog.Table d)
    (shape : { d with columns := l.columns, checks }.addIndexes indexes = extended)
    (wider : d.columns.length ≤ l.columns.length)
    (flat : ∀ c ∈ l.columns, Sql.Term.optionFlat c.default) (within : l.Within l.columns.length)
    (keys : ∀ i ∈ indexes, ∃ k ∈ l.keys, i.columns = k.columns)
    (free : ∀ i ∈ indexes, s.catalog.Free i.id) (distinct : (indexes.map (·.id)).Nodup)
    (ran : (do
      fillIndexes extended indexes
      registerParts extended l indexes
      changeCatalog (·.replaceTable extended) : Define Unit).run s = (.ok (), t)) : t.Settled := by
  obtain ⟨_, u, filled, ran⟩ := Run.bind_run_ok ran
  obtain ⟨_, v, registered, ran⟩ := Run.bind_run_ok ran
  obtain ⟨next, replaced, rfl⟩ := changeCatalog_ok ran
  have catalog := fillIndexes_catalog filled
  have sound : u.catalog.Sound := catalog ▸ ahead.catalog
  have same : extended.id = d.id := shape ▸ rfl
  obtain ⟨data, grows⟩ := registerParts_ok sound
    (fun i member => catalog ▸ (free i member).saves extended.id) distinct registered
  exact extend_settled shape held ahead wider flat (within.indexes keys) free distinct filled data
    (same ▸ grows) replaced

theorem addColumn_settled {c : Sql.ColumnTerm} (settled : s.Settled) (held : s.catalog.Table d)
    (flat : c.isFlat) (ran : (addColumn now d c).run s = (.ok (), t)) : t.Settled := by
  rw [addColumn, catalog_bind_run] at ran
  obtain ⟨l, laid, ran⟩ := Run.lift_bind_ok ran
  obtain ⟨_, _, ran⟩ := Run.lift_bind_ok ran
  obtain ⟨_, _, ran⟩ := Run.lift_bind_ok ran
  rw [content_bind_run] at ran
  obtain ⟨column, columns, within, default⟩ :=
    Layout.addColumn_ok (l := { Layout.empty d.name with columns := d.columns }) flat
      (Layout.within_empty d.name _) laid
  dsimp only at columns
  have last : l.columns[d.columns.length]? = some column := by simp [columns]
  dsimp only at ran
  rw [last] at ran
  obtain ⟨v, u, found, ran⟩ := Run.bind_run_ok ran
  obtain ⟨settledThen, catalog, contents, admitted⟩ := newValue_ok settled default found
  split at ran
  · cases ran
  · rename_i enough
    obtain ⟨indexes, w, allocated, ran⟩ := Run.bind_run_ok ran
    obtain ⟨settledLater, data, same, free, distinct, keys⟩ :=
      allocateIndexes_settled settledThen allocated
    rw [content_bind_run, putContent_bind_run] at ran
    have heldLater := same.table_iff.mpr (catalog.symm ▸ held : u.catalog.Table d)
    have ahead := settledLater.ahead heldLater
    have wellFormed := settled.catalog.wellFormed held
    have filled : column.notNull → (w.data.store.table d.id).rows ≠ [] → v.isNull = false := by
      rw [data, contents]
      intro needed rows
      simpa [needed, rows] using enough
    have widened := ahead.content.addColumn wellFormed column admitted filled
    let base : TableDef := { d with columns := l.columns, checks := d.checks ++ l.checks }
    have same : base.columns = (d.addColumn column).columns := columns
    have conforms := widened.redefined (e := base) (congrArg (·.map ColumnDef.type) same) rfl
      fun a member p inside => widened.complete a member p (same ▸ inside)
    have put := ahead.putContent (e := base) rfl conforms
    refine layOut_settled put heldLater rfl (by simp [columns]) ?_ within keys free distinct ran
    intro other member
    rw [columns] at member
    rcases List.mem_append.mp member with old | new
    · exact settled.catalog.flat held other old
    · exact List.mem_singleton.mp new ▸ default

theorem checkRows_settled {checks : List CheckDef} (settled : s.Settled)
    (ran : (checkRows now d checks).run s = (.ok (), t)) : t.Settled ∧ t.catalog = s.catalog := by
  obtain ⟨compiled, _, ran⟩ := checkRows_run_ok ran
  refine And.imp_right And.left (evaluate_settled settled (p := fun _ => True) (fun base => ?_) ran)
  have stable := Agrees.stable settled.catalog base now
  refine Eval.Meets.forM fun check _ => Eval.Meets.forM fun row _ => ?_
  refine (check.2.eval_keeps stable [] row).bind fun v => ?_
  split
  · exact Eval.Meets.throw _
  · exact Eval.Keeps.pure _

theorem holdsNull_eq_false {content : TableData} (none : holdsNull content position = false) :
    ∀ a ∈ content.rows, ∀ v, a.2[position]? = some v → v.isNull = false := by
  intro a member v value
  have present := List.any_eq_false.mp none a member
  rw [List.getD_eq_getElem?_getD, value, Option.getD_some] at present
  simpa using present

/-- Rows of a table have all the values that other definitions of its columns demand. -/
theorem complete_of_missing? {l : Layout} {checks : List CheckDef} {content : TableData}
    (demands : l.columns.length = d.columns.length)
    (present : missing? d l.columns content = none) (complete : ∀ a ∈ content.rows, d.Complete a.2) :
    ∀ a ∈ content.rows, ({ d with columns := l.columns, checks } : TableDef).Complete a.2 := by
  intro a member
  rw [TableDef.complete_iff]
  intro n new v column value needed
  have inside : n < d.columns.length := demands ▸ (List.getElem?_eq_some_iff.mp column).1
  have old := List.getElem?_eq_getElem inside
  cases before : d.columns[n].notNull with
  | true => exact (TableDef.complete_iff _ _).mp (complete a member) n _ v old value before
  | false =>
      have listed : ((new, d.columns[n]), n) ∈ (l.columns.zip d.columns).zipIdx :=
        List.mem_zipIdx_iff_getElem?.mpr (List.getElem?_zip_eq_some.mpr ⟨column, old⟩)
      have free := List.find?_eq_none.mp (Option.map_eq_none_iff.mp present) _ listed
      have absent : holdsNull content n = false := by simpa [needed, before] using free
      exact holdsNull_eq_false absent a member v value

theorem addConstraint_settled {constraint : Sql.Constraint} (settled : s.Settled)
    (held : s.catalog.Table d) (ran : (addConstraint now d constraint).run s = (.ok (), t)) :
    t.Settled := by
  obtain ⟨l, laid, ran⟩ := Run.lift_bind_ok ran
  obtain ⟨_, _, ran⟩ := Run.lift_bind_ok ran
  rw [catalog_bind_run] at ran
  obtain ⟨_, _, ran⟩ := Run.lift_bind_ok ran
  obtain ⟨_, u, checked, ran⟩ := Run.bind_run_ok ran
  obtain ⟨settledThen, catalog⟩ := checkRows_settled settled checked
  obtain ⟨demands, within⟩ := Layout.addConstraint_ok
    (l := { Layout.empty d.name with columns := d.columns, checks := d.checks })
    (Layout.within_empty d.name _) laid
  rw [content_bind_run] at ran
  dsimp only at ran
  split at ran
  · cases ran
  · rename_i present
    obtain ⟨indexes, w, allocated, ran⟩ := Run.bind_run_ok ran
    obtain ⟨settledLater, data, same, free, distinct, keys⟩ :=
      allocateIndexes_settled settledThen allocated
    have heldLater := same.table_iff.mpr (catalog.symm ▸ held : u.catalog.Table d)
    have ahead := settledLater.ahead heldLater
    have nothing := Option.eq_none_iff_forall_ne_some.mpr present
    rw [← data] at nothing
    have conforms := ahead.content.redefined (e := { d with columns := l.columns, checks := l.checks })
      demands.types rfl (complete_of_missing? demands.width nothing ahead.content.complete)
    exact layOut_settled (ahead.redefine rfl conforms) heldLater rfl (Nat.le_of_eq demands.width.symm)
      (Layout.flat_of_defaults demands.defaults (settled.catalog.flat held)) within keys free distinct
      ran

/-! ### Other definitions of the same rows -/

theorem redefine_settled {e : TableDef} {next : Catalog}
    (replaced : s.catalog.replaceTable e = .ok next) (settled : s.Settled)
    (held : s.catalog.Table d) (same : e.id = d.id) (types : e.types = d.types)
    (indexes : e.indexes = d.indexes)
    (complete : ∀ a ∈ (s.data.store.table d.id).rows, e.Complete a.2) (flat : e.Flat) :
    Settled ⟨next, s.data⟩ := by
  have ahead := settled.ahead held
  have wellFormed := settled.catalog.wellFormed held
  have width : e.columns.length = d.columns.length := by
    simpa [TableDef.types] using congrArg List.length types
  have redefined := ahead.redefine same (ahead.content.redefined types indexes complete)
  refine redefined.replaceTable replaced ⟨?_, indexes ▸ wellFormed.distinct⟩ flat ?_
  · rw [indexes, width]
    exact wellFormed.columns
  · rw [indexes, same]
    exact settled.catalog.listed _ _ _ held

theorem getElem?_changeColumn (d : TableDef) (position : Nat) (f : ColumnDef → ColumnDef) (n : Nat) :
    (changeColumn d position f).columns[n]? =
      if position = n then d.columns[n]?.map f else d.columns[n]? := by
  rw [changeColumn, List.getElem?_modify]
  split <;> simp

/-- Another definition of one column keeps its type and demands no value that a row misses. -/
theorem changeColumn_settled {f : ColumnDef → ColumnDef} {next : Catalog}
    (replaced : s.catalog.replaceTable (changeColumn d position f) = .ok next) (settled : s.Settled)
    (held : s.catalog.Table d) (type : ∀ c, (f c).type = c.type)
    (flat : ∀ c, Sql.Term.optionFlat c.default → Sql.Term.optionFlat (f c).default)
    (demands : ∀ c, (f c).notNull → c.notNull ∨
      holdsNull (s.data.store.table d.id) position = false) :
    Settled ⟨next, s.data⟩ := by
  refine redefine_settled replaced settled held rfl ?types rfl ?complete ?flat
  case types =>
    refine List.ext_getElem? fun n => ?_
    rw [TableDef.types, TableDef.types, List.getElem?_map, List.getElem?_map,
      getElem?_changeColumn]
    split
    · simp [Option.map_map, Function.comp_def, type]
    · rfl
  case complete =>
    intro a member
    rw [TableDef.complete_iff]
    intro n c v column value needed
    have before := (TableDef.complete_iff _ _).mp
      ((settled.ahead held).content.complete a member) n
    rw [getElem?_changeColumn] at column
    split at column
    · rename_i here
      obtain ⟨old, there, rfl⟩ := Option.map_eq_some_iff.mp column
      rcases demands old needed with demanded | present
      · exact before old v there value demanded
      · exact holdsNull_eq_false present a member v (here ▸ value)
    · exact before c v column value needed
  case flat =>
    intro c member
    have flatBefore := settled.catalog.flat held
    obtain ⟨n, column⟩ := List.mem_iff_getElem?.mp member
    rw [getElem?_changeColumn] at column
    split at column
    · obtain ⟨old, there, rfl⟩ := Option.map_eq_some_iff.mp column
      exact flat old (flatBefore old (List.mem_of_getElem? there))
    · exact flatBefore c (List.mem_of_getElem? column)

theorem changedColumn_settled {column : String} {change : Sql.ColumnChange} {changed : TableDef}
    {name : Sql.Ident} {next : Catalog}
    (given : changedColumn d position (s.data.store.table d.id) column change = .ok changed)
    (replaced : s.catalog.replaceTable changed = .ok next) (settled : s.Settled)
    (held : s.catalog.Table d) (flat : (Sql.TableChange.changeColumn name change).isFlat) :
    Settled ⟨next, s.data⟩ := by
  unfold changedColumn at given
  split at given
  · split at given
    · cases given
    · rename_i present
      cases given
      exact changeColumn_settled replaced settled held (fun _ => rfl) (fun _ => id)
        fun _ _ => .inr (by simpa using present)
  · split at given
    · cases given
    · cases given
      refine changeColumn_settled replaced settled held (fun _ => rfl) (fun _ => id) ?_
      exact fun _ impossible => by cases impossible
  · cases given
    exact changeColumn_settled replaced settled held (fun _ => rfl) (fun _ _ => flat) fun _ => .inl
  · cases given
    exact changeColumn_settled replaced settled held (fun _ => rfl) (fun _ _ => rfl) fun _ => .inl
  · cases given

theorem rename_settled {name : String} {next : Catalog} (settled : s.Settled)
    (held : s.catalog.Table d) (renamed : s.catalog.rename d.id name = .ok next) :
    Settled ⟨next, s.data⟩ := by
  obtain ⟨sound, tables, counts⟩ := settled.catalog.rename held renamed
  have ahead := settled.ahead held
  have conforms := ahead.content.redefined (e := { d with name }) rfl rfl ahead.content.complete
  exact Holds.recatalog (ahead.redefine (e := { d with name }) rfl conforms) sound tables
    fun id => (counts id).mpr

/-! ### Columns and constraints that go -/

theorem dropColumn_settled {column : String} (settled : s.Settled) (held : s.catalog.Table d)
    (bound : position < d.columns.length)
    (ran : (dropColumn d position column).run s = (.ok (), t)) : t.Settled := by
  rw [dropColumn, catalog_bind_run, content_bind_run, putContent_bind_run] at ran
  obtain ⟨_, u, discarded, ran⟩ := Run.bind_run_ok ran
  obtain ⟨next, replaced, rfl⟩ := changeCatalog_ok ran
  have sound := settled.catalog
  have wellFormed := sound.wellFormed held
  have ahead := settled.ahead held
  have cut := ahead.content.dropColumn wellFormed bound
  let reduced : TableDef := { d.removeColumn position with
    checks := d.checks.filter fun check => !mentions check.condition column }
  have conforms := cut.redefined (e := reduced) rfl rfl cut.complete
  have put := ahead.putContent (e := reduced) rfl conforms
  have trims := discardAll_ok put ?_ discarded
  · refine trims.ahead.replaceTable replaced ?_ ?_ ?_
    · exact ⟨(wellFormed.removeColumn bound).columns, (wellFormed.removeColumn bound).distinct⟩
    · exact fun c member => sound.flat held c (List.mem_of_mem_eraseIdx member)
    · intro j member
      obtain ⟨i, old, _, rfl⟩ := TableDef.mem_indexes_removeColumn.mp member
      exact trims.sheds.reserves _ _ (sound.listed _ _ _ held i old)
  · intro number member e heldThen same
    rcases List.mem_append.mp member with index | sequence
    · obtain ⟨i, gone, rfl⟩ := List.mem_map.mp index
      have listed := List.mem_map_of_mem (f := (·.id)) (List.mem_filter.mp gone).1
      exact sound.unlisted heldThen (by simp) held (same ▸ listed)
    · obtain ⟨owned, chosen, rfl⟩ := List.mem_map.mp sequence
      exact sound.owned_not_table (List.mem_filter.mp chosen).1 heldThen same

/-- The first index of a name is the one that has its number. -/
theorem eraseP_eq_filter {p : IndexDef → Bool} {i : IndexDef} : ∀ {indexes : List IndexDef},
    (indexes.map (·.id)).Nodup → indexes.find? p = some i →
      indexes.eraseP p = indexes.filter (·.id != i.id) := by
  intro indexes
  induction indexes with
  | nil => exact fun _ _ => rfl
  | cons first rest ih =>
      intro distinct found
      obtain ⟨fresh, distinctRest⟩ := List.nodup_cons.mp distinct
      cases chosen : p first with
      | true =>
          rw [List.find?_cons_of_pos chosen] at found
          cases found
          rw [List.eraseP_cons_of_pos chosen, List.filter_cons_of_neg (by simp),
            List.filter_eq_self.mpr]
          intro other member
          exact bne_iff_ne.mpr fun same => fresh (List.mem_map.mpr ⟨other, member, same⟩)
      | false =>
          rw [List.find?_cons_of_neg (by simp [chosen])] at found
          rw [List.eraseP_cons_of_neg (by simp [chosen]), ih distinctRest found,
            List.filter_cons_of_pos]
          have later := List.mem_of_find?_eq_some found
          exact bne_iff_ne.mpr fun same => fresh (List.mem_map.mpr ⟨i, later, same.symm⟩)

theorem dropConstraint_settled {name : String} {ifExists : Bool} (settled : s.Settled)
    (held : s.catalog.Table d) (ran : (dropConstraint d name ifExists).run s = (.ok (), t)) :
    t.Settled := by
  have sound := settled.catalog
  unfold dropConstraint at ran
  split at ran
  · rename_i index found
    obtain ⟨_, u, dropped, ran⟩ := Run.bind_run_ok ran
    obtain ⟨next, replaced, rfl⟩ := changeCatalog_ok ran
    have member := List.mem_of_find?_eq_some found
    have reserved := sound.listed _ _ _ held index member
    obtain ⟨ahead, sheds⟩ := dropIndex_ok settled held (fun schema r has => by
      obtain ⟨name, rfl⟩ := reserved.index schema r has
      rfl) dropped
    have wellFormed := sound.wellFormed held
    rw [eraseP_eq_filter wellFormed.distinct found] at replaced
    exact ahead.replaceTable replaced (wellFormed.removeIndex index.id)
      (fun c => sound.flat held c) fun i inside =>
        sheds.reserves _ _ (sound.listed _ _ _ held i (List.mem_filter.mp inside).1)
  · obtain ⟨next, replaced, rfl⟩ := changeCatalog_ok ran
    exact redefine_settled replaced settled held rfl rfl rfl (settled.ahead held).content.complete
      fun c => sound.flat held c
  · split at ran
    · cases ran
    · cases ran
      exact settled

/-! ### The statement -/

theorem position_bound {column : String} (found : d.position? column = some position) :
    position < d.columns.length :=
  (List.findIdx?_eq_some_iff_getElem.mp found).1

theorem alterOne_settles {change : Sql.TableChange} (flat : change.isFlat) (id : Nat) :
    Settles (alterOne now id change) := by
  intro s t _ settled ran
  rw [alterOne, catalog_bind_run] at ran
  obtain ⟨d, found, ran⟩ := Run.lift_bind_ok ran
  obtain ⟨held, rfl⟩ := tableById_ok settled.catalog found
  cases change with
  | rename name =>
      obtain ⟨next, renamed, rfl⟩ := changeCatalog_ok ran
      exact rename_settled settled held renamed
  | addColumn c ifNotExists =>
      dsimp only at ran
      split at ran
      · exact addColumn_settled settled held flat ran
      · split at ran
        · cases ran
        · cases ran
          exact settled
  | dropColumn name ifExists =>
      dsimp only at ran
      split at ran
      · rename_i position there
        exact dropColumn_settled settled held (position_bound there) ran
      · split at ran
        · obtain ⟨_, _, done⟩ := Run.lift_bind_ok ran
          cases done
          exact settled
        · cases ran
          exact settled
  | renameColumn before after =>
      obtain ⟨position, _, ran⟩ := Run.lift_bind_ok ran
      dsimp only at ran
      split at ran
      · cases ran
      · obtain ⟨next, replaced, rfl⟩ := changeCatalog_ok ran
        exact changeColumn_settled replaced settled held (fun _ => rfl) (fun _ => id) fun _ => .inl
  | changeColumn name change =>
      obtain ⟨position, _, ran⟩ := Run.lift_bind_ok ran
      rw [content_bind_run] at ran
      obtain ⟨changed, given, ran⟩ := Run.lift_bind_ok ran
      obtain ⟨next, replaced, rfl⟩ := changeCatalog_ok ran
      exact changedColumn_settled given replaced settled held flat
  | addConstraint constraint => exact addConstraint_settled settled held ran
  | dropConstraint name ifExists => exact dropConstraint_settled settled held ran
  | unsupported text => cases ran

theorem alterTable_settles {statement : Sql.AlterTable}
    (flat : statement.changes.all (·.isFlat)) : Settles (alterTable now statement) := by
  intro s t outcome settled ran
  rw [alterTable, catalog_bind_run] at ran
  obtain ⟨name, _, ran⟩ := Run.lift_bind_ok ran
  split at ran
  · cases ran
    exact settled
  · cases ran
  · obtain ⟨_, u, altered, done⟩ := Run.bind_run_ok ran
    cases done
    refine Run.forM_run_keeps (fun change member u v settledThen one => ?_) settled altered
    exact alterOne_settles (List.all_eq_true.mp flat change member) _ settledThen one

end Define

end SqlEngine
