import SqlEngine.Proofs.Database.Consistency
import SqlEngine.Proofs.Database.DefinitionFrame
import SqlEngine.Proofs.Database.Invariants
import SqlEngine.Proofs.Database.KeyLayouts
import SqlEngine.Proofs.Database.Registries

/-!
Columns of primary keys demand values, and so no row is without one.

Definitions register tables that have marked columns in their primary keys, and change them to such
tables only. The exception is a column that comes as a primary key while `NULL` has the last word
among its rules: the end of the module shows what can be stored then.
-/

namespace SqlEngine

/-! ### Catalogs -/

namespace Catalog

/-- Every table of the catalog has marked columns in its primary key. -/
structure Keyed (c : Catalog) : Prop where
  ordered : c.Ordered
  tables : ∀ schema id d, c.Has schema id (.table d) → d.Keyed

variable {c next : Catalog} {schema name : String} {id : Nat} {r : Relation} {d : TableDef}
  {slot : Option Relation}

namespace Keyed

theorem same (keyed : c.Keyed) (same : c.Same next) : next.Keyed :=
  ⟨same.ordered, fun _ _ _ has => keyed.tables _ _ _ ((same.has _ _ _).mp has)⟩

theorem alter (keyed : c.Keyed) (altered : c.Altered next schema id slot)
    (fits : ∀ d, slot = some (.table d) → d.Keyed) : next.Keyed := by
  refine ⟨altered.ordered, fun other number d has => ?_⟩
  rw [altered.has] at has
  split at has
  · exact fits d has
  · exact keyed.tables _ _ _ has

theorem register (keyed : c.Keyed) (fits : ∀ d, r = .table d → d.Keyed)
    (given : c.register schema id r = .ok next) : next.Keyed :=
  keyed.alter (keyed.ordered.register_altered given) fun d same => fits d (Option.some.inj same)

theorem registerNext (keyed : c.Keyed) {make : Nat → Relation} (plain : ∀ id d, make id ≠ .table d)
    (given : c.registerNext schema make = .ok next) : next.Keyed := by
  obtain ⟨_, _, given⟩ := Run.bind_ok given
  exact (keyed.same keyed.ordered.same_allocate).register
    (fun d same => absurd same (plain _ d)) given

theorem replaceTable (keyed : c.Keyed) (fits : d.Keyed) (given : c.replaceTable d = .ok next) :
    next.Keyed := by
  refine keyed.alter (keyed.ordered.replaceTable_altered given).1 ?_
  rintro _ ⟨⟩
  exact fits

theorem replaceSequence (keyed : c.Keyed) {q : SequenceDef}
    (given : c.replaceSequence q = .ok next) : next.Keyed :=
  keyed.alter (keyed.ordered.replaceSequence_altered given).1 nofun

theorem drop (keyed : c.Keyed) (given : c.drop id = .ok next) : next.Keyed := by
  obtain ⟨schema, r, -, altered⟩ := keyed.ordered.drop_altered given
  exact keyed.alter altered nofun

theorem rename (keyed : c.Keyed) (given : c.rename id name = .ok next) : next.Keyed := by
  obtain ⟨schema, r, has, altered⟩ := keyed.ordered.rename_altered given
  refine keyed.alter altered fun e same => ?_
  cases r with
  | table d =>
      cases same
      have held := keyed.tables _ _ _ has
      exact ⟨held.single, held.marked⟩
  | _ => cases same

theorem of_table (keyed : c.Keyed) {qualified : QName} (found : c.table qualified = .ok d) :
    d.Keyed := by
  obtain ⟨schema, id, has⟩ := keyed.ordered.table_has found
  exact keyed.tables _ _ _ has

theorem of_tableById (keyed : c.Keyed) (found : c.tableById id = .ok d) : d.Keyed := by
  obtain ⟨schema, has⟩ := keyed.ordered.tableById_has found
  exact keyed.tables _ _ _ has

end Keyed

theorem keyed_create (o : DbOptions) : (create o).Keyed := by
  obtain ⟨ordered, types⟩ := create_ordered o
  refine ⟨ordered, fun schema id d has => ?_⟩
  obtain ⟨_, _, _, impossible⟩ := types _ _ _ has
  cases impossible

end Catalog

/-! ### Definitions -/

namespace Define

variable {α : Type} {d e : TableDef} {now : Timestamp} {position : Nat}

/-- The program, if it succeeds, leaves the columns of primary keys marked. -/
abbrev KeepsKeys (m : Define α) : Prop := Keeps (fun s => s.catalog.Keyed) m

namespace KeepsKeys

theorem of_catalog {m : Define α}
    (same : ∀ ⦃s t : Draft⦄ ⦃a : α⦄, m.run s = (.ok a, t) → t.catalog = s.catalog) :
    KeepsKeys m := by
  intro s t a keyed ran
  rw [same ran]
  exact keyed

theorem changeStore (f : Store → Store) : KeepsKeys (changeStore f) :=
  of_catalog fun _ _ _ ran => by
    cases ran
    rfl

/-- The catalog that a program goes on with is one as described. -/
theorem catalog_bind {f : Catalog → Define α} (next : ∀ c, c.Keyed → KeepsKeys (f c)) :
    KeepsKeys (catalog >>= f) := by
  intro s t a keyed ran
  rw [catalog_bind_run] at ran
  exact next s.catalog keyed keyed ran

end KeepsKeys

/-! ### Parts of a table -/

theorem replaceTable_keyed (keyed : d.Keyed) : KeepsKeys (changeCatalog (·.replaceTable d)) :=
  Keeps.changeCatalog fun _ _ _ given before => before.replaceTable keyed given

theorem allocate_keyed : KeepsKeys allocate := by
  intro s t number keyed ran
  cases ran
  exact keyed.same keyed.ordered.same_allocate

theorem allocateIndexes_indexed {keys : List Key} : ∀ {s t : Draft} {indexes : List IndexDef},
    (allocateIndexes keys).run s = (.ok indexes, t) → Key.Indexed keys indexes := by
  induction keys with
  | nil =>
      intro s t indexes ran
      cases ran
      rfl
  | cons k rest ih =>
      intro s t indexes ran
      rw [allocateIndexes, List.mapM_cons] at ran
      obtain ⟨i, u, one, ran⟩ := Run.bind_run_ok ran
      obtain ⟨number, v, taken, made⟩ := Run.bind_run_ok one
      cases taken
      cases made
      obtain ⟨others, w, more, ran⟩ := Run.bind_run_ok ran
      cases ran
      exact congrArg _ (ih more)

/-- A program goes on with indexes on the columns of the keys. -/
theorem KeepsKeys.allocateIndexes_bind {keys : List Key} {f : List IndexDef → Define α}
    (next : ∀ indexes, Key.Indexed keys indexes → KeepsKeys (f indexes)) :
    KeepsKeys (allocateIndexes keys >>= f) := by
  intro s t a keyed ran
  obtain ⟨indexes, u, allocated, ran⟩ := Run.bind_run_ok ran
  have taken : KeepsKeys (allocateIndexes keys) :=
    Keeps.mapM (fun _ => allocate_keyed.bind fun _ => Keeps.pure _) keys
  exact next indexes (allocateIndexes_indexed allocated) (taken keyed allocated) ran

theorem registerIndex_keyed (i : IndexDef) : KeepsKeys (registerIndex d i) :=
  Keeps.changeCatalog fun _ _ _ given keyed => keyed.register (fun _ same => by cases same) given

theorem registerParts_keyed (l : Layout) (indexes : List IndexDef) :
    KeepsKeys (registerParts d l indexes) := by
  refine (Keeps.forM registerIndex_keyed indexes).bind fun _ => Keeps.forM (fun serial => ?_) _
  exact (Keeps.lift _).bind fun _ => Keeps.changeCatalog fun _ _ _ given keyed =>
    keyed.registerNext (fun _ _ same => by cases same) given

/-- A table gets the keys of a layout, under numbers that were taken for them. -/
theorem layOut_keyed (l : Layout) (indexes : List IndexDef) (keyed : e.Keyed) :
    KeepsKeys (do
      fillIndexes e indexes
      registerParts e l indexes
      changeCatalog (·.replaceTable e) : Define Unit) :=
  (KeepsKeys.of_catalog fun _ _ _ => fillIndexes_catalog).bind fun _ =>
    (registerParts_keyed l indexes).bind fun _ => replaceTable_keyed keyed

/-! ### Statements that do not alter tables -/

theorem alterOwner_keyed (name : QName) : KeepsKeys (alterOwner name) :=
  Keeps.catalog.bind fun _ => (Keeps.lift _).bind fun _ => Keeps.pure _

theorem createSchema_keyed (name : Option (List Sql.Ident)) (ifNotExists : Bool) :
    KeepsKeys (createSchema name ifNotExists) := by
  unfold createSchema
  split
  · refine KeepsKeys.catalog_bind fun c keyed => Keeps.lift_bind fun made given => ?_
    refine (Keeps.changeCatalog fun _ next _ done _ => ?_).bind fun _ => Keeps.pure _
    cases done
    exact keyed.same (keyed.ordered.same_createSchema given)
  · exact Keeps.throw _

theorem createEnum_keyed (name : QName) (labels : List String) :
    KeepsKeys (createEnum name labels) := by
  refine Keeps.catalog.bind fun c => ?_
  dsimp only
  split
  · exact Keeps.throw_bind _ _
  · split
    · exact Keeps.throw_bind _ _
    · refine allocate_keyed.bind fun id => Keeps.bind ?_ fun _ => Keeps.pure _
      exact Keeps.changeCatalog fun _ _ _ given keyed =>
        keyed.register (fun _ same => by cases same) given

theorem createSequence_keyed (name : QName) (ifNotExists : Bool) (clauses : List SequenceClause) :
    KeepsKeys (createSequence name ifNotExists clauses) := by
  refine Keeps.catalog.bind fun c => ?_
  dsimp only
  split
  · split
    · exact Keeps.pure _
    · exact Keeps.throw_bind _ _
  · refine (Keeps.lift _).bind fun options => Keeps.bind ?_ fun _ => Keeps.pure _
    exact Keeps.changeCatalog fun _ _ _ given keyed =>
      keyed.registerNext (fun _ _ same => by cases same) given

theorem alterSequence_keyed (name : QName) (ifExists : Bool) (clauses : List SequenceClause) :
    KeepsKeys (alterSequence name ifExists clauses) := by
  refine Keeps.catalog.bind fun c => ?_
  split
  · exact Keeps.pure _
  · exact Keeps.throw _
  · refine (Keeps.lift _).bind fun altered => Keeps.bind ?_ fun _ => ?_
    · exact Keeps.changeCatalog fun _ _ _ given keyed => keyed.replaceSequence given
    · split
      · exact (KeepsKeys.changeStore _).bind fun _ => Keeps.pure _
      · exact Keeps.pure _

theorem createIndex_keyed (o : DbOptions) (statement : Sql.CreateIndex) :
    KeepsKeys (createIndex o statement) := by
  refine createIndex_cases o statement (Keeps.pure _) (fun _ => Keeps.throw _) fun name => ?_
  refine KeepsKeys.catalog_bind fun c keyed => (Keeps.lift _).bind fun _ => ?_
  refine Keeps.lift_bind fun d found => (Keeps.lift _).bind fun columns => ?_
  dsimp only
  split
  · split
    · exact Keeps.pure _
    · exact Keeps.throw_bind _ _
  · refine allocate_keyed.bind fun id => ?_
    have plain := (keyed.of_table found).addIndexes (List.forall_mem_singleton.mpr
      (rfl : (IndexDef.mk id (name d columns) (columns.map (·.2)) statement.unique
        false).primary = false))
    exact (KeepsKeys.of_catalog fun _ _ _ => fillIndexes_catalog).bind fun _ =>
      (registerIndex_keyed _).bind fun _ => (replaceTable_keyed plain).bind fun _ => Keeps.pure _

theorem dropOne_keyed (id : Nat) : KeepsKeys (changeCatalog (·.drop id)) :=
  Keeps.changeCatalog fun _ _ _ given keyed => keyed.drop given

theorem discard_keyed (id : Nat) : KeepsKeys (discard id) :=
  (dropOne_keyed id).bind fun _ => KeepsKeys.changeStore _

theorem dropIndex_keyed (table index : Nat) : KeepsKeys (dropIndex table index) :=
  (Keeps.content table).bind fun _ => (KeepsKeys.changeStore _).bind fun _ => dropOne_keyed index

theorem dropTable_keyed (c : Catalog) (d : TableDef) : KeepsKeys (dropTable c d) := by
  have indexes := Keeps.forM (fun i : IndexDef => dropOne_keyed i.id) d.indexes
  have sequences := Keeps.forM (fun q : SequenceDef => discard_keyed q.id) (c.ownedSequences d)
  exact indexes.bind fun _ => sequences.bind fun _ => (dropOne_keyed d.id).bind fun _ =>
    KeepsKeys.changeStore _

theorem dropRelation_keyed (id : Nat) (r : Relation) : KeepsKeys (dropRelation id r) := by
  refine KeepsKeys.catalog_bind fun c keyed => ?_
  cases r with
  | table d => exact dropTable_keyed c d
  | index table name =>
      refine Keeps.lift_bind fun d found => (dropIndex_keyed table id).bind fun _ => ?_
      exact replaceTable_keyed ((keyed.of_tableById found).of_sublist List.filter_sublist)
  | sequence q => exact discard_keyed id
  | type type => exact Keeps.pure _

theorem drop_keyed (statement : Sql.Drop) : KeepsKeys (drop statement) := by
  refine (Keeps.lift _).bind fun kind => Keeps.catalog.bind fun c => ?_
  refine (Keeps.mapM (fun _ => Keeps.lift _) _).bind fun found => ?_
  dsimp only
  split
  · exact Keeps.pure _
  · exact (Keeps.forM (fun e : Nat × Relation => dropRelation_keyed e.1 e.2) _).bind
      fun _ => Keeps.pure _

/-! ### Tables that come and change -/

theorem createTable_keyed {statement : Sql.CreateTable}
    (keeps : ∀ column ∈ statement.columns, column.KeepsKey) :
    KeepsKeys (createTable statement) := by
  unfold createTable
  dsimp only
  split
  · exact Keeps.throw_bind _ _
  refine Keeps.catalog.bind fun c => (Keeps.lift _).bind fun name => ?_
  split
  · split
    · exact Keeps.pure _
    · exact Keeps.throw_bind _ _
  · refine Keeps.lift_bind fun l laid => (Keeps.lift _).bind fun _ => allocate_keyed.bind
      fun id => KeepsKeys.allocateIndexes_bind fun indexes indexed => ?_
    obtain ⟨valid, marked⟩ := layoutOf_marked_iff laid
    refine Keeps.bind (Keeps.changeCatalog fun _ _ _ given before => before.register ?_ given)
      fun _ => (registerParts_keyed l indexes).bind fun _ => (KeepsKeys.changeStore _).bind
        fun _ => Keeps.pure _
    rintro _ ⟨⟩
    exact TableDef.keyed_of_layout rfl (List.nil_append _).symm indexed valid
      (marked.mpr keeps) (List.forall_mem_nil _)

theorem addColumn_keyed {t : Sql.ColumnTerm} (held : d.Keyed) (keeps : t.KeepsKey) :
    KeepsKeys (addColumn now d t) := by
  refine Keeps.catalog.bind fun c => Keeps.lift_bind fun l added => ?_
  refine Keeps.lift_bind fun _ valid => (Keeps.lift _).bind fun _ => ?_
  refine (Keeps.content _).bind fun content => ?_
  dsimp only
  split
  · refine (KeepsKeys.of_catalog fun _ _ _ => newValue_catalog).bind fun value => ?_
    split
    · exact Keeps.throw_bind _ _
    · refine KeepsKeys.allocateIndexes_bind fun indexes indexed => (Keeps.content _).bind
        fun _ => (KeepsKeys.changeStore _).bind fun _ => layOut_keyed l indexes ?_
      obtain ⟨-, marked⟩ := Layout.marked_addColumn_iff
        (l := { Layout.empty d.name with columns := d.columns })
        (Layout.within_empty d.name _) added
      obtain ⟨column, _, columns, -⟩ := Layout.addColumn_keys added
      refine TableDef.keyed_of_layout rfl rfl indexed valid
        (marked.mpr ⟨Layout.marked_of_keyless rfl, keeps⟩) fun i member primary at_ there => ?_
      have before := held.marked i member primary at_ there
      rw [columns]
      exact (demands_append (lt_of_demands before) [column]).trans before
  · exact Keeps.pure _

theorem addConstraint_keyed {constraint : Sql.Constraint} (held : d.Keyed) :
    KeepsKeys (addConstraint now d constraint) := by
  refine Keeps.lift_bind fun l given => Keeps.lift_bind fun _ valid => Keeps.catalog.bind
    fun c => (Keeps.lift _).bind fun _ => ?_
  refine (KeepsKeys.of_catalog fun _ _ _ => checkRows_catalog).bind fun _ => ?_
  refine (Keeps.content _).bind fun content => ?_
  dsimp only
  split
  · exact Keeps.throw_bind _ _
  · refine KeepsKeys.allocateIndexes_bind fun indexes indexed => layOut_keyed l indexes ?_
    have empty :
        Layout.Marked { Layout.empty d.name with columns := d.columns, checks := d.checks } :=
      Layout.marked_of_keyless rfl
    obtain ⟨_, -, -, stay, -⟩ := Layout.addConstraint_keys given
    exact TableDef.keyed_of_layout rfl rfl indexed valid (empty.addConstraint given)
      fun i member primary position there =>
        stay position (held.marked i member primary position there)

/-- A column of the primary key cannot be told to go without a value. -/
theorem changedColumn_keyed {content : TableData} {column : String} {change : Sql.ColumnChange}
    (held : d.Keyed) (given : changedColumn d position content column change = .ok e) :
    e.Keyed := by
  unfold changedColumn at given
  split at given
  · split at given <;> cases given
    exact held.modify fun _ _ _ => rfl
  · split at given <;> cases given
    rename_i other
    exact held.modify fun indexed => absurd indexed other
  · cases given
    exact held.modify fun _ _ marked => marked
  · cases given
    exact held.modify fun _ _ marked => marked
  · cases given

theorem dropColumn_keyed {column : String} (held : d.Keyed) :
    KeepsKeys (dropColumn d position column) := by
  have fits := held.removeColumn position
  exact Keeps.catalog.bind fun _ => (Keeps.content _).bind fun _ =>
    (KeepsKeys.changeStore _).bind fun _ => (Keeps.forM discard_keyed _).bind fun _ =>
      replaceTable_keyed ⟨fits.single, fits.marked⟩

theorem dropConstraint_keyed {name : String} {ifExists : Bool} (held : d.Keyed) :
    KeepsKeys (dropConstraint d name ifExists) := by
  unfold dropConstraint
  split
  · exact (dropIndex_keyed _ _).bind fun _ =>
      replaceTable_keyed (held.of_sublist List.eraseP_sublist)
  · exact replaceTable_keyed ⟨held.single, held.marked⟩
  · split
    · exact Keeps.throw _
    · exact Keeps.pure _

end Define

namespace Sql

/-- No column comes as a primary key for which `NULL` has the last word. -/
def TableChange.KeepsKeys : TableChange → Prop
  | .addColumn column _ => column.KeepsKey
  | _ => True

def Statement.KeepsKeys : Statement → Prop
  | .createTable t => ∀ column ∈ t.columns, column.KeepsKey
  | .alterTable t => ∀ change ∈ t.changes, change.KeepsKeys
  | _ => True

end Sql

namespace Define

theorem alterOne_keyed {change : Sql.TableChange} (keeps : change.KeepsKeys) (now : Timestamp)
    (id : Nat) : KeepsKeys (alterOne now id change) := by
  refine KeepsKeys.catalog_bind fun c keyed => Keeps.lift_bind fun d found => ?_
  have held := keyed.of_tableById found
  cases change with
  | rename name => exact Keeps.changeCatalog fun _ _ _ renamed before => before.rename renamed
  | addColumn t ifNotExists =>
      dsimp only
      split
      · exact addColumn_keyed held keeps
      · split
        · exact Keeps.throw _
        · exact Keeps.pure _
  | dropColumn name ifExists =>
      dsimp only
      split
      · exact dropColumn_keyed held
      · split
        · exact (Keeps.lift _).bind fun _ => Keeps.pure _
        · exact Keeps.pure _
  | renameColumn before after =>
      refine (Keeps.lift _).bind fun position => ?_
      dsimp only
      split
      · exact Keeps.throw_bind _ _
      · exact replaceTable_keyed (held.modify fun _ _ marked => marked)
  | changeColumn name change =>
      exact (Keeps.lift _).bind fun _ => (Keeps.content id).bind fun _ =>
        Keeps.lift_bind fun _ given => replaceTable_keyed (changedColumn_keyed held given)
  | addConstraint constraint => exact addConstraint_keyed held
  | dropConstraint name ifExists => exact dropConstraint_keyed held
  | unsupported text => exact Keeps.throw _

theorem alterTable_keyed {statement : Sql.AlterTable}
    (keeps : ∀ change ∈ statement.changes, change.KeepsKeys) (now : Timestamp) :
    KeepsKeys (alterTable now statement) := by
  refine Keeps.catalog.bind fun c => (Keeps.lift _).bind fun name => ?_
  split
  · exact Keeps.pure _
  · exact Keeps.throw _
  · exact (Keeps.forM_of_mem fun change member => alterOne_keyed (keeps change member) now _).bind
      fun _ => Keeps.pure _

end Define

/-! ### Databases -/

namespace Database

open Sql (Statement)

variable {db : Database}

/-- The program of the manner leaves the columns of primary keys marked, if it defines anything. -/
def Manner.KeepsKeys : Manner → Prop
  | definition m => ∀ o now, Define.KeepsKeys (m o now)
  | _ => True

theorem manner_keyed {m : Manner} (keeps : m.KeepsKeys) (keyed : db.catalog.Keyed) :
    (m.run db).2.catalog.Keyed := by
  obtain same | ⟨path, rfl, same⟩ | ⟨program, rfl, data, outcome, t, ran, same⟩ :=
    db.manner_catalog m
  · exact same ▸ keyed
  · exact same ▸ keyed.same (keyed.ordered.same_setSearchPath path)
  · exact same ▸ keeps db.options db.now (s := ⟨db.catalog, data⟩) keyed ran

end Database

theorem Sql.Statement.keyed_manner {s : Statement} (keeps : s.KeepsKeys) : s.manner.KeepsKeys := by
  cases s with
  | setVariable scope name values =>
      simp only [manner]
      split <;> trivial
  | createTable t => exact fun _ _ => Define.createTable_keyed keeps
  | createIndex t => exact fun o _ => Define.createIndex_keyed o t
  | createSchema name ifNotExists => exact fun _ _ => Define.createSchema_keyed name ifNotExists
  | alterTable t => exact fun _ now => Define.alterTable_keyed keeps now
  | drop t => exact fun _ _ => Define.drop_keyed t
  | createSequence name ifNotExists clauses =>
      exact fun _ _ => Define.createSequence_keyed name ifNotExists clauses
  | alterSequence name ifExists clauses =>
      exact fun _ _ => Define.alterSequence_keyed name ifExists clauses
  | createEnum name labels => exact fun _ _ => Define.createEnum_keyed name labels
  | alterOwner table => exact fun _ _ => Define.alterOwner_keyed table
  | _ => trivial

namespace Database

open Sql (Statement)

variable {db : Database} {name : QName} {d : TableDef} {i : IndexDef} {position : Nat}

/-- In every database that can be met without columns that are a primary key and for which `NULL`
has the last word, all columns of primary keys are marked. -/
theorem Guarded.keyed (guarded : db.Guarded fun _ s => s.KeepsKeys) : db.catalog.Keyed := by
  induction guarded with
  | @created o _ _ made =>
      obtain ⟨_, -, result⟩ := Run.bind_ok made
      cases result
      exact Catalog.keyed_create o
  | tick _ _ keyed => exact keyed
  | @run db installer s plain keeps _ keyed =>
      rw [s.run_eq plain]
      exact manner_keyed (Statement.keyed_manner keeps) keyed
  | close _ keyed => exact keyed
  | installed _ _ keyed => exact keyed
  | setSearchPath path _ keyed => exact keyed.same (keyed.ordered.same_setSearchPath path)
  | createSchema made _ keyed =>
      obtain ⟨⟨_, next⟩, given, result⟩ := Run.bind_ok made
      cases result
      exact keyed.same (keyed.ordered.same_createSchema given)
  | registerFunction registered _ keyed =>
      obtain ⟨catalog, given, result⟩ := Run.bind_ok registered
      obtain ⟨_, _, given⟩ := Run.bind_ok given
      cases given
      cases result
      obtain ⟨⟨schemas, relations, names⟩, tables⟩ := keyed
      exact ⟨⟨schemas, relations, names⟩, tables⟩
  | registerExtension _ _ _ keyed => exact keyed

/-- A row has a value wherever its table demands one. -/
theorem Consistent.present (consistent : db.Consistent) (found : db.catalog.table name = .ok d)
    (demanded : demands d.columns position) :
    ∀ e ∈ (db.store.table d.id).rows, ∃ v, e.2[position]? = some v ∧ v.isNull = false := by
  intro e stored
  have conforms := consistent.table_conforms found
  obtain ⟨column, there, marked⟩ := demands_iff.mp demanded
  have wide : position < e.2.length :=
    (conforms.shape.width e stored).symm ▸ lt_of_demands demanded
  exact ⟨e.2[position], List.getElem?_eq_getElem wide,
    (d.complete_iff e.2).mp (conforms.complete e stored) position column _ there
      (List.getElem?_eq_getElem wide) marked⟩

/-- Whatever calls do to a new database without extensions, no row has NULL in a column of the
primary key, if no column comes as a primary key with `NULL` having the last word. -/
theorem callAll_present {o : DbOptions} {now : Timestamp} (made : create o now = .ok db)
    (calls : List Call)
    (careful : ∀ s ∈ db.carriedOutByAll calls, s.isExtension = false ∧ s.isFlat ∧ s.KeepsKeys)
    (found : (db.callAll calls).catalog.table name = .ok d) (member : i ∈ d.indexes)
    (primary : i.primary) (indexed : position ∈ i.columns) :
    ∀ e ∈ ((db.callAll calls).store.table d.id).rows,
      ∃ v, e.2[position]? = some v ∧ v.isNull = false := by
  have guarded : (db.callAll calls).Guarded fun _ s => s.KeepsKeys :=
    (Guarded.created made).callAll calls fun s carried =>
      ⟨(careful s carried).1, fun _ => (careful s carried).2.2⟩
  have consistent := callAll_consistent made calls fun s carried =>
    ⟨(careful s carried).1, (careful s carried).2.1⟩
  exact consistent.present found
    ((guarded.keyed.of_table found).marked i member primary position indexed)

/-- `CREATE TABLE t (id INTEGER PRIMARY KEY NULL)` -/
def exampleNullable : Statement :=
  .createTable ⟨[.bare "t"],
    [⟨.bare "id", "INTEGER", [⟨none, .unique true⟩, ⟨none, .null⟩]⟩], [], false, false, ""⟩

/-- `INSERT INTO t VALUES (NULL)` -/
def exampleMissing : Statement :=
  .change (.insert ⟨" INTO", [.bare "t"], [], [], [], some
    (.mk false [] (.values false [[.constant .null]]) [] none none .absent .empty), .absent, none⟩)

def exampleKeyless : Database :=
  ((exampleFresh.run (executeWithin 0) exampleNullable).2.run (executeWithin 0) exampleMissing).2

/-- The column of a primary key can be left without a value if `NULL` comes behind. -/
theorem exampleNullable_missing :
    exampleKeyless.Reachable ∧ ¬exampleNullable.KeepsKeys ∧
      ∃ d i, exampleKeyless.catalog.table ⟨none, "t"⟩ = .ok d ∧ i ∈ d.indexes ∧ i.primary ∧
        0 ∈ i.columns ∧ ¬demands d.columns 0 ∧
        ∃ e ∈ (exampleKeyless.store.table d.id).rows, ∃ v, e.2[0]? = some v ∧ v.isNull := by
  have exception : ¬exampleNullable.KeepsKeys := fun keeps =>
    absurd (keeps _ (List.mem_singleton_self _) rfl) (by decide)
  refine ⟨.run 0 _ (.run 0 _ reachable_exampleFresh), exception, ?_⟩
  have facts : (exampleKeyless.catalog.table ⟨none, "t"⟩).toOption.any (fun d =>
      d.indexes.any (fun i => i.primary && i.columns.contains 0) && !demands d.columns 0 &&
        (exampleKeyless.store.table d.id).rows.any fun e => e.2[0]?.any (·.isNull)) := by
    decide +kernel
  cases found : exampleKeyless.catalog.table ⟨none, "t"⟩ with
  | error e =>
      rw [found] at facts
      cases facts
  | ok d =>
      rw [found] at facts
      obtain ⟨key, row⟩ := Bool.and_eq_true_iff.mp facts
      obtain ⟨key, unmarked⟩ := Bool.and_eq_true_iff.mp key
      obtain ⟨i, member, key⟩ := List.any_eq_true.mp key
      obtain ⟨primary, indexed⟩ := Bool.and_eq_true_iff.mp key
      obtain ⟨e, stored, missing⟩ := List.any_eq_true.mp row
      obtain ⟨v, there, isNull⟩ := Option.any_eq_true _ _ |>.mp missing
      exact ⟨d, i, rfl, member, primary, List.contains_iff_mem.mp indexed, by simpa using unmarked,
        e, stored, v, there, isNull⟩

end Database

end SqlEngine
