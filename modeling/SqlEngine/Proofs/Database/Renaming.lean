import SqlEngine.Database.Alteration
import SqlEngine.Database.Insert
import SqlEngine.Proofs.Catalog.Redefinition
import SqlEngine.Proofs.Database.Registries
import SqlEngine.Proofs.Database.Snapshot
import SqlEngine.Proofs.Typing.Renaming

/-!
Tables after a column, or the table itself, got another name.

Checks are kept as they were written and compiled again for every statement that changes rows. So a
column that a check names cannot be renamed without all later changes of rows failing, and neither can
a table whose checks write it in front of columns. Where no check names the column, nothing but the
name changes: the same rows are taken, and errors differ at most in the names in them.
-/

namespace SqlEngine

open Run (bind_ok)

namespace TableDef

/-- The table with another name for a column. -/
def renameColumn (d : TableDef) (position : Nat) (name : String) : TableDef :=
  Define.changeColumn d position fun c => { c with name }

/-- Has no check and no default of the table a subquery? -/
structure Plain (d : TableDef) : Prop where
  checks : ∀ check ∈ d.checks, check.condition.names (fun _ _ => true) = true
  defaults : ∀ c ∈ d.columns, ∀ t ∈ c.default, t.names (fun _ _ => true) = true

end TableDef

namespace Target

variable {n m : Names} {d : TableDef} {t : Target} {position : Nat} {before after : String}
  {knownAs : Option String}

/-- The columns of a table, as a statement that changes it sees them. -/
def scopeOf (d : TableDef) (knownAs : Option String) : Scope :=
  .ofColumns (TypedPlan.scan d knownAs).columns

theorem scopeOf_renameColumn (d : TableDef) (position : Nat) (name : String)
    (knownAs : Option String) :
    scopeOf (d.renameColumn position name) knownAs = (scopeOf d knownAs).renameColumn position name :=
  congrArg Scope.ofColumns (map_modify (f := fun c : ColumnDef => { c with name })
    (h := fun c : Column => { c with name }) (fun _ => rfl) d.columns position)

theorem scopeOf_column {c : ColumnDef} (knownAs : Option String) (there : d.columns[position]? = some c) :
    (scopeOf d knownAs).columns[position]? =
      some (.visible (some (knownAs.getD d.name)) c.name c.type) := by
  simp only [scopeOf, Scope.ofColumns, TypedPlan.scan, List.getElem?_map, there, Option.map_some]

/-- The default of a column does not depend on the names of columns. -/
theorem compileDefault_alike (alike : n.Alike m) {c : ColumnDef}
    (plain : ∀ t ∈ c.default, t.names (fun _ _ => true) = true) :
    compileDefault m c = compileDefault n c := by
  unfold compileDefault
  cases written : c.default with
  | none => rfl
  | some t =>
      have same := t.build_agree (alike.agree_same (s := .empty) rfl) (plain t written)
      simp only [Option.mapM_some, same, alike.registry]

theorem compileCheck_renameColumn (alike : n.Alike m) {c : ColumnDef}
    (there : d.columns[position]? = some c) {check : CheckDef}
    (avoids : check.condition.names (fun _ name => name != c.name && name != after) = true) :
    compileCheck m (scopeOf (d.renameColumn position after) knownAs) check =
      compileCheck n (scopeOf d knownAs) check := by
  have agree := alike.agree_renameColumn after rfl (scopeOf_column knownAs there)
  rw [compileCheck, compileCheck, scopeOf_renameColumn, check.condition.condition_agree agree avoids]

/-- The target of a table whose column has another name. -/
def renameColumn (t : Target) (position : Nat) (name : String) : Target :=
  { t with
    table := t.table.renameColumn position name
    scope := t.scope.renameColumn position name }

theorem ofTable_ok (compiled : ofTable n d knownAs = .ok t) : ∃ defaults checks,
    d.columns.mapM (compileDefault n) = .ok defaults ∧
      d.checks.mapM (compileCheck n (scopeOf d knownAs)) = .ok checks ∧
      t = ⟨d, scopeOf d knownAs, defaults, checks⟩ := by
  obtain ⟨defaults, first, compiled⟩ := bind_ok compiled
  obtain ⟨checks, second, compiled⟩ := bind_ok compiled
  cases compiled
  exact ⟨defaults, checks, first, second, rfl⟩

theorem ofTable_renameColumn (alike : n.Alike m) (plain : d.Plain) {c : ColumnDef}
    (there : d.columns[position]? = some c)
    (avoid : ∀ check ∈ d.checks,
      check.condition.names (fun _ name => name != c.name && name != after) = true)
    (compiled : ofTable n d knownAs = .ok t) :
    ofTable m (d.renameColumn position after) knownAs = .ok (t.renameColumn position after) := by
  obtain ⟨defaults, checks, first, second, rfl⟩ := ofTable_ok compiled
  have defaultsSame : (d.renameColumn position after).columns.mapM (compileDefault m) = .ok defaults := by
    rw [← first]
    refine (Run.mapM_modify (f := compileDefault m) (g := fun c => { c with name := after }) (fun _ => rfl)
      d.columns position).trans ?_
    exact Run.mapM_congr fun c member => compileDefault_alike alike (plain.defaults c member)
  have checksSame : (d.renameColumn position after).checks.mapM
      (compileCheck m (scopeOf (d.renameColumn position after) knownAs)) = .ok checks := by
    rw [← second]
    exact Run.mapM_congr fun check member => compileCheck_renameColumn alike there (avoid check member)
  simp only [scopeOf] at checksSame
  rw [ofTable, defaultsSame]
  simp only [bind, Except.bind, checksSame]
  rw [renameColumn, ← scopeOf_renameColumn]
  rfl

/-- A check of a table that can be changed knows all the columns that it names. -/
theorem ofTable_names (compiled : ofTable n d knownAs = .ok t) {check : CheckDef}
    (member : check ∈ d.checks) (plain : check.condition.names (fun _ _ => true) = true) :
    check.condition.names (n.knows (scopeOf d knownAs)) = true := by
  obtain ⟨_, checks, _, each, rfl⟩ := ofTable_ok compiled
  obtain ⟨_, one, _⟩ := Run.mapM_mem_ok each check member
  obtain ⟨e, given, _⟩ := bind_ok one
  exact Sql.Term.names_of_condition rfl plain given

/-- What a name can refer to is a column of the table, under the name that the statement gives to the
table. -/
theorem column_of_knows (top : n.outer = []) (table : Option String) {name : String}
    (word : table = none → Build.bareCalls.lookup name = none)
    (known : n.knows (scopeOf d knownAs) table name = true) :
    (∃ c ∈ d.columns, c.name = name) ∧ table.all (· == knownAs.getD d.name) = true := by
  obtain ⟨⟨i, c⟩, found⟩ := (Names.knows_iff top word).mp known
  have only := Scope.answers_of_find? found
  obtain ⟨held, answers⟩ := Scope.mem_answers.mp (only ▸ List.mem_singleton_self (c, i))
  obtain ⟨column, member, rfl⟩ := List.mem_map.mp (List.mem_of_getElem? held)
  obtain ⟨named, placed⟩ := Bool.and_eq_true_iff.mp answers
  refine ⟨⟨column, member, beq_iff_eq.mp named⟩, ?_⟩
  cases table with
  | none => rfl
  | some table => exact beq_iff_eq.mpr (Option.some.inj (beq_iff_eq.mp placed)).symm

/-- A check that compiles under the old and under the new name of a column does not name it. -/
theorem avoids_of_renameColumn (tops : n.outer = [] ∧ m.outer = []) {c : ColumnDef}
    (there : d.columns[position]? = some c) (other : c.name ≠ after)
    (word : Build.bareCalls.lookup c.name = none) (compiled : ofTable n d knownAs = .ok t) {u : Target}
    (again : ofTable m (d.renameColumn position after) knownAs = .ok u) {check : CheckDef}
    (member : check ∈ d.checks) (plain : check.condition.names (fun _ _ => true) = true) :
    check.condition.names (fun _ name => name != c.name) = true := by
  -- a name in the check is known both times, and the old name of the column only the first time
  have before := ofTable_names compiled member plain
  have now := ofTable_names again member plain
  refine Sql.Term.names_both (fun table name known still => ?_) check.condition before now
  rw [bne_iff_ne]
  rintro rfl
  rw [scopeOf_renameColumn] at still
  have gone := Names.not_knows_renameColumn (m := m) tops word
    (scopeOf_column knownAs there) (fun e member => ?_) other known
  · exact absurd (still.symm.trans gone) nofun
  · obtain ⟨_, _, rfl⟩ := List.mem_map.mp member
    exact ⟨rfl, rfl⟩

/-- Under the new name of a column, changes of the table go on if and only if no check names the
column, and they go on as before. -/
theorem ofTable_renameColumn_iff (alike : n.Alike m) (plain : d.Plain) {c : ColumnDef}
    (there : d.columns[position]? = some c) (free : d.position? after = none)
    (words : Build.bareCalls.lookup c.name = none ∧ Build.bareCalls.lookup after = none)
    (compiled : ofTable n d knownAs = .ok t) {u : Target} :
    ofTable m (d.renameColumn position after) knownAs = .ok u ↔
      u = t.renameColumn position after ∧
        ∀ check ∈ d.checks, check.condition.names (fun _ name => name != c.name) = true := by
  have unlike : ∀ column ∈ d.columns, column.name ≠ after := fun column member =>
    bne_iff_ne.mp (by simpa using List.findIdx?_eq_none_iff.mp free column member)
  have goesOn (avoid : ∀ check ∈ d.checks,
      check.condition.names (fun _ name => name != c.name) = true) :
      ofTable m (d.renameColumn position after) knownAs = .ok (t.renameColumn position after) := by
    refine ofTable_renameColumn alike plain there (fun check member => ?_) compiled
    -- a check that was compiled before names no column that was not there, such as the new one
    have known := ofTable_names compiled member (plain.checks check member)
    refine Sql.Term.names_both (fun table name different known => ?_) check.condition
      (avoid check member) known
    rw [Bool.and_eq_true, bne_iff_ne (a := name) (b := after)]
    refine ⟨different, ?_⟩
    rintro rfl
    obtain ⟨⟨column, there, same⟩, -⟩ := column_of_knows alike.tops.1 table (fun _ => words.2) known
    exact unlike column there same
  constructor
  · intro again
    have avoid := fun check member => avoids_of_renameColumn alike.tops there
      (unlike c (List.mem_of_getElem? there)) words.1 compiled again member (plain.checks check member)
    exact ⟨Except.ok.inj (again.symm.trans (goesOn avoid)), avoid⟩
  · rintro ⟨rfl, avoid⟩
    exact goesOn avoid

/-- A check can only be compiled where the table that it writes in front of columns is the name that
the statement gives to the table. -/
theorem ofTable_tables (top : n.outer = []) (compiled : ofTable n d knownAs = .ok t)
    {check : CheckDef} (member : check ∈ d.checks)
    (plain : check.condition.names (fun _ _ => true) = true) :
    check.condition.names (fun table _ => table.all (· == knownAs.getD d.name)) = true := by
  have known := ofTable_names compiled member plain
  refine Sql.Term.names_both (fun table name _ known => ?_) check.condition plain known
  cases table with
  | none => rfl
  | some table => exact (column_of_knows top (some table) nofun known).2

/-- Where changes of a table under its own name go on after it got another one, no check writes a table
in front of a column. -/
theorem names_of_rename {name : String} (other : name ≠ d.name) (tops : n.outer = [] ∧ m.outer = [])
    (compiled : ofTable n d none = .ok t) {u : Target}
    (again : ofTable m { d with name } none = .ok u) {check : CheckDef} (member : check ∈ d.checks)
    (plain : check.condition.names (fun _ _ => true) = true) :
    check.condition.names (fun table _ => table.isNone) = true := by
  have before := ofTable_tables tops.1 compiled member plain
  have now := ofTable_tables tops.2 again member plain
  refine Sql.Term.names_both (fun table column old new => ?_) check.condition before now
  cases table with
  | none => rfl
  | some table =>
      simp only [Option.all_some, Option.getD_none, beq_iff_eq] at old new
      exact absurd (new.symm.trans old) other

end Target

/-! ### What a table takes -/

/-- Two programs succeed from the same states and with the same results. They leave the same state,
whether they succeed or not. -/
def Run.Accord {σ α : Type} (m n : ExceptT SqlError (StateM σ) α) : Prop :=
  ∀ s, (n.run s).2 = (m.run s).2 ∧ (n.run s).1.toOption = (m.run s).1.toOption

namespace Run.Accord

variable {σ α β : Type} {m n : ExceptT SqlError (StateM σ) α}

theorem of_eq (same : n = m) : Accord m n := fun _ => same ▸ ⟨rfl, rfl⟩

theorem throw (e other : SqlError) :
    Accord (throw e : ExceptT SqlError (StateM σ) α) (throw other) := fun _ => ⟨rfl, rfl⟩

theorem bind {f g : α → ExceptT SqlError (StateM σ) β} (first : Accord m n)
    (next : ∀ a, Accord (f a) (g a)) : Accord (m >>= f) (n >>= g) := by
  intro s
  obtain ⟨states, results⟩ := first s
  rw [Run.bind_run, Run.bind_run]
  rcases left : m.run s with ⟨result, after⟩
  rcases right : n.run s with ⟨other, later⟩
  rw [left, right] at states results
  dsimp only at states results
  subst states
  -- the first programs fail together, perhaps with different errors, or succeed with one result
  cases result <;> cases other <;> cases results
  · exact ⟨rfl, rfl⟩
  · exact next _ _

theorem forM {f g : α → ExceptT SqlError (StateM σ) PUnit} : ∀ {items : List α},
    (∀ a ∈ items, Accord (f a) (g a)) → Accord (items.forM f) (items.forM g) := by
  intro items
  induction items with
  | nil => exact fun _ => of_eq rfl
  | cons a rest ih =>
      intro each
      obtain ⟨first, others⟩ := List.forall_mem_cons.mp each
      exact first.bind fun _ => ih others

end Run.Accord

open Run (Accord)

/-- The definitions differ in names only. -/
structure TableDef.Akin (d e : TableDef) : Prop where
  id : e.id = d.id
  indexes : e.indexes = d.indexes
  columns : e.columns.map (fun c => (c.type, c.notNull)) = d.columns.map fun c => (c.type, c.notNull)

namespace TableDef.Akin

variable {d e : TableDef} {content : TableData} {row : Row}

theorem width (akin : d.Akin e) : e.columns.length = d.columns.length := by
  simpa using congrArg List.length akin.columns

theorem typeAt (akin : d.Akin e) (position : Nat) : e.typeAt position = d.typeAt position := by
  have same := congrArg (fun columns => (columns[position]?).map Prod.fst) akin.columns
  simp only [List.getElem?_map, Option.map_map] at same
  unfold TableDef.typeAt
  generalize e.columns[position]? = a, d.columns[position]? = b at same
  match a, b, same with
  | none, none, _ => rfl
  | some _, some _, same => exact Option.some.inj same

theorem keyOf (akin : d.Akin e) (i : IndexDef) (row : Row) : e.keyOf i row = d.keyOf i row := by
  simp only [TableDef.keyOf, TableDef.keyFrom, akin.typeAt]

theorem conflict? (akin : d.Akin e) (except : Option RowId) :
    content.conflict? e row except = content.conflict? d row except := by
  simp only [TableData.conflict?, TableData.holder?, akin.indexes, akin.keyOf]

theorem complete (akin : d.Akin e) : e.Complete row ↔ d.Complete row := by
  have all : ∀ d : TableDef, d.Complete row ↔
      ∀ p ∈ (d.columns.map fun c => (c.type, c.notNull)).zip row, p.1.2 = true → p.2.isNull = false := by
    intro d
    simp only [TableDef.Complete, List.zip_map_left, List.forall_mem_map, Prod.map]
    rfl
  rw [all, all, akin.columns]

/-- Rows are refused for the same reasons, although in other words. -/
theorem check (akin : d.Akin e) (content : TableData) (row : Row) (except : Option RowId) :
    (content.check e row except).toOption = (content.check d row except).toOption := by
  have same : content.check e row except = .ok () ↔ content.check d row except = .ok () := by
    rw [TableData.check_eq_ok_iff, TableData.check_eq_ok_iff, akin.width, akin.complete, akin.conflict?]
  generalize content.check e row except = a, content.check d row except = b at same
  match a, b, same with
  | .ok (), .ok (), _ | .error _, .error _, _ => rfl
  | .ok (), .error _, same => cases same.mp rfl
  | .error _, .ok (), same => cases same.mpr rfl

theorem addKeys (akin : d.Akin e) (id : RowId) (row : Row) :
    content.addKeys e id row = content.addKeys d id row := by
  have each : TableData.addKey e id row = TableData.addKey d id row := by
    funext indexes i
    simp only [TableData.addKey, akin.keyOf]
  rw [TableData.addKeys, TableData.addKeys, akin.indexes, each]

theorem removeKeys (akin : d.Akin e) (id : RowId) (row : Row) :
    content.removeKeys e id row = content.removeKeys d id row := by
  have each : TableData.removeKey e id row = TableData.removeKey d id row := by
    funext indexes i
    simp only [TableData.removeKey, akin.keyOf]
  rw [TableData.removeKeys, TableData.removeKeys, akin.indexes, each]

theorem insert (akin : d.Akin e) (row : Row) :
    Accord (ContentChange.insert d row) (ContentChange.insert e row) := by
  intro content
  rw [TableData.run_insert, TableData.run_insert, TableData.inserted, TableData.inserted, akin.addKeys]
  have same := akin.check content row none
  generalize content.check e row none = a, content.check d row none = b at same
  cases a <;> cases b <;> cases same <;> exact ⟨rfl, rfl⟩

theorem update (akin : d.Akin e) (id : RowId) (row : Row) :
    Accord (ContentChange.update d id row) (ContentChange.update e id row) := by
  intro content
  rw [TableData.run_update, TableData.run_update]
  cases content.get? id with
  | none => exact ⟨rfl, rfl⟩
  | some previous =>
      dsimp only
      rw [TableData.updated, TableData.updated, akin.removeKeys, akin.addKeys]
      have same := akin.check content row (some id)
      generalize content.check e row (some id) = a, content.check d row (some id) = b at same
      cases a <;> cases b <;> cases same <;> exact ⟨rfl, rfl⟩

end TableDef.Akin

/-- The targets differ in names only. -/
structure Target.Akin (t u : Target) : Prop where
  table : t.table.Akin u.table
  defaults : u.defaults = t.defaults
  checks : u.checks = t.checks

/-- The second target completes rows as the first does, and inserts and replaces the same ones. -/
structure Target.Takes (t : Target) (env other : Env) (u : Target) : Prop where
  complete : ∀ columns values,
    Sql.Insert.completeRow other u columns values = Sql.Insert.completeRow env t columns values
  insert : ∀ row, Accord (t.insert env row) (u.insert other row)
  update : ∀ id row, Accord (t.update env id row) (u.update other id row)

namespace Target.Akin

variable {t u : Target} {env other : Env}

theorem renameColumn (t : Target) (position : Nat) (name : String) :
    t.Akin (t.renameColumn position name) where
  table := {
    id := rfl
    indexes := rfl
    columns := by
      have same := map_modify (f := fun c : ColumnDef => { c with name })
        (g := fun c => (c.type, c.notNull)) (h := id) (fun _ => rfl) t.table.columns position
      rwa [List.modify_id] at same }
  defaults := rfl
  checks := rfl

theorem completeRow (akin : t.Akin u) (alike : env.Alike other) (columns : List Nat)
    (values : List (Option Value)) :
    Sql.Insert.completeRow other u columns values = Sql.Insert.completeRow env t columns values := by
  have defaults : ∀ column, u.default column = t.default column := fun column => by
    rw [Target.default, Target.default, akin.defaults, akin.table.typeAt]
  simp only [Sql.Insert.completeRow, akin.table.width, defaults, Expr.eval_alike_env alike]

theorem check (akin : t.Akin u) (alike : env.Alike other) (row : Row) :
    Accord (t.check env row) (u.check other row) := by
  rw [Target.check, Target.check, akin.checks]
  refine Accord.forM fun check _ => ?_
  simp only [Target.refuses, Expr.eval_alike_env alike]
  refine (Accord.of_eq rfl).bind fun refused => ?_
  split
  · exact .throw _ _
  · exact .of_eq rfl

theorem changeContent {α : Type} (akin : t.Akin u) {m n : ContentChange α} (accord : Accord m n) :
    Accord (t.changeContent m) (u.changeContent n) := by
  intro s
  obtain ⟨contents, results⟩ := accord (s.store.table t.table.id)
  rw [Target.changeContent_run, Target.changeContent_run, akin.table.id, contents]
  exact ⟨rfl, results⟩

theorem insert (akin : t.Akin u) (alike : env.Alike other) (row : Row) :
    Accord (t.insert env row) (u.insert other row) :=
  (akin.check alike row).bind fun _ =>
    (akin.changeContent (akin.table.insert row)).bind fun _ => .of_eq rfl

theorem update (akin : t.Akin u) (alike : env.Alike other) (id : RowId) (row : Row) :
    Accord (t.update env id row) (u.update other id row) :=
  (akin.check alike row).bind fun _ =>
    (akin.changeContent (akin.table.update id row)).bind fun _ => .of_eq rfl

theorem takes (akin : t.Akin u) (alike : env.Alike other) : t.Takes env other u :=
  ⟨akin.completeRow alike, akin.insert alike, akin.update alike⟩

end Target.Akin

/-! ### The statement -/

theorem Catalog.Redefined.alike {c next : Catalog} (redefined : c.Redefined next) :
    (Names.ofCatalog c).Alike (.ofCatalog next) where
  registry := redefined.registry
  functions := redefined.functionsNamed
  tops := ⟨rfl, rfl⟩

namespace Define

variable {s t : Draft} {d : TableDef} {now : Timestamp} {before after : Sql.Ident}

theorem alterOne_renameColumn (registered : s.catalog.Registered)
    (held : s.catalog.Has d.schema d.id (.table d))
    (ran : (alterOne now d.id (.renameColumn before after)).run s = (.ok (), t)) :
    ∃ position, d.position? before.name = some position ∧ d.position? after.name = none ∧
      s.catalog.Redefined t.catalog ∧ t.catalog.Registered ∧
        t.catalog.Has d.schema d.id (.table (d.renameColumn position after.name)) := by
  rw [alterOne, catalog_bind_run, registered.tableById_of_has held] at ran
  obtain ⟨_, same, ran⟩ := Run.lift_bind_ok ran
  cases same
  obtain ⟨position, there, ran⟩ := Run.lift_bind_ok ran
  split at ran
  · cases ran
  · rename_i free
    obtain ⟨next, replaced, rfl⟩ := changeCatalog_ok ran
    let e := d.renameColumn position after.name
    have replaced : s.catalog.replaceTable e = .ok next := replaced
    have distinct := (registered.placed _ _ _ held).2.2
    obtain ⟨still, altered⟩ := registered.replaceTable (d := e) held rfl distinct replaced
    refine ⟨position, TableDef.position_ok there, by simpa using free, ?_, still, ?_⟩
    · exact registered.ordered.replaceTable_redefined (e := e) held rfl rfl rfl replaced
    · exact (altered.has _ _ _).mpr (by simp [e, TableDef.renameColumn, changeColumn])

end Define

namespace Database

variable {db later : Database} {d : TableDef} {name : QName} {parts : List Sql.Ident}
  {ifExists : Bool} {before after : Sql.Ident} {outcome : Outcome}

theorem Reachable.alterTable_single (reachable : db.Reachable) (installer : Installer)
    {change : Sql.TableChange} (named : QName.ofParts parts = .ok name)
    (found : db.catalog.table name = .ok d)
    (done : db.run installer (.alterTable ⟨parts, ifExists, [change]⟩) = (.ok outcome, later)) :
    ∃ data t, db.catalog.Has d.schema d.id (.table d) ∧
      (Define.alterOne db.now d.id change).run ⟨db.catalog, data⟩ = (.ok (), t) ∧
        later.catalog = t.catalog := by
  have registered := reachable.linked.registered
  obtain ⟨schema, id, held⟩ := registered.ordered.table_has found
  obtain ⟨rfl, rfl, -⟩ := registered.placed _ _ _ held
  obtain ⟨data, t, ran, catalog⟩ := define_ok done
  rw [Define.alterTable, Define.catalog_bind_run, named] at ran
  obtain ⟨_, same, ran⟩ := Run.lift_bind_ok ran
  cases same
  rw [found] at ran
  obtain ⟨_, u, ran, finished⟩ := Run.bind_run_ok ran
  cases finished
  obtain ⟨_, v, ran, finished⟩ := Run.bind_run_ok ran
  cases finished
  exact ⟨data, _, held, ran, catalog⟩

theorem Reachable.renameColumn (reachable : db.Reachable) (installer : Installer)
    (named : QName.ofParts parts = .ok name) (found : db.catalog.table name = .ok d)
    (done : db.run installer (.alterTable ⟨parts, ifExists, [.renameColumn before after]⟩) =
      (.ok outcome, later)) :
    ∃ position, d.position? before.name = some position ∧ d.position? after.name = none ∧
      db.catalog.Redefined later.catalog ∧
        later.catalog.table name = .ok (d.renameColumn position after.name) := by
  have registered := reachable.linked.registered
  obtain ⟨data, t, held, ran, catalog⟩ := reachable.alterTable_single installer named found done
  obtain ⟨position, there, free, redefined, still, has⟩ := Define.alterOne_renameColumn registered held ran
  rw [catalog]
  exact ⟨position, there, free, redefined, redefined.table registered still found has⟩

/-- After `ALTER TABLE … RENAME COLUMN`, rows of the table can be changed if and only if no check names
the column, and then the table takes the rows that it took before. -/
theorem Reachable.renameColumn_checks (reachable : db.Reachable) (installer : Installer)
    (named : QName.ofParts parts = .ok name) (found : db.catalog.table name = .ok d)
    (done : db.run installer (.alterTable ⟨parts, ifExists, [.renameColumn before after]⟩) =
      (.ok outcome, later))
    (plain : d.Plain) (words : Build.bareCalls.lookup before.name = none ∧
      Build.bareCalls.lookup after.name = none)
    {knownAs : Option String} {t : Target}
    (compiled : Target.ofTable (.ofCatalog db.catalog) d knownAs = .ok t) :
    ∃ e, later.catalog.table name = .ok e ∧
      ((∃ u, Target.ofTable (.ofCatalog later.catalog) e knownAs = .ok u) ↔
        ∀ check ∈ d.checks, check.condition.names (fun _ column => column != before.name) = true) ∧
      ∀ u, Target.ofTable (.ofCatalog later.catalog) e knownAs = .ok u →
        ∀ now, t.Takes ⟨db.catalog, now⟩ ⟨later.catalog, now⟩ u := by
  obtain ⟨position, there, free, redefined, held⟩ := reachable.renameColumn installer named found done
  obtain ⟨column, inside, same⟩ := TableDef.column_of_position? there
  rw [← same] at words ⊢
  have changeable {u : Target} := Target.ofTable_renameColumn_iff redefined.alike plain inside free words
    compiled (u := u)
  refine ⟨_, held, ?_, fun u again now => ?_⟩
  · exact ⟨fun ⟨_, again⟩ => (changeable.mp again).2, fun avoid => ⟨_, changeable.mpr ⟨rfl, avoid⟩⟩⟩
  · obtain ⟨rfl, -⟩ := changeable.mp again
    exact (Target.Akin.renameColumn t position after.name).takes (redefined.env now)

end Database

end SqlEngine
