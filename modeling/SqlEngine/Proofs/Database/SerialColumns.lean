import SqlEngine.Proofs.Database.Registries

/-!
Sequences of serial columns.

The sequence of a serial column is tied to its column by a text alone, made of the names of the
table and the column when the column came. As long as no name of a table has a dot, no table with a
serial column and no serial column gets another name, the text keeps naming the column. Then a
table takes exactly its own sequences with it when it goes, and so does a column.
-/

namespace SqlEngine

open Run (bind_ok)

/-! ### Texts that name columns -/

/-- A name without a dot. -/
def IsPlain (name : String) : Prop := '.' ∉ name.toList

theorem takeWhile_plain {name : String} (plain : IsPlain name) (rest : List Char) :
    (name.toList ++ '.' :: rest).takeWhile (· != '.') = name.toList := by
  have each : ∀ c ∈ name.toList, (c != '.') = true := fun c member =>
    bne_iff_ne.mpr fun same => plain (same ▸ member)
  rw [List.takeWhile_append_of_pos each]
  simp

/-- A text that names a column names a column of one table only. -/
theorem plain_prefix_iff {name other column : String} (plain : IsPlain name)
    (plainOther : IsPlain other) :
    (other ++ ".").isPrefixOf (name ++ "." ++ column) = true ↔ other = name := by
  have dot : ".".toList = ['.'] := rfl
  rw [String.isPrefixOf, String.startsWith_string_iff]
  simp only [String.toList_append, dot]
  constructor
  · rintro ⟨rest, same⟩
    simp only [List.append_assoc, List.singleton_append] at same
    have words := congrArg (List.takeWhile (· != '.')) same
    rw [takeWhile_plain plainOther, takeWhile_plain plain] at words
    exact String.toList_inj.mp words
  · rintro rfl
    exact ⟨column.toList, by simp⟩

/-- The name of a table with a dot may look like a column of another table. -/
example : ("a" ++ ".").isPrefixOf ("a.b" ++ "." ++ "id") = true := by decide +kernel

theorem named_column_inj {name column other : String} :
    name ++ "." ++ column = name ++ "." ++ other ↔ column = other := by
  simp [← String.toList_inj]

/-! ### Serial columns of a layout -/

/-- The columns of a statement that sequences fill. -/
def Sql.CreateTable.serialColumns (t : Sql.CreateTable) : List String :=
  (t.columns.filter fun c => (TypeName.ofText c.type).isSerial).map (·.name.name)

namespace Layout

variable {l next : Layout} {c : Catalog} {schema : String} {column changed : ColumnDef}

/-- The columns that the layout has sequences for, by name. -/
def serialColumns (l : Layout) : List String := l.serials.map (·.column)

def columnNames (l : Layout) : List String := l.columns.map (·.name)

theorem startColumn_names {t : Sql.ColumnTerm} (given : l.startColumn c schema t = .ok (column, next)) :
    column.name = t.name.name ∧ next.columns = l.columns ∧
      next.serialColumns = l.serialColumns ++
        if (TypeName.ofText t.type).isSerial then [t.name.name] else [] := by
  unfold startColumn at given
  dsimp only at given
  split at given
  · rename_i serial
    cases given
    simp [serialColumns, serial]
  · rename_i plain
    obtain ⟨type, -, given⟩ := bind_ok given
    cases given
    simp [plain]

theorem addRule_names {position : Nat} {o : Sql.ColumnOption}
    (given : addRule position column l o = .ok (changed, next)) :
    changed.name = column.name ∧ next.columns = l.columns ∧ next.serials = l.serials := by
  unfold addRule at given
  split at given <;> cases given <;> exact ⟨rfl, rfl, rfl⟩

theorem addColumn_names {t : Sql.ColumnTerm} (given : addColumn c schema l t = .ok next) :
    next.columnNames = l.columnNames ++ [t.name.name] ∧
      next.serialColumns = l.serialColumns ++
        if (TypeName.ofText t.type).isSerial then [t.name.name] else [] := by
  unfold addColumn at given
  split at given
  · cases given
  · obtain ⟨⟨first, started⟩, start, given⟩ := bind_ok given
    obtain ⟨⟨column, ruled⟩, folded, given⟩ := bind_ok given
    cases given
    obtain ⟨name, columns, serials⟩ := startColumn_names start
    have kept : column.name = first.name ∧ ruled.columns = started.columns ∧
        ruled.serials = started.serials := by
      refine Run.foldlM_ok (p := fun state : ColumnDef × Layout => state.1.name = first.name ∧
        state.2.columns = started.columns ∧ state.2.serials = started.serials) ?_ ⟨rfl, rfl, rfl⟩ folded
      rintro ⟨before, layout⟩ ⟨named, same, alike⟩ o _ ⟨after, result⟩ applied
      obtain ⟨still, unchanged, untouched⟩ := addRule_names applied
      exact ⟨still.trans named, unchanged.trans same, untouched.trans alike⟩
    refine ⟨?_, ?_⟩
    · simp [columnNames, kept.1, kept.2.1, name, columns]
    · rw [← serials]
      exact congrArg (·.map SerialColumn.column) kept.2.2

theorem addConstraint_names {constraint : Sql.Constraint}
    (given : l.addConstraint constraint = .ok next) :
    next.columnNames = l.columnNames ∧ next.serialColumns = l.serialColumns := by
  unfold addConstraint at given
  split at given
  · obtain ⟨positions, -, given⟩ := bind_ok given
    cases given
    split
    · refine ⟨List.ext_getElem (by simp [columnNames, demand, addKey]) fun i _ _ => ?_, rfl⟩
      simp only [columnNames, addKey, demand, List.getElem_map, List.getElem_mapIdx]
      split <;> rfl
    · exact ⟨rfl, rfl⟩
  · cases given
    exact ⟨rfl, rfl⟩
  · cases given

end Layout

theorem Define.layoutOf_serialColumns {c : Catalog} {schema name : String} {t : Sql.CreateTable}
    {l : Layout} (given : layoutOf c schema name t = .ok l) :
    l.serialColumns = t.serialColumns ∧ ∀ column ∈ t.serialColumns, column ∈ l.columnNames := by
  obtain ⟨first, columns, given⟩ := bind_ok given
  obtain ⟨second, constraints, given⟩ := bind_ok given
  obtain ⟨_, -, given⟩ := bind_ok given
  cases given
  have added : ∀ (terms : List Sql.ColumnTerm) (start : Layout),
      terms.foldlM (Layout.addColumn c schema) start = .ok first →
      first.columnNames = start.columnNames ++ terms.map (·.name.name) ∧
        first.serialColumns = start.serialColumns ++
          (terms.filter fun c => (TypeName.ofText c.type).isSerial).map (·.name.name) := by
    intro terms
    induction terms with
    | nil =>
        intro start folded
        cases folded
        simp
    | cons term rest ih =>
        intro start folded
        rw [List.foldlM_cons] at folded
        obtain ⟨next, one, folded⟩ := bind_ok folded
        obtain ⟨names, serials⟩ := Layout.addColumn_names one
        obtain ⟨later, more⟩ := ih next folded
        refine ⟨by simp [later, names], ?_⟩
        rw [more, serials, List.filter_cons]
        split <;> simp
  obtain ⟨names, serials⟩ := added t.columns _ columns
  have kept : l.columnNames = first.columnNames ∧ l.serialColumns = first.serialColumns := by
    refine Run.foldlM_ok (p := fun l : Layout => l.columnNames = first.columnNames ∧
      l.serialColumns = first.serialColumns) ?_ ⟨rfl, rfl⟩ constraints
    rintro before ⟨same, alike⟩ constraint _ after applied
    obtain ⟨unchanged, untouched⟩ := Layout.addConstraint_names applied
    exact ⟨unchanged.trans same, untouched.trans alike⟩
  refine ⟨kept.2.trans serials, fun column member => ?_⟩
  rw [kept.1, names]
  obtain ⟨term, there, rfl⟩ := List.mem_map.mp member
  exact List.mem_append_right _ (List.mem_map_of_mem (List.mem_filter.mp there).1)

namespace Define

open Catalog (Registered)

variable {s t : Draft} {d : TableDef}

/-! ### A table that comes -/

/-- The relation is the sequence of one of the columns of a table, numbered from a start on. -/
def Fills (d : TableDef) (columns : List String) (start : Nat) (schema : String) (id : Nat)
    (r : Relation) : Prop :=
  ∃ i column q, columns[i]? = some column ∧ id = start + i ∧ schema = d.schema ∧ r = .sequence q ∧
    q.options.ownedBy = some (d.name ++ "." ++ column)

theorem fills_cons {columns : List String} {column schema : String} {start id : Nat} {r : Relation}
    (later : Fills d columns (start + 1) schema id r) : Fills d (column :: columns) start schema id r := by
  obtain ⟨i, named, q, there, number, rest⟩ := later
  exact ⟨i + 1, named, q, by simpa using there, by omega, rest⟩

theorem registerSerial_has {serial : SerialColumn} (registered : s.catalog.Registered)
    (ran : (registerSerial d serial).run s = (.ok (), t)) :
    t.catalog.Registered ∧ t.catalog.nextId = s.catalog.nextId + 1 ∧
      ∃ q, q.options.ownedBy = some (d.name ++ "." ++ serial.column) ∧ q.name = serial.sequence ∧
        ∀ schema id r, t.catalog.Has schema id r ↔
          (schema = d.schema ∧ id = s.catalog.nextId ∧ r = .sequence q) ∨
            s.catalog.Has schema id r := by
  obtain ⟨options, created, ran⟩ := Run.lift_bind_ok ran
  obtain ⟨next, made, rfl⟩ := changeCatalog_ok ran
  obtain ⟨_, -, made⟩ := bind_ok made
  have kept : s.catalog.Kept s.catalog.allocate.2 :=
    .of_schemas registered.ordered (Nat.le_succ _) rfl
  let q : SequenceDef := ⟨s.catalog.nextId, d.schema, serial.sequence, options⟩
  obtain ⟨still, number, has⟩ := (kept.registered registered).register_has
    (r := .sequence q) registered.unused_allocate ⟨rfl, rfl⟩ made
  refine ⟨still, number, q, ?_, rfl,
    fun schema id r => (has schema id r).trans (or_congr Iff.rfl (kept.has _ _ _))⟩
  obtain ⟨⟨settled, restart⟩, changed, created⟩ := bind_ok created
  cases created
  obtain ⟨r, limit, folded, -, rfl, -, -⟩ := SequenceOptions.change_ok changed
  cases folded
  rfl

theorem registerSerials_has : ∀ {serials : List SerialColumn} {s : Draft}, s.catalog.Registered →
    (serials.forM (registerSerial d)).run s = (.ok ⟨⟩, t) →
      t.catalog.nextId = s.catalog.nextId + serials.length ∧
        (∀ schema id r, s.catalog.Has schema id r → t.catalog.Has schema id r) ∧
        (∀ schema id r, t.catalog.Has schema id r → s.catalog.Has schema id r ∨
          Fills d (serials.map (·.column)) s.catalog.nextId schema id r) ∧
        ∀ i, i < serials.length →
          ∃ q, t.catalog.Has d.schema (s.catalog.nextId + i) (.sequence q) := by
  intro serials
  induction serials with
  | nil =>
      intro s registered ran
      cases ran
      exact ⟨rfl, fun _ _ _ => id, fun _ _ _ => .inl, fun i below => absurd below (Nat.not_lt_zero i)⟩
  | cons serial rest ih =>
      intro s registered ran
      obtain ⟨_, u, one, ran⟩ := Run.bind_run_ok ran
      obtain ⟨still, number, q, owner, -, has⟩ := registerSerial_has registered one
      obtain ⟨count, kept, origin, there⟩ := ih still ran
      rw [number] at count origin there
      refine ⟨by rw [count, List.length_cons]; omega, fun schema id r held => ?_, fun schema id r held => ?_, ?_⟩
      · exact kept _ _ _ ((has _ _ _).mpr (.inr held))
      · rcases origin _ _ _ held with before | later
        · rcases (has _ _ _).mp before with ⟨rfl, rfl, rfl⟩ | old
          · exact .inr ⟨0, serial.column, q, rfl, rfl, rfl, rfl, owner⟩
          · exact .inl old
        · exact .inr (fills_cons later)
      · intro i below
        cases i with
        | zero => exact ⟨q, kept _ _ _ ((has _ _ _).mpr (.inl ⟨rfl, rfl, rfl⟩))⟩
        | succ i =>
            obtain ⟨q, held⟩ := there i (Nat.lt_of_succ_lt_succ below)
            exact ⟨q, by rwa [Nat.add_right_comm] at held⟩

theorem registerIndexes_has : ∀ {indexes : List IndexDef} {s : Draft}, s.catalog.Registered →
    (∀ i ∈ indexes, s.catalog.Unused i.id) → (indexes.map (·.id)).Nodup →
      (indexes.forM (registerIndex d)).run s = (.ok ⟨⟩, t) →
        t.catalog.Registered ∧ t.catalog.nextId = s.catalog.nextId ∧
          (∀ schema id r, s.catalog.Has schema id r → t.catalog.Has schema id r) ∧
          ∀ schema id r, t.catalog.Has schema id r →
            s.catalog.Has schema id r ∨ ∃ table name, r = .index table name := by
  intro indexes
  induction indexes with
  | nil =>
      intro s registered _ _ ran
      cases ran
      exact ⟨registered, rfl, fun _ _ _ => id, fun _ _ _ => .inl⟩
  | cons i rest ih =>
      intro s registered unused distinct ran
      obtain ⟨first, others⟩ := List.forall_mem_cons.mp unused
      obtain ⟨fresh, distinctRest⟩ := List.nodup_cons.mp distinct
      obtain ⟨_, u, one, ran⟩ := Run.bind_run_ok ran
      obtain ⟨next, made, rfl⟩ := changeCatalog_ok one
      obtain ⟨still, number, has⟩ := registered.register_has (r := .index d.id i.name) first trivial made
      have unusedLater : ∀ j ∈ rest, next.Unused j.id := by
        refine fun j member => ⟨number ▸ (others j member).given, fun schema r held => ?_⟩
        rcases (has _ _ _).mp held with ⟨_, same, _⟩ | old
        · exact fresh (List.mem_map.mpr ⟨j, member, same⟩)
        · exact (others j member).unused _ _ old
      obtain ⟨later, count, kept, origin⟩ := ih still unusedLater distinctRest ran
      refine ⟨later, count.trans number, fun schema id r held => ?_, fun schema id r held => ?_⟩
      · exact kept _ _ _ ((has _ _ _).mpr (.inr held))
      · rcases origin _ _ _ held with before | index
        · rcases (has _ _ _).mp before with ⟨_, _, rfl⟩ | old
          · exact .inr ⟨_, _, rfl⟩
          · exact .inl old
        · exact .inr index

/-- A table comes under the next number, with indexes, and with sequences for some columns under the
last numbers that were taken. -/
structure Creates (c next : Catalog) (d : TableDef) (columns : List String) : Prop where
  number : d.id = c.nextId
  start : c.nextId < next.nextId - columns.length
  kept : ∀ schema id r, c.Has schema id r → next.Has schema id r
  table : next.Has d.schema d.id (.table d)
  sequences : ∀ i, i < columns.length →
    ∃ q, next.Has d.schema (next.nextId - columns.length + i) (.sequence q)
  origin : ∀ schema id r, next.Has schema id r → c.Has schema id r ∨
    (schema = d.schema ∧ id = d.id ∧ r = .table d) ∨ (∃ table name, r = .index table name) ∨
      Fills d columns (next.nextId - columns.length) schema id r

/-- The table has the schema, the name, the columns and the checks that the statement says. -/
def LaidOut (c : Catalog) (statement : Sql.CreateTable) (d : TableDef) : Prop :=
  ∃ name l, QName.ofParts statement.name = .ok name ∧
    layoutOf c (c.targetSchema name) name.name statement = .ok l ∧
    d.schema = c.targetSchema name ∧ d.name = name.name ∧ d.columns = l.columns ∧ d.checks = l.checks

/-- A table that is created is registered with its indexes first, and then its sequences are. -/
theorem createTable_parts {statement : Sql.CreateTable} (linked : s.catalog.Linked)
    (ran : (createTable statement).run s = (.ok (.done "CREATE TABLE"), t)) :
    ∃ d name l x w, (QName.ofParts statement.name = .ok name ∧
        layoutOf s.catalog (s.catalog.targetSchema name) name.name statement = .ok l ∧
        d.schema = s.catalog.targetSchema name ∧ d.name = name.name ∧ d.columns = l.columns ∧
        d.checks = l.checks) ∧
      d.id = s.catalog.nextId ∧ s.catalog.nextId < x.catalog.nextId ∧ x.catalog.Registered ∧
      (∀ schema id r, s.catalog.Has schema id r → x.catalog.Has schema id r) ∧
      x.catalog.Has d.schema d.id (.table d) ∧
      (∀ schema id r, x.catalog.Has schema id r → s.catalog.Has schema id r ∨
        (schema = d.schema ∧ id = d.id ∧ r = .table d) ∨ ∃ table name, r = .index table name) ∧
      (l.serials.forM (registerSerial d)).run x = (.ok ⟨⟩, w) ∧ t.catalog = w.catalog := by
  unfold createTable at ran
  dsimp only at ran
  split at ran
  · cases ran
  · rw [catalog_bind_run] at ran
    obtain ⟨name, named, ran⟩ := Run.lift_bind_ok ran
    split at ran
    · split at ran <;> cases ran
    · obtain ⟨l, laid, ran⟩ := Run.lift_bind_ok ran
      obtain ⟨_, _, ran⟩ := Run.lift_bind_ok ran
      obtain ⟨id, u, taken, ran⟩ := Run.bind_run_ok ran
      obtain ⟨indexes, v, allocated, ran⟩ := Run.bind_run_ok ran
      obtain ⟨next, made, ran⟩ := changeCatalog_bind_ok ran
      obtain ⟨_, w, parts, done⟩ := Run.bind_run_ok ran
      cases done
      let d : TableDef :=
        ⟨id, s.catalog.targetSchema name, name.name, l.columns, l.checks, indexes⟩
      obtain ⟨kept, unused⟩ := allocate_kept linked.registered taken
      obtain ⟨more, numbers, distinct⟩ :=
        allocateIndexes_kept (kept.registered linked.registered) allocated
      have together := kept.trans more
      obtain ⟨registered, number, has⟩ := (together.registered linked.registered).register_has
        (r := .table d) (more.unused unused) ⟨rfl, rfl, distinct⟩ made
      have fresh : ∀ i ∈ indexes, next.Unused i.id := by
        refine fun i member => ⟨number ▸ (numbers i member).1.given, fun schema r held => ?_⟩
        rcases (has _ _ _).mp held with ⟨_, same, _⟩ | old
        · have later := Nat.lt_of_lt_of_le unused.given (numbers i member).2
          omega
        · exact (numbers i member).1.unused _ _ old
      obtain ⟨_, x, first, second⟩ := Run.bind_run_ok parts
      obtain ⟨still, same, keptThen, originThen⟩ := registerIndexes_has registered fresh distinct first
      refine ⟨d, name, l, x, w, ⟨named, laid, rfl, rfl, rfl, rfl⟩, ?_, ?_, still, ?_, ?_, ?_,
        second, rfl⟩
      · cases taken
        rfl
      · rw [same, number]
        cases taken
        exact more.later
      · exact fun schema id r held =>
          keptThen _ _ _ ((has _ _ _).mpr (.inr ((together.has _ _ _).mpr held)))
      · exact keptThen _ _ _ ((has _ _ _).mpr (.inl ⟨rfl, rfl, rfl⟩))
      · intro schema id r held
        rcases originThen _ _ _ held with old | index
        · rcases (has _ _ _).mp old with table | old
          · exact .inr (.inl table)
          · exact .inl ((together.has _ _ _).mp old)
        · exact .inr (.inr index)

theorem createTable_creates {statement : Sql.CreateTable} (linked : s.catalog.Linked)
    (ran : (createTable statement).run s = (.ok (.done "CREATE TABLE"), t)) :
    ∃ d, LaidOut s.catalog statement d ∧
      (∀ column ∈ statement.serialColumns, column ∈ d.columns.map (·.name)) ∧
      Creates s.catalog t.catalog d statement.serialColumns := by
  obtain ⟨d, name, l, x, w, ⟨named, laid, schema, naming, columns, checks⟩, number, before, still,
    kept, table, origin, second, same⟩ := createTable_parts linked ran
  obtain ⟨serials, among⟩ := layoutOf_serialColumns laid
  refine ⟨d, ⟨name, l, named, laid, schema, naming, columns, checks⟩, columns ▸ among, ?_⟩
  rw [← serials, same]
  obtain ⟨count, keptLater, originLater, there⟩ := registerSerials_has still second
  have width : l.serialColumns.length = l.serials.length := List.length_map _
  have start : w.catalog.nextId - l.serialColumns.length = x.catalog.nextId := by omega
  refine ⟨number, start ▸ before, fun schema id r held => keptLater _ _ _ (kept _ _ _ held),
    keptLater _ _ _ table, fun i below => start ▸ there i (width ▸ below), ?_⟩
  intro schema number r held
  rw [start]
  rcases originLater _ _ _ held with old | fills
  · rcases origin _ _ _ old with old | table | index
    · exact .inl old
    · exact .inr (.inl table)
    · exact .inr (.inr (.inl index))
  · exact .inr (.inr (.inr fills))

end Define

/-! ### The ledger -/

/-- For each sequence the table and the column that it was created for, while they are there. -/
abbrev Ledger := Nat → Option (Nat × String)

namespace Ledger

/-- A table came, with sequences for columns from a number on. -/
def enter (ledger : Ledger) (start table : Nat) (columns : List String) : Ledger := fun id =>
  if id < start then ledger id else columns[id - start]?.map (table, ·)

/-- A table went. -/
def close (ledger : Ledger) (table : Nat) : Ledger := fun id =>
  (ledger id).filter (·.1 != table)

/-- A column of a table went. -/
def strike (ledger : Ledger) (table : Nat) (column : String) : Ledger := fun id =>
  (ledger id).filter (· != (table, column))

theorem close_eq_some {ledger : Ledger} {table id : Nat} {entry : Nat × String} :
    ledger.close table id = some entry ↔ ledger id = some entry ∧ entry.1 ≠ table := by
  simp [close, Option.filter_eq_some_iff]

theorem strike_eq_some {ledger : Ledger} {table id : Nat} {column : String} {entry : Nat × String} :
    ledger.strike table column id = some entry ↔ ledger id = some entry ∧ entry ≠ (table, column) := by
  simp [strike, Option.filter_eq_some_iff]

theorem strike_eq_self {ledger : Ledger} {table : Nat} {column : String}
    (unentered : ∀ id, ledger id ≠ some (table, column)) : ledger.strike table column = ledger := by
  funext id
  have here := unentered id
  cases held : ledger id with
  | none => simp [strike, held]
  | some entry =>
      rw [held, ne_eq, Option.some.injEq] at here
      simp [strike, held, here]

end Ledger

namespace Catalog

/-- Every sequence has an entry in the ledger, and its owner names the column of the entry. Every
entry is about a sequence that is there. -/
structure Tied (ledger : Ledger) (c : Catalog) : Prop where
  plain : ∀ schema id d, c.Has schema id (.table d) → IsPlain d.name
  owned : ∀ schema id q, c.Has schema id (.sequence q) → ∃ table column d,
    ledger id = some (table, column) ∧ c.Has schema table (.table d) ∧
      column ∈ d.columns.map (·.name) ∧ q.options.ownedBy = some (d.name ++ "." ++ column)
  alive : ∀ id, (ledger id).isSome → ∃ schema q, c.Has schema id (.sequence q)

variable {c next : Catalog} {ledger after : Ledger} {schema : String} {id : Nat} {d e : TableDef}
  {q : SequenceDef}

namespace Tied

/-- A table owns the sequences that were created for its columns. -/
theorem mem_ownedSequences (tied : c.Tied ledger) (registered : c.Registered)
    (held : c.Has schema id (.table d)) {other : String} {number : Nat}
    (has : c.Has other number (.sequence q)) :
    q ∈ c.ownedSequences d ↔ ∃ column, ledger number = some (id, column) := by
  obtain ⟨rfl, rfl, -⟩ := registered.placed _ _ _ held
  obtain ⟨rfl, -⟩ := registered.placed _ _ _ has
  obtain ⟨table, column, e, entry, heldE, -, owner⟩ := tied.owned _ _ _ has
  have plain := tied.plain _ _ _ held
  rw [registered.mem_ownedSequences, entry]
  constructor
  · rintro ⟨there, text, owned, first⟩
    obtain rfl := registered.apart _ _ _ _ _ there has
    obtain rfl := Option.some.inj (owner.symm.trans owned)
    have same := (plain_prefix_iff (tied.plain _ _ _ heldE) plain).mp first
    exact ⟨column, by rw [registered.name_unique held heldE same]⟩
  · rintro ⟨_, same⟩
    cases same
    obtain rfl := registered.apart _ _ _ _ _ heldE held
    cases registered.relation_unique heldE held
    exact ⟨has, _, owner, (plain_prefix_iff plain plain).mpr rfl⟩

theorem mem_owned_ids (tied : c.Tied ledger) (registered : c.Registered)
    (held : c.Has schema id (.table d)) {other : String} {number : Nat}
    (has : c.Has other number (.sequence q)) :
    number ∈ (c.ownedSequences d).map (·.id) ↔ ∃ column, ledger number = some (id, column) := by
  rw [← tied.mem_ownedSequences registered held has]
  constructor
  · intro listed
    obtain ⟨p, member, rfl⟩ := List.mem_map.mp listed
    cases registered.relation_unique has (registered.mem_ownedSequences.mp member).1
    exact member
  · obtain ⟨rfl, -⟩ := registered.placed _ _ _ has
    exact List.mem_map_of_mem

theorem owner_eq (tied : c.Tied ledger) (registered : c.Registered)
    (held : c.Has schema id (.table d)) {other column : String} {number : Nat}
    (has : c.Has other number (.sequence q)) (entry : ledger number = some (id, column)) :
    q.options.ownedBy = some (d.name ++ "." ++ column) ∧ column ∈ d.columns.map (·.name) := by
  obtain ⟨table, named, e, found, heldE, member, owner⟩ := tied.owned _ _ _ has
  cases found.symm.trans entry
  cases registered.relation_unique heldE held
  exact ⟨owner, member⟩

theorem column_mem (tied : c.Tied ledger) (registered : c.Registered)
    (held : c.Has schema id (.table d)) {column : String} {number : Nat}
    (entry : ledger number = some (id, column)) : column ∈ d.columns.map (·.name) := by
  obtain ⟨_, q, has⟩ := tied.alive number (entry ▸ rfl)
  exact (tied.owner_eq registered held has entry).2

/-- The sequences that go with a column are those that were created for it. -/
theorem struck_iff (tied : c.Tied ledger) (registered : c.Registered)
    (held : c.Has schema id (.table d)) {other column : String} {number : Nat}
    (has : c.Has other number (.sequence q)) :
    ledger.strike id column number = none ↔ number ∈ ((c.ownedSequences d).filter
      (·.options.ownedBy == some (d.name ++ "." ++ column))).map (·.id) := by
  obtain ⟨table, named, _, entry, -⟩ := tied.owned _ _ _ has
  have owner := fun same : table = id => (tied.owner_eq registered held has (same ▸ entry)).1
  have owned := tied.mem_ownedSequences registered held has
  have struck : ledger.strike id column number = none ↔ table = id ∧ named = column := by
    simp [Ledger.strike, entry]
  rw [struck, List.mem_map]
  constructor
  · rintro ⟨rfl, rfl⟩
    obtain ⟨rfl, -⟩ := registered.placed _ _ _ has
    exact ⟨q, List.mem_filter.mpr ⟨owned.mpr ⟨_, entry⟩, by simp [owner rfl]⟩, rfl⟩
  · rintro ⟨p, chosen, rfl⟩
    obtain ⟨member, text⟩ := List.mem_filter.mp chosen
    cases registered.relation_unique has (registered.mem_ownedSequences.mp member).1
    obtain ⟨_, same⟩ := owned.mp member
    cases entry.symm.trans same
    rw [beq_iff_eq, owner rfl, Option.some.injEq, named_column_inj] at text
    exact ⟨rfl, text⟩

theorem retable (tied : c.Tied ledger) (registered : c.Registered)
    (held : c.Has schema id (.table d)) (altered : c.Altered next schema id (some (.table e)))
    (plain : IsPlain e.name)
    (kept : ∀ number column, ledger number = some (id, column) →
      e.name = d.name ∧ column ∈ e.columns.map (·.name)) : next.Tied ledger := by
  have alone := registered.alone held
  have sequences : ∀ other number q,
      next.Has other number (.sequence q) ↔ c.Has other number (.sequence q) := by
    intro other number q
    refine altered.has_never alone (.sequence q) (fun _ has => ?_) (by simp) other number
    cases registered.relation_unique has held
  refine ⟨fun other number f has => ?_, fun other number q has => ?_, fun number there => ?_⟩
  · rw [altered.has] at has
    split at has
    · cases has
      exact plain
    · exact tied.plain _ _ _ has
  · obtain ⟨table, column, f, entry, heldF, member, owner⟩ := tied.owned _ _ _ ((sequences _ _ _).mp has)
    by_cases same : table = id
    · subst same
      obtain rfl := registered.apart _ _ _ _ _ heldF held
      cases registered.relation_unique heldF held
      obtain ⟨name, column_mem⟩ := kept number column entry
      exact ⟨_, column, e, entry, (altered.has_same alone).mpr ⟨rfl, rfl⟩, column_mem, name ▸ owner⟩
    · exact ⟨table, column, f, entry, (altered.has_other same).mpr heldF, member, owner⟩
  · obtain ⟨other, q, has⟩ := tied.alive number there
    exact ⟨other, q, (sequences _ _ _).mpr has⟩

/-- Relations go, and with a table all the sequences that were created for it. -/
theorem remove (tied : c.Tied ledger) (gone : List Nat)
    (has : ∀ schema id r, next.Has schema id r ↔ id ∉ gone ∧ c.Has schema id r)
    (entries : ∀ id entry, after id = some entry → ledger id = some entry)
    (cut : ∀ schema id q, c.Has schema id (.sequence q) → (after id = none ↔ id ∈ gone))
    (closed : ∀ schema id d, c.Has schema id (.table d) → id ∈ gone →
      ∀ number column, after number ≠ some (id, column)) : next.Tied after := by
  refine ⟨fun schema id d held => ?_, fun schema id q held => ?_, fun id there => ?_⟩
  · exact tied.plain _ _ _ ((has _ _ _).mp held).2
  · obtain ⟨stays, old⟩ := (has _ _ _).mp held
    obtain ⟨entry, left⟩ := Option.ne_none_iff_exists'.mp fun gone => stays ((cut _ _ _ old).mp gone)
    obtain ⟨table, column, d, found, heldD, member, owner⟩ := tied.owned _ _ _ old
    obtain rfl := Option.some.inj ((entries _ _ left).symm.trans found)
    refine ⟨table, column, d, left, (has _ _ _).mpr ⟨fun away => ?_, heldD⟩, member, owner⟩
    exact closed _ _ _ heldD away id column left
  · obtain ⟨entry, left⟩ := Option.isSome_iff_exists.mp there
    obtain ⟨schema, q, old⟩ := tied.alive id (entries _ _ left ▸ rfl)
    refine ⟨schema, q, (has _ _ _).mpr ⟨fun away => ?_, old⟩⟩
    rw [(cut _ _ _ old).mpr away] at left
    cases left

end Tied

/-- The registries agree, and all sequences are in the ledger. -/
structure Attached (ledger : Ledger) (c : Catalog) : Prop where
  linked : c.Linked
  tied : c.Tied ledger

/-- The sequences that are there are those of the ledger. -/
theorem Attached.sequence_iff (attached : c.Attached ledger) (id : Nat) :
    (∃ schema q, c.Has schema id (.sequence q)) ↔ (ledger id).isSome := by
  refine ⟨fun ⟨schema, q, has⟩ => ?_, attached.tied.alive id⟩
  obtain ⟨table, column, d, entry, -⟩ := attached.tied.owned _ _ _ has
  exact entry ▸ rfl

theorem attached_create (o : DbOptions) : (create o).Attached fun _ => none := by
  have system := (create_ordered o).2
  refine ⟨linked_create o, ⟨fun schema id d has => ?_, fun schema id q has => ?_, nofun⟩⟩
  · obtain ⟨_, _, t, impossible⟩ := system _ _ _ has
    cases impossible
  · obtain ⟨_, _, t, impossible⟩ := system _ _ _ has
    cases impossible

end Catalog

namespace Define

open Catalog (Attached Linked)

variable {s t : Draft} {d : TableDef} {ledger : Ledger} {schema : String} {id : Nat}
  {now : Timestamp}

theorem lastName_eq {parts : List Sql.Ident} {name : QName} (given : QName.ofParts parts = .ok name) :
    Sql.lastName parts = name.name := by
  unfold QName.ofParts at given
  split at given <;> cases given <;> rfl

/-- A table that comes enters its serial columns into the ledger. -/
theorem createTable_attached {statement : Sql.CreateTable} (attached : s.catalog.Attached ledger)
    (plain : IsPlain (Sql.lastName statement.name))
    (ran : (createTable statement).run s = (.ok (.done "CREATE TABLE"), t)) :
    t.catalog.Attached (ledger.enter (t.catalog.nextId - statement.serialColumns.length)
      s.catalog.nextId statement.serialColumns) := by
  obtain ⟨linked, tied⟩ := attached
  obtain ⟨d, ⟨name, _, named, -, -, same, -⟩, columns, creates⟩ := createTable_creates linked ran
  have plainTable : IsPlain d.name := by rwa [same, ← lastName_eq named]
  refine ⟨createTable_links statement linked ran, ⟨fun schema id e has => ?_, fun schema id q has => ?_,
    fun id there => ?_⟩⟩
  · rcases creates.origin _ _ _ has with old | ⟨_, _, new⟩ | ⟨_, _, index⟩ | ⟨_, _, _, _, _, _, serial, _⟩
    · exact tied.plain _ _ _ old
    · cases new
      exact plainTable
    · cases index
    · cases serial
  · -- a sequence is an old one, with its entry below the new ones, or one of the new columns'
    rcases creates.origin _ _ _ has with old | ⟨_, _, new⟩ | ⟨_, _, index⟩ |
      ⟨i, column, p, entry, rfl, rfl, serial, owner⟩
    · obtain ⟨table, column, e, entry, held, member, owner⟩ := tied.owned _ _ _ old
      have before := Nat.lt_trans (linked.registered.bound _ _ _ old) creates.start
      exact ⟨table, column, e, (if_pos before).trans entry, creates.kept _ _ _ held, member, owner⟩
    · cases new
    · cases index
    · cases serial
      refine ⟨d.id, column, d, ?_, creates.table, columns column (List.mem_of_getElem? entry), owner⟩
      rw [Ledger.enter, if_neg (by omega), Nat.add_sub_cancel_left, entry, creates.number]
      rfl
  · by_cases before : id < t.catalog.nextId - statement.serialColumns.length
    · rw [Ledger.enter, if_pos before] at there
      obtain ⟨schema, q, old⟩ := tied.alive id there
      exact ⟨schema, q, creates.kept _ _ _ old⟩
    · rw [Ledger.enter, if_neg before, Option.isSome_map] at there
      obtain ⟨q, has⟩ := creates.sequences _ (by simpa using there)
      exact ⟨d.schema, q, by rwa [Nat.add_sub_cancel' (Nat.le_of_not_lt before)] at has⟩

theorem dropTable_attached (attached : s.catalog.Attached ledger)
    (held : s.catalog.Has schema d.id (.table d))
    (ran : (dropTable s.catalog d).run s = (.ok (), t)) :
    t.catalog.Attached (ledger.close d.id) := by
  obtain ⟨linked, tied⟩ := attached
  have registered := linked.registered
  have recalls : s.catalog.Recalls d.id (.table d) := fun _ _ has =>
    registered.relation_unique has held
  refine ⟨(dropTable_links linked recalls ran).1, ?_⟩
  let gone := d.id :: ((s.catalog.ownedSequences d).map (·.id) ++ d.indexes.map (·.id))
  refine tied.remove gone (fun schema id r => ?_) (fun id entry left => ?_)
    (fun schema id q has => ?_) fun schema id e has away number column => ?_
  · rw [(dropTable_has registered ran).2]
    simp [gone, and_assoc]
  · exact (Ledger.close_eq_some.mp left).1
  · -- what is left of the ledger is about other tables
    have other : id ≠ d.id := by
      rintro rfl
      cases registered.relation_unique has held
    have unlisted := linked.not_mem_indexes held has (by simp)
    obtain ⟨table, column, _, entry, -⟩ := tied.owned _ _ _ has
    have owned := tied.mem_owned_ids registered held has
    simp only [gone, List.mem_cons, other, List.mem_append, unlisted, or_false, false_or, owned,
      entry, Ledger.close]
    by_cases same : table = d.id <;> simp [same]
  · have table : id = d.id := by
      rcases List.mem_cons.mp away with same | others
      · exact same
      · rcases List.mem_append.mp others with sequence | index
        · exact absurd sequence (registered.not_mem_owned has (by simp))
        · exact absurd index (linked.not_mem_indexes held has (by simp))
    exact fun left => (Ledger.close_eq_some.mp left).2 table.symm.symm

theorem mem_names_eraseIdx {position : Nat} {column other : String}
    (found : d.position? column = some position) (member : other ∈ d.columns.map (·.name))
    (different : other ≠ column) : other ∈ (d.columns.eraseIdx position).map (·.name) := by
  obtain ⟨c, there, rfl⟩ := List.mem_map.mp member
  obtain ⟨inside, named, -⟩ := List.findIdx?_eq_some_iff_getElem.mp found
  obtain ⟨i, below, rfl⟩ := List.mem_iff_getElem.mp there
  refine List.mem_map_of_mem (List.mem_eraseIdx_iff_getElem.mpr ⟨i, below, ?_, rfl⟩)
  rintro rfl
  exact different (by simpa using named)

theorem mem_names_changeColumn {position : Nat} {column other : String} {f : ColumnDef → ColumnDef}
    (found : d.position? column = some position) (member : other ∈ d.columns.map (·.name))
    (different : other ≠ column) : other ∈ (changeColumn d position f).columns.map (·.name) := by
  obtain ⟨c, there, rfl⟩ := List.mem_map.mp member
  obtain ⟨inside, named, -⟩ := List.findIdx?_eq_some_iff_getElem.mp found
  obtain ⟨i, below, rfl⟩ := List.mem_iff_getElem.mp there
  refine List.mem_map_of_mem (List.mem_iff_getElem.mpr ⟨i, by simpa [changeColumn] using below, ?_⟩)
  have apart : position ≠ i := by
    rintro rfl
    exact different (by simpa using named)
  simp [changeColumn, apart]

/-- The table without a column, and without the checks that mention it. -/
def cutColumn (d : TableDef) (position : Nat) (column : String) : TableDef :=
  { d.removeColumn position with
    checks := d.checks.filter fun check => !mentions check.condition column }

/-- The indexes and sequences that go with a column. -/
def goneWith (c : Catalog) (d : TableDef) (position : Nat) (column : String) : List Nat :=
  (d.indexes.filter (·.columns.contains position)).map (·.id) ++
    ((c.ownedSequences d).filter (·.options.ownedBy == some (d.name ++ "." ++ column))).map (·.id)

/-- First the indexes and the sequences go, and then the table gets its new definition. -/
theorem dropColumn_parts {position : Nat} {column : String} (linked : s.catalog.Linked)
    (held : s.catalog.Has schema d.id (.table d))
    (ran : (dropColumn d position column).run s = (.ok (), t)) :
    ∃ c : Catalog, c.Registered ∧
      (∀ other id r, c.Has other id r ↔
        id ∉ goneWith s.catalog d position column ∧ s.catalog.Has other id r) ∧
      c.Has schema d.id (.table d) ∧
        c.Altered t.catalog schema d.id (some (.table (cutColumn d position column))) := by
  have registered := linked.registered
  obtain ⟨-, rfl, -⟩ := registered.placed _ _ _ held
  rw [dropColumn, catalog_bind_run, content_bind_run, putContent_bind_run] at ran
  obtain ⟨_, u, discarded, ran⟩ := Run.bind_run_ok ran
  obtain ⟨next, replaced, rfl⟩ := changeCatalog_ok ran
  obtain ⟨still, left⟩ := drops_has (fun number => number) discard_drops discarded registered
  rw [List.map_id'] at left
  refine ⟨u.catalog, still, left, (left _ _ _).mpr ⟨fun away => ?_, held⟩,
    (still.ordered.replaceTable_altered replaced).1⟩
  rcases List.mem_append.mp away with index | sequence
  · exact linked.not_mem_indexes held held (by simp) ((List.filter_sublist.map _).subset index)
  · exact registered.not_mem_owned held (by simp) ((List.filter_sublist.map _).subset sequence)

/-- A column that is dropped takes along the sequence that was created for it. -/
theorem dropColumn_attached {position : Nat} {column : String} (attached : s.catalog.Attached ledger)
    (held : s.catalog.Has schema d.id (.table d)) (found : d.position? column = some position)
    (ran : (dropColumn d position column).run s = (.ok (), t)) :
    t.catalog.Attached (ledger.strike d.id column) := by
  obtain ⟨linked, tied⟩ := attached
  have registered := linked.registered
  refine ⟨dropColumn_linked (linked.focus held).2 ran, ?_⟩
  obtain ⟨c, still, left, standing, altered⟩ := dropColumn_parts linked held ran
  have unlisted : ∀ {other number r}, s.catalog.Has other number r →
      (∀ table name, r ≠ .index table name) →
      number ∉ (d.indexes.filter (·.columns.contains position)).map (·.id) :=
    fun has different listed => linked.not_mem_indexes held has different
      ((List.filter_sublist.map _).subset listed)
  have trimmed : c.Tied (ledger.strike d.id column) := by
    refine tied.remove _ left (fun number entry struck => (Ledger.strike_eq_some.mp struck).1)
      (fun other number q has => ?_) fun other number e has away => ?_
    · rw [goneWith, List.mem_append, or_iff_right (unlisted has (by simp)),
        ← tied.struck_iff registered held has]
    · rcases List.mem_append.mp away with index | sequence
      · exact absurd index (unlisted has (by simp))
      · exact absurd ((List.filter_sublist.map _).subset sequence)
          (registered.not_mem_owned has (by simp))
  have plain : IsPlain d.name := tied.plain _ _ _ held
  refine trimmed.retable still standing altered plain fun number other entry => ⟨rfl, ?_⟩
  obtain ⟨old, different⟩ := Ledger.strike_eq_some.mp entry
  exact mem_names_eraseIdx found (tied.column_mem registered held old)
    fun same => different (Prod.ext rfl same)

end Define

/-! ### Statements -/

/-- What a change of a table makes of the ledger. -/
def Ledger.alter (table : Nat) (ledger : Ledger) : Sql.TableChange → Ledger
  | .dropColumn name _ => ledger.strike table name.name
  | _ => ledger

/-- A change that drops a column, or renames what no sequence was created for. -/
def Sql.TableChange.Careful (table : Nat) (ledger : Ledger) : Sql.TableChange → Prop
  | .rename name => IsPlain (Sql.lastName name) ∧ ∀ id column, ledger id ≠ some (table, column)
  | .renameColumn before _ => ∀ id, ledger id ≠ some (table, before.name)
  | .dropColumn .. => True
  | _ => False

/-- Each of some changes is careful when it is its turn. -/
def Sql.TableChange.AllCareful (table : Nat) : Ledger → List Sql.TableChange → Prop
  | _, [] => True
  | ledger, change :: rest =>
    change.Careful table ledger ∧ AllCareful table (ledger.alter table change) rest

namespace Define

open Catalog (Attached)

variable {s t : Draft} {d : TableDef} {ledger : Ledger} {table : Nat} {now : Timestamp}

theorem alterOne_attached {change : Sql.TableChange} (attached : s.catalog.Attached ledger)
    (careful : change.Careful table ledger) (ran : (alterOne now table change).run s = (.ok (), t)) :
    t.catalog.Attached (ledger.alter table change) := by
  have linked := alterOne_links now table change attached.linked ran
  have registered := attached.linked.registered
  rw [alterOne, catalog_bind_run] at ran
  obtain ⟨d, found, ran⟩ := Run.lift_bind_ok ran
  obtain ⟨schema, held⟩ := registered.ordered.tableById_has found
  obtain ⟨rfl, rfl, -⟩ := registered.placed _ _ _ held
  cases change with
  | rename name =>
      obtain ⟨plain, unowned⟩ := careful
      obtain ⟨next, renamed, rfl⟩ := changeCatalog_ok ran
      obtain ⟨-, altered⟩ := registered.rename held renamed
      exact ⟨linked, attached.tied.retable registered held altered plain
        fun number column entry => absurd entry (unowned number column)⟩
  | dropColumn name ifExists =>
      dsimp only at ran
      split at ran
      · rename_i position there
        exact dropColumn_attached attached held there ran
      · rename_i missing
        -- no sequence was created for a column that is not there
        have unowned : ∀ number, ledger number ≠ some (d.id, name.name) := fun number entry => by
          obtain ⟨c, member, named⟩ := List.mem_map.mp (attached.tied.column_mem registered held entry)
          have other := List.findIdx?_eq_none_iff.mp missing c member
          exact absurd named (by simpa using other)
        rw [Ledger.alter, Ledger.strike_eq_self unowned]
        split at ran
        · obtain ⟨_, _, done⟩ := Run.lift_bind_ok ran
          cases done
          exact attached
        · cases ran
          exact attached
  | renameColumn before after =>
      obtain ⟨position, there, ran⟩ := Run.lift_bind_ok ran
      dsimp only at ran
      split at ran
      · cases ran
      · obtain ⟨next, replaced, rfl⟩ := changeCatalog_ok ran
        obtain ⟨altered, -⟩ := registered.ordered.replaceTable_altered replaced
        have plain : IsPlain d.name := attached.tied.plain _ _ _ held
        refine ⟨linked, attached.tied.retable registered held altered plain
          fun number column entry => ⟨rfl, ?_⟩⟩
        refine mem_names_changeColumn (TableDef.position_ok there)
          (attached.tied.column_mem registered held entry) fun same => ?_
        exact careful number (same ▸ entry)
  | addColumn column ifNotExists => exact careful.elim
  | changeColumn name change => exact careful.elim
  | addConstraint constraint => exact careful.elim
  | dropConstraint name ifExists => exact careful.elim
  | unsupported text => exact careful.elim

theorem alterAll_attached : ∀ {changes : List Sql.TableChange} {s : Draft} {ledger : Ledger},
    s.catalog.Attached ledger → Sql.TableChange.AllCareful table ledger changes →
      (changes.forM (alterOne now table)).run s = (.ok ⟨⟩, t) →
        t.catalog.Attached (changes.foldl (Ledger.alter table) ledger) := by
  intro changes
  induction changes with
  | nil =>
      intro s ledger attached _ ran
      cases ran
      exact attached
  | cons change rest ih =>
      intro s ledger attached careful ran
      obtain ⟨_, u, one, ran⟩ := Run.bind_run_ok ran
      exact ih (alterOne_attached attached careful.1 one) careful.2 ran

theorem dropAll_attached : ∀ {items : List (Nat × Relation)} {s : Draft} {ledger : Ledger},
    s.catalog.Attached ledger →
      (∀ e ∈ items, ∃ d, e = (d.id, .table d) ∧ s.catalog.Recalls d.id (.table d)) →
      (items.forM fun (id, r) => dropRelation id r).run s = (.ok ⟨⟩, t) →
        t.catalog.Attached (items.foldl (fun ledger e => ledger.close e.1) ledger) := by
  intro items
  induction items with
  | nil =>
      intro s ledger attached _ ran
      cases ran
      exact attached
  | cons e rest ih =>
      intro s ledger attached tables ran
      obtain ⟨⟨d, rfl, recalls⟩, others⟩ := List.forall_mem_cons.mp tables
      obtain ⟨_, u, one, ran⟩ := Run.bind_run_ok ran
      have registered := attached.linked.registered
      have dropped : (dropTable s.catalog d).run s = (.ok (), u) := one
      obtain ⟨⟨schema, r, held⟩, -⟩ := dropTable_has registered dropped
      obtain rfl := recalls schema r held
      have placed := registered.placed _ _ _ held
      obtain rfl : d.schema = schema := placed.2.1
      obtain ⟨-, kept⟩ := dropRelation_links attached.linked placed recalls one
      refine ih (dropTable_attached attached held dropped) (fun e member => ?_) ran
      obtain ⟨f, rfl, known⟩ := others e member
      exact ⟨f, rfl, kept f.id (.table f) rfl known⟩

theorem drop_attached {statement : Sql.Drop} {outcome : Outcome}
    {found : List (Option (Nat × Relation))} (attached : s.catalog.Attached ledger)
    (tables : statement.kind = .table)
    (given : statement.names.mapM (dropped? s.catalog "table" statement.ifExists) = .ok found)
    (ran : (drop statement).run s = (.ok outcome, t)) :
    t.catalog.Attached ((found.filterMap id).foldl (fun ledger e => ledger.close e.1) ledger) := by
  obtain ⟨kind, named, ran⟩ := Run.lift_bind_ok ran
  rw [tables] at named
  cases named
  rw [catalog_bind_run, Run.mapM_lift] at ran
  obtain ⟨_, same, ran⟩ := Run.lift_bind_ok ran
  cases given.symm.trans same
  have registered := attached.linked.registered
  have there := found_relations registered.ordered given
  dsimp only at ran
  split at ran
  · rename_i nothing
    cases ran
    rw [List.isEmpty_iff.mp nothing]
    exact attached
  · obtain ⟨_, v, all, done⟩ := Run.bind_run_ok ran
    cases done
    refine dropAll_attached attached (fun e member => ?_) all
    obtain ⟨expected, schema, has⟩ := there e member
    obtain ⟨number, r⟩ := e
    cases r with
    | table d =>
        obtain ⟨rfl, -⟩ := registered.placed _ _ _ has
        exact ⟨d, rfl, fun _ _ other => registered.relation_unique other has⟩
    | index owner name => simp [Relation.kind] at expected
    | sequence q => simp [Relation.kind] at expected
    | type t => simp [Relation.kind] at expected

end Define

namespace Database

open Sql (Statement)
open Catalog (Attached)

variable {db after : Database}

/-- The databases that tables with serial columns come, change and go in, each with the ledger of its
sequences. -/
inductive Serial : Database → Ledger → Prop
  | created {o : DbOptions} {now : Timestamp} {db : Database} :
      create o now = .ok db → Serial db fun _ => none
  /-- Whatever leaves the catalog alone, such as changes of rows and statements that fail. -/
  | other {db after : Database} {ledger : Ledger} :
      Serial db ledger → after.catalog = db.catalog → Serial after ledger
  | createTable {db after : Database} {ledger : Ledger} {t : Sql.CreateTable} (installer : Installer) :
      Serial db ledger → IsPlain (Sql.lastName t.name) →
      db.run installer (.createTable t) = (.ok (.done "CREATE TABLE"), after) →
      Serial after (ledger.enter (after.catalog.nextId - t.serialColumns.length) db.catalog.nextId
        t.serialColumns)
  | alterTable {db after : Database} {ledger : Ledger} {t : Sql.AlterTable} {name : QName}
      {d : TableDef} {outcome : Outcome} (installer : Installer) :
      Serial db ledger → QName.ofParts t.name = .ok name → db.catalog.table name = .ok d →
      Sql.TableChange.AllCareful d.id ledger t.changes →
      db.run installer (.alterTable t) = (.ok outcome, after) →
      Serial after (t.changes.foldl (Ledger.alter d.id) ledger)
  | drop {db after : Database} {ledger : Ledger} {t : Sql.Drop}
      {found : List (Option (Nat × Relation))} {outcome : Outcome} (installer : Installer) :
      Serial db ledger → t.kind = .table →
      t.names.mapM (Define.dropped? db.catalog "table" t.ifExists) = .ok found →
      db.run installer (.drop t) = (.ok outcome, after) →
      Serial after ((found.filterMap id).foldl (fun ledger e => ledger.close e.1) ledger)

variable {ledger : Ledger}

theorem Serial.attached (serial : Serial db ledger) : db.catalog.Attached ledger := by
  induction serial with
  | created made =>
      obtain ⟨_, -, result⟩ := Run.bind_ok made
      cases result
      exact Catalog.attached_create _
  | other _ same held => exact same ▸ held
  | createTable installer _ plain ran held =>
      obtain ⟨data, t, done, same⟩ := define_ok ran
      rw [same]
      exact Define.createTable_attached (s := ⟨_, data⟩) held plain done
  | @alterTable db after ledger t name d outcome installer _ named found careful ran held =>
      obtain ⟨data, u, done, same⟩ := define_ok ran
      rw [same]
      rw [Define.alterTable, Define.catalog_bind_run, named] at done
      obtain ⟨_, given, done⟩ := Run.lift_bind_ok done
      cases given
      dsimp only at done
      rw [found] at done
      obtain ⟨_, v, altered, done⟩ := Run.bind_run_ok done
      cases done
      exact Define.alterAll_attached (s := ⟨_, data⟩) held careful altered
  | drop installer _ tables found ran held =>
      obtain ⟨data, t, done, same⟩ := define_ok ran
      rw [same]
      exact Define.drop_attached (s := ⟨_, data⟩) held tables found done

/-- As long as names of tables have no dots and nothing that a sequence was created for gets another
name, the sequences that are there are those of the ledger: a table takes exactly the sequences of
its serial columns with it, a serial column takes exactly its own, and no other sequence goes. -/
theorem Serial.sequence_iff (serial : Serial db ledger) (id : Nat) :
    (∃ schema q, db.catalog.Has schema id (.sequence q)) ↔ (ledger id).isSome :=
  serial.attached.sequence_iff id

end Database

end SqlEngine
