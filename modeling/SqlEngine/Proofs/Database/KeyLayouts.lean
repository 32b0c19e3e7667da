import SqlEngine.Proofs.Database.Definitions

/-!
Which columns of a primary key demand values.

The rules of a column are applied in the order in which they are written, and the last one that says
anything about missing values decides. So `PRIMARY KEY` marks its column unless `NULL` stands behind
it, and these are the only columns that are wrong: a key that is written for the whole table marks
its columns last, and every other change of a table leaves marked what its primary key needs.
-/

namespace SqlEngine

/-! ### Marked columns -/

/-- Is there a column at the position, and does it demand a value? -/
def demands (columns : List ColumnDef) (position : Nat) : Bool := columns[position]?.any (·.notNull)

section Columns

variable {columns : List ColumnDef} {position : Nat} {column : ColumnDef}

theorem demands_iff : demands columns position ↔
    ∃ column, columns[position]? = some column ∧ column.notNull := by
  unfold demands
  cases columns[position]? <;> simp

theorem demands_append (inside : position < columns.length) (more : List ColumnDef) :
    demands (columns ++ more) position = demands columns position := by
  rw [demands, demands, List.getElem?_append_left inside]

theorem demands_last (columns : List ColumnDef) (column : ColumnDef) :
    demands (columns ++ [column]) columns.length = column.notNull := by
  simp [demands]

theorem lt_of_demands (demanded : demands columns position) : position < columns.length := by
  obtain ⟨column, found, -⟩ := demands_iff.mp demanded
  exact (List.getElem?_eq_some_iff.mp found).1

/-- A change of a column that leaves the mark, or of one that is not looked at. -/
theorem demands_modify {f : ColumnDef → ColumnDef} {changed : Nat}
    (keeps : changed = position → ∀ column, column.notNull → (f column).notNull)
    (demanded : demands columns position) : demands (columns.modify changed f) position := by
  obtain ⟨column, found, marked⟩ := demands_iff.mp demanded
  rw [demands, List.getElem?_modify, found]
  by_cases same : changed = position
  · simp [same, keeps same column marked]
  · simp [same, marked]

end Columns

namespace TableDef

/-- There is one primary key at most, and its columns demand values. -/
structure Keyed (d : TableDef) : Prop where
  single : d.indexes.countP (·.primary) ≤ 1
  marked : ∀ i ∈ d.indexes, i.primary → ∀ position ∈ i.columns, demands d.columns position

variable {d : TableDef} {i : IndexDef} {position : Nat}

theorem Keyed.of_sublist (keyed : d.Keyed) {indexes : List IndexDef}
    (fewer : indexes.Sublist d.indexes) : Keyed { d with indexes } :=
  ⟨Nat.le_trans fewer.countP_le keyed.single, fun i member => keyed.marked i (fewer.subset member)⟩

/-- The primary key that is found first is the only one. -/
theorem Keyed.primaryKey?_eq (keyed : d.Keyed) (member : i ∈ d.indexes) (primary : i.primary) :
    d.primaryKey? = some i := by
  obtain ⟨first, found⟩ : ∃ first, d.primaryKey? = some first :=
    Option.isSome_iff_exists.mp (List.find?_isSome.mpr ⟨i, member, primary⟩)
  have few := keyed.single
  rw [List.countP_eq_length_filter] at few
  have here : i ∈ d.indexes.filter (·.primary) := List.mem_filter.mpr ⟨member, primary⟩
  have there : first ∈ d.indexes.filter (·.primary) :=
    List.mem_filter.mpr ⟨List.mem_of_find?_eq_some found, List.find?_some found⟩
  match only : d.indexes.filter (·.primary), few with
  | [], _ =>
      rw [only] at here
      cases here
  | [_], _ =>
      rw [only, List.mem_singleton] at here there
      rw [found, here, there]
  | _ :: _ :: _, _ =>
      rw [only, List.length_cons, List.length_cons] at few
      omega

theorem Keyed.addIndexes (keyed : d.Keyed) {indexes : List IndexDef}
    (plain : ∀ i ∈ indexes, i.primary = false) : (d.addIndexes indexes).Keyed := by
  have none : indexes.countP (·.primary) = 0 :=
    List.countP_eq_zero.mpr fun i member => by simp [plain i member]
  refine ⟨?_, fun i member primary => ?_⟩
  · rw [TableDef.addIndexes, List.countP_append, none]
    exact keyed.single
  · rcases List.mem_append.mp member with old | new
    · exact keyed.marked i old primary
    · rw [plain i new] at primary
      cases primary

theorem Keyed.modify (keyed : d.Keyed) {f : ColumnDef → ColumnDef}
    (keeps : d.primaryKey?.any (·.columns.contains position) →
      ∀ column, column.notNull → (f column).notNull) :
    Keyed { d with columns := d.columns.modify position f } where
  single := keyed.single
  marked i member primary column indexed := by
    refine demands_modify (fun same => keeps ?_) (keyed.marked i member primary column indexed)
    rw [keyed.primaryKey?_eq member primary, Option.any_some, List.contains_iff_mem, same]
    exact indexed

theorem Keyed.removeColumn (keyed : d.Keyed) (position : Nat) :
    (d.removeColumn position).Keyed where
  single := by
    have fewer : (d.indexes.filter (!·.columns.contains position)).countP (·.primary) ≤ 1 :=
      Nat.le_trans List.filter_sublist.countP_le keyed.single
    rwa [TableDef.removeColumn, List.countP_map]
  marked := by
    intro j member primary column indexed
    obtain ⟨i, old, kept, rfl⟩ := mem_indexes_removeColumn.mp member
    obtain ⟨before, there, rfl⟩ := List.mem_map.mp indexed
    have other : before ≠ position := fun same => kept (same ▸ there)
    have same := getElem?_eraseIdx_shift d.columns other
    have marked := keyed.marked i old primary before there
    rw [demands, ← same] at marked
    exact marked

end TableDef

/-! ### Rules of a column -/

namespace Sql

namespace ColumnOption

/-- What an option says about missing values, if it says anything: are values demanded? -/
def demand? (o : ColumnOption) : Option Bool :=
  match o.rule with
  | .null => some false
  | .notNull => some true
  | .unique primary => if primary then some true else none
  | _ => none

def isPrimary (o : ColumnOption) : Bool :=
  match o.rule with
  | .unique primary => primary
  | _ => false

theorem demand?_of_isPrimary {o : ColumnOption} (primary : o.isPrimary) :
    o.demand? = some true := by
  unfold isPrimary at primary
  unfold demand?
  split at primary
  · rename_i rule
    rw [rule]
    exact if_pos primary
  · cases primary

/-- What the last option says that says anything about missing values. -/
def lastDemand? (options : List ColumnOption) : Option Bool := (options.filterMap demand?).getLast?

theorem lastDemand?_cons (o : ColumnOption) (options : List ColumnOption) :
    lastDemand? (o :: options) = (lastDemand? options).or o.demand? := by
  unfold lastDemand?
  cases said : o.demand? with
  | none => rw [List.filterMap_cons_none said, Option.or_none]
  | some demanded =>
      rw [List.filterMap_cons_some said, List.getLast?_cons]
      cases (options.filterMap demand?).getLast? <;> rfl

theorem exists_lastDemand? {options : List ColumnOption} (primary : options.any isPrimary) :
    ∃ demanded, lastDemand? options = some demanded := by
  obtain ⟨o, member, primary⟩ := List.any_eq_true.mp primary
  have filled := List.mem_filterMap.mpr ⟨o, member, demand?_of_isPrimary primary⟩
  refine Option.ne_none_iff_exists'.mp fun none => ?_
  rw [List.getLast?_eq_none_iff.mp none] at filled
  cases filled

end ColumnOption

/-- If the column is to be a primary key, values are demanded in the end. -/
def ColumnTerm.KeepsKey (t : ColumnTerm) : Prop :=
  t.options.any ColumnOption.isPrimary → ColumnOption.lastDemand? t.options = some true

end Sql

namespace Layout

open Run (bind_ok)
open Sql (ColumnTerm ColumnOption)

variable {l next : Layout} {c : Catalog} {schema : String} {column changed : ColumnDef}
  {position : Nat}

/-- The primary keys of the layout have marked columns only. -/
def Marked (l : Layout) : Prop :=
  ∀ k ∈ l.keys, k.primary → ∀ position ∈ k.columns, demands l.columns position

theorem marked_of_keyless (keyless : l.keys = []) : l.Marked := by
  rw [Marked, keyless]
  exact List.forall_mem_nil _

/-- The keys of one column, if any of them is a primary key. -/
structure KeysOf (l next : Layout) (position : Nat) (primary : Bool) : Prop where
  columns : next.columns = l.columns
  keys : ∃ added, next.keys = l.keys ++ added ∧ (∀ k ∈ added, k.columns = [position]) ∧
    added.any (·.primary) = primary

theorem KeysOf.refl (l : Layout) (position : Nat) : KeysOf l l position false :=
  ⟨rfl, [], (List.append_nil _).symm, List.forall_mem_nil _, rfl⟩

theorem KeysOf.trans {last : Layout} {first second : Bool} (keys : KeysOf l next position first)
    (more : KeysOf next last position second) : KeysOf l last position (first || second) := by
  obtain ⟨columns, added, shape, single, any⟩ := keys
  obtain ⟨columns', added', shape', single', any'⟩ := more
  refine ⟨columns'.trans columns, added ++ added', ?_, List.forall_mem_append.mpr ⟨single, single'⟩,
    ?_⟩
  · rw [shape', shape, List.append_assoc]
  · rw [List.any_append, any, any']

theorem keysOf_addKey {k : Key} (l : Layout) (single : k.columns = [position]) :
    KeysOf l (l.addKey k) position k.primary :=
  ⟨rfl, [k], rfl, List.forall_mem_singleton.mpr single, by simp⟩

theorem addRule_keys {o : ColumnOption}
    (given : addRule position column l o = .ok (changed, next)) :
    KeysOf l next position o.isPrimary ∧ changed.notNull = o.demand?.getD column.notNull := by
  unfold addRule at given
  unfold ColumnOption.isPrimary ColumnOption.demand?
  split at given <;> rename_i rule <;> rw [rule]
  · cases given
    exact ⟨.refl l position, rfl⟩
  · cases given
    exact ⟨.refl l position, rfl⟩
  · cases given
    exact ⟨.refl l position, rfl⟩
  · cases given
    refine ⟨keysOf_addKey l rfl, ?_⟩
    rename_i primary
    cases primary <;> simp
  · cases given
    exact ⟨⟨rfl, [], (List.append_nil _).symm, List.forall_mem_nil _, rfl⟩, rfl⟩
  · cases given
  · cases given

/-- The rules of a column, one after the other: the last one that says anything decides. -/
theorem addRules_keys : ∀ {options : List ColumnOption} {column : ColumnDef} {l : Layout},
    l.columns.length = position →
    options.foldlM (fun (column, l) o => addRule l.columns.length column l o) (column, l) =
      .ok (changed, next) →
    KeysOf l next position (options.any ColumnOption.isPrimary) ∧
      changed.notNull = (ColumnOption.lastDemand? options).getD column.notNull
  | [], _, _, _, given => by
      cases given
      exact ⟨.refl _ position, rfl⟩
  | o :: options, column, l, here, given => by
      rw [List.foldlM_cons] at given
      obtain ⟨⟨between, layout⟩, first, given⟩ := bind_ok given
      dsimp only at first
      rw [here] at first
      obtain ⟨keys, mark⟩ := addRule_keys first
      obtain ⟨more, last⟩ := addRules_keys (keys.columns ▸ here) given
      refine ⟨keys.trans more, ?_⟩
      rw [last, mark, ColumnOption.lastDemand?_cons]
      cases ColumnOption.lastDemand? options <;> rfl

/-- A column comes behind the others, with its keys. -/
theorem addColumn_keys {t : ColumnTerm} (given : addColumn c schema l t = .ok next) :
    ∃ column added, next.columns = l.columns ++ [column] ∧ next.keys = l.keys ++ added ∧
      (∀ k ∈ added, k.columns = [l.columns.length]) ∧
      added.any (·.primary) = t.options.any ColumnOption.isPrimary ∧
      (t.KeepsKey ↔ t.options.any ColumnOption.isPrimary → column.notNull) := by
  unfold addColumn at given
  split at given
  · cases given
  · obtain ⟨⟨first, started⟩, start, given⟩ := bind_ok given
    obtain ⟨⟨column, ruled⟩, folded, given⟩ := bind_ok given
    cases given
    obtain ⟨columns, keys, -⟩ := startColumn_ok start
    obtain ⟨⟨same, added, shape, single, any⟩, mark⟩ :=
      addRules_keys (congrArg List.length columns) folded
    refine ⟨column, added, by rw [same, columns], by rw [shape, keys], single, any, ?_⟩
    refine forall_congr' fun primary => ?_
    obtain ⟨demanded, said⟩ := ColumnOption.exists_lastDemand? primary
    rw [mark, said]
    simp

theorem within_append {added : List Key} (within : l.Within l.columns.length)
    (columns : next.columns = l.columns ++ [column]) (keys : next.keys = l.keys ++ added)
    (single : ∀ k ∈ added, k.columns = [l.columns.length]) : next.Within next.columns.length := by
  intro k member position indexed
  rw [columns, List.length_append, List.length_singleton]
  rw [keys] at member
  rcases List.mem_append.mp member with old | new
  · exact Nat.lt_succ_of_lt (within k old position indexed)
  · rw [single k new, List.mem_singleton] at indexed
    omega

/-- The keys of a layout stay marked, and those of a new column are marked if its rules say so. -/
theorem marked_addColumn_iff {t : ColumnTerm} (within : l.Within l.columns.length)
    (given : addColumn c schema l t = .ok next) :
    next.Within next.columns.length ∧ (next.Marked ↔ l.Marked ∧ t.KeepsKey) := by
  obtain ⟨column, added, columns, keys, single, any, keeps⟩ := addColumn_keys given
  refine ⟨within_append within columns keys single, ?_⟩
  have old : ∀ k ∈ l.keys, ∀ position ∈ k.columns,
      demands next.columns position = demands l.columns position := by
    intro k member position indexed
    rw [columns, demands_append (within k member position indexed)]
  have new : (∀ k ∈ added, k.primary → ∀ position ∈ k.columns, demands next.columns position) ↔
      t.KeepsKey := by
    rw [keeps, ← any, List.any_eq_true]
    constructor
    · rintro marked ⟨k, member, primary⟩
      have here := marked k member primary l.columns.length (by simp [single k member])
      rwa [columns, demands_last] at here
    · intro marked k member primary position indexed
      rw [single k member, List.mem_singleton] at indexed
      rw [indexed, columns, demands_last]
      exact marked ⟨k, member, primary⟩
  rw [Marked, keys, List.forall_mem_append, new]
  refine and_congr_left fun _ => forall₂_congr fun k member => forall_congr' fun _ => ?_
  exact forall₂_congr fun position indexed => by rw [old k member position indexed]

/-! ### Constraints -/

theorem demands_columns_demand {l : Layout} {positions : List Nat}
    (inside : position < l.columns.length) :
    demands (l.demand positions).columns position =
      (demands l.columns position || positions.contains position) := by
  have found := List.getElem?_eq_getElem inside
  simp only [demands, demand, List.getElem?_mapIdx, found, Option.map_some, Option.any_some]
  split <;> simp_all

/-- A key of the whole table marks its columns; the columns stay as they are if it is no primary
key. -/
theorem addConstraint_keys {constraint : Sql.Constraint}
    (given : l.addConstraint constraint = .ok next) :
    ∃ added, next.keys = l.keys ++ added ∧
      (added.any (·.primary) = false → next.columns = l.columns) ∧
      (∀ position, demands l.columns position → demands next.columns position) ∧
      ∀ k ∈ added, k.primary → ∀ position ∈ k.columns, demands next.columns position := by
  unfold addConstraint at given
  split at given
  · rename_i name columns primary
    obtain ⟨positions, found, given⟩ := bind_ok given
    cases given
    have named : ∀ position ∈ positions, position < l.columns.length :=
      Run.mapM_ok (fun _ _ _ => keyColumn_ok) found
    cases primary with
    | false => exact ⟨_, rfl, fun _ => rfl, fun _ => id, by simp [key]⟩
    | true =>
        refine ⟨_, rfl, by simp [key], fun position marked => ?_, ?_⟩
        · refine (demands_columns_demand (lt_of_demands marked)).trans ?_
          rw [marked, Bool.true_or]
        · refine List.forall_mem_singleton.mpr fun _ position indexed => ?_
          change position ∈ positions at indexed
          refine (demands_columns_demand (named position indexed)).trans ?_
          rw [List.contains_iff_mem.mpr indexed, Bool.or_true]
  · cases given
    exact ⟨[], (List.append_nil _).symm, fun _ => rfl, fun _ => id, List.forall_mem_nil _⟩
  · cases given

theorem Marked.addConstraint {constraint : Sql.Constraint} (marked : l.Marked)
    (given : l.addConstraint constraint = .ok next) : next.Marked := by
  obtain ⟨added, keys, -, stay, new⟩ := addConstraint_keys given
  rw [Marked, keys, List.forall_mem_append]
  exact ⟨fun k member primary position indexed =>
    stay position (marked k member primary position indexed), new⟩

theorem addConstraints_keys {constraints : List Sql.Constraint} :
    ∀ {l : Layout}, constraints.foldlM addConstraint l = .ok next →
      ∃ added, next.keys = l.keys ++ added ∧
        (added.any (·.primary) = false → next.columns = l.columns) := by
  induction constraints with
  | nil =>
      intro l given
      cases given
      exact ⟨[], (List.append_nil _).symm, fun _ => rfl⟩
  | cons constraint constraints ih =>
      intro l given
      rw [List.foldlM_cons] at given
      obtain ⟨between, first, given⟩ := bind_ok given
      obtain ⟨added, keys, same, -⟩ := addConstraint_keys first
      obtain ⟨more, keys', same'⟩ := ih given
      refine ⟨added ++ more, by rw [keys', keys, List.append_assoc], fun plain => ?_⟩
      rw [List.any_append, Bool.or_eq_false_iff] at plain
      exact (same' plain.2).trans (same plain.1)

theorem addColumns_marked_iff {columns : List ColumnTerm} : ∀ {l : Layout},
    l.Within l.columns.length → columns.foldlM (addColumn c schema) l = .ok next →
      (next.Marked ↔ l.Marked ∧ ∀ t ∈ columns, t.KeepsKey) := by
  induction columns with
  | nil =>
      intro l _ given
      cases given
      simp
  | cons t columns ih =>
      intro l within given
      rw [List.foldlM_cons] at given
      obtain ⟨between, first, given⟩ := bind_ok given
      obtain ⟨withinThen, one⟩ := marked_addColumn_iff within first
      rw [ih withinThen given, one, List.forall_mem_cons, and_assoc]

theorem validate_ok {indexes : List IndexDef} (valid : l.validate indexes = .ok ()) :
    l.keys.countP (·.primary) + indexes.countP (·.primary) ≤ 1 := by
  unfold validate at valid
  split at valid
  · cases valid
  · rename_i few
    exact Nat.le_of_not_lt few

end Layout

/-- A new table has a marked primary key exactly if no column of its own rules is an exception: one
that is `PRIMARY KEY` and for which `NULL` has the last word. -/
theorem Define.layoutOf_marked_iff {c : Catalog} {schema name : String} {t : Sql.CreateTable}
    {l : Layout} (given : layoutOf c schema name t = .ok l) :
    l.validate [] = .ok () ∧ (l.Marked ↔ ∀ column ∈ t.columns, column.KeepsKey) := by
  obtain ⟨columns, added, given⟩ := Run.bind_ok given
  obtain ⟨constrained, more, given⟩ := Run.bind_ok given
  obtain ⟨⟨⟩, valid, given⟩ := Run.bind_ok given
  cases given
  have few := Layout.validate_ok valid
  rw [List.countP_nil, Nat.add_zero] at few
  refine ⟨valid, ?_⟩
  have empty : (Layout.empty name).Marked := Layout.marked_of_keyless rfl
  have own := Layout.addColumns_marked_iff (Layout.within_empty name _) added
  rw [and_iff_right empty] at own
  rw [← own]
  obtain ⟨keys, shape, same⟩ := Layout.addConstraints_keys more
  constructor
  · -- if there is a primary key already, none was added for the whole table
    intro marked k member primary position indexed
    have held : 0 < columns.keys.countP (·.primary) := List.countP_pos_iff.mpr ⟨k, member, primary⟩
    rw [shape, List.countP_append] at few
    have none : keys.countP (·.primary) = 0 := by omega
    have plain : keys.any (·.primary) = false :=
      List.any_eq_false.mpr (List.countP_eq_zero.mp none)
    rw [← same plain]
    exact marked k (shape ▸ List.mem_append_left keys member) primary position indexed
  · intro marked
    exact Run.foldlM_ok (p := Layout.Marked)
      (fun _ marked _ _ _ => marked.addConstraint) marked more

/-! ### Tables with the keys of a layout -/

/-- The indexes are on the columns of the keys. -/
def Key.Indexed (keys : List Key) (indexes : List IndexDef) : Prop :=
  indexes.map (fun i => (i.columns, i.primary)) = keys.map fun k => (k.columns, k.primary)

namespace TableDef

variable {d : TableDef} {l : Layout} {old new : List IndexDef}

theorem keyed_of_layout (columns : d.columns = l.columns) (indexes : d.indexes = old ++ new)
    (indexed : Key.Indexed l.keys new) (valid : l.validate old = .ok ()) (marked : l.Marked)
    (kept : ∀ i ∈ old, i.primary → ∀ position ∈ i.columns, demands l.columns position) :
    d.Keyed := by
  have same := congrArg (List.countP (·.2)) indexed
  rw [List.countP_map, List.countP_map] at same
  refine ⟨?_, ?_⟩
  · have few := Layout.validate_ok valid
    rw [indexes, List.countP_append, Nat.add_comm]
    exact Nat.le_trans (Nat.le_of_eq (congrArg (· + _) same)) few
  · rw [indexes, columns]
    refine List.forall_mem_append.mpr ⟨kept, fun i member primary => ?_⟩
    have there : (i.columns, i.primary) ∈ l.keys.map fun k => (k.columns, k.primary) :=
      indexed ▸ List.mem_map_of_mem member
    obtain ⟨k, listed, equal⟩ := List.mem_map.mp there
    obtain ⟨sameColumns, samePrimary⟩ := Prod.mk.inj equal
    rw [← sameColumns]
    exact marked k listed (samePrimary.trans primary)

end TableDef

end SqlEngine
