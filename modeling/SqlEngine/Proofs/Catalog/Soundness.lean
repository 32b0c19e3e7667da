import SqlEngine.Proofs.Catalog.Relations
import SqlEngine.Proofs.Storage.Table
import SqlEngine.Proofs.Typing.Flat

/-!
What holds of a catalog while relations come, go and change.

Numbers are not used twice, and the numbers of the indexes that a table lists belong to it: nothing
else is registered under them. So no change of an index or a sequence touches a table, and a change
of one table touches no other.
-/

namespace SqlEngine

/-- The relation knows its number and its schema. -/
def Relation.Proper (schema : String) (id : Nat) : Relation → Prop
  | .table d => d.id = id ∧ d.schema = schema ∧ d.WellFormed ∧ d.Flat
  | .sequence d => d.id = id ∧ d.schema = schema
  | _ => True

namespace Catalog

/-- Nothing but an index of the table has the number, or will get it. -/
structure Reserves (c : Catalog) (table id : Nat) : Prop where
  given : id < c.nextId
  index : ∀ schema r, c.Has schema id r → ∃ name, r = .index table name

structure Sound (c : Catalog) : Prop where
  ordered : c.Ordered
  bound : ∀ schema id r, c.Has schema id r → id < c.nextId
  apart : ∀ schema other id r s, c.Has schema id r → c.Has other id s → schema = other
  proper : ∀ schema id r, c.Has schema id r → r.Proper schema id
  listed : ∀ schema id d, c.Has schema id (.table d) → ∀ i ∈ d.indexes, c.Reserves d.id i.id
  functions : c.functions = []

/-- Is the table defined in the catalog? -/
def Table (c : Catalog) (d : TableDef) : Prop := c.Has d.schema d.id (.table d)

/-- Is a sequence registered under the number? -/
def Counts (c : Catalog) (id : Nat) : Prop := ∃ schema d, c.Has schema id (.sequence d)

/-- The number was taken for an index of the table, but nothing is registered under it yet. -/
structure Saves (c : Catalog) (table id : Nat) : Prop where
  given : id < c.nextId
  unused : ∀ schema r, ¬c.Has schema id r
  unlisted : ∀ d, c.Table d → id ∈ d.indexes.map (·.id) → d.id = table

variable {c next : Catalog} {schema : String} {id table : Nat} {r : Relation} {d : TableDef}
  {slot : Option Relation}

theorem Sound.has_table (sound : c.Sound) (has : c.Has schema id (.table d)) :
    schema = d.schema ∧ id = d.id ∧ c.Table d := by
  obtain ⟨number, name, _⟩ := sound.proper _ _ _ has
  subst number name
  exact ⟨rfl, rfl, has⟩

theorem Sound.relation_unique (sound : c.Sound) {other : String} {s : Relation}
    (first : c.Has schema id r) (second : c.Has other id s) : r = s := by
  cases sound.apart _ _ _ _ _ first second
  exact sound.ordered.relation_unique first second

theorem Sound.table_unique (sound : c.Sound) {other : TableDef} (first : c.Table d)
    (second : c.Table other) (same : d.id = other.id) : d = other := by
  rw [Table, same] at first
  exact Relation.table.inj (sound.relation_unique first second)

theorem Sound.wellFormed (sound : c.Sound) (held : c.Table d) : d.WellFormed :=
  (sound.proper _ _ _ held).2.2.1

theorem Sound.flat (sound : c.Sound) (held : c.Table d) : d.Flat :=
  (sound.proper _ _ _ held).2.2.2

/-- No index of a table has the number of a table or a sequence. -/
theorem Sound.index_of_listed (sound : c.Sound) (held : c.Table d) {i : IndexDef}
    (member : i ∈ d.indexes) (has : c.Has schema i.id r) : ∃ name, r = .index d.id name :=
  (sound.listed _ _ _ held i member).index _ _ has

/-- A number of a relation that is no index is not listed. -/
theorem Sound.unlisted (sound : c.Sound) (has : c.Has schema id r)
    (other : ∀ table name, r ≠ .index table name) (held : c.Table d) :
    id ∉ d.indexes.map (·.id) := by
  intro member
  obtain ⟨i, inside, rfl⟩ := List.mem_map.mp member
  obtain ⟨name, same⟩ := sound.index_of_listed held inside has
  exact other _ _ same

theorem Sound.not_counts (sound : c.Sound) (has : c.Has schema id (.table d)) : ¬c.Counts id := by
  rintro ⟨other, e, sequence⟩
  cases sound.relation_unique sequence has

theorem Saves.reserves (saves : c.Saves table id) : c.Reserves table id :=
  ⟨saves.given, fun schema r has => absurd has (saves.unused schema r)⟩

/-! ### Changes of one entry -/

namespace Altered

variable (altered : c.Altered next schema id slot)
include altered

theorem has_other {other : String} {number : Nat} (different : number ≠ id) :
    next.Has other number r ↔ c.Has other number r := by
  rw [altered.has, if_neg fun both => different both.2]

theorem has_same (alone : ∀ other r, c.Has other id r → other = schema) {other : String} :
    next.Has other id r ↔ other = schema ∧ slot = some r := by
  rw [altered.has]
  by_cases same : other = schema
  · simp [same]
  · simp only [same, false_and, ↓reduceIte, iff_false]
    exact fun has => same (alone other r has)

theorem table_iff (alone : ∀ other r, c.Has other id r → other = schema)
    (proper : ∀ r, slot = some r → r.Proper schema id) :
    next.Table d ↔ slot = some (.table d) ∨ (c.Table d ∧ d.id ≠ id) := by
  by_cases same : d.id = id
  · rw [Table, same, altered.has_same alone]
    constructor
    · exact fun ⟨_, made⟩ => .inl made
    · rintro (made | ⟨_, different⟩)
      · exact ⟨(proper _ made).2.1, made⟩
      · exact absurd rfl different
  · rw [Table, altered.has_other same]
    constructor
    · exact fun held => .inr ⟨held, same⟩
    · rintro (made | ⟨held, _⟩)
      · exact absurd (proper _ made).1 same
      · exact held

theorem counts_iff (alone : ∀ other r, c.Has other id r → other = schema) {number : Nat} :
    next.Counts number ↔
      (number = id ∧ ∃ d, slot = some (.sequence d)) ∨ (number ≠ id ∧ c.Counts number) := by
  by_cases same : number = id
  · subst same
    simp [Counts, altered.has_same alone]
  · simp [Counts, altered.has_other same, same]

theorem reserves {number : Nat} (reserves : c.Reserves table number)
    (index : number = id → ∀ r, slot = some r → ∃ name, r = .index table name) :
    next.Reserves table number := by
  refine ⟨altered.nextId ▸ reserves.given, fun other r has => ?_⟩
  rw [altered.has] at has
  by_cases same : other = schema ∧ number = id
  · rw [if_pos same] at has
    exact index same.2 r has
  · rw [if_neg same] at has
    exact reserves.index other r has

theorem saves_other {number : Nat} (tables : ∀ d, next.Table d ↔ c.Table d) (different : number ≠ id)
    (saves : c.Saves table number) : next.Saves table number :=
  ⟨altered.nextId ▸ saves.given, fun other r has =>
    saves.unused other r ((altered.has_other different).mp has),
    fun d held => saves.unlisted d ((tables d).mp held)⟩

end Altered

/-- A change of one entry keeps a catalog sound if what comes knows its place, and if the numbers
that it lists, or that list it, are those of indexes of one table. -/
theorem Sound.alter (sound : c.Sound) (altered : c.Altered next schema id slot)
    (given : id < c.nextId) (alone : ∀ other r, c.Has other id r → other = schema)
    (proper : ∀ r, slot = some r → r.Proper schema id)
    (listing : ∀ d, slot = some (.table d) → ∀ i ∈ d.indexes, i.id ≠ id ∧ c.Reserves d.id i.id)
    (unlisted : ∀ d, c.Table d → d.id ≠ id → id ∈ d.indexes.map (·.id) →
      ∀ r, slot = some r → ∃ name, r = .index d.id name) : next.Sound := by
  constructor
  · exact altered.ordered
  · intro other number r has
    rw [altered.nextId]
    by_cases same : number = id
    · exact same ▸ given
    · exact sound.bound _ _ _ ((altered.has_other same).mp has)
  · intro first second number r s one two
    by_cases same : number = id
    · subst same
      rw [altered.has_same alone] at one two
      exact one.1.trans two.1.symm
    · exact sound.apart _ _ _ _ _ ((altered.has_other same).mp one) ((altered.has_other same).mp two)
  · intro other number r has
    by_cases same : number = id
    · subst same
      obtain ⟨rfl, made⟩ := (altered.has_same alone).mp has
      exact proper r made
    · exact sound.proper _ _ _ ((altered.has_other same).mp has)
  · intro other number d has i member
    by_cases same : number = id
    · subst same
      obtain ⟨rfl, made⟩ := (altered.has_same alone).mp has
      obtain ⟨different, reserved⟩ := listing d made i member
      exact altered.reserves reserved fun equal => absurd equal different
    · obtain ⟨_, here, held⟩ := sound.has_table ((altered.has_other same).mp has)
      refine altered.reserves (sound.listed _ _ _ held i member) fun equal r made => ?_
      exact unlisted d held (here ▸ same) (equal ▸ List.mem_map_of_mem member) r made
  · exact altered.functions.trans sound.functions

theorem Sound.alone (sound : c.Sound) (has : c.Has schema id r) :
    ∀ other s, c.Has other id s → other = schema :=
  fun _ _ also => sound.apart _ _ _ _ _ also has

/-! ### Each change -/

/-- Relations went, or tables have other definitions. -/
structure Sheds (c next : Catalog) : Prop where
  kinds : ∀ schema id r, next.Has schema id r → ∃ old, c.Has schema id old ∧ old.kind = r.kind
  reserves : ∀ table id, c.Reserves table id → next.Reserves table id

theorem Sheds.same (c : Catalog) : c.Sheds c :=
  ⟨fun _ _ r has => ⟨r, has, rfl⟩, fun _ _ reserved => reserved⟩

theorem Sheds.trans {last : Catalog} (sheds : c.Sheds next) (more : next.Sheds last) :
    c.Sheds last where
  kinds schema id r has := by
    obtain ⟨between, there, same⟩ := more.kinds schema id r has
    obtain ⟨old, held, equal⟩ := sheds.kinds schema id between there
    exact ⟨old, held, equal.trans same⟩
  reserves table id reserved := more.reserves table id (sheds.reserves table id reserved)

theorem Altered.sheds (altered : c.Altered next schema id slot)
    (replaced : ∀ r, slot = some r → ∃ d old, r = .table d ∧ c.Has schema id (.table old)) :
    c.Sheds next where
  kinds other number r has := by
    rw [altered.has] at has
    split at has
    · rename_i same
      obtain ⟨rfl, rfl⟩ := same
      obtain ⟨d, old, rfl, there⟩ := replaced r has
      exact ⟨_, there, rfl⟩
    · exact ⟨r, has, rfl⟩
  reserves table number reserved := by
    refine altered.reserves reserved fun same r made => ?_
    obtain ⟨d, old, _, there⟩ := replaced r made
    obtain ⟨name, impossible⟩ := reserved.index schema _ (same ▸ there)
    cases impossible

theorem Sound.drop (sound : c.Sound) (given : c.drop id = .ok next) :
    next.Sound ∧ (∀ d, next.Table d ↔ c.Table d ∧ d.id ≠ id) ∧
      (∀ number, next.Counts number ↔ number ≠ id ∧ c.Counts number) ∧ c.Sheds next ∧
      ∃ schema r, c.Has schema id r := by
  obtain ⟨schema, r, has, altered⟩ := sound.ordered.drop_altered given
  have alone := sound.alone has
  refine ⟨?_, fun d => ?_, fun number => ?_, altered.sheds (by simp), schema, r, has⟩
  · exact sound.alter altered (sound.bound _ _ _ has) alone (by simp) (by simp) (by simp)
  · simpa using altered.table_iff alone (by simp)
  · simpa using altered.counts_iff alone

/-- Another definition in the place of a table. -/
theorem Sound.alterTable (sound : c.Sound) {old : TableDef} (has : c.Has d.schema d.id (.table old))
    (altered : c.Altered next d.schema d.id (some (.table d))) (wellFormed : d.WellFormed)
    (flat : d.Flat) (listed : ∀ i ∈ d.indexes, c.Reserves d.id i.id) :
    next.Sound ∧ (∀ e, next.Table e ↔ e = d ∨ (c.Table e ∧ e.id ≠ d.id)) ∧
      ∀ number, next.Counts number ↔ c.Counts number := by
  have alone := sound.alone has
  have proper : ∀ r, some (Relation.table d) = some r → r.Proper d.schema d.id := by
    rintro _ ⟨⟩
    exact ⟨rfl, rfl, wellFormed, flat⟩
  refine ⟨?_, fun e => ?_, fun number => ?_⟩
  · refine sound.alter altered (sound.bound _ _ _ has) alone proper ?_ ?_
    · rintro _ ⟨⟩ i member
      refine ⟨fun same => ?_, listed i member⟩
      obtain ⟨name, impossible⟩ := (listed i member).index _ _ (same ▸ has)
      cases impossible
    · exact fun e held _ member => absurd member (sound.unlisted has (by simp) held)
  · rw [altered.table_iff alone proper, Option.some.injEq, Relation.table.injEq, eq_comm]
  · rw [altered.counts_iff alone]
    constructor
    · rintro (⟨_, e, impossible⟩ | ⟨_, counted⟩)
      · cases impossible
      · exact counted
    · exact fun counted => .inr ⟨fun same => sound.not_counts has (same ▸ counted), counted⟩

theorem Sound.replaceTable (sound : c.Sound) (given : c.replaceTable d = .ok next)
    (wellFormed : d.WellFormed) (flat : d.Flat) (listed : ∀ i ∈ d.indexes, c.Reserves d.id i.id) :
    next.Sound ∧ (∀ e, next.Table e ↔ e = d ∨ (c.Table e ∧ e.id ≠ d.id)) ∧
      ∀ number, next.Counts number ↔ c.Counts number := by
  obtain ⟨altered, old, has⟩ := sound.ordered.replaceTable_altered given
  exact sound.alterTable has altered wellFormed flat listed

theorem Sound.sheds_replaceTable (sound : c.Sound) (given : c.replaceTable d = .ok next) :
    c.Sheds next := by
  obtain ⟨altered, old, has⟩ := sound.ordered.replaceTable_altered given
  refine altered.sheds ?_
  rintro _ ⟨⟩
  exact ⟨d, old, rfl, has⟩

theorem Sound.rename (sound : c.Sound) {name : String} (held : c.Table d)
    (given : c.rename d.id name = .ok next) :
    next.Sound ∧ (∀ e, next.Table e ↔ e = { d with name } ∨ (c.Table e ∧ e.id ≠ d.id)) ∧
      ∀ number, next.Counts number ↔ c.Counts number := by
  obtain ⟨schema, r, has, altered⟩ := sound.ordered.rename_altered given
  cases sound.relation_unique has held
  cases sound.apart _ _ _ _ _ has held
  have wellFormed := sound.wellFormed held
  have flat := sound.flat held
  exact sound.alterTable (d := { d with name }) held altered ⟨wellFormed.columns, wellFormed.distinct⟩
    flat fun i member => sound.listed _ _ _ held i member

theorem Sound.replaceSequence (sound : c.Sound) {d : SequenceDef}
    (given : c.replaceSequence d = .ok next) :
    next.Sound ∧ (∀ e, next.Table e ↔ c.Table e) ∧
      (∀ number, next.Counts number ↔ c.Counts number) ∧ c.Counts d.id := by
  obtain ⟨altered, old, has⟩ := sound.ordered.replaceSequence_altered given
  have alone := sound.alone has
  have proper : ∀ r, some (Relation.sequence d) = some r → r.Proper d.schema d.id := by
    rintro _ ⟨⟩
    exact ⟨rfl, rfl⟩
  refine ⟨?_, fun e => ?_, fun number => ?_, _, _, has⟩
  · exact sound.alter altered (sound.bound _ _ _ has) alone proper (by simp)
      fun e held _ member => absurd member (sound.unlisted has (by simp) held)
  · rw [altered.table_iff alone proper]
    constructor
    · rintro (impossible | ⟨held, _⟩)
      · cases impossible
      · exact held
    · intro held
      refine .inr ⟨held, fun same => ?_⟩
      rw [Table, same] at held
      cases sound.relation_unique held has
  · rw [altered.counts_iff alone]
    constructor
    · rintro (⟨rfl, _⟩ | ⟨_, counted⟩)
      · exact ⟨_, _, has⟩
      · exact counted
    · intro counted
      by_cases same : number = d.id
      · exact .inl ⟨same, d, rfl⟩
      · exact .inr ⟨same, counted⟩

/-! ### Numbers that are taken -/

/-- A number that was taken, and that nothing uses or lists. -/
structure Free (c : Catalog) (id : Nat) : Prop where
  given : id < c.nextId
  unused : ∀ schema r, ¬c.Has schema id r
  unlisted : ∀ d, c.Table d → id ∉ d.indexes.map (·.id)

theorem Free.not_table (free : c.Free id) (held : c.Table d) : d.id ≠ id := by
  rintro rfl
  exact free.unused _ _ held

theorem Free.saves (free : c.Free id) (table : Nat) : c.Saves table id :=
  ⟨free.given, free.unused, fun d held member => absurd member (free.unlisted d held)⟩

/-- Another catalog with the same relations. -/
structure Same (c next : Catalog) : Prop where
  ordered : next.Ordered
  later : c.nextId ≤ next.nextId
  functions : next.functions = c.functions
  has : ∀ schema id r, next.Has schema id r ↔ c.Has schema id r

theorem Ordered.same (ordered : c.Ordered) : c.Same c :=
  ⟨ordered, Nat.le_refl _, rfl, fun _ _ _ => Iff.rfl⟩

namespace Same

variable (same : c.Same next)
include same

theorem trans {last : Catalog} (more : next.Same last) : c.Same last where
  ordered := more.ordered
  later := Nat.le_trans same.later more.later
  functions := more.functions.trans same.functions
  has schema id r := (more.has schema id r).trans (same.has schema id r)

theorem table_iff : next.Table d ↔ c.Table d := same.has _ _ _

theorem counts_iff : next.Counts id ↔ c.Counts id :=
  exists_congr fun _ => exists_congr fun _ => same.has _ _ _

theorem reserves (reserves : c.Reserves table id) : next.Reserves table id :=
  ⟨Nat.lt_of_lt_of_le reserves.given same.later, fun schema r has =>
    reserves.index schema r ((same.has _ _ _).mp has)⟩

theorem saves (saves : c.Saves table id) : next.Saves table id :=
  ⟨Nat.lt_of_lt_of_le saves.given same.later, fun schema r has =>
    saves.unused schema r ((same.has _ _ _).mp has), fun d held =>
    saves.unlisted d (same.table_iff.mp held)⟩

theorem free (free : c.Free id) : next.Free id :=
  ⟨Nat.lt_of_lt_of_le free.given same.later, fun schema r has =>
    free.unused schema r ((same.has _ _ _).mp has), fun d held =>
    free.unlisted d (same.table_iff.mp held)⟩

theorem sound (sound : c.Sound) : next.Sound where
  ordered := same.ordered
  bound _ _ _ has :=
    Nat.lt_of_lt_of_le (sound.bound _ _ _ ((same.has _ _ _).mp has)) same.later
  apart _ _ _ _ _ first second :=
    sound.apart _ _ _ _ _ ((same.has _ _ _).mp first) ((same.has _ _ _).mp second)
  proper _ _ _ has := sound.proper _ _ _ ((same.has _ _ _).mp has)
  listed _ _ _ has i member := same.reserves (sound.listed _ _ _ ((same.has _ _ _).mp has) i member)
  functions := same.functions.trans sound.functions

end Same

theorem Ordered.same_raise (ordered : c.Ordered) {nextId : Nat} (later : c.nextId ≤ nextId) :
    c.Same { c with nextId } :=
  ⟨⟨ordered.schemas, ordered.relations, ordered.names⟩, later, rfl, fun _ _ _ => Iff.rfl⟩

theorem Ordered.same_allocate (ordered : c.Ordered) : c.Same c.allocate.2 :=
  ordered.same_raise (Nat.le_succ _)

theorem Ordered.same_setSearchPath (ordered : c.Ordered) (path : List String) :
    c.Same (c.setSearchPath path) :=
  ⟨⟨ordered.schemas, ordered.relations, ordered.names⟩, Nat.le_refl _, rfl, fun _ _ _ => Iff.rfl⟩

theorem Ordered.same_createSchema (ordered : c.Ordered) {name : String} {ifNotExists created : Bool}
    (given : c.createSchema name ifNotExists = .ok (created, next)) : c.Same next := by
  unfold createSchema at given
  split at given
  · cases given
    exact ⟨ordered, Nat.le_refl _, rfl, fun _ _ _ => Iff.rfl⟩
  · cases given
  · rename_i missing
    cases given
    have named : (Schema.empty name).name = name := rfl
    have empty : Sorted.Increasing compare (Schema.empty name).relations := List.Pairwise.nil
    obtain ⟨still, has⟩ := ordered.putSchema named empty
    refine ⟨still, Nat.le_refl _, rfl, fun schema id r => ?_⟩
    refine (has schema id r).trans ?_
    by_cases same : schema = name
    · rw [if_pos same]
      simp only [Schema.empty, List.not_mem_nil, false_iff]
      rintro ⟨s, there, _⟩
      rw [← ordered.schema?_iff, same, missing] at there
      cases there
    · rw [if_neg same]

/-- Numbers between the counter and a later counter are free. -/
theorem Sound.free_raise (sound : c.Sound) {nextId : Nat} (above : c.nextId ≤ id)
    (below : id < nextId) : Free { c with nextId } id where
  given := below
  unused _ _ has := absurd (sound.bound _ _ _ has) (Nat.not_lt_of_le above)
  unlisted _ held member := by
    obtain ⟨i, inside, same⟩ := List.mem_map.mp member
    have given : i.id < c.nextId := (sound.listed _ _ _ held i inside).given
    rw [same] at given
    exact absurd given (Nat.not_lt_of_le above)

theorem Sound.free_allocate (sound : c.Sound) : c.allocate.2.Free c.allocate.1 :=
  sound.free_raise (Nat.le_refl _) (Nat.lt_succ_self _)

/-! ### Relations that come -/

/-- A relation that is no table comes under a number that is saved for it. -/
theorem Sound.register (sound : c.Sound) (saves : c.Saves table id)
    (given : c.register schema id r = .ok next) (proper : r.Proper schema id)
    (noTable : ∀ d, r ≠ .table d) (index : (∃ name, r = .index table name) ∨ c.Free id) :
    next.Sound ∧ (∀ d, next.Table d ↔ c.Table d) ∧
      (∀ number, c.Counts number → next.Counts number) ∧ c.Altered next schema id (some r) := by
  have altered := sound.ordered.register_altered given
  have alone : ∀ other s, c.Has other id s → other = schema := fun other s has =>
    absurd has (saves.unused other s)
  have proper : ∀ s, some r = some s → s.Proper schema id := by
    rintro _ ⟨⟩
    exact proper
  refine ⟨?_, fun d => ?_, fun number counted => ?_, altered⟩
  · refine sound.alter altered saves.given alone proper ?_ ?_
    · rintro d ⟨⟩
      exact absurd rfl (noTable d)
    · rintro d held _ member _ ⟨⟩
      rcases index with ⟨name, same⟩ | free
      · exact ⟨name, saves.unlisted d held member ▸ same⟩
      · exact absurd member (free.unlisted d held)
  · rw [altered.table_iff alone proper]
    constructor
    · rintro (impossible | ⟨held, _⟩)
      · exact absurd (Option.some.inj impossible) (noTable d)
      · exact held
    · intro held
      refine .inr ⟨held, fun same => ?_⟩
      exact saves.unused d.schema (.table d) (same ▸ held)
  · refine (altered.counts_iff alone).mpr (.inr ⟨?_, counted⟩)
    rintro rfl
    obtain ⟨other, d, has⟩ := counted
    exact saves.unused other _ has

theorem Sound.registerTable (sound : c.Sound) (free : c.Free d.id)
    (given : c.register d.schema d.id (.table d) = .ok next) (wellFormed : d.WellFormed)
    (flat : d.Flat) (listed : ∀ i ∈ d.indexes, i.id ≠ d.id ∧ c.Free i.id) :
    next.Sound ∧ (∀ e, next.Table e ↔ e = d ∨ c.Table e) ∧
      (∀ number, next.Counts number ↔ c.Counts number) ∧ ∀ i ∈ d.indexes, next.Saves d.id i.id := by
  have altered := sound.ordered.register_altered given
  have alone : ∀ other s, c.Has other d.id s → other = d.schema := fun other s has =>
    absurd has (free.unused other s)
  have proper : ∀ r, some (Relation.table d) = some r → r.Proper d.schema d.id := by
    rintro _ ⟨⟩
    exact ⟨rfl, rfl, wellFormed, flat⟩
  have tables : ∀ e, next.Table e ↔ e = d ∨ c.Table e := by
    intro e
    rw [altered.table_iff alone proper, Option.some.injEq, Relation.table.injEq, eq_comm]
    refine or_congr Iff.rfl ⟨fun held => held.1, fun held => ⟨held, fun same => ?_⟩⟩
    exact free.unused e.schema (.table e) (same ▸ held)
  refine ⟨?_, tables, fun number => ?_, fun i member => ?_⟩
  · refine sound.alter altered free.given alone proper ?_ ?_
    · rintro _ ⟨⟩ i member
      exact ⟨(listed i member).1, ((listed i member).2.saves d.id).reserves⟩
    · exact fun e held _ member => absurd member (free.unlisted e held)
  · rw [altered.counts_iff alone]
    constructor
    · rintro (⟨_, e, impossible⟩ | ⟨_, counted⟩)
      · cases impossible
      · exact counted
    · refine fun counted => .inr ⟨?_, counted⟩
      rintro rfl
      obtain ⟨other, e, has⟩ := counted
      exact free.unused other _ has
  · obtain ⟨different, unused⟩ := listed i member
    refine ⟨altered.nextId ▸ unused.given, fun other r has => ?_, fun e held inside => ?_⟩
    · exact unused.unused other r ((altered.has_other different).mp has)
    · rcases (tables e).mp held with rfl | old
      · rfl
      · exact absurd inside (unused.unlisted e old)

/-! ### Relations that were looked up before -/

/-- Whatever is left under the number is of the kind of the relation, and if that is a table, the
numbers that it lists still belong to it. -/
structure Remembers (c : Catalog) (id : Nat) (r : Relation) : Prop where
  kind : ∀ schema old, c.Has schema id old → old.kind = r.kind
  table : ∀ d, r = .table d → d.id = id ∧ ∀ i ∈ d.indexes, c.Reserves d.id i.id

theorem Sound.remembers (sound : c.Sound) (has : c.Has schema id r) : c.Remembers id r where
  kind _ _ also := congrArg Relation.kind (sound.relation_unique also has)
  table d same := by
    subst same
    exact ⟨(sound.proper _ _ _ has).1, sound.listed _ _ _ has⟩

theorem Remembers.sheds (remembers : c.Remembers id r) (sheds : c.Sheds next) :
    next.Remembers id r where
  kind schema r has := by
    obtain ⟨old, there, same⟩ := sheds.kinds schema id r has
    exact same.symm.trans (remembers.kind schema old there)
  table d same := by
    obtain ⟨number, listed⟩ := remembers.table d same
    exact ⟨number, fun i member => sheds.reserves _ _ (listed i member)⟩

/-- A number under which something other than a table was found is the number of no table. -/
theorem Remembers.not_table (remembers : c.Remembers id r) (other : r.kind ≠ "table")
    (held : c.Table d) : d.id ≠ id := by
  rintro rfl
  exact other (remembers.kind _ _ held).symm

theorem Sound.owned_not_table (sound : c.Sound) {sequence : SequenceDef} {owner : TableDef}
    (owned : sequence ∈ c.ownedSequences owner) (held : c.Table d) : d.id ≠ sequence.id := by
  unfold ownedSequences at owned
  split at owned
  · rename_i s found
    obtain ⟨⟨number, r⟩, member, part⟩ := List.mem_filterMap.mp (List.mem_filter.mp owned).1
    obtain rfl := sequence?_eq_some.mp part
    have has := (sound.ordered.has_iff found).mpr member
    obtain rfl := (sound.proper _ _ _ has).1
    exact (sound.remembers has).not_table (by simp [Relation.kind]) held
  · exact absurd owned List.not_mem_nil

/-! ### Several relations -/

/-- Relations came, but no table did, and the numbers that belong to one table still do. -/
structure Grows (table : Nat) (c next : Catalog) : Prop where
  sound : next.Sound
  tables : ∀ d, next.Table d ↔ c.Table d
  counts : ∀ id, c.Counts id → next.Counts id
  reserves : ∀ id, c.Reserves table id → next.Reserves table id

theorem Sound.grows (sound : c.Sound) (table : Nat) : Grows table c c :=
  ⟨sound, fun _ => Iff.rfl, fun _ counted => counted, fun _ reserved => reserved⟩

theorem Grows.trans {last : Catalog} (grows : Grows table c next) (more : Grows table next last) :
    Grows table c last where
  sound := more.sound
  tables d := (more.tables d).trans (grows.tables d)
  counts id counted := more.counts id (grows.counts id counted)
  reserves id reserved := more.reserves id (grows.reserves id reserved)

theorem Same.grows (same : c.Same next) (sound : c.Sound) (table : Nat) : Grows table c next :=
  ⟨same.sound sound, fun _ => same.table_iff, fun _ => same.counts_iff.mpr,
    fun _ => same.reserves⟩

theorem Sound.registerIndex (sound : c.Sound) (saves : c.Saves table id) {name : String}
    (given : c.register schema id (.index table name) = .ok next) :
    Grows table c next ∧ ∀ number, number ≠ id → c.Saves table number → next.Saves table number := by
  obtain ⟨later, tables, counts, altered⟩ :=
    sound.register saves given trivial (by simp) (.inl ⟨name, rfl⟩)
  refine ⟨⟨later, tables, counts, fun number reserved => ?_⟩, fun number different => ?_⟩
  · refine altered.reserves reserved ?_
    rintro _ r ⟨⟩
    exact ⟨name, rfl⟩
  · exact altered.saves_other tables different

/-- A relation that is no table and no index comes under the next number. -/
theorem Sound.registerNext (sound : c.Sound) {make : Nat → Relation} (table : Nat)
    (given : c.registerNext schema make = .ok next)
    (proper : ∀ id, (make id).Proper schema id) (noTable : ∀ id d, make id ≠ .table d) :
    Grows table c next := by
  obtain ⟨_, _, given⟩ := Run.bind_ok given
  have same := sound.ordered.same_allocate
  have free := sound.free_allocate
  obtain ⟨later, tables, counts, altered⟩ :=
    (same.sound sound).register (free.saves table) given (proper _) (noTable _) (.inr free)
  refine ⟨later, fun d => (tables d).trans same.table_iff,
    fun id counted => counts id (same.counts_iff.mpr counted), fun number reserved => ?_⟩
  refine altered.reserves (same.reserves reserved) fun equal => ?_
  exact absurd equal (Nat.ne_of_lt reserved.given)

/-! ### A new catalog -/

/-- Relations of the system: types under numbers below those of the user. -/
def OfSystem (entries : List (Nat × Relation)) : Prop :=
  Sorted.Increasing compare entries ∧ ∀ e ∈ entries, e.1 < firstUserId ∧ ∃ type, e.2 = .type type

theorem OfSystem.insert {entries : List (Nat × Relation)} (system : OfSystem entries) {oid : Nat}
    (bound : oid < firstUserId) (type : SqlType) :
    OfSystem (Sorted.insert compare oid (.type type) entries) := by
  obtain ⟨increasing, each⟩ := system
  refine ⟨increasing.alter _ _, ?_⟩
  rintro ⟨number, r⟩ member
  rcases (Sorted.mem_alter increasing oid _ number r).mp member with ⟨old, _⟩ | ⟨rfl, made⟩
  · exact each _ old
  · exact ⟨bound, type, (Option.some.inj made).symm⟩

theorem ofSystem_builtin : builtinSchema.name = systemSchema ∧ OfSystem builtinSchema.relations := by
  have numbered : ∀ type ∈ SqlType.builtins, ∀ oid ∈ type.oid?, oid < firstUserId := by decide
  refine List.foldlRecOn (motive := fun s : Schema => s.name = systemSchema ∧ OfSystem s.relations) _ _
    ⟨rfl, List.Pairwise.nil, by simp [Schema.empty]⟩ fun s system type member => ?_
  split
  · rename_i oid known
    exact ⟨system.1, system.2.insert (numbered type member oid known) type⟩
  · exact system

/-- A new catalog is the schema of the system with an empty schema beside it, or in its place. -/
theorem create_ordered (o : DbOptions) : (create o).Ordered ∧ ∀ schema id r,
    (create o).Has schema id r →
      schema = systemSchema ∧ id < firstUserId ∧ ∃ type, r = .type type := by
  let system : Catalog :=
    ⟨[(systemSchema, builtinSchema)], o.searchPath, o.defaultSchema, firstUserId, []⟩
  have ordered : system.Ordered := by
    refine ⟨List.pairwise_singleton _ _, ?_, ?_⟩
    · exact List.forall_mem_singleton.mpr ofSystem_builtin.2.1
    · exact List.forall_mem_singleton.mpr ofSystem_builtin.1
  have named : (Schema.empty o.defaultSchema).name = o.defaultSchema := rfl
  have empty : Sorted.Increasing compare (Schema.empty o.defaultSchema).relations := List.Pairwise.nil
  obtain ⟨still, has⟩ := ordered.putSchema named empty
  refine ⟨still, fun schema id r there => ?_⟩
  have before := (has schema id r).mp there
  split at before
  · cases before
  · obtain ⟨s, only, member⟩ := before
    cases List.mem_singleton.mp only
    exact ⟨rfl, ofSystem_builtin.2.2 _ member⟩

theorem sound_create (o : DbOptions) : (create o).Sound := by
  obtain ⟨ordered, has⟩ := create_ordered o
  constructor
  · exact ordered
  · exact fun schema id r there => (has schema id r there).2.1
  · exact fun _ _ _ _ _ first second => (has _ _ _ first).1.trans (has _ _ _ second).1.symm
  · intro schema id r there
    obtain ⟨_, _, type, rfl⟩ := has schema id r there
    trivial
  · intro schema id d there
    obtain ⟨_, _, type, impossible⟩ := has schema id _ there
    cases impossible
  · rfl

theorem no_table_create (o : DbOptions) (d : TableDef) : ¬(create o).Table d := by
  intro held
  obtain ⟨_, _, type, impossible⟩ := (create_ordered o).2 _ _ _ held
  cases impossible

end Catalog

end SqlEngine
