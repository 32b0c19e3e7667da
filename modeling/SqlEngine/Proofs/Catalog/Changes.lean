import SqlEngine.Proofs.Catalog.Linking

/-!
Changes of the catalog: which relations are there afterwards, and when they succeed.

Relations of the user are in schemas that may be changed, for the schema of the system holds types
only. So a relation that is there can go and can get another definition, and a change of one that is
not there fails with an internal error.
-/

namespace SqlEngine

open Run (bind_ok)

namespace Catalog

variable {c next : Catalog} {schema : String} {id : Nat} {r : Relation} {d : TableDef}

/-! ### What changes do to the relations -/

theorem Registered.drop_has (registered : c.Registered) (made : c.drop id = .ok next) :
    next.Registered ∧ ∀ other number r,
      next.Has other number r ↔ number ≠ id ∧ c.Has other number r := by
  obtain ⟨still, schema, _, has, altered⟩ := registered.drop made
  refine ⟨still, fun other number r => ?_⟩
  by_cases same : number = id
  · subst same
    simp [altered.has_same (registered.alone has)]
  · simp [altered.has_other same, same]

theorem Registered.register_has (registered : c.Registered) (unused : c.Unused id)
    (placed : r.Placed schema id) (made : c.register schema id r = .ok next) :
    next.Registered ∧ next.nextId = c.nextId ∧ ∀ other number q, next.Has other number q ↔
      (other = schema ∧ number = id ∧ q = r) ∨ c.Has other number q := by
  obtain ⟨still, altered⟩ := registered.register unused placed made
  refine ⟨still, altered.nextId, fun other number q => ?_⟩
  have nothing := unused.unused other q
  rw [altered.has]
  by_cases same : other = schema ∧ number = id
  · obtain ⟨rfl, rfl⟩ := same
    simp [nothing, eq_comm (a := q)]
  · rw [if_neg same]
    exact ⟨.inr, fun either => either.resolve_left fun ⟨place, number, _⟩ => same ⟨place, number⟩⟩

theorem Registered.mem_ownedSequences (registered : c.Registered) {d : TableDef} {q : SequenceDef} :
    q ∈ c.ownedSequences d ↔ c.Has d.schema q.id (.sequence q) ∧
      ∃ text, q.options.ownedBy = some text ∧ (d.name ++ ".").isPrefixOf text = true := by
  unfold ownedSequences
  cases found : c.schema? d.schema with
  | none =>
      refine iff_of_false List.not_mem_nil ?_
      rintro ⟨⟨s, there, _⟩, _⟩
      rw [registered.ordered.schema?_iff.mpr there] at found
      cases found
  | some s =>
      simp only [List.mem_filter, List.mem_filterMap, Option.any_eq_true]
      refine and_congr ⟨?_, fun has => ?_⟩ Iff.rfl
      · rintro ⟨⟨number, r⟩, member, part⟩
        obtain rfl := sequence?_eq_some.mp part
        have has := (registered.ordered.has_iff found).mpr member
        obtain ⟨rfl, _⟩ := registered.placed _ _ _ has
        exact has
      · exact ⟨(q.id, .sequence q), (registered.ordered.has_iff found).mp has, rfl⟩

theorem Registered.name_unique (registered : c.Registered) {other : Nat} {r p : Relation}
    (one : c.Has schema id r) (two : c.Has schema other p) (same : r.name = p.name) : id = other := by
  have ⟨s, there, _⟩ := one
  have found := registered.ordered.schema?_iff.mpr there
  exact (registered.maps_of found).unique ((registered.ordered.get?_iff found).mpr one)
    ((registered.ordered.get?_iff found).mpr two) (congrArg Text.lower same)

/-- The number of another relation is not that of an index of a table. -/
theorem Linked.not_mem_indexes (linked : c.Linked) (held : c.Has schema id (.table d))
    {other : String} {number : Nat} {r : Relation} (has : c.Has other number r)
    (different : ∀ table name, r ≠ .index table name) : number ∉ d.indexes.map (·.id) := by
  intro listed
  obtain ⟨i, member, rfl⟩ := List.mem_map.mp listed
  have index := (linked.indexes schema i.id id i.name).mpr ⟨d, held, i, member, rfl, rfl⟩
  exact different _ _ (linked.registered.relation_unique has index)

/-- The number of another relation is not that of a sequence that a table owns. -/
theorem Registered.not_mem_owned (registered : c.Registered) {other : String} {number : Nat}
    {r : Relation} (has : c.Has other number r) (different : ∀ q, r ≠ .sequence q) :
    number ∉ (c.ownedSequences d).map (·.id) := by
  intro listed
  obtain ⟨q, member, rfl⟩ := List.mem_map.mp listed
  exact different q (registered.relation_unique has (registered.mem_ownedSequences.mp member).1)

/-! ### Schemas that may be changed -/

/-- Schemas that are read-only hold types only. -/
def Open (c : Catalog) : Prop :=
  ∀ e ∈ c.schemas, e.2.readOnly = true → ∀ entry ∈ e.2.relations, entry.2.type?.isSome

theorem Open.of_schemas (writable : c.Open) (same : next.schemas = c.schemas) : next.Open :=
  fun e member => writable e (same ▸ member)

theorem Open.putSchema (writable : c.Open) (ordered : c.Ordered) {s : Schema}
    (changeable : s.readOnly = false) : (c.putSchema schema s).Open := by
  intro e member readOnly
  rcases ordered.mem_putSchema member with old | rfl
  · exact writable e old readOnly
  · rw [changeable] at readOnly
    cases readOnly

theorem writable_changeable {s : Schema} (given : c.writable schema = .ok s) : s.readOnly = false := by
  unfold writable at given
  split at given
  · cases given
  · split at given
    · cases given
    · cases given
      exact Bool.not_eq_true _ ▸ ‹¬_›

theorem Open.createSchema (writable : c.Open) (ordered : c.Ordered) {name : String}
    {ifNotExists created : Bool} (made : c.createSchema name ifNotExists = .ok (created, next)) :
    next.Open := by
  unfold Catalog.createSchema at made
  split at made
  · cases made
    exact writable
  · cases made
  · cases made
    exact writable.putSchema ordered rfl

theorem Open.register (writable : c.Open) (ordered : c.Ordered)
    (made : c.register schema id r = .ok next) : next.Open := by
  obtain ⟨s, found, made⟩ := bind_ok made
  obtain ⟨extended, inserted, made⟩ := bind_ok made
  cases made
  unfold Schema.insert at inserted
  split at inserted
  · cases inserted
    have changeable := writable_changeable found
    exact writable.putSchema ordered changeable
  · cases inserted

theorem Open.replaceTable (writable : c.Open) (ordered : c.Ordered)
    (made : c.replaceTable d = .ok next) : next.Open := by
  obtain ⟨s, found, made⟩ := bind_ok made
  split at made
  · cases made
    have changeable := writable_changeable found
    exact writable.putSchema ordered changeable
  · cases made

theorem Open.replaceSequence (writable : c.Open) (ordered : c.Ordered) {q : SequenceDef}
    (made : c.replaceSequence q = .ok next) : next.Open := by
  obtain ⟨s, found, made⟩ := bind_ok made
  split at made
  · cases made
    have changeable := writable_changeable found
    exact writable.putSchema ordered changeable
  · cases made

theorem erase_changeable {s : Schema} : (s.erase id).readOnly = s.readOnly := by
  unfold Schema.erase
  split <;> rfl

theorem Ordered.writableRelation_changeable (ordered : c.Ordered) {s : Schema}
    (given : c.writableRelation id = .ok (s, r)) : s.readOnly = false := by
  have there := (ordered.writableRelation_has given).1
  unfold writableRelation at given
  split at given
  · cases given
  · obtain ⟨other, found, given⟩ := bind_ok given
    cases given
    cases there.symm.trans (writable_ok found)
    exact writable_changeable found

theorem Open.drop (writable : c.Open) (ordered : c.Ordered) (made : c.drop id = .ok next) :
    next.Open := by
  obtain ⟨⟨s, r⟩, found, made⟩ := bind_ok made
  cases made
  exact writable.putSchema ordered
    (erase_changeable.trans (ordered.writableRelation_changeable found))

theorem Open.rename (writable : c.Open) (ordered : c.Ordered) {name : String}
    (made : c.rename id name = .ok next) : next.Open := by
  obtain ⟨⟨s, r⟩, found, made⟩ := bind_ok made
  obtain ⟨renamed, inserted, made⟩ := bind_ok made
  cases made
  unfold Schema.insert at inserted
  split at inserted
  · cases inserted
    exact writable.putSchema ordered
      (erase_changeable.trans (ordered.writableRelation_changeable found))
  · cases inserted

theorem open_create (o : DbOptions) : (create o).Open := by
  rintro ⟨name, s⟩ member readOnly ⟨id, r⟩ entry
  have has : (create o).Has name id r := ⟨s, member, entry⟩
  obtain ⟨_, _, type, rfl⟩ := (create_ordered o).2 _ _ _ has
  rfl

/-! ### When changes succeed -/

theorem Open.writable_of_has (writable : c.Open) (ordered : c.Ordered) (has : c.Has schema id r)
    (user : r.type? = none) : ∃ s, c.writable schema = .ok s ∧ s.get? id = some r := by
  obtain ⟨s, there, member⟩ := has
  have found := ordered.schema?_iff.mpr there
  refine ⟨s, ?_, (ordered.get?_iff found).mpr ⟨s, there, member⟩⟩
  cases readOnly : s.readOnly with
  | false => simp [Catalog.writable, found, readOnly]
  | true =>
      have isType := writable _ there readOnly _ member
      rw [user] at isType
      cases isType

theorem Registered.relation?_of_has (registered : c.Registered) (has : c.Has schema id r) :
    ∃ s, s.name = schema ∧ c.relation? id = some (s, r) := by
  obtain ⟨s, there, member⟩ := has
  have held : (s.get? id).map (s, ·) = some (s, r) := by
    have found := registered.ordered.schema?_iff.mpr there
    rw [(registered.ordered.get?_iff found).mpr ⟨s, there, member⟩]
    rfl
  have some : (c.relation? id).isSome :=
    List.findSome?_isSome_iff.mpr ⟨_, there, congrArg Option.isSome held⟩
  obtain ⟨⟨t, q⟩, found⟩ := Option.isSome_iff_exists.mp some
  obtain ⟨named, also⟩ := registered.ordered.relation?_has found
  have same := registered.apart _ _ _ _ _ also ⟨s, there, member⟩
  rw [same, registered.ordered.schema?_iff.mpr there] at named
  cases named
  cases registered.relation_unique also ⟨s, there, member⟩
  exact ⟨s, same, found⟩

theorem Registered.tableById_of_has (registered : c.Registered) (has : c.Has schema id (.table d)) :
    c.tableById id = .ok d := by
  obtain ⟨s, _, found⟩ := registered.relation?_of_has has
  simp [tableById, found, Relation.table?]

theorem Registered.writableRelation_of_has (registered : c.Registered) (writable : c.Open)
    (has : c.Has schema id r) (user : r.type? = none) :
    ∃ s, c.writableRelation id = .ok (s, r) := by
  obtain ⟨s, rfl, found⟩ := registered.relation?_of_has has
  obtain ⟨t, changeable, _⟩ := writable.writable_of_has registered.ordered has user
  refine ⟨s, ?_⟩
  rw [writableRelation, found]
  dsimp only
  rw [changeable]
  rfl

theorem Registered.drop_of_has (registered : c.Registered) (writable : c.Open)
    (has : c.Has schema id r) (user : r.type? = none) : ∃ next, c.drop id = .ok next := by
  obtain ⟨s, found⟩ := registered.writableRelation_of_has writable has user
  exact ⟨c.putSchema s.name (s.erase id), by rw [Catalog.drop, found]; rfl⟩

theorem Ordered.drop_gone (ordered : c.Ordered) (gone : ∀ schema r, ¬c.Has schema id r) :
    ∃ what, c.drop id = .error (.internal what) := by
  have nothing : c.relation? id = none := by
    refine Option.eq_none_iff_forall_ne_some.mpr fun ⟨s, r⟩ found => ?_
    exact gone _ _ (ordered.relation?_has found).2
  exact ⟨s!"relation {id} is gone", by rw [Catalog.drop, writableRelation, nothing]; rfl⟩

theorem Open.replaceTable_of_has (writable : c.Open) (ordered : c.Ordered) {e : TableDef}
    (has : c.Has d.schema d.id (.table e)) : ∃ next, c.replaceTable d = .ok next := by
  obtain ⟨s, found, held⟩ := writable.writable_of_has ordered has rfl
  refine ⟨c.putSchema d.schema (s.replace d.id (.table d)), ?_⟩
  rw [Catalog.replaceTable, found]
  simp only [bind, Except.bind, held]
  rfl

theorem Open.replaceSequence_of_has (writable : c.Open) (ordered : c.Ordered) {q p : SequenceDef}
    (has : c.Has q.schema q.id (.sequence p)) : ∃ next, c.replaceSequence q = .ok next := by
  obtain ⟨s, found, held⟩ := writable.writable_of_has ordered has rfl
  refine ⟨c.putSchema q.schema (s.replace q.id (.sequence q)), ?_⟩
  rw [Catalog.replaceSequence, found]
  simp only [bind, Except.bind, held]
  rfl

end Catalog

end SqlEngine
