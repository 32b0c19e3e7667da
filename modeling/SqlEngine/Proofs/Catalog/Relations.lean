import SqlEngine.Catalog.Basic
import SqlEngine.Proofs.Run
import SqlEngine.Proofs.Storage.Sorted

/-!
The relations of a catalog.

A catalog is read as a map from the name of a schema and a number to a relation. Whatever changes a
relation changes one entry of the map.
-/

namespace SqlEngine

open Run (bind_ok)

theorem Relation.kind_eq_index {r : Relation} :
    r.kind = "index" ↔ ∃ table name, r = .index table name := by
  cases r <;> simp [kind]

theorem Schema.erase_eq {s : Schema} {id : Nat} {r : Relation} (held : s.get? id = some r) :
    s.erase id = { s with
      byName := Sorted.erase compare r.name s.byName
      byLower := Sorted.erase compare (Text.lower r.name) s.byLower
      relations := Sorted.erase compare id s.relations
      byTypeOid := s.byTypeOid.filter (·.2 != id) } := by
  rw [erase, held]

namespace Catalog

open Schema (erase_eq)

/-- Is the relation registered in the schema under the number? -/
def Has (c : Catalog) (schema : String) (id : Nat) (r : Relation) : Prop :=
  ∃ s, (schema, s) ∈ c.schemas ∧ (id, r) ∈ s.relations

/-- Schemas and relations stand in the order of their keys, and schemas know their names. -/
structure Ordered (c : Catalog) : Prop where
  schemas : Sorted.Increasing compare c.schemas
  relations : ∀ e ∈ c.schemas, Sorted.Increasing compare e.2.relations
  names : ∀ e ∈ c.schemas, e.2.name = e.1

variable {c next : Catalog} {schema name : String} {id : Nat} {r : Relation} {s : Schema}

/-! ### Looking up -/

theorem Ordered.schema?_iff (ordered : c.Ordered) : c.schema? name = some s ↔ (name, s) ∈ c.schemas :=
  Sorted.mem_iff_lookup ordered.schemas name s

theorem Ordered.has_iff (ordered : c.Ordered) (found : c.schema? name = some s) :
    c.Has name id r ↔ (id, r) ∈ s.relations := by
  constructor
  · rintro ⟨other, there, member⟩
    rw [← ordered.schema?_iff, found] at there
    exact Option.some.inj there ▸ member
  · exact fun member => ⟨s, ordered.schema?_iff.mp found, member⟩

theorem Ordered.get?_iff (ordered : c.Ordered) (found : c.schema? name = some s) :
    s.get? id = some r ↔ c.Has name id r := by
  rw [ordered.has_iff found]
  exact Sorted.mem_iff_lookup (ordered.relations _ (ordered.schema?_iff.mp found)) id r

/-- A schema holds one relation under a number. -/
theorem Ordered.relation_unique (ordered : c.Ordered) {other : Relation} (first : c.Has schema id r)
    (second : c.Has schema id other) : r = other := by
  obtain ⟨s, there, member⟩ := first
  have found := ordered.schema?_iff.mpr there
  have increasing := ordered.relations _ there
  rw [ordered.has_iff found, ← Sorted.mem_iff_lookup increasing] at second
  rw [← Sorted.mem_iff_lookup increasing, second] at member
  exact (Option.some.inj member).symm

theorem Ordered.find?_has (ordered : c.Ordered) {name : QName} (found : c.find? name = some (id, r)) :
    ∃ schema, c.Has schema id r := by
  have named : ∀ schema, (c.schema? schema).bind (·.named? name.name) = some (id, r) →
      c.Has schema id r := by
    intro schema there
    obtain ⟨s, held, there⟩ := Option.bind_eq_some_iff.mp there
    obtain ⟨number, _, there⟩ := Option.bind_eq_some_iff.mp there
    obtain ⟨other, got, same⟩ := Option.map_eq_some_iff.mp there
    cases same
    exact (ordered.get?_iff held).mp got
  unfold Catalog.find? at found
  split at found
  · exact ⟨_, named _ found⟩
  · obtain ⟨schema, _, there⟩ := List.exists_of_findSome?_eq_some found
    exact ⟨schema, named schema there⟩

theorem findKind_ok {α : Type} {name : QName} {kind : String} {part : Relation → Option α} {a : α}
    (found : c.findKind name kind part = .ok a) :
    ∃ id r, c.find? name = some (id, r) ∧ part r = some a := by
  unfold findKind at found
  split at found
  · cases found
  · rename_i id r there
    split at found
    · rename_i held
      cases found
      exact ⟨id, r, there, held⟩
    · cases found

theorem Ordered.findKind_has (ordered : c.Ordered) {α : Type} {name : QName} {kind : String}
    {part : Relation → Option α} {a : α} (found : c.findKind name kind part = .ok a) :
    ∃ schema id r, c.Has schema id r ∧ part r = some a := by
  obtain ⟨id, r, there, held⟩ := findKind_ok found
  obtain ⟨schema, has⟩ := ordered.find?_has there
  exact ⟨schema, id, r, has, held⟩

theorem table?_eq_some {d : TableDef} : r.table? = some d ↔ r = .table d := by
  cases r <;> simp [Relation.table?]

theorem sequence?_eq_some {d : SequenceDef} : r.sequence? = some d ↔ r = .sequence d := by
  cases r <;> simp [Relation.sequence?]

theorem Ordered.table_has (ordered : c.Ordered) {name : QName} {d : TableDef}
    (found : c.table name = .ok d) : ∃ schema id, c.Has schema id (.table d) := by
  obtain ⟨schema, id, r, has, held⟩ := ordered.findKind_has found
  exact ⟨schema, id, table?_eq_some.mp held ▸ has⟩

theorem Ordered.sequence_has (ordered : c.Ordered) {name : QName} {d : SequenceDef}
    (found : c.sequence name = .ok d) : ∃ schema id, c.Has schema id (.sequence d) := by
  obtain ⟨schema, id, r, has, held⟩ := ordered.findKind_has found
  exact ⟨schema, id, sequence?_eq_some.mp held ▸ has⟩

theorem Ordered.relation?_has (ordered : c.Ordered) (found : c.relation? id = some (s, r)) :
    c.schema? s.name = some s ∧ c.Has s.name id r := by
  obtain ⟨⟨name, other⟩, there, held⟩ := List.exists_of_findSome?_eq_some found
  obtain ⟨relation, got, same⟩ := Option.map_eq_some_iff.mp held
  cases same
  have named : s.name = name := ordered.names _ there
  have schema := ordered.schema?_iff.mpr there
  rw [named]
  exact ⟨schema, (ordered.get?_iff schema).mp got⟩

theorem Ordered.tableById_has (ordered : c.Ordered) {d : TableDef} (found : c.tableById id = .ok d) :
    ∃ schema, c.Has schema id (.table d) := by
  unfold tableById at found
  split at found
  · rename_i there
    cases found
    obtain ⟨⟨s, r⟩, held, part⟩ := Option.bind_eq_some_iff.mp there
    exact ⟨s.name, table?_eq_some.mp part ▸ (ordered.relation?_has held).2⟩
  · cases found

/-! ### Changing one entry -/

/-- The catalog after a change of one entry of its map. -/
structure Altered (c next : Catalog) (schema : String) (id : Nat) (slot : Option Relation) :
    Prop where
  ordered : next.Ordered
  nextId : next.nextId = c.nextId
  functions : next.functions = c.functions
  has : ∀ other number r, next.Has other number r ↔
    if other = schema ∧ number = id then slot = some r else c.Has other number r

/-- Replacing a schema that is there changes the relations in it. -/
theorem Ordered.putSchema {replaced : Schema} (ordered : c.Ordered) (named : replaced.name = name)
    (increasing : Sorted.Increasing compare replaced.relations) :
    (c.putSchema name replaced).Ordered ∧ ∀ other number r,
      (c.putSchema name replaced).Has other number r ↔
        if other = name then (number, r) ∈ replaced.relations else c.Has other number r := by
  have members : ∀ other s, (other, s) ∈ (c.putSchema name replaced).schemas ↔
      ((other, s) ∈ c.schemas ∧ other ≠ name) ∨ (other = name ∧ replaced = s) := by
    intro other s
    simpa [Catalog.putSchema, Sorted.insert] using
      Sorted.mem_alter ordered.schemas name (fun _ => some replaced) other s
  refine ⟨⟨ordered.schemas.alter _ _, ?_, ?_⟩, ?_⟩
  · rintro ⟨other, s⟩ member
    rcases (members other s).mp member with ⟨old, _⟩ | ⟨_, rfl⟩
    · exact ordered.relations _ old
    · exact increasing
  · rintro ⟨other, s⟩ member
    rcases (members other s).mp member with ⟨old, _⟩ | ⟨rfl, rfl⟩
    · exact ordered.names _ old
    · exact named
  · intro other number r
    constructor
    · rintro ⟨s, there, member⟩
      rcases (members other s).mp there with ⟨old, different⟩ | ⟨rfl, rfl⟩
      · rw [if_neg different]
        exact ⟨s, old, member⟩
      · rw [if_pos rfl]
        exact member
    · by_cases same : other = name
      · rw [if_pos same]
        exact fun member => ⟨replaced, (members other replaced).mpr (.inr ⟨same, rfl⟩), member⟩
      · rw [if_neg same]
        rintro ⟨s, old, member⟩
        exact ⟨s, (members other s).mpr (.inl ⟨old, same⟩), member⟩

theorem mem_slot {entries : List (Nat × Relation)} (increasing : Sorted.Increasing compare entries)
    (slot : Option Relation) (number : Nat) (r : Relation) :
    (number, r) ∈ Sorted.alter compare id (fun _ => slot) entries ↔
      if number = id then slot = some r else (number, r) ∈ entries := by
  rw [Sorted.mem_alter increasing]
  by_cases equal : number = id <;> simp [equal]

/-- A change of one relation of a schema. -/
theorem Ordered.alter (ordered : c.Ordered) (found : c.schema? name = some s) {slot : Option Relation}
    {altered : Schema} (named : altered.name = s.name)
    (increasing : Sorted.Increasing compare altered.relations)
    (members : ∀ number r, (number, r) ∈ altered.relations ↔
      if number = id then slot = some r else (number, r) ∈ s.relations) :
    c.Altered (c.putSchema name altered) name id slot := by
  have there := ordered.schema?_iff.mp found
  obtain ⟨still, has⟩ := ordered.putSchema (named.trans (ordered.names _ there)) increasing
  refine ⟨still, rfl, rfl, fun other number r => ?_⟩
  rw [has]
  by_cases same : other = name
  · subst same
    rw [if_pos rfl, members, ordered.has_iff found]
    by_cases equal : number = id <;> simp [equal]
  · simp [same]

theorem Ordered.alter_slot (ordered : c.Ordered) (found : c.schema? name = some s)
    {slot : Option Relation} {altered : Schema} (named : altered.name = s.name)
    (relations : altered.relations = Sorted.alter compare id (fun _ => slot) s.relations) :
    c.Altered (c.putSchema name altered) name id slot := by
  have increasing := ordered.relations _ (ordered.schema?_iff.mp found)
  refine ordered.alter found named ?_ fun number r => ?_
  · exact relations ▸ increasing.alter _ _
  · exact relations ▸ mem_slot increasing slot number r

theorem writable_ok (given : c.writable name = .ok s) : c.schema? name = some s := by
  unfold writable at given
  split at given
  · cases given
  · split at given
    · cases given
    · cases given
      assumption

theorem Ordered.register_altered (ordered : c.Ordered) (given : c.register schema id r = .ok next) :
    c.Altered next schema id (some r) := by
  obtain ⟨s, found, given⟩ := bind_ok given
  obtain ⟨extended, inserted, given⟩ := bind_ok given
  cases given
  unfold Schema.insert at inserted
  split at inserted
  · cases inserted
    exact ordered.alter_slot (writable_ok found) rfl rfl
  · cases inserted

theorem Ordered.replaceTable_altered (ordered : c.Ordered) {d : TableDef}
    (given : c.replaceTable d = .ok next) :
    c.Altered next d.schema d.id (some (.table d)) ∧ ∃ old, c.Has d.schema d.id (.table old) := by
  obtain ⟨s, found, given⟩ := bind_ok given
  have schema := writable_ok found
  split at given
  · rename_i old there
    cases given
    exact ⟨ordered.alter_slot schema rfl rfl, old, (ordered.get?_iff schema).mp there⟩
  · cases given

theorem Ordered.replaceSequence_altered (ordered : c.Ordered) {d : SequenceDef}
    (given : c.replaceSequence d = .ok next) :
    c.Altered next d.schema d.id (some (.sequence d)) ∧
      ∃ old, c.Has d.schema d.id (.sequence old) := by
  obtain ⟨s, found, given⟩ := bind_ok given
  have schema := writable_ok found
  split at given
  · rename_i old there
    cases given
    exact ⟨ordered.alter_slot schema rfl rfl, old, (ordered.get?_iff schema).mp there⟩
  · cases given

theorem Ordered.writableRelation_has (ordered : c.Ordered)
    (given : c.writableRelation id = .ok (s, r)) :
    c.schema? s.name = some s ∧ c.Has s.name id r := by
  unfold writableRelation at given
  split at given
  · cases given
  · rename_i found
    obtain ⟨_, _, given⟩ := bind_ok given
    cases given
    exact ordered.relation?_has found

theorem Ordered.drop_altered (ordered : c.Ordered) (given : c.drop id = .ok next) :
    ∃ schema r, c.Has schema id r ∧ c.Altered next schema id none := by
  obtain ⟨⟨s, r⟩, found, given⟩ := bind_ok given
  cases given
  obtain ⟨there, has⟩ := ordered.writableRelation_has found
  have erased := erase_eq ((ordered.get?_iff there).mpr has)
  exact ⟨s.name, r, has, ordered.alter_slot there (by rw [erased]) (by rw [erased]; rfl)⟩

theorem Ordered.rename_altered (ordered : c.Ordered) (given : c.rename id name = .ok next) :
    ∃ schema r, c.Has schema id r ∧ c.Altered next schema id (some (r.rename name)) := by
  obtain ⟨⟨s, r⟩, found, given⟩ := bind_ok given
  obtain ⟨renamed, inserted, given⟩ := bind_ok given
  cases given
  obtain ⟨there, has⟩ := ordered.writableRelation_has found
  refine ⟨s.name, r, has, ?_⟩
  unfold Schema.insert at inserted
  split at inserted
  · cases inserted
    have increasing := ordered.relations _ (ordered.schema?_iff.mp there)
    rw [erase_eq ((ordered.get?_iff there).mpr has)]
    refine ordered.alter there rfl ((increasing.alter _ _).alter _ _) fun number other => ?_
    refine (mem_slot (increasing.alter _ _) _ number other).trans ?_
    rw [mem_slot increasing]
    by_cases equal : number = id <;> simp [equal]
  · cases inserted

end Catalog

end SqlEngine
