import SqlEngine.Proofs.Catalog.Registries
import SqlEngine.Proofs.Catalog.Soundness

/-!
The registries of a whole catalog.

Besides the maps of every schema these are the numbers, which no two relations share and which come
from one counter, and the indexes: a table lists exactly the indexes that are registered as its
own. A statement changes what is listed and what is registered one after the other, so in between
the catalog agrees but for the table that the statement works on.
-/

namespace SqlEngine

open Run (bind_ok)

/-- Tables and sequences know their number and their schema, and types have the number as object
number. No table lists two indexes under one number. -/
def Relation.Placed (schema : String) (id : Nat) : Relation → Prop
  | .table d => d.id = id ∧ d.schema = schema ∧ (d.indexes.map (·.id)).Nodup
  | .sequence d => d.id = id ∧ d.schema = schema
  | .type t => t.oid? = some id
  | .index .. => True

def Relation.isTabular : Relation → Bool
  | .table _ | .index .. => true
  | _ => false

/-- Does the definition list an index of the number and the name? -/
def TableDef.Lists (d : TableDef) (id : Nat) (name : String) : Prop :=
  ∃ i ∈ d.indexes, i.id = id ∧ i.name = name

namespace Catalog

/-- Relations are registered without contradictions. -/
structure Registered (c : Catalog) : Prop where
  ordered : c.Ordered
  maps : ∀ e ∈ c.schemas, e.2.Agrees
  bound : ∀ schema id r, c.Has schema id r → id < c.nextId
  apart : ∀ schema other id r s, c.Has schema id r → c.Has other id s → schema = other
  placed : ∀ schema id r, c.Has schema id r → r.Placed schema id

/-- The registries agree: the maps of every schema describe the same relations, numbers are unique
and below the counter, and the indexes that a table lists are those that are registered as its
own, under the same numbers and names and in the same schema. -/
structure Linked (c : Catalog) : Prop where
  registered : c.Registered
  indexes : ∀ schema id table name, c.Has schema id (.index table name) ↔
    ∃ d, c.Has schema table (.table d) ∧ d.Lists id name

variable {c next : Catalog} {schema : String} {id : Nat} {r : Relation} {d e : TableDef}
  {slot : Option Relation} {p : Nat → String → Prop}

theorem Registered.maps_of (registered : c.Registered) {s : Schema} (found : c.schema? schema = some s) :
    s.Agrees :=
  registered.maps _ (registered.ordered.schema?_iff.mp found)

theorem Registered.alone (registered : c.Registered) (has : c.Has schema id r) :
    ∀ other s, c.Has other id s → other = schema :=
  fun _ _ also => registered.apart _ _ _ _ _ also has

theorem Registered.relation_unique (registered : c.Registered) {other : String} {s : Relation}
    (first : c.Has schema id r) (second : c.Has other id s) : r = s := by
  cases registered.apart _ _ _ _ _ first second
  exact registered.ordered.relation_unique first second

/-! ### Changes of one entry -/

theorem Ordered.mem_putSchema (ordered : c.Ordered) {replaced : Schema} {e : String × Schema}
    (member : e ∈ (c.putSchema schema replaced).schemas) : e ∈ c.schemas ∨ e.2 = replaced := by
  rcases (Sorted.mem_alter ordered.schemas schema (fun _ => some replaced) e.1 e.2).mp member with
    ⟨old, _⟩ | ⟨_, same⟩
  · exact .inl old
  · exact .inr (Option.some.inj same).symm

theorem Registered.alter (registered : c.Registered) (altered : c.Altered next schema id slot)
    {replaced : Schema} (put : next = c.putSchema schema replaced) (agrees : replaced.Agrees)
    (given : id < c.nextId) (alone : ∀ other s, c.Has other id s → other = schema)
    (placed : ∀ r, slot = some r → r.Placed schema id) : next.Registered where
  ordered := altered.ordered
  maps e member := by
    rw [put] at member
    rcases registered.ordered.mem_putSchema member with old | new
    · exact registered.maps e old
    · exact new ▸ agrees
  bound other number r has := by
    rw [altered.has] at has
    rw [altered.nextId]
    split at has
    · rename_i same
      exact same.2 ▸ given
    · exact registered.bound _ _ _ has
  apart first second number r s one two := by
    rw [altered.has] at one two
    split at one <;> split at two
    · rename_i left right
      exact left.1.trans right.1.symm
    · rename_i left _
      obtain ⟨rfl, rfl⟩ := left
      exact (alone second s two).symm
    · rename_i _ right
      obtain ⟨rfl, rfl⟩ := right
      exact alone first r one
    · exact registered.apart _ _ _ _ _ one two
  placed other number r has := by
    rw [altered.has] at has
    split at has
    · rename_i same
      obtain ⟨rfl, rfl⟩ := same
      exact placed r has
    · exact registered.placed _ _ _ has

/-- A number that was taken and that no relation has. -/
structure Unused (c : Catalog) (id : Nat) : Prop where
  given : id < c.nextId
  unused : ∀ schema r, ¬c.Has schema id r

theorem Registered.register (registered : c.Registered) (unused : c.Unused id)
    (placed : r.Placed schema id) (made : c.register schema id r = .ok next) :
    next.Registered ∧ c.Altered next schema id (some r) := by
  have altered := registered.ordered.register_altered made
  refine ⟨?_, altered⟩
  obtain ⟨s, found, made⟩ := bind_ok made
  obtain ⟨extended, inserted, made⟩ := bind_ok made
  cases made
  have there := writable_ok found
  unfold Schema.insert at inserted
  split at inserted
  · rename_i free
    cases inserted
    refine registered.alter altered rfl ?_ unused.given
      (fun other s has => absurd has (unused.unused other s)) ?_
    · refine (registered.maps_of there).add free ?_ ?_
      · refine Option.eq_none_iff_forall_ne_some.mpr fun q held => ?_
        exact unused.unused _ _ ((registered.ordered.get?_iff there).mp held)
      · rintro t rfl
        exact placed
    · rintro _ ⟨⟩
      exact placed
  · cases inserted

theorem Registered.drop (registered : c.Registered) (made : c.drop id = .ok next) :
    next.Registered ∧ ∃ schema r, c.Has schema id r ∧ c.Altered next schema id none := by
  obtain ⟨schema, r, has, altered⟩ := registered.ordered.drop_altered made
  refine ⟨?_, schema, r, has, altered⟩
  obtain ⟨⟨s, q⟩, found, made⟩ := bind_ok made
  cases made
  obtain ⟨there, also⟩ := registered.ordered.writableRelation_has found
  obtain rfl := registered.apart _ _ _ _ _ also has
  have held := (registered.ordered.get?_iff there).mpr also
  exact registered.alter altered rfl ((registered.maps_of there).erase held)
    (registered.bound _ _ _ has) (registered.alone has) (by simp)

theorem Registered.replace (registered : c.Registered) {old : Relation} {s : Schema}
    (there : c.schema? schema = some s) (held : s.get? id = some old) (name : r.name = old.name)
    (before : old.type? = none) (after : r.type? = none) (placed : r.Placed schema id) :
    (c.putSchema schema (s.replace id r)).Registered ∧
      c.Altered (c.putSchema schema (s.replace id r)) schema id (some r) := by
  have has := (registered.ordered.get?_iff there).mp held
  have altered : c.Altered (c.putSchema schema (s.replace id r)) schema id (some r) :=
    registered.ordered.alter_slot there rfl rfl
  refine ⟨registered.alter altered rfl ?_ (registered.bound _ _ _ has) (registered.alone has) ?_,
    altered⟩
  · exact (registered.maps_of there).replace held name before after
  · rintro _ ⟨⟩
    exact placed

theorem Registered.replaceTable (registered : c.Registered) (held : c.Has d.schema d.id (.table e))
    (name : d.name = e.name) (distinct : (d.indexes.map (·.id)).Nodup)
    (made : c.replaceTable d = .ok next) :
    next.Registered ∧ c.Altered next d.schema d.id (some (.table d)) := by
  obtain ⟨s, found, made⟩ := bind_ok made
  have there := writable_ok found
  have known := (registered.ordered.get?_iff there).mpr held
  split at made
  · rename_i old got
    cases made
    exact registered.replace there known name rfl rfl ⟨rfl, rfl, distinct⟩
  · cases made

theorem Registered.replaceSequence (registered : c.Registered) {d old : SequenceDef}
    (held : c.Has d.schema d.id (.sequence old)) (name : d.name = old.name)
    (made : c.replaceSequence d = .ok next) :
    next.Registered ∧ c.Altered next d.schema d.id (some (.sequence d)) := by
  obtain ⟨s, found, made⟩ := bind_ok made
  have there := writable_ok found
  have known := (registered.ordered.get?_iff there).mpr held
  split at made
  · cases made
    exact registered.replace there known name rfl rfl ⟨rfl, rfl⟩
  · cases made

theorem Registered.rename (registered : c.Registered) (held : c.Has schema d.id (.table d))
    {name : String} (made : c.rename d.id name = .ok next) :
    next.Registered ∧ c.Altered next schema d.id (some (.table { d with name })) := by
  obtain ⟨other, r, has, altered⟩ := registered.ordered.rename_altered made
  obtain rfl := registered.relation_unique has held
  obtain rfl := registered.apart _ _ _ _ _ has held
  refine ⟨?_, altered⟩
  obtain ⟨⟨s, q⟩, found, made⟩ := bind_ok made
  obtain ⟨renamed, inserted, made⟩ := bind_ok made
  cases made
  obtain ⟨there, also⟩ := registered.ordered.writableRelation_has found
  obtain rfl := registered.relation_unique also has
  obtain rfl := registered.apart _ _ _ _ _ also has
  have known := (registered.ordered.get?_iff there).mpr has
  unfold Schema.insert at inserted
  split at inserted
  · rename_i free
    cases inserted
    have maps := registered.maps_of there
    have gone : (s.erase d.id).get? d.id = none := by
      rw [Schema.erase_eq known]
      exact (Sorted.lookup_alter maps.relations d.id d.id fun _ => none).trans (if_pos rfl)
    refine registered.alter altered rfl ((maps.erase known).add free gone (by simp [Relation.rename]))
      (registered.bound _ _ _ has) (registered.alone has) ?_
    rintro _ ⟨⟩
    exact (registered.placed _ _ _ has : Relation.Placed s.name d.id (.table d))
  · cases inserted

/-! ### Changes that leave the relations alone -/

/-- A catalog with the same relations; schemas without relations and numbers may have come. -/
structure Kept (c next : Catalog) : Prop where
  ordered : next.Ordered
  later : c.nextId ≤ next.nextId
  has : ∀ schema id r, next.Has schema id r ↔ c.Has schema id r
  maps : ∀ e ∈ next.schemas, e ∈ c.schemas ∨ e.2.Agrees

namespace Kept

theorem of_schemas (ordered : c.Ordered) (later : c.nextId ≤ next.nextId)
    (same : next.schemas = c.schemas) : c.Kept next where
  ordered := ⟨same ▸ ordered.schemas, same ▸ ordered.relations, same ▸ ordered.names⟩
  later := later
  has schema id r := by rw [Has, Has, same]
  maps e member := .inl (same ▸ member)

theorem trans {last : Catalog} (kept : c.Kept next) (more : next.Kept last) : c.Kept last where
  ordered := more.ordered
  later := Nat.le_trans kept.later more.later
  has schema id r := (more.has schema id r).trans (kept.has schema id r)
  maps e member := (more.maps e member).elim (kept.maps e) .inr

theorem createSchema (ordered : c.Ordered) {name : String} {ifNotExists created : Bool}
    (made : c.createSchema name ifNotExists = .ok (created, next)) : c.Kept next := by
  have same := ordered.same_createSchema made
  refine ⟨same.ordered, same.later, same.has, fun e member => ?_⟩
  unfold Catalog.createSchema at made
  split at made
  · cases made
    exact .inl member
  · cases made
  · cases made
    rcases ordered.mem_putSchema member with old | new
    · exact .inl old
    · rw [new]
      exact .inr (Schema.agrees_empty name)

variable (kept : c.Kept next)
include kept

theorem registered (registered : c.Registered) : next.Registered where
  ordered := kept.ordered
  maps e member := (kept.maps e member).elim (registered.maps e) id
  bound _ _ _ has :=
    Nat.lt_of_lt_of_le (registered.bound _ _ _ ((kept.has _ _ _).mp has)) kept.later
  apart _ _ _ _ _ one two :=
    registered.apart _ _ _ _ _ ((kept.has _ _ _).mp one) ((kept.has _ _ _).mp two)
  placed _ _ _ has := registered.placed _ _ _ ((kept.has _ _ _).mp has)

theorem linked (linked : c.Linked) : next.Linked where
  registered := kept.registered linked.registered
  indexes schema id table name := by
    simp only [kept.has]
    exact linked.indexes schema id table name

theorem unused (unused : c.Unused id) : next.Unused id :=
  ⟨Nat.lt_of_lt_of_le unused.given kept.later, fun schema r has =>
    unused.unused schema r ((kept.has _ _ _).mp has)⟩

end Kept

theorem Linked.of_schemas (linked : c.Linked) (same : next.schemas = c.schemas)
    (later : c.nextId ≤ next.nextId) : next.Linked :=
  (Kept.of_schemas linked.registered.ordered later same).linked linked

theorem Registered.unused_raise (registered : c.Registered) {nextId : Nat} (above : c.nextId ≤ id)
    (below : id < nextId) : Unused { c with nextId } id where
  given := below
  unused _ _ has := absurd (registered.bound _ _ _ has) (Nat.not_lt_of_le above)

theorem Registered.unused_allocate (registered : c.Registered) :
    c.allocate.2.Unused c.allocate.1 :=
  registered.unused_raise (Nat.le_refl _) (Nat.lt_succ_self _)

/-! ### One table at a time -/

/-- The relation is a table with the number of the given one, an index of it, or neither a table
nor an index. -/
def Concerns (table id : Nat) : Relation → Prop
  | .table _ => id = table
  | .index owner _ => owner = table
  | _ => True

/-- The registries agree but for one table, for which the indexes that are registered are those of
a condition. -/
structure Focused (c : Catalog) (d : TableDef) (p : Nat → String → Prop) : Prop where
  registered : c.Registered
  held : c.Has d.schema d.id (.table d)
  own : ∀ schema id name, c.Has schema id (.index d.id name) ↔ schema = d.schema ∧ p id name
  others : ∀ schema id table name, table ≠ d.id → (c.Has schema id (.index table name) ↔
    ∃ e, c.Has schema table (.table e) ∧ e.Lists id name)

theorem Linked.focus (linked : c.Linked) (held : c.Has schema id (.table d)) :
    id = d.id ∧ c.Focused d d.Lists := by
  obtain ⟨rfl, rfl, _⟩ := linked.registered.placed _ _ _ held
  refine ⟨rfl, linked.registered, held, fun schema id name => ?_,
    fun schema id table name _ => linked.indexes schema id table name⟩
  rw [linked.indexes]
  constructor
  · rintro ⟨e, there, lists⟩
    obtain rfl := linked.registered.apart _ _ _ _ _ there held
    cases linked.registered.relation_unique there held
    exact ⟨rfl, lists⟩
  · rintro ⟨rfl, lists⟩
    exact ⟨d, held, lists⟩

theorem Focused.settle (focused : c.Focused d p) (same : ∀ id name, p id name ↔ d.Lists id name) :
    c.Linked := by
  refine ⟨focused.registered, fun schema id table name => ?_⟩
  by_cases here : table = d.id
  · subst here
    rw [focused.own, same]
    constructor
    · rintro ⟨rfl, lists⟩
      exact ⟨d, focused.held, lists⟩
    · rintro ⟨e, there, lists⟩
      obtain rfl := focused.registered.apart _ _ _ _ _ there focused.held
      cases focused.registered.relation_unique there focused.held
      exact ⟨rfl, lists⟩
  · exact focused.others schema id table name here

theorem Focused.keep (focused : c.Focused d p) (kept : c.Kept next) : next.Focused d p where
  registered := kept.registered focused.registered
  held := (kept.has _ _ _).mpr focused.held
  own schema id name := (kept.has _ _ _).trans (focused.own schema id name)
  others schema id table name different := by
    simp only [kept.has]
    exact focused.others schema id table name different

theorem Altered.has_never (altered : c.Altered next schema id slot)
    (alone : ∀ other s, c.Has other id s → other = schema) (q : Relation)
    (before : ∀ other, ¬c.Has other id q) (after : slot ≠ some q) (other : String) (number : Nat) :
    next.Has other number q ↔ c.Has other number q := by
  by_cases equal : number = id
  · subst equal
    rw [altered.has_same alone]
    exact iff_of_false (fun both => after both.2) (before other)
  · exact altered.has_other equal

/-- A change of a relation that concerns the table and is not the table itself. -/
theorem Focused.alter (focused : c.Focused d p) (altered : c.Altered next d.schema id slot)
    (registered : next.Registered) (different : id ≠ d.id)
    (alone : ∀ other s, c.Has other id s → other = d.schema)
    (before : ∀ other s, c.Has other id s → Concerns d.id id s)
    (after : ∀ s, slot = some s → Concerns d.id id s) :
    next.Focused d fun number name =>
      if number = id then slot = some (.index d.id name) else p number name := by
  refine ⟨registered, (altered.has_other (Ne.symm different)).mpr focused.held, ?_, ?_⟩
  · intro other number name
    by_cases equal : number = id
    · subst equal
      rw [altered.has_same alone, if_pos rfl]
    · rw [altered.has_other equal, focused.own, if_neg equal]
  · intro other number table name unequal
    -- the tables of other indexes stay, for the changed entry concerns another table
    have tables : ∀ e, next.Has other table (.table e) ↔ c.Has other table (.table e) := by
      intro e
      by_cases equal : table = id
      · subst equal
        rw [altered.has_same alone]
        exact iff_of_false (fun both => unequal (after _ both.2)) fun has => unequal (before _ _ has)
      · exact altered.has_other equal
    simp only [tables, ← focused.others other number table name unequal]
    exact altered.has_never alone (.index table name) (fun _ has => unequal (before _ _ has))
      (fun made => unequal (after _ made)) other number

theorem Focused.mono {q : Nat → String → Prop} (focused : c.Focused d p)
    (same : ∀ id name, q id name ↔ p id name) : c.Focused d q :=
  { focused with
    own := fun schema id name => (focused.own schema id name).trans
      (and_congr Iff.rfl (same id name).symm) }

theorem Focused.unlisted (focused : c.Focused d p) (unused : c.Unused id) (name : String) :
    ¬p id name :=
  fun listed => unused.unused _ _ ((focused.own _ _ _).mpr ⟨rfl, listed⟩)

theorem Focused.register (focused : c.Focused d p) (unused : c.Unused id)
    (placed : r.Placed d.schema id) (concerns : Concerns d.id id r)
    (made : c.register d.schema id r = .ok next) :
    (next.Focused d fun number name => (number = id ∧ r = .index d.id name) ∨ p number name) ∧
      ∀ number, number ≠ id → c.Unused number → next.Unused number := by
  obtain ⟨registered, altered⟩ := focused.registered.register unused placed made
  have alone : ∀ other s, c.Has other id s → other = d.schema :=
    fun other s has => absurd has (unused.unused other s)
  refine ⟨(focused.alter altered registered ?_ alone ?_ ?_).mono fun number name => ?_, ?_⟩
  · rintro rfl
    exact unused.unused _ _ focused.held
  · exact fun other s has => absurd has (unused.unused other s)
  · rintro _ ⟨⟩
    exact concerns
  · by_cases equal : number = id
    · subst equal
      simp [focused.unlisted unused name]
    · simp [equal]
  · intro number different free
    exact ⟨altered.nextId ▸ free.given, fun other s has =>
      free.unused other s ((altered.has_other different).mp has)⟩

theorem Focused.registerIndex (focused : c.Focused d p) (unused : c.Unused id) {name : String}
    (made : c.register d.schema id (.index d.id name) = .ok next) :
    (next.Focused d fun number other => (number = id ∧ name = other) ∨ p number other) ∧
      ∀ number, number ≠ id → c.Unused number → next.Unused number := by
  obtain ⟨later, kept⟩ := focused.register (r := .index d.id name) unused trivial rfl made
  exact ⟨later.mono fun number other => by simp, kept⟩

theorem Focused.registerNext (focused : c.Focused d p) {make : Nat → SequenceDef}
    (placed : ∀ id, (make id).id = id ∧ (make id).schema = d.schema)
    (made : c.registerNext d.schema (fun id => .sequence (make id)) = .ok next) :
    next.Focused d p := by
  obtain ⟨_, _, made⟩ := bind_ok made
  have kept : c.Kept c.allocate.2 := .of_schemas focused.registered.ordered (Nat.le_succ _) rfl
  have unused := focused.registered.unused_allocate
  obtain ⟨later, _⟩ := (focused.keep kept).register (r := .sequence (make c.allocate.1)) unused
    (placed _) trivial made
  exact later.mono fun number name => by simp

/-- Whatever is registered under the number is an index of the table, or a relation in the schema of
the table that is neither a table nor an index. -/
structure Belongs (c : Catalog) (d : TableDef) (id : Nat) : Prop where
  different : id ≠ d.id
  within : ∀ schema r, c.Has schema id r → schema = d.schema ∧ Concerns d.id id r

theorem Focused.belongs (focused : c.Focused d p) (has : c.Has d.schema id r)
    (concerns : Concerns d.id id r) (different : r ≠ .table d) : c.Belongs d id where
  different := by
    rintro rfl
    exact different (focused.registered.relation_unique has focused.held)
  within schema q there := by
    obtain rfl := focused.registered.relation_unique there has
    exact ⟨focused.registered.apart _ _ _ _ _ there has, concerns⟩

theorem Focused.belongs_index (focused : c.Focused d p) {name : String} (listed : p id name) :
    c.Belongs d id :=
  focused.belongs (r := .index d.id name) ((focused.own _ _ _).mpr ⟨rfl, listed⟩) rfl nofun

theorem Focused.owned_has (focused : c.Focused d p) {q : SequenceDef}
    (owned : q ∈ c.ownedSequences d) : c.Has d.schema q.id (.sequence q) := by
  unfold ownedSequences at owned
  split at owned
  · rename_i s found
    obtain ⟨⟨number, r⟩, member, part⟩ := List.mem_filterMap.mp (List.mem_filter.mp owned).1
    obtain rfl := sequence?_eq_some.mp part
    have has := (focused.registered.ordered.has_iff found).mpr member
    obtain ⟨rfl, _⟩ := focused.registered.placed _ _ _ has
    exact has
  · exact absurd owned List.not_mem_nil

theorem Focused.belongs_owned (focused : c.Focused d p) {q : SequenceDef}
    (owned : q ∈ c.ownedSequences d) : c.Belongs d q.id :=
  focused.belongs (focused.owned_has owned) trivial nofun

/-- The number of a sequence is not that of an index. -/
theorem Focused.owned_unlisted (focused : c.Focused d p) {q : SequenceDef}
    (owned : q ∈ c.ownedSequences d) (name : String) : ¬p q.id name := by
  intro listed
  have index := (focused.own d.schema q.id name).mpr ⟨rfl, listed⟩
  cases focused.registered.relation_unique (focused.owned_has owned) index

theorem Focused.drop (focused : c.Focused d p) (belongs : c.Belongs d id)
    (made : c.drop id = .ok next) :
    next.Focused d fun number name => number ≠ id ∧ p number name := by
  obtain ⟨registered, schema, r, has, altered⟩ := focused.registered.drop made
  obtain rfl := (belongs.within _ _ has).1
  refine (focused.alter altered registered belongs.different
    (fun other s there => (belongs.within other s there).1)
    (fun other s there => (belongs.within other s there).2) (by simp)).mono ?_
  intro number name
  by_cases equal : number = id <;> simp [equal]

/-- The table gets another definition, while its indexes stay registered. -/
theorem Focused.redefine (focused : c.Focused d p) (registered : next.Registered)
    (altered : c.Altered next d.schema d.id (some (.table e))) (id : e.id = d.id)
    (schema : e.schema = d.schema) : next.Focused e p := by
  have alone := focused.registered.alone focused.held
  have indexes : ∀ other number table name,
      next.Has other number (.index table name) ↔ c.Has other number (.index table name) := by
    intro other number table name
    refine altered.has_never alone (.index table name) (fun other has => ?_) nofun other number
    cases focused.registered.relation_unique has focused.held
  refine ⟨registered, ?_, fun other number name => ?_, ?_⟩
  · rw [id, schema]
    exact (altered.has_same alone).mpr ⟨rfl, rfl⟩
  · rw [indexes, id, focused.own, schema]
  · intro other number table name unequal
    rw [id] at unequal
    rw [indexes, focused.others _ _ _ _ unequal]
    simp only [altered.has_other unequal]

theorem Focused.replaceTable (focused : c.Focused d p) (id : e.id = d.id) (schema : e.schema = d.schema)
    (name : e.name = d.name) (distinct : (e.indexes.map (·.id)).Nodup)
    (made : c.replaceTable e = .ok next) : next.Focused e p := by
  have held : c.Has e.schema e.id (.table d) := by
    rw [id, schema]
    exact focused.held
  obtain ⟨registered, altered⟩ := focused.registered.replaceTable held name distinct made
  rw [id, schema] at altered
  exact focused.redefine registered altered id schema

theorem Focused.rename (focused : c.Focused d p) {name : String}
    (made : c.rename d.id name = .ok next) : next.Focused { d with name } p := by
  obtain ⟨registered, altered⟩ := focused.registered.rename focused.held made
  exact focused.redefine registered altered rfl rfl

theorem Focused.dropTable (focused : c.Focused d p) (bare : ∀ id name, ¬p id name)
    (made : c.drop d.id = .ok next) : next.Linked := by
  obtain ⟨registered, schema, r, has, altered⟩ := focused.registered.drop made
  have alone := focused.registered.alone has
  have indexes : ∀ other number table name,
      next.Has other number (.index table name) ↔ c.Has other number (.index table name) := by
    intro other number table name
    refine altered.has_never alone (.index table name) (fun other also => ?_) nofun other number
    cases focused.registered.relation_unique also focused.held
  refine ⟨registered, fun other number table name => ?_⟩
  rw [indexes]
  by_cases same : table = d.id
  · subst same
    refine iff_of_false (fun there => bare _ _ ((focused.own _ _ _).mp there).2) ?_
    rintro ⟨e, there, _⟩
    cases ((altered.has_same alone).mp there).2
  · rw [focused.others _ _ _ _ same]
    simp only [altered.has_other same]

theorem Linked.registerTable (linked : c.Linked) (unused : c.Unused d.id)
    (distinct : (d.indexes.map (·.id)).Nodup)
    (made : c.register d.schema d.id (.table d) = .ok next) :
    (next.Focused d fun _ _ => False) ∧
      ∀ number, number ≠ d.id → c.Unused number → next.Unused number := by
  have placed : Relation.Placed d.schema d.id (.table d) := ⟨rfl, rfl, distinct⟩
  obtain ⟨registered, altered⟩ := linked.registered.register unused placed made
  have alone : ∀ other s, c.Has other d.id s → other = d.schema :=
    fun other s has => absurd has (unused.unused other s)
  have indexes : ∀ other number table name,
      next.Has other number (.index table name) ↔ c.Has other number (.index table name) :=
    fun other number table name =>
      altered.has_never alone (.index table name) (fun _ => unused.unused _ _) nofun other number
  refine ⟨⟨registered, (altered.has_same alone).mpr ⟨rfl, rfl⟩, ?_, ?_⟩, ?_⟩
  · intro other number name
    rw [indexes, linked.indexes]
    exact iff_of_false (fun ⟨e, there, _⟩ => unused.unused _ _ there) And.right
  · intro other number table name unequal
    rw [indexes, linked.indexes]
    simp only [altered.has_other unequal]
  · exact fun number different free => ⟨altered.nextId ▸ free.given, fun other s has =>
      free.unused other s ((altered.has_other different).mp has)⟩

/-- A change of a relation that neither was nor is a table or an index. -/
theorem Linked.alter (linked : c.Linked) (altered : c.Altered next schema id slot)
    (registered : next.Registered) (alone : ∀ other s, c.Has other id s → other = schema)
    (before : ∀ other s, c.Has other id s → s.isTabular = false)
    (after : ∀ s, slot = some s → s.isTabular = false) :
    next.Linked := by
  refine ⟨registered, fun other number table name => ?_⟩
  have tables : ∀ e, next.Has other table (.table e) ↔ c.Has other table (.table e) := fun e =>
    altered.has_never alone (.table e) (fun _ has => by cases before _ _ has)
      (fun made => by cases after _ made) other table
  simp only [tables, ← linked.indexes]
  exact altered.has_never alone (.index table name) (fun _ has => by cases before _ _ has)
    (fun made => by cases after _ made) other number

theorem Linked.register (linked : c.Linked) (unused : c.Unused id) (placed : r.Placed schema id)
    (neither : r.isTabular = false)
    (made : c.register schema id r = .ok next) : next.Linked := by
  obtain ⟨registered, altered⟩ := linked.registered.register unused placed made
  refine linked.alter altered registered ?_ ?_ ?_
  · exact fun other s has => absurd has (unused.unused other s)
  · exact fun other s has => absurd has (unused.unused other s)
  · rintro _ ⟨⟩
    exact neither

/-! ### Relations that are left -/

/-- What is registered in the second catalog was registered in the first. -/
def Fewer (c next : Catalog) : Prop := ∀ schema id r, next.Has schema id r → c.Has schema id r

theorem Fewer.same (c : Catalog) : c.Fewer c := fun _ _ _ => id

theorem Fewer.trans {last : Catalog} (fewer : c.Fewer next) (more : next.Fewer last) :
    c.Fewer last :=
  fun schema id r has => fewer schema id r (more schema id r has)

theorem Ordered.drop_fewer (ordered : c.Ordered) (made : c.drop id = .ok next) :
    next.Ordered ∧ c.Fewer next := by
  obtain ⟨schema, r, _, altered⟩ := ordered.drop_altered made
  refine ⟨altered.ordered, fun other number q has => ?_⟩
  rw [altered.has] at has
  split at has
  · cases has
  · exact has

theorem Belongs.fewer (belongs : c.Belongs d id) (fewer : c.Fewer next) : next.Belongs d id :=
  ⟨belongs.different, fun schema r has => belongs.within schema r (fewer schema id r has)⟩

/-- Whatever is registered under the number is this relation. -/
def Recalls (c : Catalog) (id : Nat) (r : Relation) : Prop := ∀ schema q, c.Has schema id q → q = r

theorem Recalls.fewer (recalls : c.Recalls id r) (fewer : c.Fewer next) : next.Recalls id r :=
  fun schema q has => recalls schema q (fewer schema id q has)

/-! ### A new catalog -/

theorem linked_create (o : DbOptions) : (create o).Linked := by
  obtain ⟨ordered, system⟩ := create_ordered o
  have maps : ∀ e ∈ (create o).schemas, e.2.Agrees := by
    rintro ⟨name, s⟩ member
    have alone : Sorted.Increasing compare [(systemSchema, builtinSchema)] :=
      List.pairwise_singleton _ _
    rcases (Sorted.mem_alter alone o.defaultSchema (fun _ => some (.empty o.defaultSchema)) name s).mp
      member with ⟨only, _⟩ | ⟨_, new⟩
    · cases List.mem_singleton.mp only
      exact agrees_builtin
    · exact Option.some.inj new ▸ Schema.agrees_empty o.defaultSchema
  refine ⟨⟨ordered, maps, fun schema id r has => (system schema id r has).2.1, ?_, ?_⟩, ?_⟩
  · exact fun _ _ _ _ _ one two => (system _ _ _ one).1.trans (system _ _ _ two).1.symm
  · intro schema id r has
    obtain ⟨_, _, t, rfl⟩ := system schema id r has
    obtain ⟨s, there, member⟩ := has
    exact (maps _ there).oids id t member
  · intro schema id table name
    refine iff_of_false (fun has => ?_) fun ⟨d, has, _⟩ => ?_
    · obtain ⟨_, _, t, impossible⟩ := system _ _ _ has
      cases impossible
    · obtain ⟨_, _, t, impossible⟩ := system _ _ _ has
      cases impossible

end Catalog

end SqlEngine
