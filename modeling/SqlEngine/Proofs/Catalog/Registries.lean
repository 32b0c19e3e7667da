import SqlEngine.Proofs.Catalog.Relations

/-!
The maps of a schema.

A schema finds its relations by number, by name, by name in lower case and, if they are types, by
object number. Every change edits the maps apart from each other; they go on describing the same
relations.
-/

namespace SqlEngine

theorem Relation.type?_eq_some {r : Relation} {t : SqlType} : r.type? = some t ↔ r = .type t := by
  cases r <;> simp [type?]

namespace Schema

/-- The map from names of some kind to numbers describes the relations. -/
def Indexes (name : Relation → String) (numbers : List (String × Nat))
    (relations : List (Nat × Relation)) : Prop :=
  ∀ key id, (key, id) ∈ numbers ↔ ∃ r, (id, r) ∈ relations ∧ name r = key

/-- The maps of the schema are in order and describe the same relations. -/
structure Agrees (s : Schema) : Prop where
  relations : Sorted.Increasing compare s.relations
  names : Sorted.Increasing compare s.byName
  lowers : Sorted.Increasing compare s.byLower
  typeOids : Sorted.Increasing compare s.byTypeOid
  byName : Indexes Relation.name s.byName s.relations
  byLower : Indexes (Text.lower ·.name) s.byLower s.relations
  byTypeOid : ∀ oid id, (oid, id) ∈ s.byTypeOid ↔
    ∃ t, (id, .type t) ∈ s.relations ∧ t.oid? = some oid
  /-- A type is registered under its object number. -/
  oids : ∀ id t, (id, .type t) ∈ s.relations → t.oid? = some id

variable {s : Schema} {id : Nat} {r : Relation}

/-! ### Looking up -/

theorem Agrees.get?_iff (agrees : s.Agrees) : s.get? id = some r ↔ (id, r) ∈ s.relations :=
  Sorted.mem_iff_lookup agrees.relations id r

theorem Agrees.named?_iff (agrees : s.Agrees) {name : String} :
    s.named? name = some (id, r) ↔ s.get? id = some r ∧ r.name = name := by
  rw [agrees.get?_iff]
  constructor
  · intro found
    obtain ⟨number, known, found⟩ := Option.bind_eq_some_iff.mp found
    obtain ⟨other, got, same⟩ := Option.map_eq_some_iff.mp found
    cases same
    obtain ⟨held, member, named⟩ :=
      (agrees.byName _ _).mp ((Sorted.mem_iff_lookup agrees.names _ _).mp known)
    rw [agrees.get?_iff.mpr member] at got
    cases got
    exact ⟨member, named⟩
  · rintro ⟨member, named⟩
    have known := (Sorted.mem_iff_lookup agrees.names name id).mpr
      ((agrees.byName name id).mpr ⟨r, member, named⟩)
    rw [named?, known, Option.bind_some, agrees.get?_iff.mpr member]
    rfl

theorem Agrees.isFree_iff (agrees : s.Agrees) {name : String} :
    s.isFree name ↔ ∀ id r, s.get? id = some r → Text.lower r.name ≠ Text.lower name := by
  rw [isFree, Option.isNone_iff_eq_none, Option.eq_none_iff_forall_ne_some]
  constructor
  · intro free id r held same
    refine free id ((Sorted.mem_iff_lookup agrees.lowers _ _).mpr ?_)
    exact (agrees.byLower _ _).mpr ⟨r, agrees.get?_iff.mp held, same⟩
  · intro free id known
    obtain ⟨r, member, same⟩ :=
      (agrees.byLower _ _).mp ((Sorted.mem_iff_lookup agrees.lowers _ _).mp known)
    exact free id r (agrees.get?_iff.mpr member) same

theorem Agrees.typeByOid?_iff (agrees : s.Agrees) {oid : Nat} {t : SqlType} :
    s.typeByOid? oid = some t ↔ s.get? oid = some (.type t) := by
  rw [agrees.get?_iff]
  constructor
  · intro found
    obtain ⟨id, known, found⟩ := Option.bind_eq_some_iff.mp found
    obtain ⟨r, got, isType⟩ := Option.bind_eq_some_iff.mp found
    obtain ⟨held, member, numbered⟩ :=
      (agrees.byTypeOid _ _).mp ((Sorted.mem_iff_lookup agrees.typeOids _ _).mp known)
    rw [agrees.get?_iff.mpr member] at got
    cases got
    cases isType
    rw [agrees.oids _ _ member] at numbered
    cases numbered
    exact member
  · intro member
    have known := (Sorted.mem_iff_lookup agrees.typeOids oid oid).mpr
      ((agrees.byTypeOid oid oid).mpr ⟨t, member, agrees.oids _ _ member⟩)
    rw [typeByOid?, known, Option.bind_some, agrees.get?_iff.mpr member]
    rfl

/-- Two relations do not have names that differ in case only. -/
theorem Agrees.unique (agrees : s.Agrees) {other : Nat} {q : Relation} (first : s.get? id = some r)
    (second : s.get? other = some q) (same : Text.lower r.name = Text.lower q.name) :
    id = other := by
  have one := (agrees.byLower _ _).mpr ⟨r, agrees.get?_iff.mp first, same⟩
  have two := (agrees.byLower _ _).mpr ⟨q, agrees.get?_iff.mp second, rfl⟩
  rw [← Sorted.mem_iff_lookup agrees.lowers] at one two
  exact Option.some.inj (one.symm.trans two)

/-! ### Changes -/

section Indexes

variable {name : Relation → String} {numbers : List (String × Nat)}
  {relations : List (Nat × Relation)} (indexes : Indexes name numbers relations)
  (inOrder : Sorted.Increasing compare numbers) (ordered : Sorted.Increasing compare relations)
include indexes inOrder ordered

theorem Indexes.insert (unused : ∀ r, (id, r) ∉ relations)
    (free : ∀ n q, (n, q) ∈ relations → name q ≠ name r) :
    Indexes name (Sorted.insert compare (name r) id numbers)
      (Sorted.insert compare id r relations) := by
  intro key n
  simp only [Sorted.insert, Sorted.mem_alter inOrder, Sorted.mem_alter ordered, indexes key n]
  constructor
  · rintro (⟨⟨q, member, named⟩, _⟩ | ⟨rfl, same⟩)
    · exact ⟨q, .inl ⟨member, fun equal => unused q (equal ▸ member)⟩, named⟩
    · exact ⟨r, .inr ⟨(Option.some.inj same).symm, rfl⟩, rfl⟩
  · rintro ⟨q, ⟨member, _⟩ | ⟨rfl, same⟩, named⟩
    · exact .inl ⟨⟨q, member, named⟩, fun equal => free n q member (named.trans equal)⟩
    · cases same
      exact .inr ⟨named.symm, rfl⟩

theorem Indexes.erase (held : (id, r) ∈ relations) :
    Indexes name (Sorted.erase compare (name r) numbers) (Sorted.erase compare id relations) := by
  intro key n
  simp only [Sorted.erase, Sorted.mem_alter inOrder, Sorted.mem_alter ordered, indexes key n]
  have here : (name r, id) ∈ numbers := (indexes _ _).mpr ⟨r, held, rfl⟩
  constructor
  · rintro (⟨⟨q, member, named⟩, different⟩ | ⟨_, impossible⟩)
    · refine ⟨q, .inl ⟨member, fun equal => different ?_⟩, named⟩
      subst equal
      rw [← Sorted.mem_iff_lookup ordered] at held member
      cases held.symm.trans member
      exact named.symm
    · cases impossible
  · rintro ⟨q, ⟨member, different⟩ | ⟨_, impossible⟩, named⟩
    · refine .inl ⟨⟨q, member, named⟩, fun equal => different ?_⟩
      have there : (name r, n) ∈ numbers := (indexes _ _).mpr ⟨q, member, named.trans equal⟩
      rw [← Sorted.mem_iff_lookup inOrder] at here there
      exact Option.some.inj (there.symm.trans here)
    · cases impossible

omit inOrder in
theorem Indexes.replace {old : Relation} (held : (id, old) ∈ relations)
    (same : name r = name old) : Indexes name numbers (Sorted.insert compare id r relations) := by
  intro key n
  simp only [Sorted.insert, Sorted.mem_alter ordered, indexes key n]
  constructor
  · rintro ⟨q, member, named⟩
    by_cases equal : n = id
    · subst equal
      rw [← Sorted.mem_iff_lookup ordered] at held member
      cases held.symm.trans member
      exact ⟨r, .inr ⟨rfl, rfl⟩, same.trans named⟩
    · exact ⟨q, .inl ⟨member, equal⟩, named⟩
  · rintro ⟨q, ⟨member, _⟩ | ⟨rfl, given⟩, named⟩
    · exact ⟨q, member, named⟩
    · cases given
      exact ⟨old, held, same.symm.trans named⟩

end Indexes

theorem agrees_empty (name : String) : (Schema.empty name).Agrees := by
  constructor <;> simp [Schema.empty, Sorted.Increasing, Indexes]

theorem Agrees.add (agrees : s.Agrees) (free : s.isFree r.name) (unused : s.get? id = none)
    (oid : ∀ t, r = .type t → t.oid? = some id) : (s.add id r).Agrees := by
  have absent : ∀ q, (id, q) ∉ s.relations := by
    intro q member
    rw [← agrees.get?_iff, unused] at member
    cases member
  have apart : ∀ n q, (n, q) ∈ s.relations → Text.lower q.name ≠ Text.lower r.name :=
    fun n q member => agrees.isFree_iff.mp free n q (agrees.get?_iff.mpr member)
  have members : ∀ n q, (n, q) ∈ (s.add id r).relations ↔
      (n, q) ∈ s.relations ∨ (n = id ∧ r = q) := by
    intro n q
    refine (Sorted.mem_alter agrees.relations id _ n q).trans ?_
    refine or_congr ⟨And.left, fun member => ⟨member, ?_⟩⟩ (by simp)
    exact fun equal => absent q (equal ▸ member)
  constructor
  · exact agrees.relations.alter _ _
  · exact agrees.names.alter _ _
  · exact agrees.lowers.alter _ _
  · unfold Schema.add
    dsimp only
    split
    · exact agrees.typeOids.alter _ _
    · exact agrees.typeOids
  · exact agrees.byName.insert agrees.names agrees.relations absent
      fun n q member same => apart n q member (congrArg Text.lower same)
  · exact agrees.byLower.insert agrees.lowers agrees.relations absent apart
  · intro number n
    simp only [members]
    unfold Schema.add
    dsimp only
    split
    · rename_i known
      obtain ⟨t, isType, given⟩ := Option.bind_eq_some_iff.mp known
      have same := Relation.type?_eq_some.mp isType
      cases (oid t same).symm.trans given
      subst same
      refine (Sorted.mem_alter agrees.typeOids _ _ number n).trans ?_
      rw [agrees.byTypeOid]
      constructor
      · rintro (⟨⟨u, member, numbered⟩, _⟩ | ⟨rfl, equal⟩)
        · exact ⟨u, .inl member, numbered⟩
        · cases equal
          exact ⟨t, .inr ⟨rfl, rfl⟩, given⟩
      · rintro ⟨u, member | ⟨rfl, equal⟩, numbered⟩
        · refine .inl ⟨⟨u, member, numbered⟩, fun equal => ?_⟩
          rw [agrees.oids _ _ member] at numbered
          cases numbered
          exact absent _ (equal ▸ member)
        · cases equal
          rw [given] at numbered
          cases numbered
          exact .inr ⟨rfl, rfl⟩
    · rename_i noOid
      rw [agrees.byTypeOid]
      constructor
      · rintro ⟨u, member, numbered⟩
        exact ⟨u, .inl member, numbered⟩
      · rintro ⟨u, member | ⟨rfl, equal⟩, numbered⟩
        · exact ⟨u, member, numbered⟩
        · subst equal
          cases (oid u rfl).symm.trans noOid
  · intro n t member
    rcases (members _ _).mp member with old | ⟨rfl, same⟩
    · exact agrees.oids n t old
    · exact oid t same

theorem Agrees.erase (agrees : s.Agrees) (held : s.get? id = some r) : (s.erase id).Agrees := by
  have member := agrees.get?_iff.mp held
  have members : ∀ n q, (n, q) ∈ Sorted.erase compare id s.relations ↔
      (n, q) ∈ s.relations ∧ n ≠ id := by
    intro n q
    simpa [Sorted.erase] using Sorted.mem_alter agrees.relations id (fun _ => none) n q
  rw [erase_eq held]
  constructor
  · exact agrees.relations.alter _ _
  · exact agrees.names.alter _ _
  · exact agrees.lowers.alter _ _
  · exact agrees.typeOids.filter _
  · exact agrees.byName.erase agrees.names agrees.relations member
  · exact agrees.byLower.erase agrees.lowers agrees.relations member
  · intro oid n
    simp only [List.mem_filter, bne_iff_ne, members, agrees.byTypeOid]
    constructor
    · rintro ⟨⟨t, there, numbered⟩, different⟩
      exact ⟨t, ⟨there, different⟩, numbered⟩
    · rintro ⟨t, ⟨there, different⟩, numbered⟩
      exact ⟨⟨t, there, numbered⟩, different⟩
  · exact fun n t there => agrees.oids n t ((members _ _).mp there).1

theorem Agrees.replace (agrees : s.Agrees) {old : Relation} (held : s.get? id = some old)
    (same : r.name = old.name) (before : old.type? = none) (after : r.type? = none) :
    (s.replace id r).Agrees := by
  have member := agrees.get?_iff.mp held
  have types : ∀ n t, (n, .type t) ∈ (s.replace id r).relations ↔ (n, .type t) ∈ s.relations := by
    intro n t
    refine (Sorted.mem_alter agrees.relations id _ n _).trans ?_
    constructor
    · rintro (⟨there, _⟩ | ⟨_, given⟩)
      · exact there
      · cases given
        cases after
    · refine fun there => .inl ⟨there, fun equal => ?_⟩
      rw [← agrees.get?_iff, equal, held] at there
      cases there
      cases before
  constructor
  · exact agrees.relations.alter _ _
  · exact agrees.names
  · exact agrees.lowers
  · exact agrees.typeOids
  · exact agrees.byName.replace agrees.relations member same
  · exact agrees.byLower.replace agrees.relations member (congrArg Text.lower same)
  · intro oid n
    simp only [types]
    exact agrees.byTypeOid oid n
  · exact fun n t there => agrees.oids n t ((types n t).mp there)

/-- A relation that was erased can be put back, which gives the schema as it was. -/
theorem Agrees.restore (agrees : s.Agrees) (held : s.get? id = some r) :
    ∃ restored, (s.erase id).insert id r = .ok restored ∧
      ∀ n, restored.get? n = s.get? n := by
  have erased := agrees.erase held
  have kept : ∀ n, (s.erase id).get? n = if n = id then none else s.get? n := by
    intro n
    rw [get?, erase_eq held]
    exact Sorted.lookup_alter agrees.relations id n fun _ => none
  have free : (s.erase id).isFree r.name := by
    refine erased.isFree_iff.mpr fun n q there same => ?_
    rw [kept] at there
    split at there
    · cases there
    · rename_i different
      exact different (agrees.unique there held same)
  refine ⟨(s.erase id).add id r, if_pos free, fun n => ?_⟩
  refine (Sorted.lookup_alter erased.relations id n _).trans ?_
  split
  · rename_i same
    rw [same, held]
  · rename_i different
    exact (kept n).trans (if_neg different)

/-! ### Several types -/

theorem Agrees.get?_add (agrees : s.Agrees) (n : Nat) :
    (s.add id r).get? n = if n = id then some r else s.get? n :=
  Sorted.lookup_alter agrees.relations id n fun _ => some r

/-- Types that differ in name and object number come one after the other. -/
theorem Agrees.addTypes {types : List SqlType} {s : Schema} (agrees : s.Agrees)
    (names : (types.map (Text.lower ·.name)).Nodup) (oids : (types.filterMap (·.oid?)).Nodup)
    (free : ∀ t ∈ types, s.isFree t.name) (unused : ∀ t ∈ types, ∀ oid ∈ t.oid?, s.get? oid = none) :
    (types.foldl (fun s t => match t.oid? with
      | some oid => s.add oid (.type t)
      | none => s) s).Agrees := by
  induction types generalizing s with
  | nil => exact agrees
  | cons t rest ih =>
      rw [List.map_cons, List.nodup_cons] at names
      obtain ⟨freeHere, freeLater⟩ := List.forall_mem_cons.mp free
      obtain ⟨unusedHere, unusedLater⟩ := List.forall_mem_cons.mp unused
      rw [List.foldl_cons]
      cases known : t.oid? with
      | none =>
          rw [List.filterMap_cons_none known] at oids
          exact ih agrees names.2 oids freeLater unusedLater
      | some oid =>
          rw [List.filterMap_cons_some known, List.nodup_cons] at oids
          have added := agrees.add (r := .type t) freeHere (unusedHere oid known)
            fun u same => Relation.type.inj same ▸ known
          refine ih added names.2 oids.2 (fun u member => ?_) fun u member number numbered => ?_
          · refine added.isFree_iff.mpr fun n q held same => ?_
            rw [agrees.get?_add] at held
            split at held
            · cases held
              exact names.1 (List.mem_map.mpr ⟨u, member, same.symm⟩)
            · exact agrees.isFree_iff.mp (freeLater u member) n q held same
          · rw [agrees.get?_add, if_neg]
            · exact unusedLater u member number numbered
            · rintro rfl
              exact oids.1 (List.mem_filterMap.mpr ⟨u, member, numbered⟩)

end Schema

theorem Catalog.agrees_builtin : builtinSchema.Agrees := by
  have empty := Schema.agrees_empty systemSchema
  have started : ({ Schema.empty systemSchema with readOnly := true } : Schema).Agrees :=
    ⟨empty.relations, empty.names, empty.lowers, empty.typeOids, empty.byName, empty.byLower,
      empty.byTypeOid, empty.oids⟩
  exact started.addTypes (by decide +kernel) (by decide +kernel) (fun _ _ => rfl) fun _ _ _ _ => rfl

end SqlEngine
