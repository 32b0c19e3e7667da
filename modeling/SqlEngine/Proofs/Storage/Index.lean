import SqlEngine.Proofs.Storage.Sorted
import SqlEngine.Storage.Index

/-!
Indexes hold what they were given: every key with exactly the rows that have it, no key twice and
none without rows.
-/

namespace SqlEngine

namespace Value

/-- Every item of a row is among the values that are known for its position. -/
def Among (held : Nat → Value → Prop) (row : Row) : Prop :=
  ∀ position v, row[position]? = some v → held position v

theorem Among.tail {held : Nat → Value → Prop} {v : Value} {rest : Row}
    (among : Among held (v :: rest)) : Among (fun position => held (position + 1)) rest :=
  fun position u found => among (position + 1) u (by simpa using found)

theorem Among.head {held : Nat → Value → Prop} {v : Value} {rest : Row}
    (among : Among held (v :: rest)) : held 0 v := among 0 v rfl

theorem orderItems_swap : ∀ (a b : Row) (held : Nat → Value → Prop),
    (∀ position, TotalOn order (held position)) → Among held a → Among held b →
      orderItems b a = (orderItems a b).swap := by
  intro a
  induction a with
  | nil =>
      intro b held _ _ _
      cases b <;> rfl
  | cons x xs ih =>
      intro b held total amongA amongB
      cases b with
      | nil => rfl
      | cons y ys =>
          rw [orderItems, orderItems, Ordering.swap_then,
            ih ys _ (fun position => total (position + 1)) amongA.tail amongB.tail,
            (total 0).swap x y amongA.head amongB.head]

theorem orderItems_trans : ∀ (a b c : Row) (held : Nat → Value → Prop),
    (∀ position, TotalOn order (held position)) → Among held a → Among held b → Among held c →
      (orderItems a b).isLE → (orderItems b c).isLE → (orderItems a c).isLE := by
  intro a
  induction a with
  | nil =>
      intro b c held _ _ _ _ _ _
      cases c <;> rfl
  | cons x xs ih =>
      intro b c held total amongA amongB amongC first second
      cases b with
      | nil => simp [orderItems] at first
      | cons y ys =>
          cases c with
          | nil => simp [orderItems] at second
          | cons z zs =>
              rw [orderItems] at first second ⊢
              have later := ih ys zs _ (fun position => total (position + 1)) amongA.tail
                amongB.tail amongC.tail
              exact (total 0).then_trans amongA.head amongB.head amongC.head (fun _ _ => later) first
                second

/-- Only NULL is equal to NULL. -/
theorem isNull_of_order_eq {a b : Value} (equal : order a b = .eq) : a.isNull = b.isNull := by
  cases a <;> cases b <;> first | rfl | simp [order, rank, compare, compareOfLessAndEq] at equal

theorem any_isNull_of_orderRows_eq : ∀ {a b : Row}, orderRows a b = .eq →
    a.any isNull = b.any isNull := by
  intro a
  induction a with
  | nil =>
      intro b equal
      cases b with
      | nil => rfl
      | cons y ys => simp [orderRows, orderItems] at equal
  | cons x xs ih =>
      intro b equal
      cases b with
      | nil => simp [orderRows, orderItems] at equal
      | cons y ys =>
          simp only [orderRows, orderItems, Ordering.then_eq_eq] at equal
          rw [List.any_cons, List.any_cons, isNull_of_order_eq equal.1, ih equal.2]

/-- Rows are totally ordered when the values at every position are. -/
theorem totalOn_orderRows {held : Nat → Value → Prop}
    (total : ∀ position, TotalOn order (held position)) : TotalOn orderRows (Among held) :=
  ⟨fun a b amongA amongB => orderItems_swap a b held total amongA amongB,
    fun a b c amongA amongB amongC => orderItems_trans a b c held total amongA amongB amongC⟩

end Value

namespace IndexData

/-! ### The rows of a key -/

theorem mem_add? {ids : List RowId} (id other : RowId) (ascending : ids.Pairwise (· < ·)) :
    other ∈ (Sorted.add? compare id ids).getD ids ↔ other = id ∨ other ∈ ids := by
  induction ids with
  | nil => simp [Sorted.add?]
  | cons first rest ih =>
      have later := ih (List.pairwise_cons.mp ascending).2
      simp only [Sorted.add?]
      cases order : compare id first with
      | lt => simp
      | eq =>
          have same := Nat.compare_eq_eq.mp order
          simp [same]
      | gt =>
          cases added : Sorted.add? compare id rest with
          | none =>
              simp only [added, Option.getD_none] at later
              simp only [Option.map_none, Option.getD_none, List.mem_cons]
              rw [or_left_comm, ← later]
          | some more =>
              simp only [added, Option.getD_some] at later
              simp only [Option.map_some, Option.getD_some, List.mem_cons, later]
              exact or_left_comm

theorem ascending_add? {ids : List RowId} (id : RowId) (ascending : ids.Pairwise (· < ·)) :
    ((Sorted.add? compare id ids).getD ids).Pairwise (· < ·) := by
  induction ids with
  | nil => simp [Sorted.add?]
  | cons first rest ih =>
      obtain ⟨above, ascendingRest⟩ := List.pairwise_cons.mp ascending
      simp only [Sorted.add?]
      cases order : compare id first with
      | lt =>
          have less := Nat.compare_eq_lt.mp order
          refine List.pairwise_cons.mpr ⟨?_, ascending⟩
          intro other member
          rcases List.mem_cons.mp member with rfl | member
          · exact less
          · exact Nat.lt_trans less (above other member)
      | eq => simpa using ascending
      | gt =>
          have more := Nat.compare_eq_gt.mp order
          have later := ih ascendingRest
          have members := fun other => mem_add? id other ascendingRest
          cases added : Sorted.add? compare id rest with
          | none => simpa [added] using ascending
          | some extended =>
              simp only [added, Option.getD_some] at later members
              refine List.pairwise_cons.mpr ⟨?_, later⟩
              intro other member
              rcases (members other).mp member with rfl | member
              · exact more
              · exact above other member

/-! ### What an index holds -/

/-- The index holds exactly these keys with these rows. A key is stored in one of its equal
forms. -/
structure Holds (data : IndexData) (pairs : Row → RowId → Prop) : Prop where
  increasing : Sorted.Increasing Value.orderRows data
  filled : ∀ e ∈ data, e.2 ≠ []
  ascending : ∀ e ∈ data, e.2.Pairwise (· < ·)
  sound : ∀ e ∈ data, ∀ id ∈ e.2, ∃ key, pairs key id ∧ Value.orderRows key e.1 = .eq
  complete : ∀ key id, pairs key id → ∃ e ∈ data, Value.orderRows key e.1 = .eq ∧ id ∈ e.2

/-- The keys that an index stores and those of the pairs are totally ordered. -/
structure Comparable (known : Row → Prop) (data : IndexData) (pairs : Row → RowId → Prop) :
    Prop where
  total : TotalOn Value.orderRows known
  stored : ∀ e ∈ data, known e.1
  given : ∀ key id, pairs key id → known key

theorem Holds.nil : Holds [] fun _ _ => False :=
  ⟨List.Pairwise.nil, by simp, by simp, by simp, fun _ _ absent => absent.elim⟩

theorem Holds.congr {data : IndexData} {pairs others : Row → RowId → Prop}
    (holds : Holds data pairs) (same : ∀ key id, pairs key id ↔ others key id) :
    Holds data others := by
  have equal : pairs = others := by
    funext key id
    exact propext (same key id)
  exact equal ▸ holds

section Changes

variable {known : Row → Prop} {data : IndexData} {pairs : Row → RowId → Prop} {key : Row}

theorem key_of_mem_add {id : RowId} {e : Row × List RowId} (member : e ∈ data.add key id) :
    e.1 = key ∨ ∃ old ∈ data, old.1 = e.1 :=
  Sorted.key_of_mem_alter _ member

theorem key_of_mem_remove {id : RowId} {e : Row × List RowId} (member : e ∈ data.remove key id) :
    e.1 = key ∨ ∃ old ∈ data, old.1 = e.1 :=
  Sorted.key_of_mem_alter _ member

theorem Comparable.add (comparable : Comparable known data pairs) (hkey : known key) (id : RowId) :
    Comparable known (data.add key id) fun k i => pairs k i ∨ (k = key ∧ i = id) := by
  refine ⟨comparable.total, ?_, ?_⟩
  · intro e member
    rcases key_of_mem_add member with same | ⟨old, there, same⟩
    · exact same ▸ hkey
    · exact same ▸ comparable.stored old there
  · rintro k i (pair | ⟨rfl, _⟩)
    · exact comparable.given k i pair
    · exact hkey

theorem Comparable.remove (comparable : Comparable known data pairs) (hkey : known key)
    (id : RowId) : Comparable known (data.remove key id) fun k i => pairs k i ∧ i ≠ id := by
  refine ⟨comparable.total, ?_, fun k i pair => comparable.given k i pair.1⟩
  intro e member
  rcases key_of_mem_remove member with same | ⟨old, there, same⟩
  · exact same ▸ hkey
  · exact same ▸ comparable.stored old there

theorem mem_get (holds : Holds data pairs) (comparable : Comparable known data pairs)
    (hkey : known key) (id : RowId) :
    id ∈ data.get key ↔ ∃ other, pairs other id ∧ Value.orderRows key other = .eq := by
  have found := Sorted.find?_eq_some_iff comparable.total comparable.stored holds.increasing hkey
  have total := comparable.total
  constructor
  · intro member
    cases entry : Sorted.find? Value.orderRows key data with
    | none => simp [get, entry] at member
    | some ids =>
        simp only [get, entry, Option.getD_some] at member
        obtain ⟨e, there, equal, rfl⟩ := (found ids).mp entry
        obtain ⟨other, pair, same⟩ := holds.sound e there id member
        have hother := comparable.given other id pair
        have he := comparable.stored e there
        exact ⟨other, pair, total.eq_trans hkey he hother equal (total.symm hother he same)⟩
  · rintro ⟨other, pair, equal⟩
    obtain ⟨e, there, same, member⟩ := holds.complete other id pair
    have hother := comparable.given other id pair
    have entry := (found e.2).mpr
      ⟨e, there, total.eq_trans hkey hother (comparable.stored e there) equal same, rfl⟩
    simpa [get, entry] using member

/-- What a change of one key leaves of the old entries, and the entry that it makes. -/
theorem holds_alter (holds : Holds data pairs) (comparable : Comparable known data pairs)
    (hkey : known key) (f : Option (List RowId) → Option (List RowId))
    (pairs' : Row → RowId → Prop)
    (made : ∀ ids, f (Sorted.find? Value.orderRows key data) = some ids →
      ids ≠ [] ∧ ids.Pairwise (· < ·) ∧
        ∀ id ∈ ids, ∃ other, known other ∧ pairs' other id ∧ Value.orderRows other key = .eq)
    (kept : ∀ other id, pairs other id → Value.orderRows key other ≠ .eq → pairs' other id)
    (held : ∀ other id, pairs' other id →
      (pairs other id ∧ Value.orderRows key other ≠ .eq) ∨
        known other ∧ Value.orderRows other key = .eq ∧
          ∃ ids, f (Sorted.find? Value.orderRows key data) = some ids ∧ id ∈ ids) :
    Holds (Sorted.alter Value.orderRows key f data) pairs' := by
  have total := comparable.total
  obtain ⟨stored, origin, equal, members⟩ :=
    Sorted.mem_alter_iff total comparable.stored holds.increasing hkey f
  have hstored : known stored := by
    rcases origin with rfl | ⟨e, there, rfl⟩
    · exact hkey
    · exact comparable.stored e there
  refine ⟨Sorted.increasing_alter total comparable.stored holds.increasing hkey f, ?_, ?_, ?_, ?_⟩
  · intro e member
    rcases (members e).mp member with ⟨old, _⟩ | ⟨_, new⟩
    · exact holds.filled e old
    · exact (made e.2 new).1
  · intro e member
    rcases (members e).mp member with ⟨old, _⟩ | ⟨_, new⟩
    · exact holds.ascending e old
    · exact (made e.2 new).2.1
  · intro e member id listed
    rcases (members e).mp member with ⟨old, different⟩ | ⟨place, new⟩
    · obtain ⟨other, pair, same⟩ := holds.sound e old id listed
      have hother := comparable.given other id pair
      refine ⟨other, kept other id pair fun collide => different ?_, same⟩
      exact total.eq_trans hkey hother (comparable.stored e old) collide same
    · obtain ⟨other, hother, pair, same⟩ := (made e.2 new).2.2 id listed
      rw [place]
      exact ⟨other, pair, total.eq_trans hother hkey hstored same equal⟩
  · intro other id pair
    rcases held other id pair with ⟨old, different⟩ | ⟨hother, same, ids, new, listed⟩
    · obtain ⟨e, there, matched, listed⟩ := holds.complete other id old
      have hother := comparable.given other id old
      have he := comparable.stored e there
      refine ⟨e, (members e).mpr (Or.inl ⟨there, fun collide => different ?_⟩), matched, listed⟩
      exact total.eq_trans hkey he hother collide (total.symm hother he matched)
    · exact ⟨(stored, ids), (members _).mpr (Or.inr ⟨rfl, new⟩),
        total.eq_trans hother hkey hstored same equal, listed⟩

theorem ascending_found (holds : Holds data pairs) (comparable : Comparable known data pairs)
    (hkey : known key) :
    ((Sorted.find? Value.orderRows key data).getD []).Pairwise (· < ·) := by
  cases entry : Sorted.find? Value.orderRows key data with
  | none => simp
  | some ids =>
      obtain ⟨e, there, _, rfl⟩ := (Sorted.find?_eq_some_iff comparable.total comparable.stored
        holds.increasing hkey ids).mp entry
      exact holds.ascending e there

theorem Holds.add (holds : Holds data pairs) (comparable : Comparable known data pairs)
    (hkey : known key) (id : RowId) :
    Holds (data.add key id) fun k i => pairs k i ∨ (k = key ∧ i = id) := by
  have total := comparable.total
  have ascending := ascending_found holds comparable hkey
  have listed := mem_get holds comparable hkey
  refine holds_alter holds comparable hkey (addRow id) _ ?_ ?_ ?_
  · intro ids made
    simp only [addRow, Option.some.injEq] at made
    subst made
    refine ⟨?_, ascending_add? id ascending, ?_⟩
    · intro empty
      have member := (mem_add? id id ascending).mpr (Or.inl rfl)
      simp [empty] at member
    · intro other member
      rcases (mem_add? id other ascending).mp member with rfl | old
      · exact ⟨key, hkey, Or.inr ⟨rfl, rfl⟩, total.refl hkey⟩
      · obtain ⟨k, pair, equal⟩ := (listed other).mp old
        have hk := comparable.given k other pair
        exact ⟨k, hk, Or.inl pair, total.symm hkey hk equal⟩
  · exact fun k i pair _ => Or.inl pair
  · rintro k i (pair | ⟨rfl, rfl⟩)
    · have hk := comparable.given k i pair
      by_cases equal : Value.orderRows key k = .eq
      · refine Or.inr ⟨hk, total.symm hkey hk equal, _, rfl, ?_⟩
        exact (mem_add? id i ascending).mpr (Or.inr ((listed i).mpr ⟨k, pair, equal⟩))
      · exact Or.inl ⟨pair, equal⟩
    · exact Or.inr ⟨hkey, total.refl hkey, _, rfl, (mem_add? i i ascending).mpr (Or.inl rfl)⟩

/-- Taking a row out under a key takes it from the one entry of the equal keys. -/
theorem Holds.remove_under (holds : Holds data pairs) (comparable : Comparable known data pairs)
    (hkey : known key) (id : RowId) :
    Holds (data.remove key id) fun k i => pairs k i ∧ ¬(Value.orderRows key k = .eq ∧ i = id) := by
  have total := comparable.total
  have ascending := ascending_found holds comparable hkey
  have listed := mem_get holds comparable hkey
  have made : ∀ ids, removeRow id (Sorted.find? Value.orderRows key data) = some ids ↔
      ids ≠ [] ∧ ids = ((Sorted.find? Value.orderRows key data).getD []).filter (· ≠ id) := by
    intro ids
    cases Sorted.find? Value.orderRows key data with
    | none => simp +contextual [removeRow]
    | some old =>
        simp only [removeRow, Option.map_some, Option.getD_some, Option.filter_eq_some_iff,
          Option.some.injEq, Bool.not_eq_true', List.isEmpty_eq_false_iff]
        constructor
        · rintro ⟨rfl, filled⟩
          exact ⟨filled, rfl⟩
        · rintro ⟨filled, rfl⟩
          exact ⟨rfl, filled⟩
  refine holds_alter holds comparable hkey (removeRow id) _ ?_ ?_ ?_
  · intro ids new
    obtain ⟨filled, rfl⟩ := (made ids).mp new
    refine ⟨filled, ascending.filter _, ?_⟩
    intro other member
    obtain ⟨old, different⟩ := List.mem_filter.mp member
    obtain ⟨k, pair, equal⟩ := (listed other).mp old
    have hk := comparable.given k other pair
    exact ⟨k, hk, ⟨pair, fun taken => by simp [taken.2] at different⟩, total.symm hkey hk equal⟩
  · exact fun k i pair different => ⟨pair, fun taken => different taken.1⟩
  · rintro k i ⟨pair, kept⟩
    have hk := comparable.given k i pair
    by_cases equal : Value.orderRows key k = .eq
    · have different : i ≠ id := fun same => kept ⟨equal, same⟩
      have member : i ∈ ((Sorted.find? Value.orderRows key data).getD []).filter (· ≠ id) :=
        List.mem_filter.mpr ⟨(listed i).mpr ⟨k, pair, equal⟩, by simpa using different⟩
      exact Or.inr ⟨hk, total.symm hkey hk equal, _,
        (made _).mpr ⟨List.ne_nil_of_mem member, rfl⟩, member⟩
    · exact Or.inl ⟨pair, equal⟩

theorem Holds.remove (holds : Holds data pairs) (comparable : Comparable known data pairs)
    (hkey : known key) (id : RowId) (only : ∀ other, pairs other id → other = key) :
    Holds (data.remove key id) fun k i => pairs k i ∧ i ≠ id := by
  refine (holds.remove_under comparable hkey id).congr fun k i => and_congr_right fun pair => ?_
  constructor
  · rintro kept rfl
    exact kept ⟨by rw [only k pair]; exact comparable.total.refl hkey, rfl⟩
  · exact fun different taken => different taken.2

end Changes

end IndexData

end SqlEngine
