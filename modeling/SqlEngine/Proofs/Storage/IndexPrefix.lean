import Mathlib.Data.List.Forall2
import Mathlib.Data.List.Induction
import SqlEngine.Proofs.Storage.ValueOrder

/-!
Looking up the beginning of a key.

An index is read from the place where the given values would stand as a key, up to the first key
that does not begin with them. Keys of all lengths are ordered item by item, a shorter one before
the longer ones that begin with it. So the keys with one beginning stand together, behind the place
of the beginning itself, and the walk finds all of them.
-/

namespace SqlEngine

theorem TotalOn.antisymm {κ : Type} {cmp : κ → κ → Ordering} {held : κ → Prop} {a b : κ}
    (total : TotalOn cmp held) (ha : held a) (hb : held b) (below : (cmp a b).isLE)
    (above : (cmp b a).isLE) : cmp a b = .eq := by
  rw [total.swap a b ha hb] at above
  cases order : cmp a b <;> simp_all

/-! ### Walks over ordered lists -/

section Walks

variable {α : Type} {p q : α → Bool}

theorem takeWhile_eq_filter {entries : List α}
    (closed : entries.Pairwise fun a b => p b → p a) : entries.takeWhile p = entries.filter p := by
  induction entries with
  | nil => rfl
  | cons first rest ih =>
      obtain ⟨later, closedRest⟩ := List.pairwise_cons.mp closed
      by_cases passes : p first
      · rw [List.takeWhile_cons_of_pos passes, List.filter_cons_of_pos passes, ih closedRest]
      · have none : rest.filter p = [] := List.filter_eq_nil_iff.mpr fun other member passed =>
          passes (later other member passed)
        rw [List.takeWhile_cons_of_neg passes, List.filter_cons_of_neg passes, none]

theorem filter_dropWhile {entries : List α} (apart : ∀ a ∈ entries, q a → ¬p a) :
    (entries.dropWhile q).filter p = entries.filter p := by
  induction entries with
  | nil => rfl
  | cons first rest ih =>
      by_cases skipped : q first
      · rw [List.dropWhile_cons_of_pos skipped,
          List.filter_cons_of_neg (apart first List.mem_cons_self skipped)]
        exact ih fun a member => apart a (List.mem_cons_of_mem _ member)
      · rw [List.dropWhile_cons_of_neg skipped]

theorem not_of_mem_dropWhile {entries : List α} (closed : entries.Pairwise fun a b => q b → q a)
    {a : α} (member : a ∈ entries.dropWhile q) : ¬q a := by
  induction entries with
  | nil => simp at member
  | cons first rest ih =>
      obtain ⟨later, closedRest⟩ := List.pairwise_cons.mp closed
      by_cases skipped : q first
      · rw [List.dropWhile_cons_of_pos skipped] at member
        exact ih closedRest member
      · rw [List.dropWhile_cons_of_neg skipped] at member
        rcases List.mem_cons.mp member with rfl | there
        · exact skipped
        · exact fun passed => skipped (later a there passed)

/-- A walk that skips what is too small and stops at the first entry that does not pass finds every
entry that passes, if those stand together. -/
theorem takeWhile_dropWhile_eq_filter {entries : List α} (apart : ∀ a ∈ entries, q a → ¬p a)
    (small : entries.Pairwise fun a b => q b → q a)
    (together : entries.Pairwise fun a b => ¬q a → p b → p a) :
    (entries.dropWhile q).takeWhile p = entries.filter p := by
  have closed : (entries.dropWhile q).Pairwise fun a b => p b → p a := by
    refine (together.sublist (List.dropWhile_sublist q)).imp_of_mem ?_
    exact fun member _ between => between (not_of_mem_dropWhile small member)
  rw [takeWhile_eq_filter closed, filter_dropWhile apart]

theorem countP_eq_one {entries : List α} (apart : entries.Pairwise fun a b => ¬(p a ∧ p b))
    {a : α} (member : a ∈ entries) (passes : p a) : entries.countP p = 1 := by
  induction entries with
  | nil => simp at member
  | cons first rest ih =>
      obtain ⟨later, apartRest⟩ := List.pairwise_cons.mp apart
      rcases List.mem_cons.mp member with rfl | there
      · have none : rest.countP p = 0 := List.countP_eq_zero.mpr fun other listed passed =>
          later other listed ⟨passes, passed⟩
        rw [List.countP_cons_of_pos passes, none]
      · have skipped : ¬p first := fun passed => later a there ⟨passed, passes⟩
        rw [List.countP_cons_of_neg skipped, ih apartRest there]

end Walks

/-! ### Beginnings of rows -/

namespace Value

theorem orderRows_eq_iff {a b : Row} :
    orderRows a b = .eq ↔ List.Forall₂ (fun v w => order v w = .eq) a b := by
  induction a generalizing b with
  | nil => cases b <;> simp [orderRows, orderItems]
  | cons v rest ih =>
      cases b with
      | nil => simp [orderRows, orderItems]
      | cons w others =>
          rw [List.forall₂_cons, ← ih, orderRows, orderItems, Ordering.then_eq_eq, orderRows]

theorem Among.take {held : Nat → Value → Prop} {row : Row} (among : Among held row) (n : Nat) :
    Among held (row.take n) := by
  intro position v found
  rw [List.getElem?_take] at found
  split at found
  · exact among position v found
  · simp at found

/-- A prefix of a lower row is not above the prefix of the same length of a higher one. -/
theorem orderRows_take {a b : Row} (below : (orderRows a b).isLE) (n : Nat) :
    (orderRows (a.take n) (b.take n)).isLE := by
  induction n generalizing a b with
  | zero => simp [orderRows, orderItems]
  | succ n ih =>
      cases a with
      | nil => cases b <;> simp [orderRows, orderItems]
      | cons v rest =>
          cases b with
          | nil => simp [orderRows, orderItems] at below
          | cons w others =>
              simp only [List.take_succ_cons, orderRows, orderItems, isLE_then] at below ⊢
              rcases below with less | ⟨equal, later⟩
              · exact Or.inl less
              · exact Or.inr ⟨equal, ih later⟩

end Value

/-- The first items of a key are equal to the given values. -/
def Begins (first key : Row) : Prop :=
  ∃ head rest, key = head ++ rest ∧ List.Forall₂ (fun v w => Value.order v w = .eq) head first

namespace IndexData

theorem beginsWith_iff (first key : Row) : beginsWith first key ↔ Begins first key := by
  rw [beginsWith, Bool.and_eq_true, decide_eq_true_iff, beq_iff_eq, Value.orderRows_eq_iff]
  constructor
  · rintro ⟨_, equal⟩
    exact ⟨key.take first.length, key.drop first.length, (List.take_append_drop _ key).symm, equal⟩
  · rintro ⟨head, rest, rfl, equal⟩
    have long := equal.length_eq
    refine ⟨by simp [← long], ?_⟩
    rwa [← long, List.take_left]

/-- A key is not below its beginnings. -/
theorem not_lt_of_begins {first key : Row} (begins : Begins first key) :
    Value.orderRows key first ≠ .lt := by
  obtain ⟨head, rest, rfl, equal⟩ := begins
  induction equal with
  | nil => cases rest <;> simp [Value.orderRows, Value.orderItems]
  | cons same _ ih => simpa [Value.orderRows, Value.orderItems, same] using ih

section Lookup

variable {held : Nat → Value → Prop} {data : IndexData} {first : Row}

/-- Between a beginning and a key that has it there are only keys that have it. -/
theorem begins_of_between (total : TotalOn Value.orderRows (Value.Among held))
    (hfirst : Value.Among held first) {low high : Row} (hlow : Value.Among held low)
    (hhigh : Value.Among held high) (behind : Value.orderRows low first ≠ .lt)
    (below : Value.orderRows low high = .lt) (begins : beginsWith first high) :
    beginsWith first low := by
  simp only [beginsWith, Bool.and_eq_true, decide_eq_true_eq, beq_iff_eq] at begins ⊢
  obtain ⟨_, equal⟩ := begins
  have hcut := hlow.take first.length
  have lower : (Value.orderRows first (low.take first.length)).isLE := by
    have above : (Value.orderRows first low).isLE := by
      rw [total.swap low first hlow hfirst]
      cases order : Value.orderRows low first <;> simp_all
    simpa using Value.orderRows_take above first.length
  have upper : (Value.orderRows (low.take first.length) first).isLE :=
    total.trans _ _ _ hcut (hhigh.take _) hfirst
      (Value.orderRows_take (by simp [below]) first.length) (by simp [equal])
  have same := total.antisymm hcut hfirst upper lower
  have long := (Value.orderRows_eq_iff.mp same).length_eq
  rw [List.length_take] at long
  exact ⟨by omega, same⟩

/-- Equal keys have the same beginnings. -/
theorem begins_of_equal (total : TotalOn Value.orderRows (Value.Among held))
    (hfirst : Value.Among held first) {key other : Row} (hkey : Value.Among held key)
    (hother : Value.Among held other) (same : Value.orderRows key other = .eq)
    (begins : Begins first key) : Begins first other := by
  rw [← beginsWith_iff] at begins ⊢
  simp only [beginsWith, Bool.and_eq_true, decide_eq_true_eq, beq_iff_eq] at begins ⊢
  obtain ⟨long, equal⟩ := begins
  have pairwise := Value.orderRows_eq_iff.mp same
  have cut := Value.orderRows_eq_iff.mpr (List.forall₂_take first.length pairwise)
  refine ⟨pairwise.length_eq ▸ long, ?_⟩
  exact total.eq_trans (hother.take _) (hkey.take _) hfirst
    (total.symm (hkey.take _) (hother.take _) cut) equal

theorem withPrefix_eq_filter (total : TotalOn Value.orderRows (Value.Among held))
    (stored : ∀ e ∈ data, Value.Among held e.1)
    (increasing : Sorted.Increasing Value.orderRows data) (hfirst : Value.Among held first) :
    data.withPrefix first = (data.filter fun e => beginsWith first e.1).flatMap (·.2) := by
  have apart : ∀ e ∈ data, Value.orderRows e.1 first == .lt → ¬beginsWith first e.1 := by
    intro e _ below begins
    exact not_lt_of_begins ((beginsWith_iff first e.1).mp begins) (by simpa using below)
  have small : data.Pairwise fun a b =>
      Value.orderRows b.1 first == .lt → Value.orderRows a.1 first == .lt := by
    refine increasing.imp_of_mem fun {a b} ha hb less below => ?_
    rw [beq_iff_eq] at below ⊢
    exact total.lt_trans (stored a ha) (stored b hb) hfirst less below
  have together : data.Pairwise fun a b => ¬Value.orderRows a.1 first == .lt →
      beginsWith first b.1 → beginsWith first a.1 := by
    refine increasing.imp_of_mem fun {a b} ha hb less behind begins => ?_
    exact begins_of_between total hfirst (stored a ha) (stored b hb) (by simpa using behind) less
      begins
  rw [withPrefix, takeWhile_dropWhile_eq_filter apart small together]

end Lookup

/-! ### Whole keys -/

section Whole

variable {data : IndexData} {known : Row → Prop} {key : Row}

theorem beginsWith_of_length {first : Row} (same : key.length = first.length) :
    beginsWith first key = (Value.orderRows key first == .eq) := by
  rw [beginsWith, List.take_of_length_le (by omega)]
  simp [same]

/-- Where all keys are as long as the one that is looked for, looking for the keys that begin with
it is looking for itself. -/
theorem withPrefix_eq_get (increasing : Sorted.Increasing Value.orderRows data)
    (total : TotalOn Value.orderRows known) (stored : ∀ e ∈ data, known e.1) (hkey : known key)
    (lengths : ∀ e ∈ data, e.1.length = key.length) : data.withPrefix key = data.get key := by
  obtain ⟨before, found, after, rfl, place⟩ := Sorted.exists_place total hkey data stored increasing
  have reversed : ∀ e ∈ before ++ found.toList ++ after,
      Value.orderRows e.1 key = (Value.orderRows key e.1).swap :=
    fun e member => total.swap key e.1 hkey (stored e member)
  have skipped : ∀ e ∈ before, (Value.orderRows e.1 key == .lt) = true := by
    intro e member
    rw [reversed e (by simp [member]), place.before e member]
    rfl
  have reached : ∀ e ∈ found.toList, (Value.orderRows e.1 key == .lt) = false ∧
      beginsWith key e.1 = true := by
    intro e member
    have there : e ∈ before ++ found.toList ++ after := by simp_all
    rw [beginsWith_of_length (lengths e there), reversed e there,
      place.found e (Option.mem_toList.mp member)]
    exact ⟨rfl, rfl⟩
  have passed : ∀ e ∈ after, (Value.orderRows e.1 key == .lt) = false ∧
      beginsWith key e.1 = false := by
    intro e member
    have there : e ∈ before ++ found.toList ++ after := by simp [member]
    rw [beginsWith_of_length (lengths e there), reversed e there, place.after e member]
    exact ⟨rfl, rfl⟩
  have behind : after.takeWhile (fun e => beginsWith key e.1) = [] := by
    cases after with
    | nil => rfl
    | cons e rest => simp [(passed e List.mem_cons_self).2]
  have tail : (before ++ found.toList ++ after).dropWhile
      (fun e => Value.orderRows e.1 key == .lt) = found.toList ++ after := by
    rw [List.append_assoc, List.dropWhile_append_of_pos skipped]
    cases found with
    | some e => simp [(reached e (by simp)).1]
    | none =>
        cases after with
        | nil => rfl
        | cons e rest => simp [(passed e List.mem_cons_self).1]
  rw [withPrefix, tail, get, Sorted.find?_place place,
    List.takeWhile_append_of_pos fun e member => (reached e member).2, behind, List.append_nil]
  cases found <;> simp

end Whole

end IndexData

/-! ### Runs of changes -/

/-- A change of an index: a row comes under a key, or is taken from it. -/
inductive IndexChange
  | add (key : Row) (id : RowId)
  | remove (key : Row) (id : RowId)

def IndexChange.key : IndexChange → Row
  | add key _ => key
  | remove key _ => key

namespace IndexData

def change (d : IndexData) : IndexChange → IndexData
  | .add key id => d.add key id
  | .remove key id => d.remove key id

def changeAll (d : IndexData) (changes : List IndexChange) : IndexData := changes.foldl change d

/-- After the changes a row stands under a key: it was added there, and not taken from an equal key
since. -/
def Under (changes : List IndexChange) (key : Row) (id : RowId) : Prop :=
  ∃ before after, changes = before ++ .add key id :: after ∧
    ∀ other, .remove other id ∈ after → Value.orderRows other key ≠ .eq

theorem under_concat_iff (changes : List IndexChange) (c : IndexChange) (key : Row) (id : RowId) :
    Under (changes ++ [c]) key id ↔ c = .add key id ∨
      Under changes key id ∧ ∀ other, c = .remove other id → Value.orderRows other key ≠ .eq := by
  constructor
  · rintro ⟨before, after, cut, kept⟩
    rcases List.eq_nil_or_concat' after with rfl | ⟨earlier, last, rfl⟩
    · obtain ⟨_, same⟩ := List.append_inj' cut rfl
      exact Or.inl (List.cons.inj same).1
    · rw [← List.cons_append, ← List.append_assoc] at cut
      obtain ⟨rfl, same⟩ := List.append_inj' cut rfl
      obtain ⟨rfl, _⟩ := List.cons.inj same
      refine Or.inr ⟨⟨before, earlier, rfl, fun other taken => kept other ?_⟩, ?_⟩
      · exact List.mem_append_left _ taken
      · rintro other rfl
        exact kept other (by simp)
  · rintro (rfl | ⟨⟨before, after, rfl, kept⟩, spared⟩)
    · exact ⟨changes, [], rfl, by simp⟩
    · refine ⟨before, after ++ [c], by simp, fun other taken => ?_⟩
      rcases List.mem_append.mp taken with earlier | last
      · exact kept other earlier
      · exact spared other (List.mem_singleton.mp last).symm

theorem key_of_mem_changeAll {changes : List IndexChange} {e : Row × List RowId}
    (member : e ∈ changeAll [] changes) : ∃ c ∈ changes, c.key = e.1 := by
  induction changes using List.reverseRecOn generalizing e with
  | nil => simp [changeAll] at member
  | append_singleton earlier c ih =>
      rw [changeAll, List.foldl_append] at member
      have origin : e.1 = c.key ∨ ∃ old ∈ changeAll [] earlier, old.1 = e.1 := by
        cases c with
        | add key id => exact key_of_mem_add member
        | remove key id => exact key_of_mem_remove member
      rcases origin with same | ⟨old, there, same⟩
      · exact ⟨c, by simp, same.symm⟩
      · obtain ⟨c, listed, key⟩ := ih there
        exact ⟨c, List.mem_append_left _ listed, key.trans same⟩

section Runs

variable {held : Nat → Value → Prop} {changes : List IndexChange}

theorem comparable_changeAll (total : ∀ position, TotalOn Value.order (held position))
    (keys : ∀ c ∈ changes, Value.Among held c.key) :
    Comparable (Value.Among held) (changeAll [] changes) (Under changes) := by
  refine ⟨Value.totalOn_orderRows total, ?_, ?_⟩
  · intro e member
    obtain ⟨c, listed, same⟩ := key_of_mem_changeAll member
    exact same ▸ keys c listed
  · rintro key id ⟨before, after, rfl, _⟩
    exact keys (.add key id) (by simp)

/-- After any run of changes the index holds what was added and not taken away since. -/
theorem holds_changeAll (total : ∀ position, TotalOn Value.order (held position))
    (keys : ∀ c ∈ changes, Value.Among held c.key) :
    Holds (changeAll [] changes) (Under changes) := by
  induction changes using List.reverseRecOn with
  | nil => exact Holds.nil.congr fun key id => ⟨False.elim, by rintro ⟨_, _, cut, _⟩; simp at cut⟩
  | append_singleton earlier c ih =>
      have before : ∀ c ∈ earlier, Value.Among held c.key :=
        fun c member => keys c (List.mem_append_left _ member)
      have hkey := keys c (by simp)
      have holds := ih before
      have comparable := comparable_changeAll total before
      rw [changeAll, List.foldl_append]
      cases c with
      | add key id =>
          refine (holds.add comparable hkey id).congr fun k i => ?_
          simp [under_concat_iff, IndexChange.key, or_comm, eq_comm]
      | remove key id =>
          refine (holds.remove_under comparable hkey id).congr fun k i => ?_
          simp only [under_concat_iff, reduceCtorEq, false_or, IndexChange.remove.injEq]
          refine and_congr_right fun _ => ⟨?_, ?_⟩
          · rintro kept other ⟨rfl, rfl⟩ equal
            exact kept ⟨equal, rfl⟩
          · rintro kept ⟨equal, rfl⟩
            exact kept key ⟨rfl, rfl⟩ equal

/-! ### What a lookup lists -/

/-- The pairs of an index whose key begins with the given values. -/
def beginning (data : IndexData) (first : Row) : List (Row × RowId) :=
  (data.filter fun e => beginsWith first e.1).flatMap fun e => e.2.map (e.1, ·)

theorem map_beginning (data : IndexData) (first : Row) : (data.beginning first).map (·.2) =
    (data.filter fun e => beginsWith first e.1).flatMap (·.2) := by
  simp [beginning, List.map_flatMap, Function.comp_def]

theorem mem_beginning {data : IndexData} {first : Row} {pair : Row × RowId} :
    pair ∈ data.beginning first ↔
      ∃ e ∈ data, Begins first e.1 ∧ e.1 = pair.1 ∧ pair.2 ∈ e.2 := by
  obtain ⟨key, id⟩ := pair
  simp only [beginning, List.mem_flatMap, List.mem_filter, List.mem_map, Prod.mk.injEq,
    beginsWith_iff]
  constructor
  · rintro ⟨e, ⟨there, begins⟩, i, listed, same, rfl⟩
    exact ⟨e, there, begins, same, listed⟩
  · rintro ⟨e, there, begins, same, listed⟩
    exact ⟨e, ⟨there, begins⟩, id, listed, same, rfl⟩

/-- Pairs stand in the order of their keys, and in the order of the rows within a key. -/
def InOrder (pairs : List (Row × RowId)) : Prop :=
  pairs.Pairwise fun a b => Value.orderRows a.1 b.1 = .lt ∨ (a.1 = b.1 ∧ a.2 < b.2)

theorem Holds.inOrder_beginning {data : IndexData} {pairs : Row → RowId → Prop}
    (holds : Holds data pairs) (first : Row) : InOrder (data.beginning first) := by
  refine List.pairwise_flatMap.mpr ⟨?_, ?_⟩
  · intro e member
    have ascending := holds.ascending e (List.mem_filter.mp member).1
    exact List.pairwise_map.mpr (ascending.imp fun less => Or.inr ⟨rfl, less⟩)
  · refine (holds.increasing.sublist List.filter_sublist).imp fun {a b} less => ?_
    intro x hx y hy
    obtain ⟨_, _, rfl⟩ := List.mem_map.mp hx
    obtain ⟨_, _, rfl⟩ := List.mem_map.mp hy
    exact Or.inl less

/-- A row is listed in one place for each key that it stands under. -/
theorem countP_beginning (total : TotalOn Value.orderRows (Value.Among held))
    {data : IndexData} {pairs : Row → RowId → Prop} (holds : Holds data pairs)
    (comparable : Comparable (Value.Among held) data pairs) {first key : Row} {id : RowId}
    (hfirst : Value.Among held first) (pair : pairs key id) (begins : Begins first key) :
    (data.beginning first).countP (fun listed =>
      listed.2 == id && Value.orderRows key listed.1 == .eq) = 1 := by
  have hkey := comparable.given key id pair
  have stored : ∀ listed ∈ data.beginning first, Value.Among held listed.1 := by
    intro listed member
    obtain ⟨e, there, _, same, _⟩ := mem_beginning.mp member
    exact same ▸ comparable.stored e there
  obtain ⟨e, there, same, member⟩ := holds.complete key id pair
  have listed : (e.1, id) ∈ data.beginning first :=
    mem_beginning.mpr ⟨e, there,
      begins_of_equal total hfirst hkey (comparable.stored e there) same begins, rfl, member⟩
  refine countP_eq_one ?_ listed (by simpa using same)
  refine (holds.inOrder_beginning first).imp_of_mem fun {a b} ha hb ordered both => ?_
  simp only [Bool.and_eq_true, beq_iff_eq] at both
  obtain ⟨⟨rowA, keyA⟩, rowB, keyB⟩ := both
  rcases ordered with less | ⟨_, less⟩
  · have equal := total.eq_trans (stored a ha) hkey (stored b hb)
      (total.symm hkey (stored a ha) keyA) keyB
    simp [equal] at less
  · rw [rowA, rowB] at less
    exact Nat.lt_irrefl id less

/-- **Looking up a beginning is exact.** After any run of changes with keys of any lengths, the rows
that are found are those of a list of pairs in the order of their keys, and of the rows within a
key. Each pair of the list is stored under a key that begins with the given values, each row that
is stored under such a key is in the list exactly once for the key, and where all keys are as long
as the given values, the rows are those of the one key that equals them. -/
theorem withPrefix_lists_stored (total : ∀ position, TotalOn Value.order (held position))
    (keys : ∀ c ∈ changes, Value.Among held c.key) {first : Row}
    (hfirst : Value.Among held first) :
    (∃ listing : List (Row × RowId),
      (changeAll [] changes).withPrefix first = listing.map (·.2) ∧ InOrder listing ∧
      (∀ pair ∈ listing, Begins first pair.1 ∧
        ∃ key, Under changes key pair.2 ∧ Value.orderRows key pair.1 = .eq) ∧
      ∀ key id, Under changes key id → Begins first key →
        listing.countP (fun pair => pair.2 == id && Value.orderRows key pair.1 == .eq) = 1) ∧
    ((∀ c ∈ changes, c.key.length = first.length) →
      (changeAll [] changes).withPrefix first = (changeAll [] changes).get first) := by
  have order := Value.totalOn_orderRows total
  have holds := holds_changeAll total keys
  have comparable := comparable_changeAll total keys
  constructor
  · refine ⟨(changeAll [] changes).beginning first, ?_, holds.inOrder_beginning first, ?_, ?_⟩
    · rw [withPrefix_eq_filter order comparable.stored holds.increasing hfirst, map_beginning]
    · intro pair listed
      obtain ⟨e, there, begins, same, member⟩ := mem_beginning.mp listed
      exact same ▸ ⟨begins, holds.sound e there pair.2 member⟩
    · exact fun key id under begins =>
        countP_beginning order holds comparable hfirst under begins
  · intro long
    refine withPrefix_eq_get holds.increasing order comparable.stored hfirst fun e member => ?_
    obtain ⟨c, listed, same⟩ := key_of_mem_changeAll member
    exact same ▸ long c listed

end Runs

/-- Keys of one, two and three values, of which one loses its row again. -/
def exampleChanges : List IndexChange :=
  [.add [.int 1, .int 7] 4, .add [.int 2] 1, .add [.int 1] 9, .add [.int 1, .int 7] 2,
    .add [.int 1, .int 3, .int 5] 6, .add [.int 0, .int 1] 3, .remove [.int 1, .int 7] 4,
    .add [.int 1, .int 8] 4]

theorem exampleChanges_listed :
    (∀ _ : Nat, TotalOn Value.order fun v => v.fits false) ∧
      (∀ c ∈ exampleChanges, Value.Among (fun _ v => v.fits false) c.key) ∧
      (changeAll [] exampleChanges).withPrefix [.int 1] = [9, 6, 2, 4] ∧
      ∃ listing : List (Row × RowId), [9, 6, 2, 4] = listing.map (·.2) ∧ InOrder listing := by
  have total : ∀ _ : Nat, TotalOn Value.order fun v => v.fits false :=
    fun _ => Value.totalOn_fits false
  have keys : ∀ c ∈ exampleChanges, Value.Among (fun _ v => v.fits false) c.key := by
    have fits : ∀ c ∈ exampleChanges, ∀ v ∈ c.key, v.fits false := by decide
    exact fun c member _ v found => fits c member v (List.mem_of_getElem? found)
  have hfirst : Value.Among (fun _ v => v.fits false) [.int 1] := by
    have fits : ∀ v ∈ ([.int 1] : Row), v.fits false := by decide
    exact fun _ v found => fits v (List.mem_of_getElem? found)
  have found : (changeAll [] exampleChanges).withPrefix [.int 1] = [9, 6, 2, 4] := by decide
  obtain ⟨⟨listing, listed, inOrder, _⟩, _⟩ := withPrefix_lists_stored total keys hfirst
  exact ⟨total, keys, found, listing, found ▸ listed, inOrder⟩

end IndexData

end SqlEngine
