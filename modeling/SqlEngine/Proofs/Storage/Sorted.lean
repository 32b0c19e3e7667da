import Mathlib.Data.List.Basic
import SqlEngine.Storage.Sorted

/-!
Ordered lists as maps.

The comparison need not be a total order of all keys: it is enough that it is one of the keys that
are stored and of the key that is looked for.
-/

namespace SqlEngine

theorem isLE_then {o p : Ordering} : (o.then p).isLE ↔ o = .lt ∨ (o = .eq ∧ p.isLE) := by
  cases o <;> simp

/-- The comparison is a total order of the keys that `held` describes. Keys that compare as equal
need not be the same. -/
structure TotalOn {κ : Type} (cmp : κ → κ → Ordering) (held : κ → Prop) : Prop where
  swap : ∀ a b, held a → held b → cmp b a = (cmp a b).swap
  trans : ∀ a b c, held a → held b → held c → (cmp a b).isLE → (cmp b c).isLE → (cmp a c).isLE

namespace TotalOn

variable {κ : Type} {cmp : κ → κ → Ordering} {held : κ → Prop} {a b c : κ}

theorem mono (total : TotalOn cmp held) {fewer : κ → Prop} (within : ∀ k, fewer k → held k) :
    TotalOn cmp fewer :=
  ⟨fun a b ha hb => total.swap a b (within a ha) (within b hb),
    fun a b c ha hb hc => total.trans a b c (within a ha) (within b hb) (within c hc)⟩

theorem refl (total : TotalOn cmp held) (ha : held a) : cmp a a = .eq := by
  have same := total.swap a a ha ha
  cases order : cmp a a <;> simp_all

theorem symm (total : TotalOn cmp held) (ha : held a) (hb : held b) (equal : cmp a b = .eq) :
    cmp b a = .eq := by
  rw [total.swap a b ha hb, equal, Ordering.swap]

theorem gt_iff_lt (total : TotalOn cmp held) (ha : held a) (hb : held b) :
    cmp a b = .gt ↔ cmp b a = .lt := by
  rw [total.swap a b ha hb]
  cases cmp a b <;> simp

theorem lt_of_le_of_lt (total : TotalOn cmp held) (ha : held a) (hb : held b) (hc : held c)
    (first : (cmp a b).isLE) (second : cmp b c = .lt) : cmp a c = .lt := by
  have below : (cmp a c).isLE := total.trans a b c ha hb hc first (by simp [second])
  cases order : cmp a c with
  | lt => rfl
  | gt => simp [order] at below
  | eq =>
      have back : (cmp c b).isLE :=
        total.trans c a b hc ha hb (by simp [total.symm ha hc order]) first
      rw [total.swap b c hb hc, second] at back
      simp at back

theorem lt_of_lt_of_le (total : TotalOn cmp held) (ha : held a) (hb : held b) (hc : held c)
    (first : cmp a b = .lt) (second : (cmp b c).isLE) : cmp a c = .lt := by
  have below : (cmp a c).isLE := total.trans a b c ha hb hc (by simp [first]) second
  cases order : cmp a c with
  | lt => rfl
  | gt => simp [order] at below
  | eq =>
      have back : (cmp b a).isLE :=
        total.trans b c a hb hc ha second (by simp [total.symm ha hc order])
      rw [total.swap a b ha hb, first] at back
      simp at back

theorem lt_trans (total : TotalOn cmp held) (ha : held a) (hb : held b) (hc : held c)
    (first : cmp a b = .lt) (second : cmp b c = .lt) : cmp a c = .lt :=
  total.lt_of_lt_of_le ha hb hc first (by simp [second])

theorem eq_trans (total : TotalOn cmp held) (ha : held a) (hb : held b) (hc : held c)
    (first : cmp a b = .eq) (second : cmp b c = .eq) : cmp a c = .eq := by
  have below : (cmp a c).isLE := total.trans a b c ha hb hc (by simp [first]) (by simp [second])
  have above : (cmp c a).isLE :=
    total.trans c b a hc hb ha (by simp [total.symm hb hc second]) (by simp [total.symm ha hb first])
  rw [total.swap a c ha hc] at above
  cases order : cmp a c <;> simp_all

/-- One step of a lexicographic order: what comes later counts where the first parts are equal. -/
theorem then_trans (total : TotalOn cmp held) (ha : held a) (hb : held b) (hc : held c)
    {o p q : Ordering} (later : cmp a b = .eq → cmp b c = .eq → o.isLE → p.isLE → q.isLE)
    (first : ((cmp a b).then o).isLE) (second : ((cmp b c).then p).isLE) :
    ((cmp a c).then q).isLE := by
  rw [isLE_then] at first second ⊢
  rcases first with less | ⟨equal, firstTail⟩
  · rcases second with more | ⟨same, _⟩
    · exact Or.inl (total.lt_trans ha hb hc less more)
    · exact Or.inl (total.lt_of_lt_of_le ha hb hc less (by simp [same]))
  · rcases second with more | ⟨same, secondTail⟩
    · exact Or.inl (total.lt_of_le_of_lt ha hb hc (by simp [equal]) more)
    · exact Or.inr ⟨total.eq_trans ha hb hc equal same, later equal same firstTail secondTail⟩

/-- Where keys of different ranks are ordered by their ranks, it is enough to look at keys of one
rank. -/
theorem of_rank (rank : κ → Nat)
    (ranked : ∀ a b, held a → held b → rank a ≠ rank b → cmp a b = compare (rank a) (rank b))
    (swap : ∀ a b, held a → held b → rank a = rank b → cmp b a = (cmp a b).swap)
    (trans : ∀ a b c, held a → held b → held c → rank a = rank b → rank b = rank c →
      (cmp a b).isLE → (cmp b c).isLE → (cmp a c).isLE) : TotalOn cmp held := by
  have rank_le : ∀ a b, held a → held b → (cmp a b).isLE → rank a ≤ rank b := by
    intro a b ha hb below
    by_cases same : rank a = rank b
    · exact Nat.le_of_eq same
    · rwa [ranked a b ha hb same, Nat.isLE_compare] at below
  constructor
  · intro a b ha hb
    by_cases same : rank a = rank b
    · exact swap a b ha hb same
    · rw [ranked a b ha hb same, ranked b a hb ha (Ne.symm same), Nat.compare_swap]
  · intro a b c ha hb hc first second
    have lower := rank_le a b ha hb first
    have upper := rank_le b c hb hc second
    by_cases same : rank a = rank c
    · exact trans a b c ha hb hc (by omega) (by omega) first second
    · rw [ranked a c ha hc same, Nat.isLE_compare]
      omega

/-- Numbers are totally ordered. -/
theorem of_transCmp [Std.TransCmp cmp] (held : κ → Prop) : TotalOn cmp held :=
  ⟨fun _ _ _ _ => Std.OrientedCmp.eq_swap, fun _ _ _ _ _ _ => Std.TransCmp.isLE_trans⟩

end TotalOn

namespace Sorted

variable {κ α : Type} {cmp : κ → κ → Ordering} {held : κ → Prop}

/-- The keys increase from one entry to the next. -/
def Increasing (cmp : κ → κ → Ordering) (entries : List (κ × α)) : Prop :=
  entries.Pairwise fun a b => cmp a.1 b.1 = .lt

/-! ### The place of a key -/

/-- A list cut at the place of a key: the entries before it, the entry of an equal key, if there is
one, and the entries behind it. -/
structure Place (cmp : κ → κ → Ordering) (key : κ) (before : List (κ × α))
    (found : Option (κ × α)) (after : List (κ × α)) : Prop where
  before : ∀ e ∈ before, cmp key e.1 = .gt
  found : ∀ e ∈ found, cmp key e.1 = .eq
  after : ∀ e ∈ after, cmp key e.1 = .lt

theorem exists_place (total : TotalOn cmp held) {key : κ} (hkey : held key) :
    ∀ entries : List (κ × α), (∀ e ∈ entries, held e.1) → Increasing cmp entries →
      ∃ before found after, entries = before ++ found.toList ++ after ∧
        Place cmp key before found after := by
  intro entries
  induction entries with
  | nil => exact fun _ _ => ⟨[], none, [], rfl, by simp, by simp, by simp⟩
  | cons e rest ih =>
      intro keys increasing
      obtain ⟨later, increasingRest⟩ := List.pairwise_cons.mp increasing
      have he : held e.1 := keys e List.mem_cons_self
      have keysRest : ∀ e ∈ rest, held e.1 := fun e member => keys e (List.mem_cons_of_mem _ member)
      cases order : cmp key e.1 with
      | lt =>
          refine ⟨[], none, e :: rest, rfl, by simp, by simp, ?_⟩
          intro other member
          rcases List.mem_cons.mp member with rfl | member
          · exact order
          · exact total.lt_trans hkey he (keysRest _ member) order (later _ member)
      | eq =>
          refine ⟨[], some e, rest, rfl, by simp, by simpa using order, ?_⟩
          intro other member
          exact total.lt_of_le_of_lt hkey he (keysRest _ member) (by simp [order]) (later _ member)
      | gt =>
          obtain ⟨before, found, after, rfl, place⟩ := ih keysRest increasingRest
          refine ⟨e :: before, found, after, rfl, ?_, place.found, place.after⟩
          intro other member
          rcases List.mem_cons.mp member with rfl | member
          · exact order
          · exact place.before other member

section Cut

variable {key : κ} {before : List (κ × α)} {found : Option (κ × α)} {after : List (κ × α)}

theorem find?_place (place : Place cmp key before found after) :
    find? cmp key (before ++ found.toList ++ after) = found.map (·.2) := by
  induction before with
  | nil =>
      cases found with
      | none =>
          cases after with
          | nil => rfl
          | cons e rest => simp [find?, place.after e List.mem_cons_self]
      | some e => simp [find?, place.found e rfl]
  | cons e rest ih =>
      have smaller : Place cmp key rest found after :=
        ⟨fun other member => place.before other (List.mem_cons_of_mem _ member), place.found,
          place.after⟩
      simpa [find?, place.before e List.mem_cons_self] using ih smaller

theorem alter_place (place : Place cmp key before found after) (f : Option α → Option α) :
    alter cmp key f (before ++ found.toList ++ after) =
      before ++ (f (found.map (·.2))).toList.map ((found.map (·.1)).getD key, ·) ++ after := by
  induction before with
  | nil =>
      cases found with
      | none =>
          cases after with
          | nil => simp [alter]
          | cons e rest => simp [alter, place.after e List.mem_cons_self]
      | some e => simp [alter, place.found e rfl]
  | cons e rest ih =>
      have smaller : Place cmp key rest found after :=
        ⟨fun other member => place.before other (List.mem_cons_of_mem _ member), place.found,
          place.after⟩
      simpa [alter, place.before e List.mem_cons_self] using ih smaller

end Cut

/-! ### Laws -/

variable {entries : List (κ × α)} {key : κ}

/-- A change brings no other key than its own. -/
theorem key_of_mem_alter (f : Option α → Option α) {e : κ × α}
    (member : e ∈ alter cmp key f entries) : e.1 = key ∨ ∃ old ∈ entries, old.1 = e.1 := by
  induction entries with
  | nil =>
      obtain ⟨a, _, rfl⟩ := List.mem_map.mp member
      exact Or.inl rfl
  | cons first rest ih =>
      simp only [alter] at member
      split at member
      · rcases List.mem_append.mp member with made | old
        · obtain ⟨a, _, rfl⟩ := List.mem_map.mp made
          exact Or.inl rfl
        · exact Or.inr ⟨e, old, rfl⟩
      · rcases List.mem_append.mp member with made | old
        · obtain ⟨a, _, rfl⟩ := List.mem_map.mp made
          exact Or.inr ⟨first, List.mem_cons_self, rfl⟩
        · exact Or.inr ⟨e, List.mem_cons_of_mem _ old, rfl⟩
      · rcases List.mem_cons.mp member with rfl | later
        · exact Or.inr ⟨_, List.mem_cons_self, rfl⟩
        · rcases ih later with same | ⟨old, held, same⟩
          · exact Or.inl same
          · exact Or.inr ⟨old, List.mem_cons_of_mem _ held, same⟩

theorem find?_eq_some_iff (total : TotalOn cmp held) (keys : ∀ e ∈ entries, held e.1)
    (increasing : Increasing cmp entries) (hkey : held key) (a : α) :
    find? cmp key entries = some a ↔ ∃ e ∈ entries, cmp key e.1 = .eq ∧ e.2 = a := by
  obtain ⟨before, found, after, rfl, place⟩ := exists_place total hkey entries keys increasing
  rw [find?_place place, Option.map_eq_some_iff]
  constructor
  · rintro ⟨e, rfl, rfl⟩
    exact ⟨e, by simp, place.found e rfl, rfl⟩
  · rintro ⟨e, member, equal, rfl⟩
    simp only [List.mem_append, Option.mem_toList] at member
    rcases member with (member | member) | member
    · simp [place.before e member] at equal
    · exact ⟨e, member, rfl⟩
    · simp [place.after e member] at equal

/-- What an entry of an altered map is: an entry of another key that was there before, or what the
change made of the entry of this key. -/
theorem mem_alter_iff (total : TotalOn cmp held) (keys : ∀ e ∈ entries, held e.1)
    (increasing : Increasing cmp entries) (hkey : held key) (f : Option α → Option α) :
    ∃ stored, (stored = key ∨ ∃ e ∈ entries, e.1 = stored) ∧ cmp key stored = .eq ∧
      ∀ e, e ∈ alter cmp key f entries ↔
        (e ∈ entries ∧ cmp key e.1 ≠ .eq) ∨
          (e.1 = stored ∧ f (find? cmp key entries) = some e.2) := by
  obtain ⟨before, found, after, rfl, place⟩ := exists_place total hkey entries keys increasing
  refine ⟨(found.map (·.1)).getD key, ?_, ?_, ?_⟩
  · cases found with
    | none => exact Or.inl rfl
    | some e => exact Or.inr ⟨e, by simp, rfl⟩
  · cases found with
    | none => exact total.refl hkey
    | some e => exact place.found e rfl
  · intro e
    rw [alter_place place, find?_place place]
    have outside : (e ∈ before ++ found.toList ++ after ∧ cmp key e.1 ≠ .eq) ↔
        e ∈ before ∨ e ∈ after := by
      simp only [List.mem_append, Option.mem_toList]
      constructor
      · rintro ⟨(member | member) | member, different⟩
        · exact Or.inl member
        · exact absurd (place.found e member) different
        · exact Or.inr member
      · rintro (member | member)
        · exact ⟨Or.inl (Or.inl member), by simp [place.before e member]⟩
        · exact ⟨Or.inr member, by simp [place.after e member]⟩
    rw [outside]
    simp only [List.mem_append, List.mem_map, Option.mem_toList]
    constructor
    · rintro ((member | ⟨a, made, rfl⟩) | member)
      · exact Or.inl (Or.inl member)
      · exact Or.inr ⟨rfl, made⟩
      · exact Or.inl (Or.inr member)
    · rintro ((member | member) | ⟨stored, made⟩)
      · exact Or.inl (Or.inl member)
      · exact Or.inr member
      · exact Or.inl (Or.inr ⟨e.2, made, by rw [← stored]⟩)

/-- An entry may be put in the place of a key without leaving the order. -/
theorem Place.increasing {before after : List (κ × α)} {found : Option (κ × α)}
    (total : TotalOn cmp held) (place : Place cmp key before found after)
    (keys : ∀ e ∈ before ++ found.toList ++ after, held e.1)
    (increasing : Increasing cmp (before ++ found.toList ++ after)) (hkey : held key)
    {stored : κ} (hstored : held stored) (equal : cmp key stored = .eq) (made : Option α) :
    Increasing cmp (before ++ made.toList.map (stored, ·) ++ after) := by
  obtain ⟨front, behind, apart⟩ := List.pairwise_append.mp increasing
  obtain ⟨first, _, _⟩ := List.pairwise_append.mp front
  have atStored : ∀ e ∈ made.toList.map (stored, ·), e.1 = stored := by
    intro e member
    obtain ⟨a, _, rfl⟩ := List.mem_map.mp member
    rfl
  refine List.pairwise_append.mpr ⟨List.pairwise_append.mpr ⟨first, ?_, ?_⟩, behind, ?_⟩
  · cases made <;> simp
  · intro e member other there
    have he : held e.1 := keys e (by simp [member])
    rw [atStored other there]
    exact total.lt_of_lt_of_le he hkey hstored ((total.gt_iff_lt hkey he).mp (place.before e member))
      (by simp [equal])
  · intro e member other laterMember
    rcases List.mem_append.mp member with member | member
    · exact apart e (List.mem_append_left _ member) other laterMember
    · have hother : held other.1 := keys other (by simp [laterMember])
      rw [atStored e member]
      exact total.lt_of_le_of_lt hstored hkey hother (by simp [total.symm hkey hstored equal])
        (place.after other laterMember)

theorem increasing_alter (total : TotalOn cmp held) (keys : ∀ e ∈ entries, held e.1)
    (increasing : Increasing cmp entries) (hkey : held key) (f : Option α → Option α) :
    Increasing cmp (alter cmp key f entries) := by
  obtain ⟨before, found, after, rfl, place⟩ := exists_place total hkey entries keys increasing
  rw [alter_place place]
  cases found with
  | none => exact place.increasing total keys increasing hkey hkey (total.refl hkey) _
  | some e =>
      exact place.increasing total keys increasing hkey (keys e (by simp)) (place.found e rfl) _

/-! ### Keys that are the same if they compare as equal -/

section Lawful

variable {κ α : Type} [Ord κ] [Std.TransOrd κ] [Std.LawfulEqOrd κ] [DecidableEq κ]
  {entries : List (κ × α)}

theorem lookup_eq_find? (increasing : Increasing compare entries) (key : κ) :
    entries.lookup key = find? compare key entries := by
  induction entries with
  | nil => rfl
  | cons e rest ih =>
      obtain ⟨later, increasingRest⟩ := List.pairwise_cons.mp increasing
      obtain ⟨id, a⟩ := e
      rw [List.lookup_cons, find?]
      by_cases same : key = id
      · simp [same]
      · have missed : (key == id) = false := by simpa using same
        rw [missed, ih increasingRest]
        cases order : compare key id with
        | lt =>
            cases found : find? compare key rest with
            | none => rfl
            | some b =>
                rw [find?_eq_some_iff (.of_transCmp fun _ => True) (fun _ _ => trivial) increasingRest
                  trivial] at found
                obtain ⟨other, member, equal, _⟩ := found
                have above : compare id other.1 = .lt := later other member
                rw [← Std.LawfulEqOrd.eq_of_compare equal, Std.OrientedOrd.eq_swap, order] at above
                cases above
        | eq => exact absurd (Std.LawfulEqOrd.eq_of_compare order) same
        | gt => rfl

theorem mem_iff_lookup (increasing : Increasing compare entries) (key : κ) (a : α) :
    entries.lookup key = some a ↔ (key, a) ∈ entries := by
  rw [lookup_eq_find? increasing, find?_eq_some_iff (.of_transCmp fun _ => True) (fun _ _ => trivial)
    increasing trivial]
  constructor
  · rintro ⟨⟨id, b⟩, member, equal, rfl⟩
    rwa [Std.LawfulEqOrd.eq_of_compare equal]
  · exact fun member => ⟨(key, a), member, by simp, rfl⟩

omit [Std.LawfulEqOrd κ] [DecidableEq κ] in
theorem Increasing.alter (increasing : Increasing compare entries) (key : κ)
    (f : Option α → Option α) : Increasing compare (alter compare key f entries) :=
  increasing_alter (.of_transCmp fun _ => True) (fun _ _ => trivial) increasing trivial f

theorem mem_alter (increasing : Increasing compare entries) (key : κ) (f : Option α → Option α)
    (id : κ) (a : α) :
    (id, a) ∈ alter compare key f entries ↔
      ((id, a) ∈ entries ∧ id ≠ key) ∨ (id = key ∧ f (entries.lookup key) = some a) := by
  obtain ⟨stored, _, equal, members⟩ :=
    mem_alter_iff (.of_transCmp fun _ => True) (fun _ _ => trivial) increasing
      (show (fun _ : κ => True) key from trivial) f
  have same := Std.LawfulEqOrd.eq_of_compare equal
  subst same
  rw [members, lookup_eq_find? increasing]
  simp only [ne_eq, Std.LawfulEqOrd.compare_eq_iff_eq]
  constructor
  · rintro (⟨member, different⟩ | made)
    · exact Or.inl ⟨member, fun same => different same.symm⟩
    · exact Or.inr made
  · rintro (⟨member, different⟩ | made)
    · exact Or.inl ⟨member, fun same => different same.symm⟩
    · exact Or.inr made

theorem lookup_alter (increasing : Increasing compare entries) (key id : κ)
    (f : Option α → Option α) :
    (alter compare key f entries).lookup id =
      if id = key then f (entries.lookup key) else entries.lookup id := by
  apply Option.ext
  intro a
  rw [mem_iff_lookup (increasing.alter key f), mem_alter increasing]
  by_cases same : id = key
  · simp [same]
  · simp [same, mem_iff_lookup increasing]

/-- Another value in the place of the one that a key has. -/
theorem insert_split {key : κ} {a : α} (increasing : Increasing compare entries) (member : (key, a) ∈ entries) :
    ∃ before after, entries = before ++ (key, a) :: after ∧
      ∀ b, insert compare key b entries = before ++ (key, b) :: after := by
  obtain ⟨before, found, after, cut, place⟩ := exists_place (.of_transCmp fun _ => True)
    (show (fun _ : κ => True) key from trivial) entries (fun _ _ => trivial) increasing
  have there := (mem_iff_lookup increasing key a).mpr member
  rw [lookup_eq_find? increasing, cut, find?_place place] at there
  cases found with
  | none => cases there
  | some e =>
      obtain ⟨id, held⟩ := e
      cases there
      obtain rfl := Std.LawfulEqOrd.eq_of_compare (place.found _ rfl)
      refine ⟨before, after, by simp [cut], fun b => ?_⟩
      rw [insert, cut, alter_place place]
      simp

end Lawful

end Sorted

end SqlEngine
