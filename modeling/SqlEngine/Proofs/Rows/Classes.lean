import Mathlib.Data.List.Induction
import Mathlib.Data.List.Perm.Basic
import SqlEngine.Proofs.Storage.KeyTable
import SqlEngine.Proofs.Types.Keys

/-!
Classes of rows.

Items that are the same form classes. A class is known by its first item, and it has the items that
are the same as that one, in their order. Whatever is grouped or kept once looks its classes up in a
table, by the canonical forms of keys; such a table answers as if the keys were compared one by one
under their types.
-/

namespace SqlEngine

/-! ### First items -/

section

variable {α : Type} (same : α → α → Bool)

/-- The items that are the same as none of the earlier ones and as none before them. -/
def newIn : List α → List α → List α
  | _, [] => []
  | earlier, x :: rest =>
    if earlier.any (same · x) then newIn (earlier ++ [x]) rest else x :: newIn (earlier ++ [x]) rest

/-- The first item of each class of items that are the same. -/
def firsts (items : List α) : List α := newIn same [] items

variable {same} {held : α → Prop}

theorem newIn_append (earlier items more : List α) : newIn same earlier (items ++ more) =
    newIn same earlier items ++ newIn same (earlier ++ items) more := by
  induction items generalizing earlier with
  | nil => simp [newIn]
  | cons x rest ih =>
      simp only [List.cons_append, newIn, ih, List.append_assoc, List.nil_append]
      split <;> rfl

theorem firsts_concat (items : List α) (x : α) : firsts same (items ++ [x]) =
    if items.any (same · x) then firsts same items else firsts same items ++ [x] := by
  rw [firsts, newIn_append]
  simp only [newIn, List.nil_append]
  split <;> simp [firsts]

theorem newIn_sublist (earlier items : List α) : (newIn same earlier items).Sublist items := by
  induction items generalizing earlier with
  | nil => exact List.Sublist.slnil
  | cons x rest ih =>
      rw [newIn]
      split
      · exact (ih _).cons x
      · exact (ih _).cons_cons x

theorem firsts_sublist (items : List α) : (firsts same items).Sublist items := newIn_sublist [] items

theorem newIn_eq_nil {earlier items : List α} (repeated : ∀ x ∈ items, earlier.any (same · x)) :
    newIn same earlier items = [] := by
  induction items generalizing earlier with
  | nil => rfl
  | cons x rest ih =>
      obtain ⟨first, others⟩ := List.forall_mem_cons.mp repeated
      rw [newIn, if_pos first]
      refine ih fun y member => ?_
      rw [List.any_append, others y member, Bool.true_or]

theorem firsts_cons (x : α) (rest : List α) :
    firsts same (x :: rest) = x :: newIn same [x] rest := rfl

/-- Being the same is an equivalence of the items that are held. -/
structure SameOn (same : α → α → Bool) (held : α → Prop) : Prop where
  refl : ∀ x, held x → same x x
  symm : ∀ x y, held x → held y → same x y → same y x
  trans : ∀ x y z, held x → held y → held z → same x y → same y z → same x z

theorem SameOn.comap (equivalence : SameOn same held) {β : Type} (f : β → α) :
    SameOn (fun a b => same (f a) (f b)) fun b => held (f b) :=
  ⟨fun _ => equivalence.refl _, fun _ _ => equivalence.symm _ _, fun _ _ _ => equivalence.trans _ _ _⟩

theorem SameOn.exists_newIn (equivalence : SameOn same held) {items : List α} {x : α} :
    ∀ {earlier : List α}, (∀ y ∈ earlier, held y) → (∀ y ∈ items, held y) → x ∈ items →
      (∃ y ∈ earlier, same y x) ∨ ∃ y ∈ newIn same earlier items, same y x := by
  induction items with
  | nil => simp
  | cons z rest ih =>
      intro earlier before each member
      obtain ⟨hz, others⟩ := List.forall_mem_cons.mp each
      have hx : held x := each x member
      have early : same z x → (∃ y ∈ earlier, same y x) ∨
          ∃ y ∈ newIn same earlier (z :: rest), same y x := by
        intro first
        by_cases repeated : earlier.any (same · z)
        · obtain ⟨y, there, again⟩ := List.any_eq_true.mp repeated
          exact .inl ⟨y, there, equivalence.trans y z x (before y there) hz hx again first⟩
        · refine .inr ⟨z, ?_, first⟩
          simp [newIn, repeated]
      rcases List.mem_cons.mp member with rfl | later
      · exact early (equivalence.refl x hx)
      · have held : ∀ y ∈ earlier ++ [z], held y :=
          List.forall_mem_append.mpr ⟨before, List.forall_mem_singleton.mpr hz⟩
        rcases ih held others later with ⟨y, there, again⟩ | ⟨y, there, again⟩
        · rcases List.mem_append.mp there with old | new
          · exact .inl ⟨y, old, again⟩
          · obtain rfl := List.mem_singleton.mp new
            exact early again
        · refine .inr ⟨y, ?_, again⟩
          rw [newIn]
          split
          · exact there
          · exact List.mem_cons_of_mem _ there

/-- Whether an item was there before can be told from the first items alone. -/
theorem SameOn.any_firsts (equivalence : SameOn same held) {items : List α}
    (each : ∀ y ∈ items, held y) {x : α} (hx : held x) :
    (firsts same items).any (same · x) = items.any (same · x) := by
  rw [Bool.eq_iff_iff, List.any_eq_true, List.any_eq_true]
  constructor
  · rintro ⟨y, member, again⟩
    exact ⟨y, (firsts_sublist items).subset member, again⟩
  · rintro ⟨y, member, again⟩
    rcases equivalence.exists_newIn (List.forall_mem_nil held) each member with
      ⟨_, impossible, _⟩ | ⟨z, first, before⟩
    · cases impossible
    · have hz := each z ((firsts_sublist items).subset first)
      exact ⟨z, first, equivalence.trans z y x hz (each y member) hx before again⟩

/-! ### Classes -/

/-- A first item cuts the items in two: it is the same as no earlier one. -/
theorem exists_cut_of_mem_newIn {items : List α} {x : α} : ∀ {earlier : List α},
    x ∈ newIn same earlier items →
      ∃ before after, items = before ++ x :: after ∧ ∀ y ∈ earlier ++ before, ¬same y x := by
  induction items with
  | nil => simp [newIn]
  | cons z rest ih =>
      intro earlier member
      have later : x ∈ newIn same (earlier ++ [z]) rest →
          ∃ before after, z :: rest = before ++ x :: after ∧ ∀ y ∈ earlier ++ before, ¬same y x := by
        intro there
        obtain ⟨before, after, cut, new⟩ := ih there
        exact ⟨z :: before, after, by rw [cut, List.cons_append], by simpa using new⟩
      rw [newIn] at member
      split at member
      · exact later member
      · rename_i new
        rcases List.mem_cons.mp member with rfl | there
        · refine ⟨[], rest, rfl, fun y among again => new ?_⟩
          exact List.any_eq_true.mpr ⟨y, by simpa using among, again⟩
        · exact later there

theorem newIn_pairwise (earlier items : List α) :
    (newIn same earlier items).Pairwise fun a b => ¬same a b := by
  induction items generalizing earlier with
  | nil => exact List.Pairwise.nil
  | cons x rest ih =>
      rw [newIn]
      split
      · exact ih _
      · refine List.pairwise_cons.mpr ⟨fun y member => ?_, ih _⟩
        obtain ⟨before, _, _, new⟩ := exists_cut_of_mem_newIn member
        exact new x (by simp)

/-- The classes of the items, in the order of their first items. -/
def classes (same : α → α → Bool) (items : List α) : List (List α) :=
  (firsts same items).map fun first => items.filter (same first)

namespace SameOn

variable (equivalence : SameOn same held) {items : List α} (each : ∀ y ∈ items, held y)

include equivalence each

/-- A class starts with its first item. -/
theorem find?_first {x : α} (member : x ∈ firsts same items) : items.find? (same x) = some x := by
  obtain ⟨before, after, cut, new⟩ := exists_cut_of_mem_newIn member
  rw [cut] at each ⊢
  have hx : held x := each x (by simp)
  have skipped : before.find? (same x) = none := by
    rw [List.find?_eq_none]
    intro y there again
    exact new y (by simpa using there)
      (equivalence.symm x y hx (each y (by simp [there])) again)
  rw [List.find?_append, skipped, Option.none_or, List.find?_cons, equivalence.refl x hx]

/-- An item that is the same as an earlier one is the same as one first item only. -/
theorem exists_unique_first {x : α} (hx : held x) (again : items.any (same · x)) :
    ∃ before first after, firsts same items = before ++ first :: after ∧ same first x ∧
      ∀ y ∈ before ++ after, ¬same y x := by
  rw [← equivalence.any_firsts each hx, List.any_eq_true] at again
  obtain ⟨first, there, before⟩ := again
  obtain ⟨left, right, cut⟩ := List.append_of_mem there
  have heldFirst : ∀ y ∈ firsts same items, held y :=
    fun y member => each y ((firsts_sublist items).subset member)
  have apart : (firsts same items).Pairwise fun a b => ¬same a b := newIn_pairwise [] items
  rw [cut] at apart
  rw [cut] at heldFirst
  have hfirst := heldFirst first (by simp)
  rw [List.pairwise_append, List.pairwise_cons] at apart
  obtain ⟨_, ⟨behind, _⟩, across⟩ := apart
  refine ⟨left, first, right, cut, before, fun y member both => ?_⟩
  have hy := heldFirst y
    (List.mem_append.mpr ((List.mem_append.mp member).imp_right (List.mem_cons_of_mem _)))
  rcases List.mem_append.mp member with there | there
  · exact across y there first List.mem_cons_self
      (equivalence.trans y x first hy hx hfirst both (equivalence.symm first x hfirst hx before))
  · exact behind y there
      (equivalence.trans first x y hfirst hx hy before (equivalence.symm y x hy hx both))

end SameOn

/-- No item is lost, and none is in two classes. -/
theorem SameOn.flatten_classes_perm (equivalence : SameOn same held) {items : List α} :
    (∀ y ∈ items, held y) → (classes same items).flatten.Perm items := by
  induction items using List.reverseRecOn with
  | nil => exact fun _ => .nil
  | append_singleton items x ih =>
      intro each
      obtain ⟨others, last⟩ := List.forall_mem_append.mp each
      have hx := last x List.mem_cons_self
      have known := ih others
      have grown := (List.flatMap_append_perm (firsts same items) (fun f => items.filter (same f))
        fun f => [x].filter (same f)).symm
      rw [classes, ← List.flatMap_def] at known ⊢
      simp only [List.filter_append]
      rw [firsts_concat]
      split
      · rename_i again
        obtain ⟨before, first, after, cut, alike, apart⟩ :=
          equivalence.exists_unique_first others hx again
        have once : (firsts same items).flatMap (fun f => [x].filter (same f)) = [x] := by
          have none : ∀ part : List α, (∀ y ∈ part, y ∈ before ++ after) →
              part.flatMap (fun f => [x].filter (same f)) = [] := by
            intro part within
            refine List.flatMap_eq_nil_iff.mpr fun y member => ?_
            simp [apart y (within y member)]
          rw [cut, List.flatMap_append, List.flatMap_cons, none before (by simp +contextual),
            none after (by simp +contextual)]
          simp [alike]
        rw [once] at grown
        exact grown.trans (known.append_right [x])
      · rename_i new
        have apart : ∀ y ∈ items, ¬same y x := fun y member alike =>
          new (List.any_eq_true.mpr ⟨y, member, alike⟩)
        have never : (firsts same items).flatMap (fun f => [x].filter (same f)) = [] := by
          refine List.flatMap_eq_nil_iff.mpr fun y member => ?_
          simp [apart y ((firsts_sublist items).subset member)]
        have alone : items.filter (same x) = [] := by
          refine List.filter_eq_nil_iff.mpr fun y member alike => ?_
          exact apart y member (equivalence.symm x y hx (others y member) alike)
        rw [never, List.append_nil] at grown
        have itself : [x].filter (same x) = [x] := by simp [equivalence.refl x hx]
        rw [List.flatMap_append, List.flatMap_singleton, alone, itself, List.nil_append]
        exact (grown.trans known).append_right [x]

end

/-! ### Tables of canonical forms -/

section

variable {types : List SqlType}

theorem Row.sameOn_keys (types : List SqlType) : SameOn (Row.same types) (Row.Keys types) := by
  have total := Row.totalOn_formed types
  refine ⟨fun a ha => ?_, fun a b ha hb equal => ?_, fun a b c ha hb hc first second => ?_⟩
  · exact (Row.canonical_order_eq_iff_same ha ha).mp (total.refl ha.formed)
  · rw [← Row.canonical_order_eq_iff_same ha hb] at equal
    exact (Row.canonical_order_eq_iff_same hb ha).mp (total.symm ha.formed hb.formed equal)
  · rw [← Row.canonical_order_eq_iff_same ha hb] at first
    rw [← Row.canonical_order_eq_iff_same hb hc] at second
    exact (Row.canonical_order_eq_iff_same ha hc).mp
      (total.eq_trans ha.formed hb.formed hc.formed first second)

variable {α : Type} {items : List (Row × α)} {t : KeyTable α} {key : Row}

/-- The table holds the items under the canonical forms of their keys, in its own order. -/
structure KeyTable.Holds (types : List SqlType) (items : List (Row × α)) (t : KeyTable α) : Prop where
  ordered : t.Ordered (Row.Formed types)
  keys : ∀ item ∈ items, Row.Keys types item.1
  entries : t.entries.Perm (items.map fun item => (Row.canonical types item.1, item.2))

namespace KeyTable.Holds

theorem empty (types : List SqlType) : Holds types [] (.empty types : KeyTable α) :=
  ⟨ordered_empty _ types, by simp, by simp [entries_empty]⟩

variable (holds : t.Holds types items) (hkey : Row.Keys types key)

include holds hkey

theorem find?_eq_some_iff (a : α) : t.find? (Row.canonical types key) = some a ↔
    ∃ item ∈ items, Row.same types item.1 key ∧ item.2 = a := by
  rw [holds.ordered.find?_eq_some_iff (Row.totalOn_formed types) hkey.formed]
  constructor
  · rintro ⟨e, member, equal, rfl⟩
    obtain ⟨item, there, rfl⟩ := List.mem_map.mp (holds.entries.mem_iff.mp member)
    have hitem := holds.keys item there
    have again := (Row.canonical_order_eq_iff_same hkey hitem).mp equal
    exact ⟨item, there, (Row.sameOn_keys types).symm _ _ hkey hitem again, rfl⟩
  · rintro ⟨item, there, again, rfl⟩
    have hitem := holds.keys item there
    refine ⟨_, holds.entries.mem_iff.mpr (List.mem_map_of_mem there), ?_, rfl⟩
    exact (Row.canonical_order_eq_iff_same hkey hitem).mpr
      ((Row.sameOn_keys types).symm _ _ hitem hkey again)

theorem find?_eq_none_iff : t.find? (Row.canonical types key) = none ↔
    ∀ item ∈ items, ¬Row.same types item.1 key := by
  rw [Option.eq_none_iff_forall_ne_some]
  constructor
  · exact fun none item there again =>
      none item.2 ((holds.find?_eq_some_iff hkey item.2).mpr ⟨item, there, again, rfl⟩)
  · intro none a found
    obtain ⟨item, there, again, _⟩ := (holds.find?_eq_some_iff hkey a).mp found
    exact none item there again

theorem insert (absent : t.find? (Row.canonical types key) = none) (a : α) :
    (t.insert (Row.canonical types key) a).Holds types (items ++ [(key, a)]) := by
  have total := Row.totalOn_formed types
  refine ⟨holds.ordered.insert total hkey.formed absent a,
    List.forall_mem_append.mpr ⟨holds.keys, List.forall_mem_singleton.mpr hkey⟩, ?_⟩
  obtain ⟨before, after, cut, _, added⟩ := holds.ordered.exists_vacant total hkey.formed absent a
  have entries := holds.entries
  rw [cut] at entries
  rw [added, List.map_append]
  exact (List.perm_middle.trans (entries.cons _)).trans (List.perm_append_singleton _ _).symm

end KeyTable.Holds

end

end SqlEngine
