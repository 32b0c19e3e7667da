import SqlEngine.Proofs.Storage.Sorted
import SqlEngine.Storage.KeyTable

/-!
What tables of keys hold.

The entries of a search tree, read from the left to the right, are a list in order, and wherever the
comparison is a total order of the keys, searching the tree and adding to it is searching that list
and adding to it. The shape of the tree does not matter: neither the depth of its leaves nor the
places where full nodes were split.
-/

namespace SqlEngine

variable {κ α : Type} {cmp : κ → κ → Ordering} {key : κ} {value : α}

/-- An entry of a list that is cut in two stands in one of the parts. -/
theorem append_cons_eq_append {β : Type} {x : β} {left right before after : List β}
    (cut : left ++ x :: right = before ++ after) :
    (∃ inner, before = left ++ x :: inner ∧ right = inner ++ after) ∨
      ∃ inner, after = inner ++ x :: right ∧ left = before ++ inner := by
  rcases List.append_eq_append_iff.mp cut with ⟨inner, front, back⟩ | ⟨inner, front, back⟩
  · cases inner with
    | nil => exact .inr ⟨[], by simpa using back.symm, by simpa using front.symm⟩
    | cons y inner =>
        obtain ⟨rfl, rfl⟩ := List.cons.inj back
        exact .inl ⟨inner, front, rfl⟩
  · exact .inr ⟨inner, back, front⟩

/-! ### The entries of a tree -/

mutual

def SearchTree.entries : SearchTree κ α → List (κ × α)
  | .leaf entries => entries
  | .node branches => branches.entries

def Branches.entries : Branches κ α → List (κ × α)
  | .last tree => tree.entries
  | .cons tree key value rest => tree.entries ++ (key, value) :: rest.entries

end

namespace SearchTree

/-- A key that is there may be told from the entries that stand on its sides. -/
theorem leaf_find? {before : List (κ × α)} {found : Option (κ × α)} {after : List (κ × α)}
    (place : Sorted.Place cmp key before found after) :
    find? cmp key (leaf (before ++ found.toList ++ after)) = found.map (·.2) := by
  have skipped : before.find? (fun e => cmp key e.1 != .gt) = none := by
    rw [List.find?_eq_none]
    intro e member
    simp [place.before e member]
  rw [find?, List.append_assoc, List.find?_append, skipped, Option.none_or]
  cases found with
  | some e => simp [place.found e rfl]
  | none =>
      cases after with
      | nil => rfl
      | cons e rest => simp [place.after e List.mem_cons_self]

mutual

theorem find?_place : ∀ (tree : SearchTree κ α) {before : List (κ × α)} {found : Option (κ × α)}
    {after : List (κ × α)}, tree.entries = before ++ found.toList ++ after →
      Sorted.Place cmp key before found after → tree.find? cmp key = found.map (·.2)
  | .leaf entries, before, found, after, cut, place => by
      have cut : entries = before ++ found.toList ++ after := cut
      rw [cut]
      exact leaf_find? place
  | .node branches, _, _, _, cut, place => findAmong?_place branches cut place

theorem findAmong?_place : ∀ (branches : Branches κ α) {before : List (κ × α)}
    {found : Option (κ × α)} {after : List (κ × α)},
      branches.entries = before ++ found.toList ++ after →
        Sorted.Place cmp key before found after → findAmong? cmp key branches = found.map (·.2)
  | .last tree, _, _, _, cut, place => find?_place tree cut place
  | .cons tree held v rest, before, found, after, cut, place => by
      rw [Branches.entries] at cut
      rw [findAmong?]
      rcases append_cons_eq_append cut with ⟨inner, front, back⟩ | ⟨inner, back, front⟩
      · -- the key of the node is not behind the place
        rcases append_cons_eq_append front.symm with ⟨first, rfl, tail⟩ | ⟨first, isFound, left⟩
        · have beyond : cmp key held = .gt := place.before (held, v) (by simp)
          rw [beyond]
          refine findAmong?_place rest (back.trans (congrArg (· ++ after) tail)) ?_
          exact ⟨fun e member => place.before e (by simp [member]), place.found, place.after⟩
        · cases found with
          | none => simp at isFound
          | some e =>
              have only : inner = [] ∧ first = [] ∧ e = (held, v) := by
                cases first with
                | nil => simpa [eq_comm, and_comm] using isFound
                | cons x first => simp at isFound
              obtain ⟨rfl, rfl, rfl⟩ := only
              rw [show cmp key held = .eq from place.found (held, v) rfl]
              rfl
      · have below : cmp key held = .lt := place.after (held, v) (by simp [back])
        rw [below]
        refine find?_place tree front ⟨place.before, place.found, fun e member => ?_⟩
        exact place.after e (by simp [back, member])

end

/-! ### Growing -/

/-- The entries of what became of a tree. -/
def Grown.entries : Grown κ α → List (κ × α)
  | .whole tree => tree.entries
  | .split left key value right => left.entries ++ (key, value) :: right.entries

theorem entries_settleLeaf (added : Nat) (entries : List (κ × α)) :
    (settleLeaf added entries).entries = entries := by
  unfold settleLeaf
  split
  · rfl
  · have whole := List.take_append_drop (middle added) entries
    split <;> rename_i cut <;> rw [List.splitAt_eq] at cut <;> obtain ⟨rfl, behind⟩ := Prod.mk.inj cut
    · rw [behind] at whole
      exact whole
    · rw [behind, List.append_nil] at whole
      exact whole

theorem entries_splitAt? : ∀ {branches : Branches κ α} {position : Nat} {before : Branches κ α}
    {key : κ} {value : α} {behind : Branches κ α},
      branches.splitAt? position = some (before, key, value, behind) →
        branches.entries = before.entries ++ (key, value) :: behind.entries
  | .last _, position, _, _, _, _, given => by
      cases position <;> cases given
  | .cons tree held v rest, 0, _, _, _, _, given => by
      cases given
      rfl
  | .cons tree held v rest, position + 1, before, key, value, behind, given => by
      obtain ⟨⟨front, back⟩, found, same⟩ := Option.map_eq_some_iff.mp given
      obtain ⟨rfl, rfl⟩ := Prod.mk.inj same
      rw [Branches.entries, Branches.entries, entries_splitAt? found, List.append_assoc]
      rfl

theorem entries_settleNode (added : Option Nat) (branches : Branches κ α) :
    (settleNode added branches).entries = branches.entries := by
  unfold settleNode
  split
  · rfl
  · split
    · rename_i found
      obtain ⟨position, _, found⟩ := Option.bind_eq_some_iff.mp found
      exact (entries_splitAt? found).symm
    · rfl

mutual

/-- A key that is not there is added at its place. -/
theorem entries_grow : ∀ (tree : SearchTree κ α) {before after : List (κ × α)},
    tree.entries = before ++ after → Sorted.Place cmp key before none after →
      (grow cmp key value tree).entries = before ++ (key, value) :: after
  | .leaf entries, before, after, cut, place => by
      have cut : entries = before ++ after := cut
      have front : entries.takeWhile (fun e => cmp key e.1 == .gt) = before := by
        have stops : after.takeWhile (fun e => cmp key e.1 == .gt) = [] := by
          cases after with
          | nil => rfl
          | cons e rest => simp [place.after e List.mem_cons_self]
        rw [cut, List.takeWhile_append_of_pos fun e member => by simp [place.before e member], stops,
          List.append_nil]
      rw [grow]
      simp only [front]
      rw [entries_settleLeaf, cut, List.drop_left]
  | .node branches, _, _, cut, place => by
      rw [grow, entries_settleNode]
      exact entries_growAmong branches cut place

theorem entries_growAmong : ∀ (branches : Branches κ α) {before after : List (κ × α)},
    branches.entries = before ++ after → Sorted.Place cmp key before none after →
      (growAmong cmp key value branches).1.entries = before ++ (key, value) :: after
  | .last tree, _, _, cut, place => by
      have grown := entries_grow tree cut place
      rw [growAmong]
      split <;> rename_i became <;> rw [became] at grown <;> exact grown
  | .cons tree held v rest, before, after, cut, place => by
      rw [Branches.entries] at cut
      rw [growAmong]
      rcases append_cons_eq_append cut with ⟨inner, front, back⟩ | ⟨inner, back, front⟩
      · have beyond : cmp key held = .gt := place.before (held, v) (by simp [front])
        have grown := entries_growAmong rest back
          ⟨fun e member => place.before e (by simp [front, member]), place.found, place.after⟩
        simp only [beyond, beq_self_eq_true, if_true, Branches.entries]
        rw [grown, front, List.append_assoc]
        rfl
      · have below : cmp key held = .lt := place.after (held, v) (by simp [back])
        have grown := entries_grow tree front
          ⟨place.before, place.found, fun e member => place.after e (by simp [back, member])⟩
        have within : (before ++ (key, value) :: inner) ++ (held, v) :: rest.entries =
            before ++ (key, value) :: after := by
          rw [back, List.append_assoc]
          rfl
        rw [← within, ← grown]
        simp only [below, show (Ordering.lt == .gt) = false from rfl, Bool.false_eq_true, if_false]
        split <;> rename_i became <;> rw [became]
        · rfl
        · simp [Branches.entries, Grown.entries]

end

theorem entries_insert {tree : SearchTree κ α} {before after : List (κ × α)}
    (cut : tree.entries = before ++ after) (place : Sorted.Place cmp key before none after) :
    (tree.insert cmp key value).entries = before ++ (key, value) :: after := by
  have grown : (grow cmp key value tree).entries = _ := entries_grow tree cut place
  unfold insert
  split <;> rename_i became <;> rw [became] at grown <;> exact grown

end SearchTree

/-! ### Tables of keys -/

namespace KeyTable

variable {held : Row → Prop} {t : KeyTable α} {key : Row}

def entries : KeyTable α → List (Row × α)
  | list entries => entries
  | tree root => root.entries

/-- The keys of the table are known ones, and they stand in their order. -/
structure Ordered (held : Row → Prop) (t : KeyTable α) : Prop where
  keys : ∀ e ∈ t.entries, held e.1
  increasing : Sorted.Increasing Value.orderRows t.entries

theorem entries_empty (types : List SqlType) : (empty types : KeyTable α).entries = [] := by
  unfold empty
  split <;> rfl

theorem ordered_empty (held : Row → Prop) (types : List SqlType) :
    (empty types : KeyTable α).Ordered held :=
  ⟨by simp [entries_empty], by rw [entries_empty]; exact List.Pairwise.nil⟩

namespace Ordered

variable (ordered : t.Ordered held) (total : TotalOn Value.orderRows held) (hkey : held key)

include ordered total hkey

theorem find?_eq : t.find? key = Sorted.find? Value.orderRows key t.entries := by
  obtain ⟨before, found, after, cut, place⟩ :=
    Sorted.exists_place total hkey t.entries ordered.keys ordered.increasing
  rw [cut, Sorted.find?_place place]
  cases t with
  | list entries =>
      have cut : entries = before ++ found.toList ++ after := cut
      rw [find?, cut, Sorted.find?_place place]
  | tree root => exact SearchTree.find?_place root cut place

theorem find?_eq_some_iff (a : α) :
    t.find? key = some a ↔ ∃ e ∈ t.entries, Value.orderRows key e.1 = .eq ∧ e.2 = a := by
  rw [ordered.find?_eq total hkey]
  exact Sorted.find?_eq_some_iff total ordered.keys ordered.increasing hkey a

variable (absent : t.find? key = none)

include absent

/-- A key that is not there has a place between two entries, and there it is added. -/
theorem exists_vacant (a : α) : ∃ before after, t.entries = before ++ after ∧
    Sorted.Place Value.orderRows key before none after ∧
      (t.insert key a).entries = before ++ (key, a) :: after := by
  rw [ordered.find?_eq total hkey] at absent
  obtain ⟨before, found, after, cut, place⟩ :=
    Sorted.exists_place total hkey t.entries ordered.keys ordered.increasing
  rw [cut, Sorted.find?_place place] at absent
  obtain rfl := Option.map_eq_none_iff.mp absent
  refine ⟨before, after, by simpa using cut, place, ?_⟩
  cases t with
  | list entries =>
      have cut : entries = before ++ (none : Option (Row × α)).toList ++ after := cut
      rw [KeyTable.insert, KeyTable.entries, cut, Sorted.insert, Sorted.alter_place place]
      simp
  | tree root =>
      have cut : root.entries = before ++ after := by simpa [KeyTable.entries] using cut
      exact SearchTree.entries_insert cut place

theorem mem_insert (a : α) (e : Row × α) :
    e ∈ (t.insert key a).entries ↔ e ∈ t.entries ∨ e = (key, a) := by
  obtain ⟨before, after, cut, _, added⟩ := ordered.exists_vacant total hkey absent a
  rw [added, cut]
  simp only [List.mem_append, List.mem_cons]
  tauto

theorem insert (a : α) : (t.insert key a).Ordered held := by
  constructor
  · intro e member
    rcases (ordered.mem_insert total hkey absent a e).mp member with old | rfl
    · exact ordered.keys e old
    · exact hkey
  · obtain ⟨before, after, cut, place, added⟩ := ordered.exists_vacant total hkey absent a
    have whole : t.entries = before ++ (none : Option (Row × α)).toList ++ after := by simpa using cut
    have keys := ordered.keys
    have increasing := ordered.increasing
    rw [whole] at keys increasing
    rw [added]
    simpa using place.increasing total keys increasing hkey hkey (total.refl hkey) (some a)

end Ordered

end KeyTable

end SqlEngine
