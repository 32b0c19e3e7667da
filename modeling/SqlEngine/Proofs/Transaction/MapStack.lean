import Mathlib.Data.List.Nodup
import Mathlib.Logic.Function.Basic
import SqlEngine.Storage.Transaction

/-!
Transactions as stacks of maps: opening a level pushes a copy of the top map, committing one puts
the top map in the place of the map below it, and rolling back pops. Every run of operations that
starts at an empty root gives the answers that the stack of maps allows.
-/

namespace SqlEngine

/-! ### Levels

What the levels of a transaction hold: how writing, removing and merging change the entries that
are read through them, and the shape of the chain that every operation keeps. -/

namespace Entries

variable {κ ν : Type} [DecidableEq κ]

omit [DecidableEq κ] in
/-- No key has two entries. -/
def Distinct (entries : List (κ × ν)) : Prop := (entries.map (·.1)).Nodup

@[simp] theorem lookup_erase (key target : κ) (entries : List (κ × ν)) :
    (erase key entries).lookup target = if target = key then none else entries.lookup target := by
  induction entries with
  | nil => simp [erase]
  | cons entry rest ih =>
      obtain ⟨held, value⟩ := entry
      simp only [erase] at ih ⊢
      by_cases dropped : held = key
      · subst held
        rw [List.filter_cons_of_neg (by simp), ih]
        by_cases same : target = key
        · simp [same]
        · have missed : (target == key) = false := by simpa using same
          simp [same, List.lookup_cons, missed]
      · rw [List.filter_cons_of_pos (by simpa using dropped), List.lookup_cons, List.lookup_cons, ih]
        by_cases same : target = key
        · subst target
          have missed : (key == held) = false := by simpa using Ne.symm dropped
          simp [missed]
        · simp [same]

@[simp] theorem lookup_insert (key target : κ) (value : ν) (entries : List (κ × ν)) :
    (insert key value entries).lookup target =
      if target = key then some value else entries.lookup target := by
  by_cases same : target = key
  · simp [insert, same]
  · have missed : (target == key) = false := by simpa using same
    simp [insert, List.lookup_cons, missed, same]

theorem mem_erase {key : κ} {entry : κ × ν} {entries : List (κ × ν)} :
    entry ∈ erase key entries ↔ entry ∈ entries ∧ entry.1 ≠ key := by
  simp [erase]

theorem Distinct.erase {entries : List (κ × ν)} (distinct : Distinct entries) (key : κ) :
    Distinct (erase key entries) :=
  List.Nodup.sublist (List.Sublist.map _ List.filter_sublist) distinct

theorem Distinct.insert {entries : List (κ × ν)} (distinct : Distinct entries) (key : κ)
    (value : ν) : Distinct (insert key value entries) := by
  simp only [Distinct, Entries.insert, List.map_cons, List.nodup_cons]
  refine ⟨?_, distinct.erase key⟩
  simp [Entries.erase]

end Entries

namespace Level

variable {κ ν : Type} [DecidableEq κ]

omit [DecidableEq κ] in
/-- No entry of the level is the mark of a removed key. -/
def Unmarked (level : Level κ ν) : Prop := ∀ entry ∈ level.writes, entry.2 ≠ none

omit [DecidableEq κ] in
/-- The shape of a chain of levels, the newest first: every level knows how many levels are below
it, writes a key at most once, and only levels above the root hold marks. -/
def Chain : List (Level κ ν) → Prop
  | [] => True
  | level :: below =>
    level.depth = below.length ∧ Entries.Distinct level.writes ∧
      (below = [] → level.Unmarked) ∧ Chain below

/-! ### Reading -/

theorem read_write (level : Level κ ν) (below : List (Level κ ν)) (key target : κ)
    (slot : Option ν) :
    read target (level.write key slot :: below) =
      if target = key then slot else read target (level :: below) := by
  by_cases same : target = key <;> simp [read, write, same]

theorem read_forget (level : Level κ ν) (key target : κ) :
    read target [level.forget key] = if target = key then none else read target [level] := by
  by_cases same : target = key <;> simp [read, forget, same]

/-- A removed key is not read any more, whether the level leaves a mark or forgets the entry. -/
theorem read_remove (level : Level κ ν) (below : List (Level κ ν)) (key target : κ) :
    read target (level.remove (!below.isEmpty) key :: below) =
      if target = key then none else read target (level :: below) := by
  cases below with
  | nil => simpa [remove] using read_forget level key target
  | cons parent rest => simpa [remove] using read_write level (parent :: rest) key target none

theorem read_apply (level : Level κ ν) (below : List (Level κ ν)) (entry : κ × Option ν)
    (target : κ) :
    read target (level.apply (!below.isEmpty) entry :: below) =
      if target = entry.1 then entry.2 else read target (level :: below) := by
  obtain ⟨key, slot⟩ := entry
  cases slot with
  | none => exact read_remove level below key target
  | some value => exact read_write level below key target (some value)

/-- Applying entries one after the other makes them the entries that are read. -/
theorem read_foldl_apply (below : List (Level κ ν)) (target : κ) :
    ∀ (entries : Overlay κ ν) (parent : Level κ ν), Entries.Distinct entries →
      read target (entries.foldl (apply (!below.isEmpty)) parent :: below) =
        (entries.lookup target).getD (read target (parent :: below)) := by
  intro entries
  induction entries with
  | nil => intro parent _; simp
  | cons entry rest ih =>
      intro parent distinct
      obtain ⟨key, slot⟩ := entry
      have distinctRest : Entries.Distinct rest := (List.nodup_cons.mp distinct).2
      have fresh : key ∉ rest.map (·.1) := (List.nodup_cons.mp distinct).1
      rw [List.foldl_cons, ih _ distinctRest, read_apply]
      by_cases same : target = key
      · have absent : rest.lookup key = none := by
          rw [List.lookup_eq_none_iff]
          intro other member
          have different : key ≠ other.1 := fun equal =>
            fresh (equal ▸ List.mem_map_of_mem member)
          simpa using different
        simp [same, absent]
      · have missed : (target == key) = false := by simpa using same
        simp [List.lookup_cons, missed, same]

/-- Merging a level into the one below it does not change what is read. -/
theorem read_merge (parent child : Level κ ν) (below : List (Level κ ν)) (target : κ)
    (distinct : Entries.Distinct child.writes) :
    read target (merge (!below.isEmpty) parent child :: below) =
      read target (child :: parent :: below) := by
  rw [merge, read_foldl_apply below target child.writes parent distinct]
  cases found : child.writes.lookup target <;> simp [read, found]

/-! ### The chain -/

theorem Unmarked.forget {level : Level κ ν} (unmarked : level.Unmarked) (key : κ) :
    (level.forget key).Unmarked :=
  fun entry member => unmarked entry (Entries.mem_erase.mp member).1

theorem Unmarked.write_some {level : Level κ ν} (unmarked : level.Unmarked) (key : κ)
    (value : ν) : (level.write key (some value)).Unmarked := by
  intro entry member
  rcases List.mem_cons.mp member with rfl | old
  · simp
  · exact unmarked entry (Entries.mem_erase.mp old).1

theorem Chain.write_some {level : Level κ ν} {below : List (Level κ ν)}
    (chain : Chain (level :: below)) (key : κ) (value : ν) :
    Chain (level.write key (some value) :: below) :=
  ⟨chain.1, chain.2.1.insert key (some value), fun root => (chain.2.2.1 root).write_some key value,
    chain.2.2.2⟩

theorem Chain.remove {level : Level κ ν} {below : List (Level κ ν)}
    (chain : Chain (level :: below)) (key : κ) :
    Chain (level.remove (!below.isEmpty) key :: below) := by
  obtain ⟨depth, distinct, unmarked, older⟩ := chain
  cases below with
  | nil => exact ⟨depth, distinct.erase key, fun _ => (unmarked rfl).forget key, older⟩
  | cons parent rest => exact ⟨depth, distinct.insert key none, by simp, older⟩

theorem Chain.apply {level : Level κ ν} {below : List (Level κ ν)}
    (chain : Chain (level :: below)) (entry : κ × Option ν) :
    Chain (level.apply (!below.isEmpty) entry :: below) := by
  obtain ⟨key, slot⟩ := entry
  cases slot with
  | none => exact chain.remove key
  | some value => exact chain.write_some key value

theorem Chain.merge {parent child : Level κ ν} {below : List (Level κ ν)}
    (chain : Chain (child :: parent :: below)) :
    Chain (merge (!below.isEmpty) parent child :: below) := by
  have applied : ∀ (entries : Overlay κ ν) (level : Level κ ν), Chain (level :: below) →
      Chain (entries.foldl (Level.apply (!below.isEmpty)) level :: below) := by
    intro entries
    induction entries with
    | nil => exact fun _ held => held
    | cons entry rest ih => exact fun level held => ih _ (held.apply entry)
  exact applied child.writes parent chain.2.2.2

/-- Committing everything leaves a root from which the same is read. -/
theorem read_commitAll (target : κ) :
    ∀ (below : List (Level κ ν)) (newest : Level κ ν), Chain (newest :: below) →
      read target [commitAll newest below] = read target (newest :: below) := by
  intro below
  induction below with
  | nil => intro newest _; rfl
  | cons parent rest ih =>
      intro newest chain
      rw [commitAll, ih _ chain.merge, read_merge parent newest rest target chain.2.1]

theorem Chain.commitAll :
    ∀ (below : List (Level κ ν)) (newest : Level κ ν), Chain (newest :: below) →
      Chain [Level.commitAll newest below] := by
  intro below
  induction below with
  | nil => exact fun _ chain => chain
  | cons parent rest ih => exact fun newest chain => ih _ chain.merge

omit [DecidableEq κ] in
theorem Chain.oldest :
    ∀ (below : List (Level κ ν)) (newest : Level κ ν), Chain (newest :: below) →
      Chain [Level.oldest newest below] := by
  intro below
  induction below with
  | nil => exact fun _ chain => chain
  | cons parent rest ih => exact fun newest chain => ih parent chain.2.2.2

end Level

variable {κ ν : Type}

/-! ### Operations -/

/-- Operations that read or write entries. -/
inductive DataOp (κ ν : Type) where
  | set (key : κ) (value : ν)
  | get (key : κ)
  | contains (key : κ)
  | remove (key : κ)
  /-- Writes to the visible entry of a key, if there is one. -/
  | modify (key : κ) (change : ν → ν)
  | getOrInsert (key : κ) (init : ν)
  | keys
  /-- Runs operations in a level of their own, and then succeeds or fails. -/
  | savepoint (body : List (DataOp κ ν)) (fails : Bool)

inductive TransactionOp (κ ν : Type) where
  | data (op : DataOp κ ν)
  | fork
  | commit
  | rollback
  | commitAll
  | rollbackAll

/-- What an operation gives back. -/
inductive Answer (κ ν : Type) where
  | done
  | entry (value : Option ν)
  | flag (present : Bool)
  | keys (keys : List κ)
  | noParent
  /-- How a savepoint ended, and the answers inside of it. -/
  | closed (success : Bool) (inner : List (Answer κ ν))

section Run

variable [DecidableEq κ]

mutual

def DataOp.run (t : Transaction κ ν) : DataOp κ ν → Answer κ ν × Transaction κ ν
  | .set key value => (.done, t.set key value)
  | .get key => (.entry (t.get? key), t)
  | .contains key => (.flag (t.contains key), t)
  | .remove key => (.entry (t.take key).1, (t.take key).2)
  | .modify key change =>
    match t.modify? key change with
    | some changed => (.entry (changed.get? key), changed)
    | none => (.entry none, t)
  | .getOrInsert key init =>
    (.entry (some (t.getOrInsert key init).1), (t.getOrInsert key init).2)
  | .keys => (.keys t.keys, t)
  | .savepoint body fails =>
    let (result, t) := t.savepoint fun inner =>
      let (answers, inner) := DataOp.runAll inner body
      (if fails then Except.error answers else Except.ok answers, inner)
    match result with
    | .ok answers => (.closed true answers, t)
    | .error answers => (.closed false answers, t)

def DataOp.runAll (t : Transaction κ ν) :
    List (DataOp κ ν) → List (Answer κ ν) × Transaction κ ν
  | [] => ([], t)
  | op :: rest =>
    let (answer, t) := op.run t
    let (answers, t) := DataOp.runAll t rest
    (answer :: answers, t)

end

/-- The answer to an attempt to close a level, and the transaction that it hands back. -/
def Transaction.closed :
    Except (TransactionError κ ν) (Transaction κ ν) → Answer κ ν × Transaction κ ν
  | .ok parent => (.done, parent)
  | .error e => (.noParent, e.transaction)

def TransactionOp.run (t : Transaction κ ν) : TransactionOp κ ν → Answer κ ν × Transaction κ ν
  | data op => op.run t
  | fork => (.done, t.fork)
  | commit => Transaction.closed t.commit
  | rollback => Transaction.closed t.rollback
  | commitAll => (.done, t.commitAll)
  | rollbackAll => (.done, t.rollbackAll)

def TransactionOp.runAll (t : Transaction κ ν) :
    List (TransactionOp κ ν) → List (Answer κ ν) × Transaction κ ν
  | [] => ([], t)
  | op :: rest =>
    let (answer, t) := op.run t
    let (answers, t) := TransactionOp.runAll t rest
    (answer :: answers, t)

end Run

/-! ### Stacks of maps -/

/-- A stack of maps that is never empty. -/
structure MapStack (κ ν : Type) where
  top : κ → Option ν
  below : List (κ → Option ν)

namespace MapStack

def empty : MapStack κ ν := ⟨fun _ => none, []⟩

def height (s : MapStack κ ν) : Nat := s.below.length + 1

def fork (s : MapStack κ ν) : MapStack κ ν := ⟨s.top, s.top :: s.below⟩

def commit? (s : MapStack κ ν) : Option (MapStack κ ν) :=
  match s.below with
  | [] => none
  | _ :: rest => some ⟨s.top, rest⟩

def rollback? (s : MapStack κ ν) : Option (MapStack κ ν) :=
  match s.below with
  | [] => none
  | map :: rest => some ⟨map, rest⟩

/-- The oldest map. -/
def bottom (s : MapStack κ ν) : κ → Option ν := s.below.getLastD s.top

variable [DecidableEq κ]

def put (s : MapStack κ ν) (key : κ) (slot : Option ν) : MapStack κ ν :=
  { s with top := Function.update s.top key slot }

mutual

/-- What an operation on entries may answer, and the stack that it leaves. -/
inductive DataStep : DataOp κ ν → MapStack κ ν → Answer κ ν → MapStack κ ν → Prop
  | set {s : MapStack κ ν} (key : κ) (value : ν) :
      DataStep (.set key value) s .done (s.put key (some value))
  | get {s : MapStack κ ν} (key : κ) : DataStep (.get key) s (.entry (s.top key)) s
  | contains {s : MapStack κ ν} (key : κ) :
      DataStep (.contains key) s (.flag (s.top key).isSome) s
  | remove {s : MapStack κ ν} (key : κ) :
      DataStep (.remove key) s (.entry (s.top key)) (s.put key none)
  | modify {s : MapStack κ ν} (key : κ) (change : ν → ν) :
      DataStep (.modify key change) s (.entry ((s.top key).map change))
        (s.put key ((s.top key).map change))
  | getOrInsert {s : MapStack κ ν} (key : κ) (init : ν) :
      DataStep (.getOrInsert key init) s (.entry (some ((s.top key).getD init)))
        (s.put key (some ((s.top key).getD init)))
  | keys {s : MapStack κ ν} (keys : List κ) : keys.Nodup →
      (∀ key, key ∈ keys ↔ (s.top key).isSome) → DataStep .keys s (.keys keys) s
  | kept {s inner after : MapStack κ ν} {body : List (DataOp κ ν)}
      {answers : List (Answer κ ν)} : DataSteps body s.fork answers inner →
      inner.commit? = some after → DataStep (.savepoint body false) s (.closed true answers) after
  | dropped {s inner after : MapStack κ ν} {body : List (DataOp κ ν)}
      {answers : List (Answer κ ν)} : DataSteps body s.fork answers inner →
      inner.rollback? = some after →
      DataStep (.savepoint body true) s (.closed false answers) after

inductive DataSteps : List (DataOp κ ν) → MapStack κ ν → List (Answer κ ν) → MapStack κ ν → Prop
  | nil {s : MapStack κ ν} : DataSteps [] s [] s
  | cons {s next after : MapStack κ ν} {op : DataOp κ ν} {rest : List (DataOp κ ν)}
      {answer : Answer κ ν} {answers : List (Answer κ ν)} : DataStep op s answer next →
      DataSteps rest next answers after → DataSteps (op :: rest) s (answer :: answers) after

end

/-- What an operation may answer, and the stack that it leaves. -/
inductive Step : TransactionOp κ ν → MapStack κ ν → Answer κ ν → MapStack κ ν → Prop
  | data {s after : MapStack κ ν} {op : DataOp κ ν} {answer : Answer κ ν} :
      DataStep op s answer after → Step (.data op) s answer after
  | fork {s : MapStack κ ν} : Step .fork s .done s.fork
  | commit {s after : MapStack κ ν} : s.commit? = some after → Step .commit s .done after
  | commitRefused {s : MapStack κ ν} : s.height = 1 → Step .commit s .noParent s
  | rollback {s after : MapStack κ ν} : s.rollback? = some after → Step .rollback s .done after
  | rollbackRefused {s : MapStack κ ν} : s.height = 1 → Step .rollback s .noParent s
  | commitAll {s : MapStack κ ν} : Step .commitAll s .done ⟨s.top, []⟩
  | rollbackAll {s : MapStack κ ν} : Step .rollbackAll s .done ⟨s.bottom, []⟩

inductive Steps :
    List (TransactionOp κ ν) → MapStack κ ν → List (Answer κ ν) → MapStack κ ν → Prop
  | nil {s : MapStack κ ν} : Steps [] s [] s
  | cons {s next after : MapStack κ ν} {op : TransactionOp κ ν} {rest : List (TransactionOp κ ν)}
      {answer : Answer κ ν} {answers : List (Answer κ ν)} : Step op s answer next →
      Steps rest next answers after → Steps (op :: rest) s (answer :: answers) after

end MapStack

/-! ### The stack of a transaction -/

section Refinement

variable [DecidableEq κ]

/-- The maps that are read through a chain of levels, one for every level. -/
def Level.maps : List (Level κ ν) → List (κ → Option ν)
  | [] => []
  | level :: below => (fun key => Level.read key (level :: below)) :: Level.maps below

theorem Level.length_maps (levels : List (Level κ ν)) :
    (Level.maps levels).length = levels.length := by
  induction levels with
  | nil => rfl
  | cons level below ih => simp [Level.maps, ih]

namespace Transaction

def stack (t : Transaction κ ν) : MapStack κ ν := ⟨t.get?, Level.maps t.below⟩

omit [DecidableEq κ] in
def WellFormed (t : Transaction κ ν) : Prop := Level.Chain t.levels

omit [DecidableEq κ] in
/-- The level without parent. -/
def root (t : Transaction κ ν) : Level κ ν := Level.oldest t.newest t.below

omit [DecidableEq κ] in
theorem wellFormed_empty : (empty : Transaction κ ν).WellFormed :=
  ⟨rfl, List.nodup_nil, fun _ _ member => absurd member List.not_mem_nil, trivial⟩

theorem height_stack (t : Transaction κ ν) (formed : t.WellFormed) :
    t.stack.height = t.depth + 1 := by
  simp [stack, MapStack.height, Level.length_maps, depth, formed.1]

theorem slot_eq_get? (t : Transaction κ ν) (key : κ) : t.slot key = t.get? key := rfl

theorem get?_set (t : Transaction κ ν) (key target : κ) (value : ν) :
    (t.set key value).get? target = if target = key then some value else t.get? target :=
  Level.read_write t.newest t.below key target (some value)

theorem get?_remove (t : Transaction κ ν) (key target : κ) :
    (t.remove key).get? target = if target = key then none else t.get? target :=
  Level.read_remove t.newest t.below key target

theorem stack_set (t : Transaction κ ν) (key : κ) (value : ν) :
    (t.set key value).stack = t.stack.put key (some value) := by
  have tops : (t.set key value).get? = Function.update t.get? key (some value) := by
    funext target
    rw [get?_set, Function.update_apply]
  simp only [stack, tops, MapStack.put]
  rfl

theorem stack_remove (t : Transaction κ ν) (key : κ) :
    (t.remove key).stack = t.stack.put key none := by
  have tops : (t.remove key).get? = Function.update t.get? key none := by
    funext target
    rw [get?_remove, Function.update_apply]
  simp only [stack, tops, MapStack.put]
  rfl

theorem stack_fork (t : Transaction κ ν) : t.fork.stack = t.stack.fork := rfl

theorem stack_commit? (t : Transaction κ ν) (formed : t.WellFormed) :
    t.commit?.map stack = t.stack.commit? := by
  obtain ⟨newest, below⟩ := t
  cases below with
  | nil => rfl
  | cons parent rest =>
      have tops : (⟨Level.merge (!rest.isEmpty) parent newest, rest⟩ : Transaction κ ν).get? =
          (⟨newest, parent :: rest⟩ : Transaction κ ν).get? := by
        funext key
        exact Level.read_merge parent newest rest key formed.2.1
      simp only [commit?, Option.map_some, stack, MapStack.commit?, Level.maps, tops]

theorem stack_rollback? (t : Transaction κ ν) : t.rollback?.map stack = t.stack.rollback? := by
  obtain ⟨newest, below⟩ := t
  cases below with
  | nil => rfl
  | cons parent rest => rfl

theorem stack_commitAll (t : Transaction κ ν) (formed : t.WellFormed) :
    t.commitAll.stack = ⟨t.stack.top, []⟩ := by
  have tops : t.commitAll.get? = t.get? := by
    funext key
    exact Level.read_commitAll key t.below t.newest formed
  simp only [stack, tops]
  rfl

theorem maps_oldest (below : List (Level κ ν)) : ∀ newest : Level κ ν,
    (fun key => Level.read key [Level.oldest newest below]) =
      (Level.maps below).getLastD (fun key => Level.read key (newest :: below)) := by
  induction below with
  | nil => intro newest; rfl
  | cons parent rest ih =>
      intro newest
      rw [Level.oldest, ih parent, Level.maps]
      cases Level.maps rest <;> rfl

theorem stack_rollbackAll (t : Transaction κ ν) :
    t.rollbackAll.stack = ⟨t.stack.bottom, []⟩ := by
  have tops : t.rollbackAll.get? = t.stack.bottom := maps_oldest t.below t.newest
  simp only [stack, tops]
  rfl

/-! ### Keys -/

theorem contains_eq_isSome (t : Transaction κ ν) (key : κ) :
    t.contains key = (t.get? key).isSome := rfl

theorem mem_written_of_read (key : κ) : ∀ levels : List (Level κ ν),
    (Level.read key levels).isSome →
      key ∈ levels.flatMap fun level => level.writes.map (·.1) := by
  intro levels
  induction levels with
  | nil => simp [Level.read]
  | cons level below ih =>
      intro visible
      rw [List.flatMap_cons, List.mem_append]
      cases found : level.writes.lookup key with
      | none =>
          simp only [Level.read, found] at visible
          exact Or.inr (ih visible)
      | some slot =>
          have held : (level.writes.lookup key).isSome := by simp [found]
          rw [List.lookup_isSome_iff] at held
          obtain ⟨entry, member, same⟩ := held
          exact Or.inl (List.mem_map.mpr ⟨entry, member, (beq_iff_eq.mp same).symm⟩)

/-- Removing repeated items leaves every item once. -/
theorem nodup_eraseDups : ∀ items : List κ, items.eraseDups.Nodup
  | [] => List.nodup_nil
  | first :: rest => by
      rw [List.eraseDups_cons, List.nodup_cons]
      exact ⟨by simp, nodup_eraseDups _⟩
termination_by items => items.length
decreasing_by
  have bound := List.length_filter_le (fun item => !item == first) rest
  simp only [List.length_cons]
  omega

theorem nodup_keys (t : Transaction κ ν) : t.keys.Nodup :=
  List.Nodup.filter _ (nodup_eraseDups _)

theorem mem_keys (t : Transaction κ ν) (key : κ) : key ∈ t.keys ↔ (t.get? key).isSome := by
  simp only [keys, List.mem_filter, contains_eq_isSome, and_iff_right_iff_imp]
  intro visible
  simpa [writtenKeys] using mem_written_of_read key t.levels visible

end Transaction

/-! ### Refinement -/

namespace Transaction

/-- An operation on entries answers as the stack does, and leaves the levels below alone. -/
structure Follows (op : DataOp κ ν) (t : Transaction κ ν) : Prop where
  step : MapStack.DataStep op t.stack (op.run t).1 (op.run t).2.stack
  formed : (op.run t).2.WellFormed
  below : (op.run t).2.below = t.below

structure FollowsAll (ops : List (DataOp κ ν)) (t : Transaction κ ν) : Prop where
  steps : MapStack.DataSteps ops t.stack (DataOp.runAll t ops).1 (DataOp.runAll t ops).2.stack
  formed : (DataOp.runAll t ops).2.WellFormed
  below : (DataOp.runAll t ops).2.below = t.below

theorem WellFormed.set {t : Transaction κ ν} (formed : t.WellFormed) (key : κ) (value : ν) :
    (t.set key value).WellFormed :=
  Level.Chain.write_some formed key value

theorem WellFormed.remove {t : Transaction κ ν} (formed : t.WellFormed) (key : κ) :
    (t.remove key).WellFormed :=
  Level.Chain.remove formed key

omit [DecidableEq κ] in
theorem WellFormed.fork {t : Transaction κ ν} (formed : t.WellFormed) : t.fork.WellFormed :=
  ⟨congrArg (· + 1) formed.1, List.nodup_nil, fun _ _ member => absurd member List.not_mem_nil,
    formed⟩

theorem WellFormed.commit? {t parent : Transaction κ ν} (formed : t.WellFormed)
    (closed : t.commit? = some parent) : parent.WellFormed := by
  obtain ⟨newest, below⟩ := t
  cases below with
  | nil => cases closed
  | cons level rest =>
      cases closed
      exact Level.Chain.merge formed

omit [DecidableEq κ] in
theorem WellFormed.rollback? {t parent : Transaction κ ν} (formed : t.WellFormed)
    (closed : t.rollback? = some parent) : parent.WellFormed := by
  obtain ⟨newest, below⟩ := t
  cases below with
  | nil => cases closed
  | cons level rest =>
      cases closed
      exact formed.2.2.2

theorem follows_modify (t : Transaction κ ν) (formed : t.WellFormed) (key : κ) (change : ν → ν) :
    Follows (.modify key change) t := by
  cases visible : t.get? key with
  | none =>
      have unchanged : t.stack.put key none = t.stack := by
        have tops : Function.update t.get? key none = t.get? := by
          rw [← visible, Function.update_eq_self]
        simp only [MapStack.put, stack, tops]
      have absent : t.modify? key change = none := by simp [modify?, slot_eq_get?, visible]
      have step := MapStack.DataStep.modify (s := t.stack) key change
      simp only [show t.stack.top key = none from visible, Option.map_none, unchanged] at step
      constructor <;> simp only [DataOp.run, absent]
      · exact step
      · exact formed
  | some value =>
      have present : t.modify? key change = some (t.set key (change value)) := by
        simp [modify?, slot_eq_get?, visible]
      have step := MapStack.DataStep.modify (s := t.stack) key change
      simp only [show t.stack.top key = some value from visible, Option.map_some] at step
      constructor <;> simp only [DataOp.run, present, get?_set, if_true, stack_set]
      · exact step
      · exact formed.set key _
      · rfl

/-- The levels that a savepoint opens and closes are those that the stack pushes and pops. -/
theorem follows_savepoint (t : Transaction κ ν) (body : List (DataOp κ ν)) (fails : Bool)
    (inside : FollowsAll body t.fork) : Follows (.savepoint body fails) t := by
  have opened : (DataOp.runAll t.fork body).2.below = t.newest :: t.below := inside.below
  generalize ran : DataOp.runAll t.fork body = outcome at inside opened
  obtain ⟨answers, inner⟩ := outcome
  have steps : MapStack.DataSteps body t.stack.fork answers inner.stack := by
    have held := inside.steps
    rwa [ran, stack_fork] at held
  have formed : inner.WellFormed := by
    have held := inside.formed
    rwa [ran] at held
  cases fails with
  | false =>
      have closed : inner.commit? =
          some ⟨Level.merge (!t.below.isEmpty) t.newest inner.newest, t.below⟩ := by
        simp only [commit?, show inner.below = t.newest :: t.below from opened]
      have after := stack_commit? inner formed
      rw [closed, Option.map_some] at after
      constructor <;> simp only [DataOp.run, savepoint, ran, Bool.false_eq_true, if_false, closed,
        Option.getD_some]
      · exact MapStack.DataStep.kept steps after.symm
      · exact formed.commit? closed
  | true =>
      have closed : inner.rollback? = some t := by
        simp only [rollback?, show inner.below = t.newest :: t.below from opened]
      have after := stack_rollback? inner
      rw [closed, Option.map_some] at after
      constructor <;> simp only [DataOp.run, savepoint, ran, if_true, closed, Option.getD_some]
      · exact MapStack.DataStep.dropped steps after.symm
      · exact formed.rollback? closed

mutual

theorem follows (t : Transaction κ ν) (formed : t.WellFormed) : ∀ op : DataOp κ ν, Follows op t
  | .set key value => by
      constructor <;> simp only [DataOp.run, stack_set]
      · exact MapStack.DataStep.set key value
      · exact formed.set key value
      · rfl
  | .get key => ⟨MapStack.DataStep.get key, formed, rfl⟩
  | .contains key => ⟨MapStack.DataStep.contains key, formed, rfl⟩
  | .remove key => by
      constructor <;> simp only [DataOp.run, take, stack_remove]
      · exact MapStack.DataStep.remove key
      · exact formed.remove key
      · rfl
  | .modify key change => follows_modify t formed key change
  | .getOrInsert key init => by
      constructor <;> simp only [DataOp.run, getOrInsert, slot_eq_get?, stack_set]
      · exact MapStack.DataStep.getOrInsert key init
      · exact formed.set key _
      · rfl
  | .keys => ⟨MapStack.DataStep.keys t.keys t.nodup_keys t.mem_keys, formed, rfl⟩
  | .savepoint body fails => follows_savepoint t body fails (followsAll t.fork formed.fork body)

theorem followsAll (t : Transaction κ ν) (formed : t.WellFormed) :
    ∀ ops : List (DataOp κ ν), FollowsAll ops t
  | [] => ⟨MapStack.DataSteps.nil, formed, rfl⟩
  | op :: rest => by
      have first := follows t formed op
      have others := followsAll (op.run t).2 first.formed rest
      exact ⟨MapStack.DataSteps.cons first.step others.steps, others.formed,
        others.below.trans first.below⟩

end

/-- A level that cannot be closed is the root. -/
theorem below_of_commit?_none {t : Transaction κ ν} (refused : t.commit? = none) :
    t.below = [] := by
  unfold commit? at refused
  split at refused
  · assumption
  · cases refused

omit [DecidableEq κ] in
theorem below_of_rollback?_none {t : Transaction κ ν} (refused : t.rollback? = none) :
    t.below = [] := by
  unfold rollback? at refused
  split at refused
  · assumption
  · cases refused

theorem height_of_root {t : Transaction κ ν} (lowest : t.below = []) : t.stack.height = 1 := by
  simp [stack, MapStack.height, Level.length_maps, lowest]

/-- One operation answers as the stack does and keeps the shape of the levels. -/
theorem step_run (op : TransactionOp κ ν) (t : Transaction κ ν) (formed : t.WellFormed) :
    MapStack.Step op t.stack (op.run t).1 (op.run t).2.stack ∧ (op.run t).2.WellFormed := by
  cases op with
  | data op =>
      have held := follows t formed op
      exact ⟨MapStack.Step.data held.step, held.formed⟩
  | fork => exact ⟨MapStack.Step.fork, formed.fork⟩
  | commit =>
      have image := stack_commit? t formed
      cases closed : t.commit? with
      | none =>
          simp only [TransactionOp.run, commit, closed, Transaction.closed,
            TransactionError.transaction]
          exact ⟨MapStack.Step.commitRefused (height_of_root (below_of_commit?_none closed)), formed⟩
      | some parent =>
          rw [closed, Option.map_some] at image
          simp only [TransactionOp.run, commit, closed, Transaction.closed]
          exact ⟨MapStack.Step.commit image.symm, formed.commit? closed⟩
  | rollback =>
      have image := stack_rollback? t
      cases closed : t.rollback? with
      | none =>
          simp only [TransactionOp.run, rollback, closed, Transaction.closed,
            TransactionError.transaction]
          exact ⟨MapStack.Step.rollbackRefused (height_of_root (below_of_rollback?_none closed)),
            formed⟩
      | some parent =>
          rw [closed, Option.map_some] at image
          simp only [TransactionOp.run, rollback, closed, Transaction.closed]
          exact ⟨MapStack.Step.rollback image.symm, formed.rollback? closed⟩
  | commitAll =>
      simp only [TransactionOp.run, stack_commitAll t formed]
      exact ⟨MapStack.Step.commitAll, Level.Chain.commitAll t.below t.newest formed⟩
  | rollbackAll =>
      simp only [TransactionOp.run, stack_rollbackAll t]
      exact ⟨MapStack.Step.rollbackAll, Level.Chain.oldest t.below t.newest formed⟩

/-- A run answers as the stack does, from any transaction whose levels have their shape. -/
theorem steps_runAll : ∀ (ops : List (TransactionOp κ ν)) (t : Transaction κ ν), t.WellFormed →
    MapStack.Steps ops t.stack (TransactionOp.runAll t ops).1
        (TransactionOp.runAll t ops).2.stack ∧
      (TransactionOp.runAll t ops).2.WellFormed := by
  intro ops
  induction ops with
  | nil => exact fun t formed => ⟨MapStack.Steps.nil, formed⟩
  | cons op rest ih =>
      intro t formed
      obtain ⟨step, kept⟩ := step_run op t formed
      obtain ⟨steps, last⟩ := ih (op.run t).2 kept
      exact ⟨MapStack.Steps.cons step steps, last⟩

omit [DecidableEq κ] in
/-- Only levels above the root hold marks of removed keys. -/
theorem WellFormed.root {t : Transaction κ ν} (formed : t.WellFormed) : t.root.Unmarked := by
  have lowest := Level.Chain.oldest t.below t.newest formed
  exact lowest.2.2.1 rfl

theorem commit_root {t : Transaction κ ν} (formed : t.WellFormed) (lowest : t.depth = 0) :
    t.commit = .error (.noParent t) := by
  have alone : t.below = [] := List.eq_nil_of_length_eq_zero (formed.1.symm.trans lowest)
  simp only [commit, commit?, alone]

omit [DecidableEq κ] in
theorem rollback_root {t : Transaction κ ν} (formed : t.WellFormed) (lowest : t.depth = 0) :
    t.rollback = .error (.noParent t) := by
  have alone : t.below = [] := List.eq_nil_of_length_eq_zero (formed.1.symm.trans lowest)
  simp only [rollback, rollback?, alone]

/-- Every run from an empty root gives the answers of a stack of maps, whose height is one more
than the depth. The root holds no marks, cannot be closed, and is handed back by the attempt. -/
theorem runAll_refines_stack (ops : List (TransactionOp κ ν)) :
    MapStack.Steps ops .empty (TransactionOp.runAll .empty ops).1
        (TransactionOp.runAll .empty ops).2.stack ∧
      (TransactionOp.runAll .empty ops).2.stack.height =
        (TransactionOp.runAll .empty ops).2.depth + 1 ∧
      (TransactionOp.runAll .empty ops).2.root.Unmarked ∧
      ((TransactionOp.runAll .empty ops).2.depth = 0 →
        (TransactionOp.runAll .empty ops).2.commit =
            .error (.noParent (TransactionOp.runAll .empty ops).2) ∧
          (TransactionOp.runAll .empty ops).2.rollback =
            .error (.noParent (TransactionOp.runAll .empty ops).2)) := by
  obtain ⟨steps, formed⟩ := steps_runAll ops empty wellFormed_empty
  exact ⟨steps, height_stack _ formed, formed.root,
    fun lowest => ⟨commit_root formed lowest, rollback_root formed lowest⟩⟩

end Transaction

end Refinement

end SqlEngine
