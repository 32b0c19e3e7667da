import Mathlib.Logic.Function.Basic
import SqlEngine.Proofs.Database.Snapshot
import SqlEngine.Proofs.Database.Statements
import SqlEngine.Proofs.Typing.Lookup

/-!
What an insertion does with its rows.

Each candidate is decided about on the table as the candidates before it left it. It is stored under
a number that was never used if no row is in its way in a unique index. Otherwise the row that is in
its way has its key, and no other row has; then the candidate is left out, or that row is changed as
the assignments say, or neither if the condition does not hold. All this rests on the indexes, which
find a row by its key where the keys of the index are totally ordered.

Whatever decides about the candidates, the content after all of them is told by the rows that were
written: a number has the row that was written under it last, or else the row that it had.
-/

namespace SqlEngine

open Eval (Keeps Meets)
open EvalState (Agrees)
open Run (bind_ok bind_run_ok lift_bind_ok)

/-! ### What becomes of candidates -/

/-- What becomes of a candidate: it is stored, it is left out, or a row that is there is changed. -/
inductive Fate
  | inserted (id : RowId) (row : Row)
  | skipped
  | updated (id : RowId) (row : Row)

namespace Fate

/-- The row that is written, with its number. -/
def written? : Fate → Option (RowId × Row)
  | inserted id row => some (id, row)
  | skipped => none
  | updated id row => some (id, row)

/-- The number of a row that is new. -/
def inserted? : Fate → Option RowId
  | inserted id _ => some id
  | _ => none

/-- New rows get the next number, and only rows that are there can change. -/
def Possible (content : TableData) : Fate → Prop
  | inserted id _ => id = content.nextRowId
  | skipped => True
  | updated id _ => (content.get? id).isSome

/-- The content after a candidate. -/
def apply (d : TableDef) (content : TableData) : Fate → TableData
  | inserted _ row => content.inserted d row
  | skipped => content
  | updated id row => ((content.get? id).map fun old => content.updated d id old row).getD content

end Fate

namespace TableData

/-- Numbers are given out in their order. -/
def Issued (content : TableData) : Prop := ∀ e ∈ content.rows, e.1 < content.nextRowId

variable {d : TableDef} {content final : TableData} {fate : Fate}

/-! ### One candidate -/

theorem get?_nextRowId (issued : content.Issued) : content.get? content.nextRowId = none := by
  rw [get?, List.lookup_eq_none_iff]
  intro e member
  exact bne_iff_ne.mpr (Nat.ne_of_gt (issued e member))

theorem get?_inserted (issued : content.Issued) (row : Row) (id : RowId) :
    (content.inserted d row).get? id =
      if id = content.nextRowId then some row else content.get? id := by
  have fresh := get?_nextRowId issued
  rw [get?] at fresh
  rw [get?, rows_inserted, List.lookup_append]
  by_cases same : id = content.nextRowId
  · simp [same, fresh]
  · have other : (id == content.nextRowId) = false := by simpa using same
    simp [same, other, List.lookup_cons, get?]

theorem lookup_replaced (rows : List (RowId × Row)) (id other : RowId) (row : Row) :
    (rows.map fun e => if e.1 == id then (id, row) else e).lookup other =
      if other = id ∧ (rows.lookup id).isSome then some row else rows.lookup other := by
  induction rows with
  | nil => simp
  | cons e rest ih =>
      obtain ⟨number, held⟩ := e
      rw [List.map_cons]
      by_cases here : number = id
      · subst here
        by_cases asked : other = number
        · simp [asked]
        · have different : (other == number) = false := by simpa using asked
          simpa [List.lookup_cons, different, asked] using ih
      · have reached : (id == number) = false := by simpa using Ne.symm here
        by_cases asked : other = number
        · have different : other ≠ id := fun same => here (asked ▸ same)
          simp [asked, here]
        · have different : (other == number) = false := by simpa using asked
          have kept : (number == id) = false := by simpa using here
          simp only [kept, Bool.false_eq_true, if_false, List.lookup_cons, reached, different]
          exact ih

theorem get?_updated {id : RowId} {old : Row} (there : content.get? id = some old)
    (row : Row) (other : RowId) :
    (content.updated d id old row).get? other =
      if other = id then some row else content.get? other := by
  have rows : (content.updated d id old row).rows =
      content.rows.map fun e => if e.1 == id then (id, row) else e := rfl
  rw [get?] at there
  rw [get?, get?, rows, lookup_replaced]
  simp [there]

theorem get?_apply (issued : content.Issued) (possible : fate.Possible content) (id : RowId) :
    (fate.apply d content).get? id =
      (fate.written?.toList.lookup id).or (content.get? id) := by
  have single : ∀ (number : RowId) (row : Row), ([(number, row)].lookup id).or (content.get? id) =
      if id = number then some row else content.get? id := by
    intro number row
    by_cases same : id = number
    · simp [same]
    · have other : (id == number) = false := by simpa using same
      simp [List.lookup_cons, same, other]
  cases fate with
  | skipped => simp [Fate.apply, Fate.written?]
  | inserted number row =>
      obtain rfl := possible
      rw [Fate.apply, get?_inserted issued, Fate.written?, Option.toList_some, single]
  | updated number row =>
      obtain ⟨old, there⟩ := Option.isSome_iff_exists.mp possible
      rw [Fate.apply, there, Option.map_some, Option.getD_some, get?_updated there, Fate.written?,
        Option.toList_some, single]

theorem nextRowId_apply (d : TableDef) (content : TableData) (fate : Fate) :
    (fate.apply d content).nextRowId =
      content.nextRowId + fate.inserted?.toList.length := by
  cases fate with
  | inserted id row => rfl
  | skipped => rfl
  | updated id row =>
      rw [Fate.apply]
      cases content.get? id <;> rfl

theorem size_apply (d : TableDef) (content : TableData) (fate : Fate) :
    (fate.apply d content).size = content.size + fate.inserted?.toList.length := by
  cases fate with
  | inserted id row => simp [Fate.apply, Fate.inserted?, size, rows_inserted]
  | skipped => rfl
  | updated id row =>
      rw [Fate.apply]
      cases content.get? id with
      | none => rfl
      | some old => simp [size, updated, replaceRow, Fate.inserted?, removeKeys, addKeys]

theorem issued_apply (issued : content.Issued) (possible : fate.Possible content) :
    (fate.apply d content).Issued := by
  cases fate with
  | skipped => exact issued
  | inserted number row =>
      intro e member
      rcases List.mem_append.mp member with old | new
      · exact Nat.lt_succ_of_lt (issued e old)
      · rw [List.mem_singleton.mp new]
        exact Nat.lt_succ_self _
  | updated number row =>
      obtain ⟨old, there⟩ := Option.isSome_iff_exists.mp possible
      rw [Fate.apply, there]
      intro e member
      obtain ⟨before, held, rfl⟩ := List.mem_map.mp member
      have bound := issued before held
      split
      · rename_i same
        rwa [← beq_iff_eq.mp same]
      · exact bound

/-! ### All candidates -/

/-- The candidates of a statement one after the other, each with what was decided about it on the
content by then. -/
inductive Course (d : TableDef) (decides : TableData → Row → Fate → Prop) :
    TableData → List (Row × Fate) → TableData → Prop
  | nil (content : TableData) : Course d decides content [] content
  | cons {content final : TableData} {row : Row} {fate : Fate} {rest : List (Row × Fate)}
      (decided : decides content row fate)
      (later : Course d decides (fate.apply d content) rest final) :
      Course d decides content ((row, fate) :: rest) final

/-- The rows that were written, in the order of time. -/
def writes (course : List (Row × Fate)) : List (RowId × Row) := course.filterMap (·.2.written?)

@[simp] theorem writes_cons (row : Row) (fate : Fate) (rest : List (Row × Fate)) :
    writes ((row, fate) :: rest) = fate.written?.toList ++ writes rest := by
  rw [writes, List.filterMap_cons]
  cases fate.written? <;> rfl

/-- The numbers of the rows that are new. -/
def newIds (course : List (Row × Fate)) : List RowId := course.filterMap (·.2.inserted?)

namespace Course

variable {decides : TableData → Row → Fate → Prop} {course : List (Row × Fate)}
  (possible : ∀ content row fate, decides content row fate → fate.Possible content)
include possible

/-- A number has the row that was written last under it, and where none was, the row that it had:
every other row is unchanged. -/
theorem get?_eq (followed : Course d decides content course final) (issued : content.Issued)
    (id : RowId) : final.get? id = ((writes course).reverse.lookup id).or (content.get? id) := by
  induction followed with
  | nil content => rfl
  | @cons content final row fate rest decided later ih =>
      have can := possible content row fate decided
      have short : fate.written?.toList.reverse = fate.written?.toList := by
        cases fate.written? <;> rfl
      rw [ih (issued_apply issued can), get?_apply issued can, writes_cons, List.reverse_append,
        short, List.lookup_append, Option.or_assoc]

/-- New rows get the numbers that follow the last one, one after the other. -/
theorem newIds_eq (followed : Course d decides content course final) :
    newIds course = List.range' content.nextRowId (newIds course).length := by
  induction followed with
  | nil content => rfl
  | @cons content final row fate rest decided later ih =>
      have can := possible content row fate decided
      rw [nextRowId_apply] at ih
      cases new : fate.inserted? with
      | none =>
          have same : newIds ((row, fate) :: rest) = newIds rest := by simp [newIds, new]
          rw [same]
          simpa [new] using ih
      | some id =>
          have first : id = content.nextRowId := by
            cases fate with
            | inserted number row =>
                cases new
                exact can
            | skipped => cases new
            | updated number row => cases new
          have more : newIds ((row, fate) :: rest) = id :: newIds rest := by simp [newIds, new]
          rw [more, List.length_cons, List.range'_succ, first]
          simpa [new] using ih

omit possible in
/-- The table grows by the rows that are new. -/
theorem size_eq (followed : Course d decides content course final) :
    final.size = content.size + (newIds course).length := by
  induction followed with
  | nil content => rfl
  | @cons content final row fate rest decided later ih =>
      have split : newIds ((row, fate) :: rest) = fate.inserted?.toList ++ newIds rest := by
        rw [newIds, List.filterMap_cons]
        cases fate.inserted? <;> rfl
      rw [ih, size_apply, split, List.length_append, Nat.add_assoc]

end Course

end TableData

/-! ### Runs that succeed -/

theorem Eval.Meets.ran {α : Type} {inv : EvalState → Prop} {result : α → Prop} {m : Eval α}
    (meets : m.Meets inv result) {s next : EvalState} {a : α} (holds : inv s)
    (ran : m.run s = (.ok a, next)) : inv next ∧ result a := by
  obtain ⟨kept, gives⟩ := meets s holds
  rw [ran] at kept gives
  exact ⟨kept, gives a rfl⟩

/-! ### Keys that rows share -/

namespace TableDef

/-- The rows have one key in the index, and no part of it is missing. -/
def Shares (d : TableDef) (i : IndexDef) (a b : Row) : Prop :=
  (d.keyOf i a).any Value.isNull = false ∧ Value.orderRows (d.keyOf i a) (d.keyOf i b) = .eq

/-- The keys of all unique indexes are totally ordered. -/
def UniqueSortable (d : TableDef) : Prop := ∀ i ∈ d.indexes, i.unique → d.Sortable i

end TableDef

namespace TableData

/-- In a unique index the row has the key of another one, and it is the only row that has it. -/
structure InTheWay (content : TableData) (d : TableDef) (i : IndexDef) (row : Row)
    (e : RowId × Row) : Prop where
  index : i ∈ d.indexes
  unique : i.unique
  there : e ∈ content.rows
  shares : d.Shares i row e.2
  only : ∀ a ∈ content.rows, d.Shares i row a.2 → a = e

/-- In no unique index a row has the key of the given one. -/
def Clear (content : TableData) (d : TableDef) (row : Row) : Prop :=
  ∀ i ∈ d.indexes, i.unique → ∀ e ∈ content.rows, ¬d.Shares i row e.2

variable {content : TableData} {d : TableDef} {i : IndexDef} {row : Row} {e : RowId × Row}

theorem Conforms.inTheWay (conforms : content.Conforms d) (member : i ∈ d.indexes)
    (unique : i.unique) (sortable : d.Sortable i) (fits : Row.Fits d.types row)
    (there : e ∈ content.rows) (shares : d.Shares i row e.2) : content.InTheWay d i row e := by
  have total := TableDef.totalOn_keys sortable
  have fitsKey : ∀ a ∈ content.rows, Row.Fits (d.keyTypes i) (d.keyOf i a.2) :=
    fun a held => TableDef.fits_keyOf (conforms.fits a held)
  have own := TableDef.fits_keyOf (i := i) fits
  refine ⟨member, unique, there, shares, fun a held same => ?_⟩
  have equal := total.eq_trans (fitsKey a held) own (fitsKey e there)
    (total.symm own (fitsKey a held) same.2) shares.2
  have complete : (d.keyOf i a.2).any Value.isNull = false := by
    rw [← Value.any_isNull_of_orderRows_eq same.2]
    exact same.1
  have number := (conforms.indexed i member sortable).unique unique a held e there complete equal
  exact Prod.ext number (row_unique conforms.shape held (number ▸ there))

theorem Conforms.clear (conforms : content.Conforms d)
    (sortable : d.UniqueSortable) (fits : Row.Fits d.types row)
    (free : content.conflict? d row none = none) : content.Clear d row := by
  intro i member unique e there shares
  have comparable : content.Comparable d i [row] :=
    conforms.comparable member (sortable i member unique) (by simpa using fits)
  have none := conflict?_eq_none (conforms.indexed i member (sortable i member unique)) comparable
    free member unique shares.1 e there shares.2
  cases none

end TableData

/-! ### The row in the way -/

namespace Conflicts

variable {content : TableData} {d : TableDef} {i : IndexDef} {row : Row} {id : RowId}

/-- The index that is chosen, if one is, is a unique index of the table. -/
def Chosen (d : TableDef) : Conflicts → Prop
  | refused => True
  | skipped index => ∀ i ∈ index, i ∈ d.indexes ∧ i.unique
  | updated i _ _ => i ∈ d.indexes ∧ i.unique

theorem index?_ok {target : Option Sql.ConflictTarget} {index : Option IndexDef}
    (given : index? d target = .ok index) : ∀ i ∈ index, i ∈ d.indexes ∧ i.unique := by
  rintro i rfl
  cases target with
  | none => cases given
  | some target =>
      cases target with
      | columns names =>
          obtain ⟨positions, _, given⟩ := bind_ok given
          cases found : d.uniqueIndexOn? positions with
          | none => simp [found] at given
          | some other =>
              simp only [found] at given
              cases given
              have covers := List.find?_some found
              exact ⟨List.mem_of_find?_eq_some found, (Bool.and_eq_true_iff.mp covers).1⟩
      | constraint name =>
          simp only [index?] at given
          split at given
          · rename_i other found
            cases given
            have named := List.find?_some found
            exact ⟨List.mem_of_find?_eq_some found, (Bool.and_eq_true_iff.mp named).1⟩
          · cases given

theorem ofClause_chosen {n : Names} {t : Target} {clause : Sql.ConflictClause}
    {conflicts : Conflicts} (given : ofClause n t clause = .ok conflicts) :
    conflicts.Chosen t.table := by
  cases clause with
  | absent =>
      cases given
      trivial
  | duplicateKey _ => cases given
  | onConflict asked action =>
      obtain ⟨index, found, given⟩ := bind_ok given
      have chosen := index?_ok found
      cases action with
      | nothing =>
          cases given
          exact chosen
      | update assignments condition =>
          cases index with
          | none => cases given
          | some index =>
              obtain ⟨sets, _, given⟩ := bind_ok given
              obtain ⟨condition, _, given⟩ := bind_ok given
              cases given
              exact chosen index rfl

/-- A key of the row as it stands misses a value exactly if its canonical form does. -/
theorem any_isNull_keyOf (d : TableDef) (i : IndexDef) (row : Row) :
    (d.keyOf i row).any Value.isNull = (i.columns.map (row.getD · .null)).any Value.isNull := by
  rw [TableDef.keyOf_eq_map, List.any_map, List.any_map]
  congr 1
  funext c
  exact SqlType.canonical_isNull _ _

/-- What is found in the way of a row is the only row with its key in a unique index, the chosen one
if one was chosen. -/
theorem holder?_some {index : Option IndexDef} (conforms : content.Conforms d)
    (wellFormed : d.WellFormed) (sortable : d.UniqueSortable)
    (chosen : ∀ i ∈ index, i ∈ d.indexes ∧ i.unique) (fits : Row.Fits d.types row)
    (found : holder? d content row index = some id) :
    ∃ i old, (∀ j ∈ index, j = i) ∧ content.InTheWay d i row (id, old) := by
  cases index with
  | none =>
      obtain ⟨⟨i, other⟩, conflict, rfl⟩ := Option.map_eq_some_iff.mp found
      obtain ⟨j, candidate, held⟩ := List.exists_of_findSome?_eq_some conflict
      obtain ⟨member, unique⟩ := List.mem_filter.mp candidate
      obtain ⟨number, holder, same⟩ := Option.map_eq_some_iff.mp held
      cases same
      rw [TableData.holder?] at holder
      split at holder
      · cases holder
      · rename_i complete
        have comparable : content.Comparable d i [row] :=
          conforms.comparable member (sortable i member unique) (by simpa using fits)
        obtain ⟨key, ⟨old, there, rfl⟩, equal⟩ :=
          (IndexData.mem_get (conforms.indexed i member (sortable i member unique)).holds
            comparable.index (TableData.coming_mem_keys content d i row) other).mp
            (List.mem_of_find?_eq_some holder)
        exact ⟨i, old, by simp, conforms.inTheWay member unique (sortable i member unique) fits
          there ⟨by simpa using complete, equal⟩⟩
  | some i =>
      obtain ⟨member, unique⟩ := chosen i rfl
      rw [holder?] at found
      split at found
      · cases found
      · rename_i complete
        have fitsKey : Row.Fits (d.keyTypes i)
            (d.keyFrom i (i.columns.map (row.getD · .null))) := TableDef.fits_keyOf fits
        rw [conforms.lookup wellFormed member (sortable i member unique) fitsKey] at found
        obtain ⟨e, listed, rfl⟩ := List.mem_map.mp (List.mem_of_head? found)
        obtain ⟨there, equal⟩ := List.mem_filter.mp listed
        have same : Value.orderRows (d.keyOf i row) (d.keyOf i e.2) = .eq := beq_iff_eq.mp equal
        refine ⟨i, e.2, by simp, conforms.inTheWay member unique (sortable i member unique) fits
          there ⟨?_, same⟩⟩
        rw [any_isNull_keyOf]
        simpa using complete

end Conflicts

/-! ### Tables that evaluation leaves alone -/

namespace EvalState

/-- Evaluation changes no table. -/
theorem stable_tables (env : Env) (tables : Nat → TableData) :
    Eval.Stable env fun s => s.store.table = tables where
  draws _ _ same := same
  sequences s _ d state _ _ same := by
    funext id
    rw [← same]
    refine Store.table_congr ?_
    rw [Store.putSequence, Transaction.get?_set, if_neg (by simp)]

theorem tables_putTable (s : EvalState) (id : Nat) (content : TableData) :
    (s.putTable id content).store.table = Function.update s.store.table id content := by
  funext other
  by_cases same : other = id
  · subst same
    rw [table_putTable, Function.update_self]
  · rw [Function.update_of_ne same]
    refine Store.table_congr ?_
    rw [putTable, Store.putTable, Transaction.get?_set, if_neg (by simpa using same)]

end EvalState

open EvalState (stable_tables tables_putTable)

namespace Target

variable {env : Env} {t : Target} {s next : EvalState} {row : Row} {id : RowId}

theorem content_run (t : Target) (s : EvalState) :
    t.content.run s = (.ok (s.store.table t.table.id), s) := rfl

/-- Where a row is checked and then the content changed, nothing but the content changes. -/
theorem change_stores {α : Type} (m : ContentChange α)
    (ran : (do
      t.check env row
      let _ ← t.changeContent m : Eval Unit).run s = (.ok (), next)) :
    ∃ a, (m.run (s.store.table t.table.id)).1 = .ok a ∧
      next.store.table = Function.update s.store.table t.table.id
        (m.run (s.store.table t.table.id)).2 := by
  obtain ⟨_, checked, first, ran⟩ := bind_run_ok ran
  obtain ⟨same, -⟩ := (t.check_keeps (stable_tables env s.store.table) row).ran rfl first
  obtain ⟨a, changed, second, ran⟩ := bind_run_ok (m := t.changeContent m) ran
  rw [changeContent_run, same] at second
  cases ran
  obtain ⟨result, rfl⟩ := Prod.mk.inj second
  exact ⟨a, result, by rw [tables_putTable, same]⟩

theorem insert_stores (ran : (t.insert env row).run s = (.ok (), next)) :
    (s.store.table t.table.id).check t.table row none = .ok () ∧
      next.store.table = Function.update s.store.table t.table.id
        ((s.store.table t.table.id).inserted t.table row) := by
  obtain ⟨_, result, changes⟩ := change_stores (.insert t.table row) ran
  rw [TableData.run_insert] at result changes
  cases verdict : (s.store.table t.table.id).check t.table row none with
  | error e =>
      rw [verdict] at result
      cases result
  | ok _ =>
      rw [verdict] at changes
      exact ⟨rfl, changes⟩

theorem update_stores (ran : (t.update env id row).run s = (.ok (), next)) :
    ∃ previous, (s.store.table t.table.id).get? id = some previous ∧
      next.store.table = Function.update s.store.table t.table.id
        ((s.store.table t.table.id).updated t.table id previous row) := by
  obtain ⟨_, result, changes⟩ := change_stores (.update t.table id row) ran
  rw [TableData.run_update] at result changes
  cases there : (s.store.table t.table.id).get? id with
  | none =>
      rw [there] at result
      cases result
  | some previous =>
      rw [there] at result changes
      dsimp only at result changes
      cases verdict : (s.store.table t.table.id).check t.table row (some id) with
      | error e =>
          rw [verdict] at result
          cases result
      | ok _ =>
          rw [verdict] at changes
          exact ⟨previous, rfl, changes⟩

end Target

/-! ### Decisions -/

/-- The program gives the result in a state in which the table has the content. -/
def Eval.Yields {α : Type} (m : Eval α) (table : Nat) (content : TableData) (a : α) : Prop :=
  ∃ s next : EvalState, s.store.table table = content ∧ m.run s = (.ok a, next)

/-- What may become of a candidate. It is stored if no row is in its way. Otherwise it is left out,
or the row in its way is changed, if that is what is to be done and the condition holds. -/
inductive Conflicts.Decides (env : Env) (d : TableDef) (content : TableData) (row : Row) :
    Conflicts → Fate → Prop
  | inserted {conflicts : Conflicts} (clear : content.Clear d row) :
      Decides env d content row conflicts (.inserted content.nextRowId row)
  | skipped {index : Option IndexDef} {i : IndexDef} {e : RowId × Row} (chosen : ∀ j ∈ index, j = i)
      (blocked : content.InTheWay d i row e) : Decides env d content row (.skipped index) .skipped
  | declined {i : IndexDef} {sets : List (Nat × Expr)} {condition : Expr} {e : RowId × Row}
      (blocked : content.InTheWay d i row e)
      (unwanted : (condition.holds env [] (e.2 ++ row)).Yields d.id content false) :
      Decides env d content row (.updated i sets (some condition)) .skipped
  | updated {i : IndexDef} {sets : List (Nat × Expr)} {condition : Option Expr} {e : RowId × Row}
      {changed : Row} (blocked : content.InTheWay d i row e)
      (wanted : ∀ c ∈ condition, (c.holds env [] (e.2 ++ row)).Yields d.id content true)
      (assigned : (Target.assign env (e.2 ++ row) sets e.2).Yields d.id content changed) :
      Decides env d content row (.updated i sets condition) (.updated e.1 changed)

namespace Conflicts

variable {env : Env} {t : Target} {d : TableDef} {content : TableData} {s next : EvalState}
  {row : Row} {i : IndexDef} {sets : List (Nat × Expr)} {condition : Option Expr}
  {conflicts : Conflicts} {fate : Fate}

theorem Decides.possible (decided : conflicts.Decides env d content row fate) :
    fate.Possible content := by
  cases decided with
  | inserted _ => rfl
  | skipped _ _ => trivial
  | declined _ _ => trivial
  | @updated i sets condition e changed blocked _ _ =>
      refine Option.isSome_iff_ne_none.mpr fun missing => ?_
      have absent := List.lookup_eq_none_iff.mp missing e blocked.there
      simp at absent

/-- The outcome of a step is one of the decisions, and all that it does to tables. -/
def Settled (env : Env) (t : Target) (conflicts : Conflicts) (row : Row) (s next : EvalState)
    (written : Option Row) : Prop :=
  ∃ fate : Fate, conflicts.Decides env t.table (s.store.table t.table.id) row fate ∧
    written = fate.written?.map (·.2) ∧
    next.store.table = Function.update s.store.table t.table.id
      (fate.apply t.table (s.store.table t.table.id))

theorem Settled.congr {u : EvalState} {written : Option Row}
    (settled : conflicts.Settled env t row u next written) (same : u.store.table = s.store.table) :
    conflicts.Settled env t row s next written := by
  unfold Settled
  rw [← same]
  exact settled

theorem settled_skipped (conflicts : Conflicts) (same : next.store.table = s.store.table)
    (decided : conflicts.Decides env t.table (s.store.table t.table.id) row .skipped) :
    conflicts.Settled env t row s next none :=
  ⟨.skipped, decided, rfl, by rw [Fate.apply, Function.update_eq_self, same]⟩

theorem resolve_settled {id : RowId} {old : Row} {written : Option Row}
    (conforms : (s.store.table t.table.id).Conforms t.table)
    (blocked : (s.store.table t.table.id).InTheWay t.table i row (id, old))
    (ran : (resolve t env sets condition row id).run s = (.ok written, next)) :
    Settled env t (.updated i sets condition) row s next written := by
  have found : (s.store.table t.table.id).get? id = some old :=
    (TableData.get?_eq_some_iff conforms.shape id old).mpr blocked.there
  -- what follows once the condition was asked
  have finish : ∀ (wanted : Bool) (u : EvalState), u.store.table = s.store.table →
      (wanted = true → ∀ c ∈ condition,
        (c.holds env [] (old ++ row)).Yields t.table.id (s.store.table t.table.id) true) →
      (wanted = false → ∃ c, condition = some c ∧
        (c.holds env [] (old ++ row)).Yields t.table.id (s.store.table t.table.id) false) →
      (do
        if !wanted then return none
        let changed ← Target.assign env (old ++ row) sets old
        t.update env id changed
        return some changed : Eval (Option Row)).run u = (.ok written, next) →
      Settled env t (.updated i sets condition) row s next written := by
    intro wanted u same holds fails ran
    cases wanted with
    | false =>
        cases ran
        obtain ⟨c, rfl, unwanted⟩ := fails rfl
        exact settled_skipped _ same (.declined blocked unwanted)
    | true =>
        obtain ⟨changed, v, assigned, ran⟩ := bind_run_ok ran
        obtain ⟨_, w, stored, ran⟩ := bind_run_ok ran
        cases ran
        obtain ⟨kept, -⟩ := (Target.assign_keeps (stable_tables env s.store.table) _ _ _).ran same
          assigned
        obtain ⟨previous, there, changes⟩ := Target.update_stores stored
        rw [kept] at there changes
        obtain rfl := Option.some.inj (found.symm.trans there)
        refine ⟨.updated id changed, .updated blocked (holds rfl) ⟨u, v, congrFun same _, assigned⟩,
          rfl, ?_⟩
        rw [changes, Fate.apply, found]
        rfl
  rw [resolve, Run.bind_of_run (Target.content_run t s), found] at ran
  cases condition with
  | none => exact finish true s rfl (by simp) (by simp) ran
  | some c =>
      obtain ⟨wanted, u, asked, ran⟩ := bind_run_ok ran
      obtain ⟨same, -⟩ := (c.holds_keeps (stable_tables env s.store.table) [] _).ran rfl asked
      refine finish wanted u same ?_ ?_ ran
      · rintro rfl
        simpa using ⟨s, u, rfl, asked⟩
      · rintro rfl
        exact ⟨c, rfl, s, u, rfl, asked⟩

end Conflicts

/-! ### Statements -/

namespace Target

variable {c : Catalog} {now : Timestamp} {base : List (Level DataKey DataValue)} {t : Target}
  {conflicts : Conflicts} {outputs : Option Outputs} {s final : EvalState}

theorem returning_isSome {n : Names} {items : Option (List Sql.SelectItem)}
    (given : t.returning n items = .ok outputs) : outputs.isSome = items.isSome := by
  cases items with
  | none =>
      cases given
      rfl
  | some items =>
      obtain ⟨built, -, given⟩ := bind_ok given
      cases given
      rfl

/-- Along the course, steps for the items take the table of one state to that of another one, and no
other table changes; `written` rows are written. -/
structure Follows {α : Type} (env : Env) (t : Target) (conflicts : Conflicts)
    (candidate : α → Row → Prop) (items : List α) (s final : EvalState)
    (course : List (Row × Fate)) (written : Nat) : Prop where
  candidates : List.Forall₂ (fun item e => candidate item e.1) items course
  followed : TableData.Course t.table (conflicts.Decides env t.table) (s.store.table t.table.id)
    course (final.store.table t.table.id)
  others : ∀ other, other ≠ t.table.id → final.store.table other = s.store.table other
  count : written = (TableData.writes course).length

variable {α : Type} {env : Env} {candidate : α → Row → Prop} {items rest : List α} {item : α}
  {row : Row} {fate : Fate} {course : List (Row × Fate)} {written : Nat} {next : EvalState}

theorem Follows.cons (comes : candidate item row)
    (decided : conflicts.Decides env t.table (s.store.table t.table.id) row fate)
    (changes : next.store.table = Function.update s.store.table t.table.id
      (fate.apply t.table (s.store.table t.table.id)))
    (later : Follows env t conflicts candidate rest next final course written) :
    Follows env t conflicts candidate (item :: rest) s final ((row, fate) :: course)
      (fate.written?.toList.length + written) := by
  obtain ⟨candidates, followed, others, count⟩ := later
  rw [changes] at followed others
  rw [Function.update_self] at followed
  refine ⟨.cons comes candidates, .cons decided followed, ?_, ?_⟩
  · intro other different
    rw [others other different, Function.update_of_ne different]
  · rw [count, TableData.writes_cons, List.length_append]

theorem Follows.congr {u : EvalState}
    (follows : Follows env t conflicts candidate items u final course written)
    (same : u.store.table = s.store.table) :
    Follows env t conflicts candidate items s final course written := by
  obtain ⟨candidates, followed, others, count⟩ := follows
  rw [same] at followed others
  exact ⟨candidates, followed, others, count⟩

/-- In every state the step decides about a candidate. -/
def Settles (c : Catalog) (now : Timestamp) (base : List (Level DataKey DataValue)) (t : Target)
    (conflicts : Conflicts) (candidate : Row → Prop) (step : Eval (Option Row)) : Prop :=
  ∀ (s next : EvalState) (written : Option Row), s.Agrees c base →
    step.run s = (.ok written, next) → next.Agrees c base ∧
      ∃ row, candidate row ∧ conflicts.Settled ⟨c, now⟩ t row s next written

/-- Steps that decide about candidates take the table along a course, and there is a row to return
for each one that they write. -/
theorem runSteps_follows (sound : c.Sound) {step : α → Eval (Option Row)}
    (settles : ∀ item ∈ items, Settles c now base t conflicts (candidate item) (step item))
    {rows : List Row} (agrees : s.Agrees c base)
    (ran : (runSteps ⟨c, now⟩ outputs step items).run s = (.ok rows, final)) :
    ∃ course, Follows ⟨c, now⟩ t conflicts candidate items s final course rows.length := by
  induction items generalizing s rows with
  | nil =>
      cases ran
      exact ⟨[], .nil, .nil _, fun _ _ => rfl, rfl⟩
  | cons item rest ih =>
      obtain ⟨written, next, stepped, ran⟩ := bind_run_ok ran
      obtain ⟨nextAgrees, row, comes, fate, decided, rfl, changes⟩ :=
        settles item List.mem_cons_self s next written agrees stepped
      have behind := fun other member => settles other (List.mem_cons_of_mem item member)
      cases wrote : fate.written? with
      | none =>
          rw [wrote] at ran
          obtain ⟨course, follows⟩ := ih behind nextAgrees ran
          exact ⟨_, by simpa [wrote] using follows.cons comes decided changes⟩
      | some e =>
          rw [wrote] at ran
          obtain ⟨out, shown, returned, ran⟩ := bind_run_ok ran
          obtain ⟨outs, _, ran, ending⟩ := bind_run_ok ran
          cases ending
          -- what is returned for the row that was written changes no table
          obtain ⟨shownAgrees, -⟩ :=
            (returned_keeps (Agrees.stable sound base now) outputs _).ran nextAgrees returned
          obtain ⟨same, -⟩ :=
            (returned_keeps (stable_tables ⟨c, now⟩ next.store.table) outputs _).ran rfl returned
          obtain ⟨course, follows⟩ := ih behind shownAgrees ran
          have whole := follows.cons comes decided (same.trans changes)
          exact ⟨_, by simpa [wrote, Nat.add_comm] using whole⟩

end Target

namespace Sql.Insert

variable {c : Catalog} {now : Timestamp} {base : List (Level DataKey DataValue)} {n : Names}
  {env : Env} {t : Target} {conflicts : Conflicts} {columns : List Nat} {row : Row}
  {s next final : EvalState} {written : Option Row} {i : Insert} {changed : Changed}

theorem insertRow_settled (conforms : (s.store.table t.table.id).Conforms t.table)
    (wellFormed : t.table.WellFormed) (sortable : t.table.UniqueSortable)
    (chosen : conflicts.Chosen t.table) (fits : Row.Fits t.table.types row)
    (ran : (insertRow env t conflicts row).run s = (.ok written, next)) :
    conflicts.Settled env t row s next written := by
  have write : (do
      t.insert env row
      return some row : Eval (Option Row)).run s = (.ok written, next) →
        conflicts.Settled env t row s next written := by
    intro ran
    obtain ⟨_, _, stored, ran⟩ := bind_run_ok ran
    cases ran
    obtain ⟨verdict, changes⟩ := Target.insert_stores stored
    obtain ⟨-, -, free⟩ := (TableData.check_eq_ok_iff _ _ _ _).mp verdict
    exact ⟨.inserted _ row, .inserted (conforms.clear sortable fits free), rfl, changes⟩
  rw [insertRow, Run.bind_of_run (Target.content_run t s)] at ran
  cases conflicts with
  | refused => exact write ran
  | skipped index =>
      dsimp only at ran
      split at ran
      · rename_i taken
        cases ran
        obtain ⟨id, found⟩ := Option.isSome_iff_exists.mp taken
        obtain ⟨i, old, same, blocked⟩ :=
          Conflicts.holder?_some conforms wellFormed sortable chosen fits found
        exact Conflicts.settled_skipped _ rfl (.skipped same blocked)
      · exact write ran
  | updated index sets condition =>
      dsimp only at ran
      split at ran
      · rename_i id found
        have unique : ∀ j ∈ some index, j ∈ t.table.indexes ∧ j.unique := by
          rintro j ⟨⟩
          exact chosen
        obtain ⟨i, old, same, blocked⟩ :=
          Conflicts.holder?_some conforms wellFormed sortable unique fits found
        obtain rfl := same index rfl
        exact Conflicts.resolve_settled conforms blocked ran
      · exact write ran

/-- What the statement is about: its table, the columns that get values, and what is to be done
about rows that are in the way. -/
structure Concerns (n : Names) (i : Insert) (t : Target) (columns : List Nat)
    (conflicts : Conflicts) : Prop where
  table : ∃ name d, QName.ofParts i.table = .ok name ∧ n.catalog.table name = .ok d ∧
    Target.ofTable n d none = .ok t
  columns : targets t.table i.columns = .ok columns
  conflicts : Conflicts.ofClause n t i.conflict = .ok conflicts

/-- What the statement did is told by what became of its candidates, the rows of its source. -/
structure Accounts (env : Env) (n : Names) (i : Insert) (t : Target) (columns : List Nat)
    (conflicts : Conflicts) (s final : EvalState) (course : List (Row × Fate)) (changed : Changed) :
    Prop where
  follows : ∃ sources u, (sourceRows env n t.table columns i.source).run s = (.ok sources, u) ∧
    Target.Follows env t conflicts (fun values row => ∃ v w,
      (completeRow env t columns values).run v = (.ok row, w)) sources s final course changed.count
  asked : changed.returning.isSome = i.returning.isSome
  returned : ∀ set ∈ changed.returning, set.rows.length = changed.count

/-- Every insertion that succeeds accounts for all its candidates, where the keys of the unique
indexes of its table are totally ordered. -/
theorem run_accounts (sound : c.Sound) (names : n.Outermost c)
    (flatTables : ∀ d, c.Table d → d.Flat) (flat : (Change.insert i).isFlat)
    (sortable : ∀ t columns conflicts, i.Concerns n t columns conflicts → t.table.UniqueSortable)
    (agrees : s.Agrees c base) (ran : (i.run ⟨c, now⟩ n).run s = (.ok changed, final)) :
    ∃ t columns conflicts course, i.Concerns n t columns conflicts ∧
      i.Accounts ⟨c, now⟩ n t columns conflicts s final course changed := by
  simp only [Change.isFlat, Bool.and_eq_true] at flat
  obtain ⟨⟨sourceFlat, conflictFlat⟩, returningFlat⟩ := flat
  obtain ⟨name, named, ran⟩ := lift_bind_ok ran
  obtain ⟨d, found, ran⟩ := lift_bind_ok ran
  obtain ⟨columns, targeted, ran⟩ := lift_bind_ok ran
  obtain ⟨t, compiled, ran⟩ := lift_bind_ok ran
  obtain ⟨conflicts, given, ran⟩ := lift_bind_ok ran
  obtain ⟨outputs, asked, ran⟩ := lift_bind_ok ran
  have held := names.sound.tables name d found
  obtain ⟨target, same⟩ := Target.ofTable_sound names held (flatTables d held) compiled
  subst same
  have concerns : i.Concerns n t columns conflicts :=
    ⟨⟨name, _, named, found, compiled⟩, targeted, given⟩
  obtain ⟨sources, u, listed, ran⟩ := bind_run_ok ran
  obtain ⟨rows, _, ran, ending⟩ := bind_run_ok ran
  cases ending
  have stable := stable_tables ⟨c, now⟩ s.store.table
  obtain ⟨same, -⟩ := (sourceRows_keeps stable n t.table columns i.source).ran rfl listed
  obtain ⟨uAgrees, slots⟩ := (sourceRows_meets sound names columns sourceFlat).ran agrees listed
  have proper := Conflicts.ofClause_sound names target conflictFlat given
  have settles : ∀ values ∈ sources, Target.Settles c now base t conflicts
      (fun row => ∃ v w, (completeRow ⟨c, now⟩ t columns values).run v = (.ok row, w)) (do
        insertRow ⟨c, now⟩ t conflicts (← completeRow ⟨c, now⟩ t columns values)) := by
    intro values member v next written vAgrees stepped
    obtain ⟨row, w, completed, stepped⟩ := bind_run_ok stepped
    obtain ⟨wAgrees, fits⟩ := (completeRow_meets sound target (slots values member)).ran vAgrees
      completed
    obtain ⟨kept, -⟩ := (completeRow_keeps (stable_tables ⟨c, now⟩ v.store.table) t columns
      values).ran rfl completed
    obtain ⟨nextAgrees, -⟩ := (insertRow_meets sound target proper fits).ran wAgrees stepped
    have settled := insertRow_settled (wAgrees.content target.held) (sound.wellFormed target.held)
      (sortable t columns conflicts concerns) (Conflicts.ofClause_chosen given) fits stepped
    exact ⟨nextAgrees, row, ⟨v, w, completed⟩, settled.congr kept⟩
  obtain ⟨course, follows⟩ := Target.runSteps_follows sound settles uAgrees ran
  refine ⟨t, columns, conflicts, course, concerns, ⟨sources, u, listed, follows.congr same⟩, ?_, ?_⟩
  · rw [Option.isSome_map, Target.returning_isSome asked]
  · intro set shown
    obtain ⟨built, -, rfl⟩ := Option.map_eq_some_iff.mp shown
    rfl

namespace Accounts

variable {course : List (Row × Fate)}
  (accounts : i.Accounts env n t columns conflicts s final course changed)
include accounts

theorem followed : TableData.Course t.table (conflicts.Decides env t.table)
    (s.store.table t.table.id) course (final.store.table t.table.id) := by
  obtain ⟨_, _, _, follows⟩ := accounts.follows
  exact follows.followed

/-- Every row that was not written is unchanged. -/
theorem row_eq (conforms : (s.store.table t.table.id).Conforms t.table) (id : RowId) :
    (final.store.table t.table.id).get? id =
      ((TableData.writes course).reverse.lookup id).or ((s.store.table t.table.id).get? id) :=
  accounts.followed.get?_eq (fun _ _ _ decided => decided.possible) conforms.shape.issued id

/-- The new rows have the numbers that follow those given out before. -/
theorem new_eq : TableData.newIds course =
    List.range' (s.store.table t.table.id).nextRowId (TableData.newIds course).length :=
  accounts.followed.newIds_eq fun _ _ _ decided => decided.possible

theorem size_eq : (final.store.table t.table.id).size =
    (s.store.table t.table.id).size + (TableData.newIds course).length :=
  accounts.followed.size_eq

end Accounts

end Sql.Insert

end SqlEngine
