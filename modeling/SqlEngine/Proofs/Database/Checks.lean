import SqlEngine.Database.Alteration
import SqlEngine.Proofs.Database.Drafts
import SqlEngine.Proofs.Database.Snapshot
import SqlEngine.Proofs.Database.StatementFrame

/-!
Checks that hold for all rows.

A check that reads nothing but its row is not false for any stored row as long as rows come only
from statements: they evaluate the checks of the table for every row before they store it, and a
row that is stored later on says nothing about the others.
-/

namespace SqlEngine

open Eval (Keeps Meets)
open Run (Alike)

/-! ### Checks of the own row -/

/-- Does the function compute its result from its arguments alone? -/
def Builtin.ofArguments : Builtin → Bool
  | now | randomUuid | nextValue | currentValue | setValue | currentSchema | currentSetting => false
  | _ => true

/-- Nothing but the own row may be read. -/
def Allowance.own : Allowance := ⟨Builtin.ofArguments, fun _ => false⟩

variable {env : Env} {condition : Expr} {row : Row} {id : Nat} {checks : List Expr}
  {related : EvalState → EvalState → Prop}

theorem Eval.parallel_own (env : Env) (related : EvalState → EvalState → Prop) :
    Eval.Parallel .own env env related where
  catalog := rfl
  tables _ allowed := by cases allowed
  calls f allowed type values := by
    cases f with
    | abs => exact Alike.lift _
    | lower => exact Alike.pure _
    | upper => exact Alike.pure _
    | length => exact Alike.pure _
    | concat => exact Alike.pure _
    | nullIf => exact Alike.pure _
    | version => exact Alike.pure _
    | coalesce => exact Alike.pure _
    | typeOf => exact Alike.pure _
    | _ => cases allowed

/-- In no state is the check false for the row. -/
def Expr.Admits (env : Env) (condition : Expr) (row : Row) : Prop :=
  ∀ s, ((Target.refuses env row condition).run s).1 ≠ .ok true

theorem Expr.admits_of_eval (own : condition.within .own) {s next : EvalState} {v : Value}
    (given : (condition.eval env [] row).run s = (.ok v, next))
    (passed : (v.bool? == some false) = false) : condition.Admits env row := by
  intro t
  have alike := condition.eval_alike (Eval.parallel_own env fun _ _ => True) [] row own
  have same : (condition.eval env [] row).run t = (.ok v, ((condition.eval env [] row).run t).2) :=
    Prod.ext ((alike t s trivial).1.trans (congrArg (·.1) given)) rfl
  rw [Target.refuses, Run.bind_of_run same, Run.pure_run, passed]
  simp

/-- No check is false for a row of the table. -/
def EvalState.Checked (env : Env) (id : Nat) (checks : List Expr) (s : EvalState) : Prop :=
  ∀ e ∈ (s.store.table id).rows, ∀ condition ∈ checks, condition.Admits env e.2

open EvalState (Checked)

theorem EvalState.Checked.of_table {s t : EvalState} (checked : Checked env id checks s)
    (same : t.store.get? (.table id) = s.store.get? (.table id)) : Checked env id checks t := by
  rw [Checked, Store.table_congr same]
  exact checked

theorem Eval.stable_checked : Eval.Stable env (Checked env id checks) where
  draws _ _ checked := checked
  sequences s _ d state _ _ checked := by
    refine checked.of_table ?_
    rw [Store.putSequence, Transaction.get?_set, if_neg (by simp)]

/-! ### Rows that are written -/

/-- A change of rows that brings no row but this one. -/
def ContentChange.Brings {α : Type} (row : Row) (m : ContentChange α) : Prop :=
  ∀ content, ∀ e ∈ (m.run content).2.rows, e ∈ content.rows ∨ e.2 = row

namespace ContentChange

theorem insert_brings (d : TableDef) (row : Row) : (insert d row).Brings row := by
  intro content e member
  rw [TableData.run_insert] at member
  cases passed : content.check d row none with
  | error _ =>
      rw [passed] at member
      exact Or.inl member
  | ok _ =>
      rw [passed] at member
      rcases List.mem_append.mp member with old | new
      · exact Or.inl old
      · exact Or.inr (by rw [List.mem_singleton.mp new])

theorem update_brings (d : TableDef) (id : RowId) (row : Row) : (update d id row).Brings row := by
  intro content e member
  rw [TableData.run_update] at member
  revert member
  split
  · exact Or.inl
  · split
    · intro member
      obtain ⟨old, there, rfl⟩ := List.mem_map.mp member
      split
      · exact Or.inr rfl
      · exact Or.inl there
    · exact Or.inl

end ContentChange

namespace Target

variable {t : Target}

theorem check_ok {s next : EvalState} (ran : (t.check env row).run s = (.ok (), next)) :
    ∀ check ∈ t.checks, check.2.within .own → check.2.Admits env row := by
  intro check member own
  obtain ⟨u, v, passed⟩ := Run.forM_run_ok ran check member
  obtain ⟨refused, _, answer, passed⟩ := Run.bind_run_ok passed
  cases refused with
  | true => cases passed
  | false =>
      obtain ⟨v, _, value, answer⟩ := Run.bind_run_ok answer
      exact Expr.admits_of_eval own value (Except.ok.inj (congrArg (·.1) answer))

/-- The table is another one, or its checks are among those that the statement evaluates. -/
def Covers (t : Target) (id : Nat) (checks : List Expr) : Prop :=
  t.table.id = id → ∀ condition ∈ checks, ∃ name, (name, condition) ∈ t.checks

theorem check_meets (own : ∀ condition ∈ checks, condition.within .own) (covers : t.Covers id checks)
    (row : Row) : (t.check env row).Meets (Checked env id checks) fun _ =>
      t.table.id = id → ∀ condition ∈ checks, condition.Admits env row := by
  intro s checked
  refine ⟨(t.check_keeps Eval.stable_checked row s checked).1, ?_⟩
  intro _ given same condition member
  obtain ⟨name, there⟩ := covers same condition member
  exact check_ok (Prod.ext given rfl) (name, condition) there (own condition member)

theorem putContent_checked (content : TableData) (s : EvalState) (checked : Checked env id checks s)
    (rows : t.table.id = id → ∀ e ∈ content.rows, ∀ condition ∈ checks, condition.Admits env e.2) :
    Checked env id checks (s.putTable t.table.id content) := by
  by_cases same : t.table.id = id
  · subst same
    rw [Checked, EvalState.table_putTable]
    exact rows rfl
  · refine checked.of_table ?_
    rw [EvalState.putTable, Store.putTable, Transaction.get?_set, if_neg]
    intro equal
    exact same (DataKey.table.inj equal).symm

theorem changeContent_checked {α : Type} {m : ContentChange α} (brings : m.Brings row)
    (admits : t.table.id = id → ∀ condition ∈ checks, condition.Admits env row) :
    (t.changeContent m).Keeps (Checked env id checks) := by
  intro s checked
  refine ⟨?_, fun _ _ => trivial⟩
  rw [changeContent_run]
  refine putContent_checked _ s checked fun same e member condition listed => ?_
  rcases brings _ e member with old | new
  · exact checked e (same ▸ old) condition listed
  · rw [new]
    exact admits same condition listed

theorem kept_checked (own : ∀ condition ∈ checks, condition.within .own)
    (covers : t.Covers id checks) : t.Kept env (Checked env id checks) where
  insert row := (check_meets own covers row).bind fun _ admits =>
    (changeContent_checked (ContentChange.insert_brings _ row) admits).bind fun _ => Keeps.pure _
  update number row := (check_meets own covers row).bind fun _ admits =>
    (changeContent_checked (ContentChange.update_brings _ number row) admits).bind fun _ =>
      Keeps.pure _
  delete number s checked := by
    refine ⟨?_, fun _ _ => trivial⟩
    cases found : (s.store.table t.table.id).get? number with
    | none =>
        rw [delete_run_missing found]
        exact checked
    | some row =>
        rw [delete_run found]
        refine putContent_checked _ s checked fun same e member condition listed => ?_
        have old := ((TableData.mem_rows_deleted _ _ _ e).mp member).1
        exact checked e (same ▸ old) condition listed

end Target

/-- A statement that changes rows leaves no row for which a check of the table is false that reads
nothing but its own row, whichever way it inserts or replaces them and whether it succeeds. -/
theorem Sql.Change.run_checked {n : Names} (own : ∀ condition ∈ checks, condition.within .own)
    (covers : ∀ d knownAs t, Target.ofTable n d knownAs = .ok t → t.Covers id checks)
    (c : Sql.Change) : (c.run env n).Keeps (Checked env id checks) :=
  c.run_keeps Eval.stable_checked fun d knownAs t compiled =>
    Target.kept_checked own (covers d knownAs t compiled)

/-! ### Checks that come -/

/-- A check that was evaluated for the rows of a table is false for none of them. -/
theorem Define.checkRows_ok {now : Timestamp} {d : TableDef} {defined : List CheckDef}
    {s next : Draft} (ran : (checkRows now d defined).run s = (.ok (), next)) :
    ∀ check ∈ defined, ∀ condition, condition.within .own →
      check.condition.condition (.ofCatalog s.catalog)
        (Scope.ofColumns (TypedPlan.scan d none).columns) = .ok condition →
      Checked ⟨s.catalog, now⟩ d.id [condition] s.data := by
  intro check member condition own given e there _ single
  obtain rfl := List.mem_singleton.mp single
  obtain ⟨compiled, compilation, ran⟩ := checkRows_run_ok ran
  obtain ⟨image, made, listed⟩ := Run.mapM_mem_ok compilation check member
  obtain ⟨_, built, made⟩ := Run.bind_ok made
  cases given.symm.trans built
  cases made
  obtain ⟨_, tested, -⟩ := evaluate_ok ran
  obtain ⟨_, _, tested⟩ := Run.forM_run_ok tested _ listed
  have row : e.2 ∈ (s.data.store.table d.id).rows.map (·.2) := List.mem_map_of_mem there
  obtain ⟨_, _, tested⟩ := Run.forM_run_ok tested e.2 row
  obtain ⟨v, _, answer, tested⟩ := Run.bind_run_ok tested
  have passed : (v.bool? == some false) = false := by
    by_contra refused
    rw [Bool.not_eq_false] at refused
    rw [refused] at tested
    cases tested
  exact Expr.admits_of_eval own answer passed

end SqlEngine
