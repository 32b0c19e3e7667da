import SqlEngine.Proofs.Database.StatementParallel
import SqlEngine.Proofs.Storage.TableChange
import SqlEngine.Proofs.Transaction.MapStack

/-!
Updates and deletions that decide on the table as they found it.

A statement decides about a row when its turn comes, while the rows before it are changed already.
If neither its condition nor its assignments read the table that it changes, every decision is the
one that would have been taken before the first change, whatever the order of the rows.
-/

namespace SqlEngine

open Run (Alike)

namespace EvalState

def putTable (s : EvalState) (id : Nat) (content : TableData) : EvalState :=
  { s with store := s.store.putTable id content }

/-- The states differ in the content of one table at most. -/
structure Apart (id : Nat) (s t : EvalState) : Prop where
  visible : ∀ key, key ≠ .table id → t.store.get? key = s.store.get? key
  drawn : t.drawn = s.drawn

variable {id : Nat} {s t : EvalState}

theorem table_putTable (s : EvalState) (id : Nat) (content : TableData) :
    (s.putTable id content).store.table id = content := by
  simp [putTable, Store.table, Store.table?, Store.putTable, Transaction.get?_set]

theorem Apart.refl (id : Nat) (s : EvalState) : Apart id s s := ⟨fun _ _ => rfl, rfl⟩

theorem Apart.putTable (apart : Apart id s t) (content : TableData) :
    Apart id s (t.putTable id content) := by
  refine ⟨fun key other => ?_, apart.drawn⟩
  rw [EvalState.putTable, Store.putTable, Transaction.get?_set, if_neg other]
  exact apart.visible key other

theorem Apart.agree (apart : Apart id s t) : (Allowance.readerBut id).Agree s t where
  tables other allowed := by
    have different : other ≠ id := by simpa [Allowance.readerBut] using allowed
    exact Store.table_congr (apart.visible _ (by simpa using different))
  sequences _ := apart.visible _ (by simp)
  settings := apart.visible _ (by simp)

end EvalState

open EvalState (Apart)

/-- The program does in every state that differs in the table at most what it does in this one. -/
def Eval.Steady {α : Type} (id : Nat) (s : EvalState) (m : Eval α) : Prop :=
  ∀ t, Apart id s t → m.run t = ((m.run s).1, t)

theorem Eval.steady {α : Type} {id : Nat} {env : Env} {s : EvalState} {m : Eval α}
    (alike : ∀ related, Eval.Parallel (.readerBut id) env env related → Alike related m m) :
    Eval.Steady id s m := by
  intro t apart
  have parallel := apart.agree.parallel (Allowance.reading_readerBut id) env
  exact (alike _ parallel).run_fixed

/-! ### The rows of a table -/

namespace TableData

variable {d : TableDef} {t : TableData} {id : RowId} {old : Row} {done rest : List (RowId × Row)}

theorem Shape.distinct (shape : t.Shape d) : (t.rows.map (·.1)).Nodup := by
  refine List.pairwise_map.mpr (shape.ascending.imp ?_)
  intro a b before
  exact Nat.ne_of_lt (Nat.compare_eq_lt.mp before)

theorem ne_of_distinct (distinct : ((done ++ (id, old) :: rest).map (·.1)).Nodup) :
    (∀ e ∈ done, e.1 ≠ id) ∧ ∀ e ∈ rest, e.1 ≠ id := by
  rw [List.map_append, List.map_cons, List.nodup_append, List.nodup_cons] at distinct
  obtain ⟨-, ⟨fresh, -⟩, across⟩ := distinct
  constructor
  · intro e member
    exact across e.1 (List.mem_map_of_mem member) id List.mem_cons_self
  · intro e member same
    exact fresh (same ▸ (List.mem_map_of_mem member : e.1 ∈ rest.map (·.1)))

theorem get?_of_distinct (rows : t.rows = done ++ (id, old) :: rest)
    (distinct : ((done ++ (id, old) :: rest).map (·.1)).Nodup) : t.get? id = some old := by
  have before : done.lookup id = none := by
    rw [List.lookup_eq_none_iff]
    intro e member
    exact bne_iff_ne.mpr ((ne_of_distinct distinct).1 e member).symm
  rw [get?, rows, List.lookup_append, before]
  simp

theorem rows_updated (rows : t.rows = done ++ (id, old) :: rest)
    (distinct : ((done ++ (id, old) :: rest).map (·.1)).Nodup) (previous row : Row) :
    (t.updated d id previous row).rows = done ++ (id, row) :: rest := by
  obtain ⟨before, after⟩ := ne_of_distinct distinct
  have kept : ∀ part : List (RowId × Row), (∀ e ∈ part, e.1 ≠ id) →
      part.map (fun e => if e.1 == id then (id, row) else e) = part := by
    intro part others
    refine (List.map_congr_left fun e member => ?_).trans (List.map_id part)
    simp [others e member]
  have whole : (t.updated d id previous row).rows =
      t.rows.map fun e => if e.1 == id then (id, row) else e := rfl
  rw [whole, rows, List.map_append, List.map_cons, kept done before, kept rest after]
  simp

theorem rows_deleted (rows : t.rows = done ++ (id, old) :: rest)
    (distinct : ((done ++ (id, old) :: rest).map (·.1)).Nodup) (row : Row) :
    (t.deleted d id row).rows = done ++ rest := by
  obtain ⟨before, after⟩ := ne_of_distinct distinct
  have kept : ∀ part : List (RowId × Row), (∀ e ∈ part, e.1 ≠ id) →
      part.filter (·.1 != id) = part := by
    intro part others
    exact List.filter_eq_self.mpr fun e member => by simpa using others e member
  have whole : (t.deleted d id row).rows = t.rows.filter (·.1 != id) := rfl
  rw [whole, rows, List.filter_append, List.filter_cons_of_neg (by simp), kept done before,
    kept rest after]

end TableData

namespace Target

variable {env : Env} {t : Target} {s next : EvalState} {row : Row} {id : RowId}

theorem changeContent_run {α : Type} (t : Target) (m : ContentChange α) (s : EvalState) :
    (t.changeContent m).run s = ((m.run (s.store.table t.table.id)).1,
      s.putTable t.table.id (m.run (s.store.table t.table.id)).2) := rfl

theorem check_run (checks : ∀ check ∈ t.checks, check.2.within .reader) (row : Row) :
    (t.check env row).run s = (((t.check env row).run s).1, s) :=
  (t.check_alike ((Allowance.Agree.refl _ s).parallel Allowance.reading_reader env) checks
    row).run_fixed

theorem update_ok (checks : ∀ check ∈ t.checks, check.2.within .reader)
    (ran : (t.update env id row).run s = (.ok (), next)) :
    ∃ previous, next =
      s.putTable t.table.id ((s.store.table t.table.id).updated t.table id previous row) := by
  obtain ⟨_, checked, first, ran⟩ := Run.bind_run_ok ran
  rw [check_run checks] at first
  obtain ⟨-, rfl⟩ := Prod.mk.inj first
  obtain ⟨_, changed, second, ran⟩ :=
    Run.bind_run_ok (m := t.changeContent (.update t.table id row)) ran
  rw [changeContent_run, TableData.run_update] at second
  cases ran
  revert second
  split
  · intro second
    cases (Prod.mk.inj second).1
  · rename_i previous _
    split
    · intro second
      exact ⟨previous, (Prod.mk.inj second).2.symm⟩
    · intro second
      cases (Prod.mk.inj second).1

theorem delete_run (found : (s.store.table t.table.id).get? id = some row) :
    (t.delete id).run s = (.ok true,
      s.putTable t.table.id ((s.store.table t.table.id).deleted t.table id row)) := by
  simp only [delete, content, Eval.store, Run.bind_run, Run.get_run, Run.pure_run,
    TableData.delete_eq, found]
  rfl

theorem delete_run_missing (missing : (s.store.table t.table.id).get? id = none) :
    (t.delete id).run s = (.ok false, s) := by
  simp only [delete, content, Eval.store, Run.bind_run, Run.get_run, Run.pure_run,
    TableData.delete_eq, missing]
  rfl

theorem returned_run {outputs : Option Outputs}
    (reading : ∀ output ∈ outputs.getD [], output.2.within .reader) (row : Row) :
    (returned env outputs row).run s = (((returned env outputs row).run s).1, s) :=
  (returned_alike ((Allowance.Agree.refl _ s).parallel Allowance.reading_reader env) outputs reading
    row).run_fixed

/-! ### Steps that decide -/

/-- When the turn of a row comes, the step decides about it as in the given state, writes what it
decided, and leaves of the row what follows from that. -/
def Decides (t : Target) (base : EvalState) (decide : Row → Eval (Option Row))
    (left : RowId × Row → Option Row → Option (RowId × Row))
    (step : RowId × Row → Eval (Option Row)) : Prop :=
  ∀ (done rest : List (RowId × Row)) (e : RowId × Row) (s next : EvalState) (written : Option Row),
    Apart t.table.id base s → (s.store.table t.table.id).rows = done ++ e :: rest →
    ((done ++ e :: rest).map (·.1)).Nodup → (step e).run s = (.ok written, next) →
    (decide e.2).run base = (.ok written, base) ∧ Apart t.table.id base next ∧
      (next.store.table t.table.id).rows = done ++ ((left e written).toList ++ rest)

variable {base final : EvalState} {decide : Row → Eval (Option Row)}
  {left : RowId × Row → Option Row → Option (RowId × Row)} {step : RowId × Row → Eval (Option Row)}
  {outputs : Option Outputs} {verdict : Row → Option Row}

theorem runSteps_decides (decides : t.Decides base decide left step)
    (numbered : ∀ e written, ∀ kept ∈ left e written, kept.1 = e.1)
    (reading : ∀ output ∈ outputs.getD [], output.2.within .reader)
    (verdicts : ∀ row written, (decide row).run base = (.ok written, base) → verdict row = written)
    (items : List (RowId × Row)) :
    ∀ (done : List (RowId × Row)) (s : EvalState) (rows : List Row), Apart t.table.id base s →
      (s.store.table t.table.id).rows = done ++ items → ((done ++ items).map (·.1)).Nodup →
      (runSteps env outputs step items).run s = (.ok rows, final) →
      (∀ e ∈ items, (decide e.2).run base = (.ok (verdict e.2), base)) ∧
        Apart t.table.id base final ∧
        (final.store.table t.table.id).rows = done ++ items.filterMap (fun e => left e (verdict e.2)) ∧
        rows.length = (items.filterMap (verdict ·.2)).length := by
  -- `done` is what is left of the rows whose turn is over; the items still stand as they were
  induction items with
  | nil =>
      intro done s rows apart content _ ran
      cases ran
      exact ⟨by simp, apart, by simpa using content, rfl⟩
  | cons e rest ih =>
      intro done s rows apart content distinct ran
      obtain ⟨written, next, stepped, ran⟩ := Run.bind_run_ok ran
      obtain ⟨decided, nextApart, nextContent⟩ :=
        decides done rest e s next written apart content distinct stepped
      have same := verdicts e.2 written decided
      have one : List.Sublist ((left e written).toList.map (·.1)) [e.1] := by
        cases kept : left e written with
        | none => exact List.nil_sublist _
        | some other =>
            rw [Option.toList_some, List.map_singleton, numbered e written other kept]
      have later : ((done ++ (left e written).toList ++ rest).map (·.1)).Nodup := by
        refine List.Nodup.sublist ?_ distinct
        simp only [List.map_append, List.map_cons, List.append_assoc]
        exact (List.Sublist.refl _).append (one.append (List.Sublist.refl _))
      have goOn : ∀ outs, (runSteps env outputs step rest).run next = (.ok outs, final) → _ :=
        fun outs => ih (done ++ (left e written).toList) next outs nextApart
          (by rw [nextContent, List.append_assoc]) later
      have whole : (left e written).toList ++ rest.filterMap (fun e => left e (verdict e.2)) =
          (e :: rest).filterMap fun e => left e (verdict e.2) := by
        rw [List.filterMap_cons, same]
        cases left e written <;> rfl
      cases written with
      | none =>
          obtain ⟨others, finalApart, finalContent, count⟩ := goOn rows ran
          refine ⟨?_, finalApart, ?_, ?_⟩
          · exact List.forall_mem_cons.mpr ⟨same ▸ decided, others⟩
          · rw [finalContent, List.append_assoc, whole]
          · rw [count, List.filterMap_cons, same]
      | some row =>
          obtain ⟨out, _, shown, ran⟩ := Run.bind_run_ok ran
          rw [returned_run reading] at shown
          obtain ⟨-, rfl⟩ := Prod.mk.inj shown
          obtain ⟨outs, _, ran, ending⟩ := Run.bind_run_ok ran
          cases ending
          obtain ⟨others, finalApart, finalContent, count⟩ := goOn outs ran
          refine ⟨?_, finalApart, ?_, ?_⟩
          · exact List.forall_mem_cons.mpr ⟨same ▸ decided, others⟩
          · rw [finalContent, List.append_assoc, whole]
          · rw [List.length_cons, count, List.filterMap_cons, same, List.length_cons]

end Target

theorem Eval.Steady.run_ok {α : Type} {id : Nat} {base s next : EvalState} {m : Eval α} {a : α}
    (steady : Eval.Steady id base m) (apart : Apart id base s) (ran : m.run s = (.ok a, next)) :
    m.run base = (.ok a, base) ∧ next = s := by
  rw [steady s apart] at ran
  obtain ⟨result, rfl⟩ := Prod.mk.inj ran
  have here := steady base (Apart.refl id base)
  rw [result] at here
  exact ⟨here, rfl⟩

namespace Sql

variable {env : Env} {n : Names} {t : Target} {condition : Option Expr} {sets : List (Nat × Expr)}
  {outputs : Option Outputs} {s base final : EvalState} {changed : Changed}

/-- Conditions and assignments read no content of the table, and nothing that is evaluated changes
the state. -/
structure Unread (t : Target) (condition : Option Expr) (sets : List (Nat × Expr))
    (outputs : Option Outputs) : Prop where
  condition : ∀ c ∈ condition, c.within (.readerBut t.table.id)
  sets : ∀ set ∈ sets, set.2.within (.readerBut t.table.id)
  checks : ∀ check ∈ t.checks, check.2.within .reader
  outputs : ∀ output ∈ outputs.getD [], output.2.within .reader

theorem selects_steady (unread : Unread t condition sets outputs) (row : Row) :
    Eval.Steady t.table.id base (selects env condition row) :=
  Eval.steady fun _ parallel => selects_alike parallel unread.condition row

namespace Update

/-- The row that is to stand in the place of a row, if the statement changes it. -/
def replacement (env : Env) (condition : Option Expr) (sets : List (Nat × Expr)) (row : Row) :
    Eval (Option Row) := do
  if !(← selects env condition row) then return none
  return some (← Target.assign env row sets row)

def step (env : Env) (t : Target) (condition : Option Expr) (sets : List (Nat × Expr))
    (e : RowId × Row) : Eval (Option Row) := do
  if !(← selects env condition e.2) then return none
  let changed ← Target.assign env e.2 sets e.2
  t.update env e.1 changed
  return some changed

theorem step_decides (unread : Unread t condition sets outputs) :
    t.Decides base (replacement env condition sets) (fun e written => some (e.1, written.getD e.2))
      (step env t condition sets) := by
  intro done rest e s next written apart content distinct ran
  obtain ⟨selected, _, chosen, acted⟩ := Run.bind_run_ok ran
  obtain ⟨decided, rfl⟩ := (selects_steady unread e.2).run_ok apart chosen
  cases selected with
  | false =>
      cases acted
      exact ⟨Run.bind_of_run decided, apart, by simpa using content⟩
  | true =>
      obtain ⟨row, _, assigned, stored⟩ := Run.bind_run_ok acted
      have steady : Eval.Steady t.table.id base (Target.assign env e.2 sets e.2) :=
        Eval.steady fun _ parallel => Target.assign_alike parallel e.2 unread.sets e.2
      obtain ⟨given, rfl⟩ := steady.run_ok apart assigned
      obtain ⟨_, _, stored, ending⟩ := Run.bind_run_ok stored
      obtain ⟨previous, rfl⟩ := Target.update_ok unread.checks stored
      cases ending
      refine ⟨?_, apart.putTable _, ?_⟩
      · exact (Run.bind_of_run decided).trans (Run.bind_of_run given)
      · rw [EvalState.table_putTable]
        exact TableData.rows_updated content distinct previous row

/-- What the parts of the statement stand for. -/
structure Compiled (n : Names) (u : Update) (t : Target) (condition : Option Expr)
    (sets : List (Nat × Expr)) (outputs : Option Outputs) : Prop where
  sourceless : u.source.isSome = false
  target : ∃ single, u.target.single n "UPDATE" = .ok single ∧
    Target.ofTable n single.1 single.2 = .ok t
  condition : (u.condition.mapM fun c => c.condition n t.scope) = .ok condition
  sets : t.assignments n t.scope [] u.assignments = .ok sets
  outputs : t.returning n u.returning = .ok outputs

theorem Compiled.run_eq {u : Update} (compiled : u.Compiled n t condition sets outputs)
    (s : EvalState) : (u.run env n).run s =
      (Target.run env "UPDATE" outputs (step env t condition sets)
        (s.store.table t.table.id).rows).run s := by
  obtain ⟨single, target, table⟩ := compiled.target
  rw [Update.run, compiled.sourceless]
  refine (Run.bind_of_run (congrArg (·, s) target)).trans ?_
  refine (Run.bind_of_run (congrArg (·, s) table)).trans ?_
  refine (Run.bind_of_run (Run.optionMapM_lift compiled.condition s)).trans ?_
  refine (Run.bind_of_run (congrArg (·, s) compiled.sets)).trans ?_
  exact Run.bind_of_run (congrArg (·, s) compiled.outputs)

/-- An update whose condition and assignments do not read the table that it changes decides about
all rows on the table as it was, and a row is replaced by what the assignments give there. -/
theorem run_snapshot {u : Update} (compiled : u.Compiled n t condition sets outputs)
    (unread : Unread t condition sets outputs)
    (shape : (s.store.table t.table.id).Shape t.table)
    (ran : (u.run env n).run s = (.ok changed, final)) :
    ∃ verdict : Row → Option Row,
      (∀ e ∈ (s.store.table t.table.id).rows,
        (replacement env condition sets e.2).run s = (.ok (verdict e.2), s)) ∧
      (final.store.table t.table.id).rows =
        (s.store.table t.table.id).rows.map (fun e => (e.1, (verdict e.2).getD e.2)) ∧
      changed.count = ((s.store.table t.table.id).rows.filterMap (verdict ·.2)).length ∧
      Apart t.table.id s final := by
  rw [compiled.run_eq] at ran
  obtain ⟨rows, _, ran, ending⟩ := Run.bind_run_ok ran
  cases ending
  let verdict (row : Row) : Option Row :=
    ((replacement env condition sets row).run s).1.toOption.join
  have verdicts : ∀ row written,
      (replacement env condition sets row).run s = (.ok written, s) → verdict row = written := by
    intro row written given
    simp [verdict, given, Except.toOption]
  obtain ⟨decided, apart, content, count⟩ :=
    Target.runSteps_decides (step_decides unread) (by simp) unread.outputs verdicts _ [] s rows
      (Apart.refl _ s) rfl shape.distinct ran
  exact ⟨verdict, decided, by simpa [List.filterMap_eq_map'] using content, count, apart⟩

end Update

namespace Delete

/-- The row that is to go, if the statement deletes it. -/
def removal (env : Env) (condition : Option Expr) (row : Row) : Eval (Option Row) := do
  if !(← selects env condition row) then return none
  return some row

def step (env : Env) (t : Target) (condition : Option Expr) (e : RowId × Row) :
    Eval (Option Row) := do
  if !(← selects env condition e.2) then return none
  return if ← t.delete e.1 then some e.2 else none

theorem step_decides (unread : Unread t condition [] outputs) :
    t.Decides base (removal env condition) (fun e written => if written.isSome then none else some e)
      (step env t condition) := by
  intro done rest e s next written apart content distinct ran
  obtain ⟨selected, _, chosen, acted⟩ := Run.bind_run_ok ran
  obtain ⟨decided, rfl⟩ := (selects_steady unread e.2).run_ok apart chosen
  cases selected with
  | false =>
      cases acted
      exact ⟨Run.bind_of_run decided, apart, by simpa using content⟩
  | true =>
      obtain ⟨gone, _, removed, ending⟩ := Run.bind_run_ok acted
      rw [Target.delete_run (TableData.get?_of_distinct content distinct)] at removed
      cases removed
      cases ending
      refine ⟨?_, apart.putTable _, ?_⟩
      · exact Run.bind_of_run decided
      · rw [EvalState.table_putTable]
        exact TableData.rows_deleted content distinct e.2

/-- What the parts of the statement stand for. -/
structure Compiled (n : Names) (d : Delete) (t : Target) (condition : Option Expr)
    (outputs : Option Outputs) : Prop where
  alone : d.others.isEmpty = true
  target : ∃ term, d.targets = [term] ∧ ∃ single, term.single n "DELETE" = .ok single ∧
    Target.ofTable n single.1 single.2 = .ok t
  condition : (d.condition.mapM fun c => c.condition n t.scope) = .ok condition
  outputs : t.returning n d.returning = .ok outputs

theorem Compiled.run_eq {d : Delete} (compiled : d.Compiled n t condition outputs)
    (s : EvalState) : (d.run env n).run s =
      (Target.run env "DELETE" outputs (step env t condition)
        (s.store.table t.table.id).rows).run s := by
  obtain ⟨term, targets, single, target, table⟩ := compiled.target
  rw [Delete.run, compiled.alone, targets]
  refine (Run.bind_of_run (congrArg (·, s) target)).trans ?_
  refine (Run.bind_of_run (congrArg (·, s) table)).trans ?_
  refine (Run.bind_of_run (Run.optionMapM_lift compiled.condition s)).trans ?_
  exact Run.bind_of_run (congrArg (·, s) compiled.outputs)

/-- A deletion whose condition does not read the table that it changes deletes the rows that the
condition selects on the table as it was. -/
theorem run_snapshot {d : Delete} (compiled : d.Compiled n t condition outputs)
    (unread : Unread t condition [] outputs)
    (shape : (s.store.table t.table.id).Shape t.table)
    (ran : (d.run env n).run s = (.ok changed, final)) :
    ∃ selected : Row → Bool,
      (∀ e ∈ (s.store.table t.table.id).rows,
        (selects env condition e.2).run s = (.ok (selected e.2), s)) ∧
      (final.store.table t.table.id).rows =
        (s.store.table t.table.id).rows.filter (fun e => !selected e.2) ∧
      changed.count = ((s.store.table t.table.id).rows.filter (selected ·.2)).length ∧
      Apart t.table.id s final := by
  rw [compiled.run_eq] at ran
  obtain ⟨rows, _, ran, ending⟩ := Run.bind_run_ok ran
  cases ending
  let selected (row : Row) : Bool := ((selects env condition row).run s).1.toOption.getD false
  have chosen : ∀ row chosen u, (selects env condition row).run s = (.ok chosen, u) →
      selected row = chosen := by
    intro row chosen u given
    simp [selected, given, Except.toOption]
  have verdicts : ∀ row written, (removal env condition row).run s = (.ok written, s) →
      (if selected row then some row else none) = written := by
    intro row written given
    obtain ⟨answer, _, given, ending⟩ := Run.bind_run_ok given
    rw [chosen row answer _ given]
    cases answer <;> (cases ending; rfl)
  obtain ⟨decided, apart, content, count⟩ :=
    Target.runSteps_decides (step_decides unread) (by simp) unread.outputs verdicts _ [] s rows
      (Apart.refl _ s) rfl shape.distinct ran
  refine ⟨selected, ?_, ?_, ?_, apart⟩
  · intro e member
    obtain ⟨answer, u, given, ending⟩ := Run.bind_run_ok (decided e member)
    have kept : u = s := by cases answer <;> exact congrArg (·.2) ending
    rw [given, chosen e.2 answer u given, kept]
  · rw [content, List.nil_append, ← List.filterMap_eq_filter]
    congr 1
    funext e
    cases decision : selected e.2 <;> simp [decision, Option.guard]
  · refine count.trans ?_
    rw [List.length_filterMap_eq_countP, List.countP_eq_length_filter]
    congr 2
    funext e
    cases selected e.2 <;> simp

end Delete

end Sql

end SqlEngine
