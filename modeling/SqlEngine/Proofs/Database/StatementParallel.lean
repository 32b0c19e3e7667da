import SqlEngine.Database.Change
import SqlEngine.Database.Session
import SqlEngine.Proofs.Evaluation.Parallel

/-!
Statements on rows in two states at once.

Two states that show the same data under every key cannot be told apart by a statement, however the
data are spread over the levels of their transactions: it gives the same in both and writes the same.
-/

namespace SqlEngine

open Run (Alike)

/-- The program does alike in related states. -/
abbrev Run.Respects {ε σ α : Type} (related : σ → σ → Prop) (m : ExceptT ε (StateM σ) α) : Prop :=
  Alike related m m

open Run (Respects)

/-- Related states show the same data, and equal writes leave them related. -/
structure Eval.Mirrored (related : EvalState → EvalState → Prop) : Prop where
  reads : ∀ s t, related s t → ∀ key, t.store.get? key = s.store.get? key
  drawn : ∀ s t, related s t → t.drawn = s.drawn
  draws : ∀ s t count, related s t → related { s with drawn := count } { t with drawn := count }
  writes : ∀ s t key value, related s t →
    related { s with store := s.store.set key value } { t with store := t.store.set key value }

/-! ### Built-in functions -/

variable {a : Allowance} {env other : Env} {related : EvalState → EvalState → Prop}

namespace Builtin

open Eval (Mirrored)

theorem drawUuid_respects (mirrored : Mirrored related) : Respects related Eval.drawUuid := by
  intro s t same
  have drawn := mirrored.drawn s t same
  constructor
  · exact congrArg (Except.ok ∘ Eval.drawnUuid) drawn.symm
  · have state : (Eval.drawUuid.run t).2 = { t with drawn := s.drawn + 1 } := by
      rw [← drawn]
      rfl
    exact state ▸ mirrored.draws s t (s.drawn + 1) same

theorem putSequence_respects (mirrored : Mirrored related) (id : Nat) (state : SequenceState) :
    Respects related (Eval.changeStore (·.putSequence id state)) :=
  Eval.changeStore_alike fun s t same => mirrored.writes s t _ _ same

theorem draw_respects (mirrored : Mirrored related) (d : SequenceDef) :
    Respects related (draw d) := by
  refine Eval.store_alike fun s t same => ?_
  rw [Store.sequence_congr (mirrored.reads s t same _)]
  exact (Alike.lift _).bind fun ⟨value, state⟩ =>
    (putSequence_respects mirrored d.id state).bind fun _ => Alike.pure _

theorem move_respects (mirrored : Mirrored related) (d : SequenceDef) (value isCalled : Value) :
    Respects related (move d value isCalled) := by
  refine Eval.store_alike fun s t same => ?_
  rw [Store.sequence_congr (mirrored.reads s t same _)]
  cases value.int? with
  | none => exact (putSequence_respects mirrored d.id _).bind fun _ => Alike.pure _
  | some n =>
      exact (Alike.lift _).bind fun moved =>
        (putSequence_respects mirrored d.id moved).bind fun _ => Alike.pure _

theorem run_respects (mirrored : Mirrored related) (type : SqlType) (f : Builtin)
    (values : List Value) : Respects related (f.run env type values) := by
  cases reading : f.onlyReads with
  | true =>
      refine run_alike ?_ ?_ type f reading values
      · exact fun s t same id => mirrored.reads s t same _
      · exact fun s t same => mirrored.reads s t same _
  | false =>
      cases f with
      | randomUuid => exact (drawUuid_respects mirrored).bind fun _ => Alike.pure _
      | nextValue => exact withSequence_alike (draw_respects mirrored) _
      | setValue => exact withSequence_alike (fun d => move_respects mirrored d _ _) _
      | _ => cases reading

end Builtin

theorem Eval.Mirrored.parallel (mirrored : Eval.Mirrored related) (env : Env) :
    Eval.Parallel .everything env env related where
  catalog := rfl
  tables _ _ s t same := Store.table_congr (mirrored.reads s t same _)
  calls f _ type values := f.run_respects mirrored type values

/-! ### Tables to change -/

theorem Expr.eval_respects (mirrored : Eval.Mirrored related) (outer : List Row) (row : Row)
    (e : Expr) : Respects related (e.eval env outer row) :=
  e.eval_alike (mirrored.parallel env) outer row e.within_everything

theorem Plan.collect_respects (mirrored : Eval.Mirrored related) (p : Plan) :
    Respects related (p.cursor env []).collect :=
  (p.cursor_alike (mirrored.parallel env) [] p.within_everything).collect

theorem Expr.holds_alike (parallel : Eval.Parallel a env other related) (outer : List Row)
    (row : Row) {condition : Expr} (allowed : condition.within a) :
    Alike related (condition.holds env outer row) (condition.holds other outer row) :=
  Expr.test_alike true (condition.eval_alike parallel outer row allowed)

namespace Target

theorem content_respects (mirrored : Eval.Mirrored related) (t : Target) :
    Respects related t.content := by
  refine Eval.store_alike fun s u same => ?_
  rw [Store.table_congr (mirrored.reads s u same _)]
  exact Alike.pure _

theorem putContent_respects (mirrored : Eval.Mirrored related) (t : Target) (content : TableData) :
    Respects related (t.putContent content) :=
  Eval.changeStore_alike fun s u same => mirrored.writes s u _ _ same

theorem changeContent_respects {α : Type} (mirrored : Eval.Mirrored related) (t : Target)
    (m : ContentChange α) : Respects related (t.changeContent m) :=
  (t.content_respects mirrored).bind fun _ =>
    (t.putContent_respects mirrored _).bind fun _ => Alike.lift _

theorem check_alike (parallel : Eval.Parallel a env other related) (t : Target)
    (allowed : ∀ check ∈ t.checks, check.2.within a) (row : Row) :
    Alike related (t.check env row) (t.check other row) := by
  refine Alike.forM fun ⟨name, condition⟩ member => ?_
  have tested := Expr.test_alike false (condition.eval_alike parallel [] row (allowed _ member))
  refine tested.bind fun refused => ?_
  split
  · exact Alike.throw _
  · exact Alike.pure _

theorem check_respects (mirrored : Eval.Mirrored related) (t : Target) (row : Row) :
    Respects related (t.check env row) :=
  t.check_alike (mirrored.parallel env) (fun check _ => check.2.within_everything) row

theorem insert_respects (mirrored : Eval.Mirrored related) (t : Target) (row : Row) :
    Respects related (t.insert env row) :=
  (t.check_respects mirrored row).bind fun _ =>
    (t.changeContent_respects mirrored _).bind fun _ => Alike.pure _

theorem update_respects (mirrored : Eval.Mirrored related) (t : Target) (id : RowId) (row : Row) :
    Respects related (t.update env id row) :=
  (t.check_respects mirrored row).bind fun _ =>
    (t.changeContent_respects mirrored _).bind fun _ => Alike.pure _

theorem delete_respects (mirrored : Eval.Mirrored related) (t : Target) (id : RowId) :
    Respects related (t.delete id) := by
  refine (t.content_respects mirrored).bind fun content => ?_
  split
  · exact (t.putContent_respects mirrored _).bind fun _ => Alike.pure _
  · exact Alike.pure _

theorem returned_alike (parallel : Eval.Parallel a env other related) (outputs : Option Outputs)
    (allowed : ∀ output ∈ outputs.getD [], output.2.within a) (row : Row) :
    Alike related (returned env outputs row) (returned other outputs row) :=
  Alike.mapM fun output member => output.2.eval_alike parallel [] row (allowed output member)

theorem runSteps_alike {α : Type} (parallel : Eval.Parallel a env other related)
    (outputs : Option Outputs) (allowed : ∀ output ∈ outputs.getD [], output.2.within a)
    {step move : α → Eval (Option Row)} (each : ∀ item, Alike related (step item) (move item)) :
    ∀ items : List α,
      Alike related (runSteps env outputs step items) (runSteps other outputs move items) := by
  intro items
  induction items with
  | nil => exact Alike.pure _
  | cons item rest ih =>
      refine (each item).bind fun written => ?_
      split
      · exact ih
      · exact (returned_alike parallel outputs allowed _).bind fun _ => ih.bind fun _ => Alike.pure _

theorem run_respects {α : Type} (mirrored : Eval.Mirrored related) (command : String)
    (outputs : Option Outputs) {step : α → Eval (Option Row)}
    (each : ∀ item, Respects related (step item)) (items : List α) :
    Respects related (run env command outputs step items) :=
  (runSteps_alike (mirrored.parallel env) outputs (fun output _ => output.2.within_everything)
    each items).bind fun _ => Alike.pure _

theorem assign_alike (parallel : Eval.Parallel a env other related) (source : Row)
    {sets : List (Nat × Expr)} (allowed : ∀ set ∈ sets, set.2.within a) (row : Row) :
    Alike related (assign env source sets row) (assign other source sets row) :=
  Alike.foldlM fun _ set member =>
    (set.2.eval_alike parallel [] source (allowed set member)).bind fun _ => Alike.pure _

theorem assign_respects (mirrored : Eval.Mirrored related) (source : Row) (sets : List (Nat × Expr))
    (row : Row) : Respects related (assign env source sets row) :=
  assign_alike (mirrored.parallel env) source (fun set _ => set.2.within_everything) row

end Target

theorem Conflicts.resolve_respects (mirrored : Eval.Mirrored related) (t : Target)
    (sets : List (Nat × Expr)) (condition : Option Expr) (row : Row) (id : RowId) :
    Respects related (Conflicts.resolve t env sets condition row id) := by
  refine (t.content_respects mirrored).bind fun content => ?_
  split
  · exact Alike.pure _
  · rename_i existing _
    have finish : ∀ wanted : Bool, Respects related (do
        if !wanted then return none
        let changed ← Target.assign env (existing ++ row) sets existing
        t.update env id changed
        return some changed : Eval (Option Row)) := by
      intro wanted
      cases wanted with
      | false => exact Alike.pure _
      | true =>
          exact (Target.assign_respects mirrored _ sets existing).bind fun _ =>
            (t.update_respects mirrored id _).bind fun _ => Alike.pure _
    cases condition with
    | none => exact finish true
    | some c => exact (Expr.holds_alike (mirrored.parallel env) [] _ c.within_everything).bind finish

namespace Sql

namespace Insert

theorem slot_respects (mirrored : Eval.Mirrored related) (n : Names) (d : TableDef) (t : Term)
    (column : Nat) : Respects related (slot env n d t column) := by
  unfold slot
  split
  · exact Alike.pure _
  · exact (Alike.lift _).bind fun _ => (Alike.lift _).bind fun e =>
      (e.eval_respects mirrored [] []).bind fun _ => Alike.pure _

theorem queryRows_respects (mirrored : Eval.Mirrored related) (n : Names) (d : TableDef)
    (columns : List Nat) (q : Query) : Respects related (queryRows env n d columns q) :=
  (Alike.lift _).bind fun _ => (Alike.lift _).bind fun _ =>
    (Alike.mapM fun _ _ => Alike.lift _).bind fun _ =>
      (Plan.collect_respects mirrored _).bind fun _ => Alike.pure _

theorem sourceRows_respects (mirrored : Eval.Mirrored related) (n : Names) (d : TableDef)
    (columns : List Nat) (source : Option Query) :
    Respects related (sourceRows env n d columns source) := by
  unfold sourceRows
  split
  · exact Alike.pure _
  · exact Alike.mapM fun row _ => (Alike.lift _).bind fun _ =>
      Alike.mapM fun e _ => slot_respects mirrored n d e.1 e.2
  · exact queryRows_respects mirrored n d columns _

theorem completeRow_respects (mirrored : Eval.Mirrored related) (t : Target) (columns : List Nat)
    (values : List (Option Value)) : Respects related (completeRow env t columns values) := by
  refine Alike.mapM fun column _ => ?_
  split
  · exact Alike.pure _
  · exact Expr.eval_respects mirrored [] [] _

theorem insertRow_respects (mirrored : Eval.Mirrored related) (t : Target) (conflicts : Conflicts)
    (row : Row) : Respects related (insertRow env t conflicts row) := by
  have write : Respects related (do
      t.insert env row
      return some row : Eval (Option Row)) :=
    (t.insert_respects mirrored row).bind fun _ => Alike.pure _
  refine (t.content_respects mirrored).bind fun content => ?_
  cases conflicts with
  | refused => exact write
  | skipped index =>
      dsimp only
      split
      · exact Alike.pure _
      · exact write
  | updated index sets condition =>
      dsimp only
      split
      · exact Conflicts.resolve_respects mirrored t sets condition row _
      · exact write

theorem run_respects (mirrored : Eval.Mirrored related) (n : Names) (i : Insert) :
    Respects related (i.run env n) :=
  (Alike.lift _).bind fun _ => (Alike.lift _).bind fun _ => (Alike.lift _).bind fun _ =>
    (Alike.lift _).bind fun t => (Alike.lift _).bind fun conflicts => (Alike.lift _).bind fun _ =>
      (sourceRows_respects mirrored n _ _ _).bind fun _ =>
        Target.run_respects mirrored _ _ (fun values =>
          (completeRow_respects mirrored t _ values).bind fun row =>
            insertRow_respects mirrored t conflicts row) _

end Insert

theorem selects_alike (parallel : Eval.Parallel a env other related) {condition : Option Expr}
    (allowed : ∀ c ∈ condition, c.within a) (row : Row) :
    Alike related (selects env condition row) (selects other condition row) := by
  cases condition with
  | none => exact Alike.pure _
  | some c => exact Expr.holds_alike parallel [] row (allowed c rfl)

theorem selects_respects (mirrored : Eval.Mirrored related) (condition : Option Expr) (row : Row) :
    Respects related (selects env condition row) :=
  selects_alike (mirrored.parallel env) (fun c _ => c.within_everything) row

theorem Update.run_respects (mirrored : Eval.Mirrored related) (n : Names) (u : Update) :
    Respects related (u.run env n) := by
  unfold Update.run
  split
  · exact Alike.throw_bind _ _ _
  · refine (Alike.lift _).bind fun _ => (Alike.lift _).bind fun t => ?_
    refine (Alike.optionMapM fun _ => Alike.lift _).bind fun condition => ?_
    refine (Alike.lift _).bind fun sets => (Alike.lift _).bind fun outputs => ?_
    refine (t.content_respects mirrored).bind fun _ =>
      Target.run_respects mirrored _ _ (fun e => ?_) _
    refine (selects_respects mirrored condition e.2).bind fun selected => ?_
    split
    · exact Alike.pure _
    · exact (Target.assign_respects mirrored e.2 sets e.2).bind fun _ =>
        (t.update_respects mirrored e.1 _).bind fun _ => Alike.pure _

theorem Delete.run_respects (mirrored : Eval.Mirrored related) (n : Names) (d : Delete) :
    Respects related (d.run env n) := by
  unfold Delete.run
  dsimp only
  split
  · exact Alike.throw_bind _ _ _
  · split
    · refine (Alike.lift _).bind fun _ => (Alike.lift _).bind fun t => ?_
      refine (Alike.optionMapM fun _ => Alike.lift _).bind fun condition => ?_
      refine (Alike.lift _).bind fun outputs => ?_
      refine (t.content_respects mirrored).bind fun _ =>
        Target.run_respects mirrored _ _ (fun e => ?_) _
      refine (selects_respects mirrored condition e.2).bind fun selected => ?_
      split
      · exact Alike.pure _
      · exact (t.delete_respects mirrored e.1).bind fun _ => Alike.pure _
    · exact Alike.throw _

theorem Change.run_respects (mirrored : Eval.Mirrored related) (n : Names) :
    ∀ c : Change, Respects related (c.run env n)
  | .insert i => i.run_respects mirrored n
  | .update u => u.run_respects mirrored n
  | .delete d => d.run_respects mirrored n
  | .unsupported _ => Alike.throw _

/-! ### Queries with names in front of them -/

namespace QueryStatement

theorem source_respects (mirrored : Eval.Mirrored related) (n : Names) (knownAs : TableAlias) :
    ∀ s : Source, Respects related (source env n knownAs s)
  | .query _ => (Alike.lift _).bind fun _ => (Alike.lift _).bind fun _ => Alike.pure _
  | .change c => by
      refine (c.run_respects mirrored n).bind fun changed => ?_
      split
      · exact (Alike.lift _).bind fun _ => Alike.pure _
      · exact Alike.pure _

theorem bindAll_respects (mirrored : Eval.Mirrored related) :
    ∀ (bindings : List (TableAlias × Source)) (n : Names),
      Respects related (bindAll env n bindings) := by
  intro bindings
  induction bindings with
  | nil => exact fun _ => Alike.pure _
  | cons binding rest ih =>
      exact fun n => (source_respects mirrored n binding.1 binding.2).bind fun _ =>
        (Alike.lift _).bind fun _ => ih _

theorem run_respects (mirrored : Eval.Mirrored related) (q : QueryStatement) :
    Respects related (q.run env) := by
  unfold QueryStatement.run
  dsimp only
  split
  · exact Alike.throw_bind _ _ _
  · refine (bindAll_respects mirrored q.bindings _).bind fun n => ?_
    split
    · exact (Change.run_respects mirrored n _).bind fun _ => Alike.pure _
    · exact (Alike.lift _).bind fun p =>
        (Plan.collect_respects mirrored p.plan).bind fun _ => Alike.pure _

end QueryStatement

end Sql

/-! ### Settings and emptied tables -/

namespace Session

theorem put_respects (mirrored : Eval.Mirrored related) (name value : String) :
    Respects related (put name value) := by
  refine Eval.changeStore_alike (fun s t same => ?_) |>.bind fun _ => Alike.pure _
  rw [Store.putSetting, Store.putSetting, Store.settings_congr (mirrored.reads s t same _)]
  exact mirrored.writes s t _ _ same

theorem shown_respects (mirrored : Eval.Mirrored related) (env : Env) (words : List Sql.Ident) :
    Respects related (shown env words) := by
  refine Eval.store_alike fun s t same => ?_
  rw [Settings.read_congr (mirrored.reads s t same _)]
  exact (Alike.lift _).bind fun _ => Alike.pure _

theorem truncate_respects (mirrored : Eval.Mirrored related) (env : Env)
    (table : List Sql.Ident) : Respects related (truncate env table) := by
  refine (Alike.lift _).bind fun _ => (Alike.lift _).bind fun d => ?_
  refine Eval.changeStore_alike (fun s t same => ?_) |>.bind fun _ => Alike.pure _
  rw [Store.changeTable, Store.changeTable, Store.table_congr (mirrored.reads s t same _)]
  exact mirrored.writes s t _ _ same

end Session

end SqlEngine
