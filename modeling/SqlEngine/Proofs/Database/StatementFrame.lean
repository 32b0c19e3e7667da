import SqlEngine.Database.Change
import SqlEngine.Database.Session
import SqlEngine.Proofs.Evaluation.Frame

/-!
Statements on rows change the store only by writing entries, and their tables only by inserting,
replacing and deleting rows. What survives these changes is kept by the statements, whether they
succeed or fail.
-/

namespace SqlEngine

/-- The condition survives what statements on rows may change: besides what evaluation changes these
are the contents of tables and the settings. -/
structure Eval.Free (env : Env) (inv : EvalState → Prop) : Prop extends Eval.Stable env inv where
  tables : ∀ s id content, inv s → inv { s with store := s.store.putTable id content }
  settings : ∀ s name value, inv s → inv { s with store := s.store.putSetting name value }

variable {env : Env} {inv : EvalState → Prop}

open Eval (Keeps)

theorem Expr.holds_keeps (stable : Eval.Stable env inv) (outer : List Row) (row : Row)
    (condition : Expr) : (condition.holds env outer row).Keeps inv :=
  (condition.eval_keeps stable outer row).bind fun _ => Keeps.pure _

/-! ### Tables to change -/

namespace Target

theorem content_keeps (t : Target) : t.content.Keeps inv := Keeps.store.bind fun _ => Keeps.pure _

theorem putContent_keeps (free : Eval.Free env inv) (t : Target) (content : TableData) :
    (t.putContent content).Keeps inv :=
  Eval.Meets.changeStore fun s hs => free.tables s _ _ hs

theorem changeContent_keeps {α : Type} (free : Eval.Free env inv) (t : Target)
    (m : ContentChange α) : (t.changeContent m).Keeps inv :=
  t.content_keeps.bind fun _ => (t.putContent_keeps free _).bind fun _ => Keeps.lift _

theorem check_keeps (stable : Eval.Stable env inv) (t : Target) (row : Row) :
    (t.check env row).Keeps inv := by
  refine Eval.Meets.forM fun ⟨name, condition⟩ _ => ?_
  refine Keeps.bind ((condition.eval_keeps stable [] row).bind fun _ => Keeps.pure _) fun no => ?_
  split
  · exact Eval.Meets.throw _
  · exact Keeps.pure _

/-- The condition survives what a statement does to a table. -/
structure Kept (env : Env) (inv : EvalState → Prop) (t : Target) : Prop where
  insert : ∀ row, (t.insert env row).Keeps inv
  update : ∀ id row, (t.update env id row).Keeps inv
  delete : ∀ id, (t.delete id).Keeps inv

theorem kept_of_free (free : Eval.Free env inv) (t : Target) : t.Kept env inv where
  insert row := (t.check_keeps free.toStable row).bind fun _ =>
    (t.changeContent_keeps free _).bind fun _ => Keeps.pure _
  update id row := (t.check_keeps free.toStable row).bind fun _ =>
    (t.changeContent_keeps free _).bind fun _ => Keeps.pure _
  delete id := by
    refine t.content_keeps.bind fun content => ?_
    split
    · exact (t.putContent_keeps free _).bind fun _ => Keeps.pure _
    · exact Keeps.pure _

theorem returned_keeps (stable : Eval.Stable env inv) (outputs : Option Outputs) (row : Row) :
    (returned env outputs row).Keeps inv :=
  Keeps.mapM fun output _ => output.2.eval_keeps stable [] row

theorem runSteps_keeps {α : Type} (stable : Eval.Stable env inv) (outputs : Option Outputs)
    {step : α → Eval (Option Row)} (each : ∀ a, (step a).Keeps inv) :
    ∀ items : List α, (runSteps env outputs step items).Keeps inv := by
  intro items
  induction items with
  | nil => exact Keeps.pure _
  | cons item rest ih =>
      refine (each item).bind fun written => ?_
      split
      · exact ih
      · exact (returned_keeps stable outputs _).bind fun _ => ih.bind fun _ => Keeps.pure _

theorem run_keeps {α : Type} (stable : Eval.Stable env inv) (command : String)
    (outputs : Option Outputs) {step : α → Eval (Option Row)} (each : ∀ a, (step a).Keeps inv)
    (items : List α) : (run env command outputs step items).Keeps inv :=
  (runSteps_keeps stable outputs each items).bind fun _ => Keeps.pure _

theorem assign_keeps (stable : Eval.Stable env inv) (source : Row) (sets : List (Nat × Expr))
    (row : Row) : (assign env source sets row).Keeps inv :=
  Eval.Meets.foldlM trivial fun _ _ set _ =>
    (set.2.eval_keeps stable [] source).bind fun _ => Keeps.pure _

end Target

theorem Conflicts.resolve_keeps (stable : Eval.Stable env inv) {t : Target} (kept : t.Kept env inv)
    (sets : List (Nat × Expr)) (condition : Option Expr) (row : Row) (id : RowId) :
    (Conflicts.resolve t env sets condition row id).Keeps inv := by
  refine t.content_keeps.bind fun content => ?_
  split
  · exact Keeps.pure _
  · rename_i existing _
    have finish : ∀ wanted : Bool, Keeps inv (do
        if !wanted then return none
        let changed ← Target.assign env (existing ++ row) sets existing
        t.update env id changed
        return some changed) := by
      intro wanted
      cases wanted with
      | false => exact Keeps.pure _
      | true =>
          exact (Target.assign_keeps stable _ sets existing).bind fun _ =>
            (kept.update id _).bind fun _ => Keeps.pure _
    cases condition with
    | none => exact finish true
    | some c => exact (c.holds_keeps stable [] _).bind finish

namespace Sql

namespace Insert

theorem slot_keeps (stable : Eval.Stable env inv) (n : Names) (d : TableDef) (t : Term)
    (column : Nat) : (slot env n d t column).Keeps inv := by
  unfold slot
  split
  · exact Keeps.pure _
  · exact (Keeps.lift _).bind fun _ => (Keeps.lift _).bind fun e =>
      (e.eval_keeps stable [] []).bind fun _ => Keeps.pure _

theorem queryRows_keeps (stable : Eval.Stable env inv) (n : Names) (d : TableDef)
    (columns : List Nat) (q : Query) : (queryRows env n d columns q).Keeps inv :=
  (Keeps.lift _).bind fun _ => (Keeps.lift _).bind fun _ =>
    (Keeps.mapM fun _ _ => Keeps.lift _).bind fun _ =>
      Keeps.bind (Plan.cursor_keeps stable [] _).collect.keeps fun _ => Keeps.pure _

theorem sourceRows_keeps (stable : Eval.Stable env inv) (n : Names) (d : TableDef)
    (columns : List Nat) (source : Option Query) :
    (sourceRows env n d columns source).Keeps inv := by
  unfold sourceRows
  split
  · exact Keeps.pure _
  · exact Keeps.mapM fun row _ => (Keeps.lift _).bind fun _ =>
      Keeps.mapM fun e _ => slot_keeps stable n d e.1 e.2
  · exact queryRows_keeps stable n d columns _

theorem completeRow_keeps (stable : Eval.Stable env inv) (t : Target) (columns : List Nat)
    (values : List (Option Value)) : (completeRow env t columns values).Keeps inv := by
  refine Keeps.mapM fun column _ => ?_
  split
  · exact Keeps.pure _
  · exact Expr.eval_keeps stable [] [] _

theorem insertRow_keeps (stable : Eval.Stable env inv) {t : Target} (kept : t.Kept env inv)
    (conflicts : Conflicts) (row : Row) : (insertRow env t conflicts row).Keeps inv := by
  have write : Keeps inv (do
      t.insert env row
      return some row) := (kept.insert row).bind fun _ => Keeps.pure _
  refine t.content_keeps.bind fun content => ?_
  cases conflicts with
  | refused => exact write
  | skipped index =>
      dsimp only
      split
      · exact Keeps.pure _
      · exact write
  | updated index sets condition =>
      dsimp only
      split
      · exact Conflicts.resolve_keeps stable kept sets condition row _
      · exact write

theorem run_keeps (stable : Eval.Stable env inv) {n : Names}
    (kept : ∀ d knownAs t, Target.ofTable n d knownAs = .ok t → t.Kept env inv) (i : Insert) :
    (i.run env n).Keeps inv := by
  refine (Keeps.lift _).bind fun _ => (Keeps.lift _).bind fun d => (Keeps.lift _).bind fun _ => ?_
  refine Eval.Meets.bind (Eval.Meets.lift (kept d none)) fun t change => ?_
  refine (Keeps.lift _).bind fun conflicts => (Keeps.lift _).bind fun _ => ?_
  refine (sourceRows_keeps stable n _ _ _).bind fun _ =>
    Target.run_keeps stable _ _ (fun values => ?_) _
  exact (completeRow_keeps stable t _ values).bind fun row =>
    insertRow_keeps stable change conflicts row

end Insert

theorem selects_keeps (stable : Eval.Stable env inv) (condition : Option Expr) (row : Row) :
    (selects env condition row).Keeps inv := by
  cases condition with
  | none => exact Keeps.pure _
  | some c => exact c.holds_keeps stable [] row

variable {n : Names} (stable : Eval.Stable env inv)
  (kept : ∀ d knownAs t, Target.ofTable n d knownAs = .ok t → t.Kept env inv)
include stable kept

theorem Update.run_keeps (u : Update) : (u.run env n).Keeps inv := by
  unfold Update.run
  split
  · exact Eval.Meets.throw_bind _ _
  · refine (Keeps.lift _).bind fun single => ?_
    refine Eval.Meets.bind (Eval.Meets.lift (kept single.1 single.2)) fun t change => ?_
    refine (Keeps.optionMapM fun _ => Keeps.lift _).bind fun condition => ?_
    refine (Keeps.lift _).bind fun sets => (Keeps.lift _).bind fun outputs => ?_
    refine t.content_keeps.bind fun _ => Target.run_keeps stable _ _ (fun e => ?_) _
    refine (selects_keeps stable condition e.2).bind fun selected => ?_
    split
    · exact Keeps.pure _
    · exact (Target.assign_keeps stable e.2 sets e.2).bind fun _ =>
        (change.update e.1 _).bind fun _ => Keeps.pure _

theorem Delete.run_keeps (d : Delete) : (d.run env n).Keeps inv := by
  unfold Delete.run
  dsimp only
  split
  · exact Eval.Meets.throw_bind _ _
  · split
    · refine (Keeps.lift _).bind fun single => ?_
      refine Eval.Meets.bind (Eval.Meets.lift (kept single.1 single.2)) fun t change => ?_
      refine (Keeps.optionMapM fun _ => Keeps.lift _).bind fun condition => ?_
      refine (Keeps.lift _).bind fun outputs => ?_
      refine t.content_keeps.bind fun _ => Target.run_keeps stable _ _ (fun e => ?_) _
      refine (selects_keeps stable condition e.2).bind fun selected => ?_
      split
      · exact Keeps.pure _
      · exact (change.delete e.1).bind fun _ => Keeps.pure _
    · exact Eval.Meets.throw _

theorem Change.run_keeps : ∀ c : Change, (c.run env n).Keeps inv
  | .insert i => i.run_keeps stable kept
  | .update u => u.run_keeps stable kept
  | .delete d => d.run_keeps stable kept
  | .unsupported _ => Eval.Meets.throw _

/-! ### Queries with names in front of them -/

namespace QueryStatement

theorem source_keeps (knownAs : TableAlias) : ∀ s : Source, (source env n knownAs s).Keeps inv
  | .query _ => (Keeps.lift _).bind fun _ => (Keeps.lift _).bind fun _ => Keeps.pure _
  | .change c => by
      refine (c.run_keeps stable kept).bind fun changed => ?_
      split
      · exact (Keeps.lift _).bind fun _ => Keeps.pure _
      · exact Keeps.pure _

omit kept

variable (anywhere : ∀ n d knownAs t, Target.ofTable n d knownAs = .ok t → t.Kept env inv)
include anywhere

theorem bindAll_keeps : ∀ (bindings : List (TableAlias × Source)) (n : Names),
    (bindAll env n bindings).Keeps inv := by
  intro bindings
  induction bindings with
  | nil => exact fun _ => Keeps.pure _
  | cons binding rest ih =>
      exact fun n => (source_keeps stable (anywhere n) binding.1 binding.2).bind fun _ =>
        (Keeps.lift _).bind fun _ => ih _

theorem run_keeps (q : QueryStatement) : (q.run env).Keeps inv := by
  unfold QueryStatement.run
  dsimp only
  split
  · exact Eval.Meets.throw_bind _ _
  · refine (bindAll_keeps stable anywhere q.bindings _).bind fun n => ?_
    split
    · exact (Change.run_keeps stable (anywhere n) _).bind fun _ => Keeps.pure _
    · exact (Keeps.lift _).bind fun p =>
        Keeps.bind (p.plan.cursor_keeps stable []).collect.keeps fun _ => Keeps.pure _

end QueryStatement

end Sql

/-! ### Settings and emptied tables -/

namespace Session

theorem put_keeps (free : Eval.Free env inv) (name value : String) : (put name value).Keeps inv :=
  (Eval.Meets.changeStore fun s hs => free.settings s _ _ hs).bind fun _ _ => Keeps.pure _

theorem shown_keeps (env : Env) (words : List Sql.Ident) : (shown env words).Keeps inv :=
  Keeps.store.bind fun _ => (Keeps.lift _).bind fun _ => Keeps.pure _

theorem truncate_keeps (free : Eval.Free env inv) (table : List Sql.Ident) :
    (truncate env table).Keeps inv := by
  refine (Keeps.lift _).bind fun _ => (Keeps.lift _).bind fun d => ?_
  exact (Eval.Meets.changeStore fun s hs => free.tables s _ _ hs).bind fun _ _ => Keeps.pure _

end Session

end SqlEngine
