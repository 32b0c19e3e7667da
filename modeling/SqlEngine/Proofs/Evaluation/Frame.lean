import SqlEngine.Expr.Eval
import SqlEngine.Proofs.Evaluation.Cursors
import SqlEngine.Proofs.Storage.Sequence

/-!
Evaluation changes the state in two ways only: it draws identifiers, and it moves the counters of
sequences of the catalog. What survives these changes is kept by every expression and every plan.
-/

namespace SqlEngine

/-- The condition survives what evaluation may change. -/
structure Eval.Stable (env : Env) (inv : EvalState → Prop) : Prop where
  draws : ∀ s count, inv s → inv { s with drawn := count }
  sequences : ∀ s name d state, env.catalog.sequence name = .ok d →
    d.Moves (s.store.sequence d) state → inv s →
    inv { s with store := s.store.putSequence d.id state }

/-- The evaluation leaves a state where `inv` holds if it is started in one. -/
abbrev Eval.Keeps {α : Type} (inv : EvalState → Prop) (m : Eval α) : Prop :=
  m.Meets inv fun _ => True

abbrev Cursor.Keeps (inv : EvalState → Prop) (c : Cursor) : Prop := c.Meets inv fun _ => True

variable {α β : Type} {env : Env} {inv : EvalState → Prop}

namespace Eval

theorem Meets.keeps {result : α → Prop} {m : Eval α} (meets : m.Meets inv result) : m.Keeps inv :=
  meets.mono fun _ _ => trivial

theorem Keeps.pure (a : α) : Keeps inv (pure a) := Meets.pure trivial

theorem Keeps.lift (x : Except SqlError α) : Keeps inv (liftM x) := Meets.lift fun _ _ => trivial

theorem Keeps.bind {m : Eval α} {f : α → Eval β} (first : m.Keeps inv)
    (next : ∀ a, (f a).Keeps inv) : Keeps inv (m >>= f) :=
  Meets.bind first fun a _ => next a

theorem Keeps.then_meets {result : β → Prop} {m : Eval α} {f : α → Eval β} (first : m.Keeps inv)
    (next : ∀ a, (f a).Meets inv result) : Meets inv result (m >>= f) :=
  Meets.bind first fun a _ => next a

theorem Keeps.store : Keeps inv store := Meets.store.keeps

theorem Keeps.mapM {f : α → Eval β} {items : List α} (each : ∀ a ∈ items, (f a).Keeps inv) :
    Keeps inv (items.mapM f) :=
  (Meets.mapM each).keeps

theorem Keeps.optionMapM {f : α → Eval β} {a : Option α} (each : ∀ a, (f a).Keeps inv) :
    Keeps inv (a.mapM f) := by
  cases a with
  | none => exact Keeps.pure _
  | some a => exact (each a).bind fun _ => Keeps.pure _

end Eval

open Eval (Keeps Meets)

/-- What tests give: a truth value, or nothing. -/
def Value.IsTruth : Value → Prop
  | null | bool _ => True
  | _ => False

/-- What sequences give: an integer, or nothing. -/
def Value.IsCount : Value → Prop
  | null | int _ => True
  | _ => False

/-! ### Built-in functions -/

namespace Builtin

theorem draw_meets (stable : Eval.Stable env inv) {name : QName} {d : SequenceDef}
    (held : env.catalog.sequence name = .ok d) : (draw d).Meets inv Value.IsCount := by
  intro s hs
  simp only [draw, Run.bind_run, Eval.store, Run.get_run, Run.pure_run, Run.lift_run]
  cases drawn : d.next (s.store.sequence d) with
  | error e => exact ⟨hs, fun _ given => by cases given⟩
  | ok result =>
      refine ⟨stable.sequences s name d result.2 held (.drawn drawn) hs, fun v given => ?_⟩
      cases given
      trivial

theorem lastDrawn_meets (d : SequenceDef) : (lastDrawn d).Meets inv Value.IsCount :=
  Keeps.store.then_meets fun _ => (Keeps.lift _).then_meets fun _ => Meets.pure trivial

theorem move_meets (stable : Eval.Stable env inv) {name : QName} {d : SequenceDef}
    (held : env.catalog.sequence name = .ok d) (value isCalled : Value) :
    (move d value isCalled).Meets inv Value.IsCount := by
  intro s hs
  cases read : value.int? with
  | none =>
      simp only [move, read]
      refine ⟨stable.sequences s name d _ held .same hs, fun v given => ?_⟩
      cases given
      trivial
  | some n =>
      simp only [move, read, Run.bind_run, Eval.store, Run.get_run, Run.pure_run, Run.lift_run]
      cases moved : d.set (s.store.sequence d) n (isCalled.bool?.getD true) with
      | error e => exact ⟨hs, fun _ given => by cases given⟩
      | ok state =>
          refine ⟨stable.sequences s name d state held (.set moved) hs, fun v given => ?_⟩
          cases given
          trivial

theorem withSequence_meets {f : SequenceDef → Eval Value}
    (meets : ∀ name d, env.catalog.sequence name = .ok d → (f d).Meets inv Value.IsCount)
    (v : Value) : (withSequence env f v).Meets inv Value.IsCount := by
  unfold withSequence
  split
  · exact (Eval.Meets.lift fun d held => held).bind fun d held => meets _ d held
  · exact Meets.pure trivial

/-- The use of a sequence that a function stands for counts. -/
theorem run_meets (stable : Eval.Stable env inv) (type : SqlType) (values : List Value)
    {f : Builtin} (counts : f = nextValue ∨ f = currentValue ∨ f = setValue) :
    (f.run env type values).Meets inv Value.IsCount := by
  rcases counts with rfl | rfl | rfl
  · exact withSequence_meets (fun _ _ held => draw_meets stable held) _
  · exact withSequence_meets (fun _ d _ => lastDrawn_meets d) _
  · exact withSequence_meets (fun _ _ held => move_meets stable held _ _) _

theorem drawUuid_keeps (stable : Eval.Stable env inv) : Eval.drawUuid.Keeps inv :=
  fun s hs => ⟨stable.draws s _ hs, fun _ _ => trivial⟩

theorem run_keeps (stable : Eval.Stable env inv) (type : SqlType) (f : Builtin)
    (values : List Value) : (f.run env type values).Keeps inv := by
  cases f with
  | abs => exact Keeps.lift _
  | randomUuid => exact (drawUuid_keeps stable).bind fun _ => Keeps.pure _
  | nextValue => exact (run_meets stable type values (by simp)).keeps
  | currentValue => exact (run_meets stable type values (by simp)).keeps
  | setValue => exact (run_meets stable type values (by simp)).keeps
  | currentSetting =>
      simp only [run]
      split
      · exact Keeps.store.bind fun _ => (Keeps.lift _).bind fun _ => Keeps.pure _
      · exact Keeps.pure _
  | _ => exact Keeps.pure _

end Builtin

/-! ### Operators -/

namespace Op

theorem strict_meets {f : List Value → Except SqlError Value} {args : List (Eval Value)}
    {result : Value → Prop} (each : ∀ m ∈ args, m.Keeps inv)
    (given : ∀ values v, f values = .ok v → result v) : (strict f args).Meets inv result :=
  (Keeps.mapM each).then_meets fun values => Meets.lift (given values)

theorem truth_isTruth (negated : Bool) (b? : Option Bool) : (truth negated b?).IsTruth := by
  cases b? <;> trivial

theorem logic_meets (deciding : Bool) {args : List (Eval Value)}
    (each : ∀ m ∈ args, m.Keeps inv) : (logic deciding args).Meets inv Value.IsTruth := by
  unfold logic
  split
  · rename_i left right
    refine (each left (by simp)).then_meets fun l => ?_
    dsimp only
    split
    · exact Meets.pure trivial
    · refine (each right (by simp)).then_meets fun r => ?_
      split
      · exact Meets.pure trivial
      · refine Meets.pure ?_
        split <;> trivial
  · exact Meets.pure trivial

theorem searchList_keeps (type : SqlType) (v : Value) : ∀ {args : List (Eval Value)}
    {found : Option Bool}, (∀ m ∈ args, m.Keeps inv) →
      (searchList type v found args).Keeps inv := by
  intro args
  induction args with
  | nil => exact fun _ => Keeps.pure _
  | cons candidate rest ih =>
      intro found each
      obtain ⟨first, others⟩ := List.forall_mem_cons.mp each
      refine first.bind fun w => ?_
      split
      · exact Keeps.pure _
      · exact ih others
      · exact ih others

theorem member_meets (negated : Bool) (type : SqlType) {args : List (Eval Value)}
    (each : ∀ m ∈ args, m.Keeps inv) : (member negated type args).Meets inv Value.IsTruth := by
  unfold member
  split
  · exact Meets.pure trivial
  · obtain ⟨first, others⟩ := List.forall_mem_cons.mp each
    refine first.then_meets fun v => ?_
    split
    · exact Meets.pure trivial
    · exact (searchList_keeps type v others).then_meets fun _ => Meets.pure (truth_isTruth _ _)

theorem matchPattern_meets (ignoreCase negated : Bool) {args : List (Eval Value)}
    (each : ∀ m ∈ args, m.Keeps inv) :
    (matchPattern ignoreCase negated args).Meets inv Value.IsTruth := by
  unfold matchPattern
  split
  · rename_i arg pattern
    refine (each arg (by simp)).then_meets fun v => ?_
    split
    · refine (each pattern (by simp)).then_meets fun w => ?_
      split <;> exact Meets.pure trivial
    · exact Meets.pure trivial
  · exact Meets.pure trivial

/-- The operands of a choice that it may give. -/
def outcomes {α : Type} : List α → List α
  | _ :: result :: rest => result :: outcomes rest
  | [otherwise] => [otherwise]
  | [] => []

theorem choose_meets {result : Value → Prop} (absent : result .null) :
    ∀ {args : List (Eval Value)}, (∀ m ∈ args, m.Keeps inv) →
      (∀ m ∈ outcomes args, m.Meets inv result) → (choose args).Meets inv result
  | [], _, _ => Meets.pure absent
  | [otherwise], _, given => given otherwise List.mem_cons_self
  | condition :: outcome :: rest, each, given => by
      obtain ⟨first, others⟩ := List.forall_mem_cons.mp given
      refine (each condition (by simp)).then_meets fun v => ?_
      split
      · exact first
      · exact choose_meets absent (fun m member => each m (by simp [member])) others

theorem mem_of_mem_outcomes {α : Type} {a : α} : ∀ {items : List α}, a ∈ outcomes items → a ∈ items
  | [], member => member
  | [_], member => member
  | _ :: result :: rest, member => by
      rcases List.mem_cons.mp member with rfl | later
      · simp
      · simp [mem_of_mem_outcomes later]

theorem firstPresent_meets {result : Value → Prop} (absent : result .null) :
    ∀ {args : List (Eval Value)}, (∀ m ∈ args, m.Meets inv result) →
      (firstPresent args).Meets inv result := by
  intro args
  induction args with
  | nil => exact fun _ => Meets.pure absent
  | cons arg rest ih =>
      intro each
      obtain ⟨first, others⟩ := List.forall_mem_cons.mp each
      refine first.bind fun v given => ?_
      split
      · exact ih others
      · exact Meets.pure given

theorem perform_keeps (stable : Eval.Stable env inv) (type : SqlType) (argTypes : List SqlType)
    (op : Op) {args : List (Eval Value)} (each : ∀ m ∈ args, m.Keeps inv) :
    (op.perform env type argTypes args).Keeps inv := by
  cases op with
  | conjunction => exact (logic_meets false each).keeps
  | disjunction => exact (logic_meets true each).keeps
  | inList negated type => exact (member_meets negated type each).keeps
  | like ignoreCase negated => exact (matchPattern_meets ignoreCase negated each).keeps
  | case => exact choose_meets trivial each fun m member => each m (mem_of_mem_outcomes member)
  | builtin f =>
      cases f with
      | coalesce => exact firstPresent_meets trivial each
      | typeOf => exact Keeps.pure _
      | _ => exact (Keeps.mapM each).bind fun _ => Builtin.run_keeps stable _ _ _
  | _ => exact strict_meets each fun _ _ _ => trivial

end Op

/-! ### Aggregates -/

theorem Groups.feed_keeps : ∀ (accumulators : List Accumulator) {args : List (Eval Value)},
    (∀ m ∈ args, m.Keeps inv) → (feed accumulators args).Keeps inv := by
  intro accumulators
  induction accumulators with
  | nil => exact fun _ => Keeps.pure _
  | cons a rest ih =>
      intro args each
      cases args with
      | nil => exact Keeps.pure _
      | cons arg args =>
          obtain ⟨first, others⟩ := List.forall_mem_cons.mp each
          refine first.bind fun v => (Keeps.lift _).bind fun a => ?_
          exact (ih others).bind fun _ => Keeps.pure _

/-! ### Expressions and plans -/

mutual

theorem Expr.eval_keeps (stable : Eval.Stable env inv) (outer : List Row) (row : Row) :
    ∀ e : Expr, (e.eval env outer row).Keeps inv
  | .constant v _ => Keeps.pure v
  | .column index _ => by
      unfold Expr.eval
      split
      · exact Keeps.pure _
      · exact Eval.Meets.throw _
  | .outer levels index _ => by
      unfold Expr.eval
      split
      · exact Keeps.pure _
      · exact Eval.Meets.throw _
  | .aggregate _ _ => Eval.Meets.throw _
  | .apply op args type =>
      op.perform_keeps stable type _ (Expr.actions_keep stable outer row args)
  | .call f args => (Keeps.mapM (Expr.actions_keep stable outer row args)).bind fun _ => Keeps.lift _
  | .scalar query _ =>
      (query.cursor_keeps stable (row :: outer)).single trivial fun _ _ => trivial
  | .hasRows query _ =>
      (query.cursor_keeps stable (row :: outer)).hasRow.bind fun _ _ => Keeps.pure _
  | .among arg query _ type => by
      refine (arg.eval_keeps stable outer row).bind fun v => ?_
      split
      · exact Keeps.pure _
      · exact ((query.cursor_keeps stable (row :: outer)).among type v).bind fun _ _ => Keeps.pure _

theorem Expr.actions_keep (stable : Eval.Stable env inv) (outer : List Row) (row : Row) :
    ∀ items : List Expr, ∀ m ∈ Expr.actions env outer row items, m.Keeps inv
  | [] => by simp [Expr.actions]
  | e :: rest => List.forall_mem_cons.mpr
      ⟨e.eval_keeps stable outer row, Expr.actions_keep stable outer row rest⟩

theorem Plan.cursor_keeps (stable : Eval.Stable env inv) (outer : List Row) :
    ∀ p : Plan, (p.cursor env outer).Keeps inv
  | .values rows => Plan.valuesCursor_keeps stable outer rows
  | .fixed rows => Cursor.Meets.ofList fun _ _ => trivial
  | .scan table =>
      Cursor.Meets.deferred (Eval.Meets.store.bind fun _ _ => Eval.Meets.pure fun _ _ => trivial)
  | .filter source condition =>
      (source.cursor_keeps stable outer).filter fun row _ =>
        (condition.eval_keeps stable outer row).bind fun _ => Keeps.pure _
  | .project source items =>
      (source.cursor_keeps stable outer).map fun row _ =>
        Keeps.mapM (Expr.actions_keep stable outer row items)
  | .join left right kind leftWidth rightWidth condition =>
      (left.cursor_keeps stable outer).join (right.cursor_keeps stable outer) kind leftWidth
        rightWidth (fun _ => trivial) trivial (fun _ _ _ _ => trivial) fun row _ =>
          (condition.eval_keeps stable outer row).bind fun _ => Keeps.pure _
  | .lookupJoin left table index key keepLeft condition =>
      (left.cursor_keeps stable outer).lookupJoin (fun _ => True) keepLeft _ trivial
        (fun _ _ _ _ => trivial)
        (fun row _ => (condition.eval_keeps stable outer row).bind fun _ => Keeps.pure _)
        (fun row _ => Eval.Meets.bind (key.eval_keeps stable outer row) fun _ _ =>
          Eval.Meets.store.bind fun _ _ => Eval.Meets.pure fun _ _ => trivial)
  | .group source keys calls args =>
      (source.cursor_keeps stable outer).group _ (fun _ => True) (fun _ => True) trivial
        (fun row _ => Keeps.mapM (Expr.actions_keep stable outer row keys))
        (fun row _ held _ => Groups.feed_keeps held (Expr.actions_keep stable outer row args))
        (fun _ => trivial) (fun _ _ _ => trivial)
  | .order source keys directions =>
      (source.cursor_keeps stable outer).order _ fun row _ =>
        Keeps.mapM (Expr.actions_keep stable outer row keys)
  | .distinct source types =>
      (source.cursor_keeps stable outer).distinct types fun _ _ => Keeps.pure _
  | .distinctOn source keys =>
      (source.cursor_keeps stable outer).distinct _ fun row _ =>
        Keeps.mapM (Expr.actions_keep stable outer row keys)
  | .limit source count offset => (source.cursor_keeps stable outer).limit count offset
  | .union left right all types => by
      have both := (left.cursor_keeps stable outer).append (right.cursor_keeps stable outer)
      unfold Plan.cursor
      split
      · exact both
      · exact both.distinct types fun _ _ => Keeps.pure _

theorem Plan.valuesCursor_keeps (stable : Eval.Stable env inv) (outer : List Row) :
    ∀ rows : List (List Expr), (Plan.valuesCursor env outer rows).Keeps inv
  | [] => Cursor.Meets.empty
  | items :: rest => Cursor.Meets.after (Keeps.mapM (Expr.actions_keep stable outer [] items))
      fun _ _ => Cursor.Meets.cons trivial (Plan.valuesCursor_keeps stable outer rest)

end

end SqlEngine
