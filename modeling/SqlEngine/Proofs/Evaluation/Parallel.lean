import SqlEngine.Expr.Eval
import SqlEngine.Proofs.Evaluation.Alike

/-!
Evaluation in two states at once.

What an expression gives depends on the state through the built-in functions that it calls and the
tables that its subqueries read, and on the rows around it through the places that it reads. Where
two states and two stacks of rows agree on these, evaluation is alike.

An expression is evaluated over its own row and those of the enclosing queries, a plan over the
latter alone. Both are stacks of rows, the nearest row first; a subquery has the row of its
expression on top of its stack.
-/

namespace SqlEngine

open Run (Alike)

/-! ### What is read of the rows around -/

/-- Places of a stack of rows: the row so many levels out, and a position in it. -/
abbrev Places := Nat → Nat → Prop

namespace Places

def everything : Places := fun _ _ => True

/-- The places for the expressions of a plan, whose own rows lie on top of the stack. -/
def beneath (places : Places) : Places
  | 0, _ => True
  | level + 1, index => places level index

/-- Two stacks show the same at these places: the same row, or else the same value. -/
def Same (places : Places) (s t : List Row) : Prop :=
  ∀ level index, places level index → s[level]? = t[level]? ∨
    ∃ v, (s[level]?).bind (·[index]?) = some v ∧ (t[level]?).bind (·[index]?) = some v

variable {places : Places} {s t : List Row}

theorem Same.refl (s : List Row) : places.Same s s := fun _ _ _ => Or.inl rfl

theorem Same.beneath (same : places.Same s t) (row : Row) : places.beneath.Same (row :: s) (row :: t)
  | 0, _, _ => Or.inl rfl
  | level + 1, index, read => same level index read

theorem Same.value (same : places.Same s t) {level index : Nat} (read : places level index) :
    (s[level]?).bind (·[index]?) = (t[level]?).bind (·[index]?) := by
  rcases same level index read with row | ⟨v, left, right⟩
  · rw [row]
  · rw [left, right]

end Places

mutual

/-- Does an expression, with its subqueries, read nothing but these places? -/
def Expr.ReadsOnly (places : Places) : Expr → Prop
  | .column index _ => places 0 index
  | .outer levels index _ => levels = 0 ∨ places levels index
  | .apply _ args _ => Expr.AllReadOnly places args
  | .call _ args => Expr.AllReadOnly places args
  | .scalar query _ => query.ReadsOnly places
  | .hasRows query _ => query.ReadsOnly places
  | .among arg query _ _ => arg.ReadsOnly places ∧ query.ReadsOnly places
  | .constant _ _ => True
  | .aggregate _ _ => True

def Expr.AllReadOnly (places : Places) : List Expr → Prop
  | [] => True
  | e :: rest => e.ReadsOnly places ∧ Expr.AllReadOnly places rest

/-- Does a plan read nothing but these places of the rows that enclose it? -/
def Plan.ReadsOnly (places : Places) : Plan → Prop
  | .values rows => Expr.ListsReadOnly places.beneath rows
  | .fixed _ => True
  | .scan _ => True
  | .filter source condition => source.ReadsOnly places ∧ condition.ReadsOnly places.beneath
  | .project source items => source.ReadsOnly places ∧ Expr.AllReadOnly places.beneath items
  | .join left right _ _ _ condition =>
    left.ReadsOnly places ∧ right.ReadsOnly places ∧ condition.ReadsOnly places.beneath
  | .lookupJoin left _ _ key _ condition => left.ReadsOnly places ∧
    key.ReadsOnly places.beneath ∧ condition.ReadsOnly places.beneath
  | .group source keys _ args => source.ReadsOnly places ∧
    Expr.AllReadOnly places.beneath keys ∧ Expr.AllReadOnly places.beneath args
  | .order source keys _ => source.ReadsOnly places ∧ Expr.AllReadOnly places.beneath keys
  | .distinct source _ => source.ReadsOnly places
  | .distinctOn source keys => source.ReadsOnly places ∧ Expr.AllReadOnly places.beneath keys
  | .limit source _ _ => source.ReadsOnly places
  | .union left right _ _ => left.ReadsOnly places ∧ right.ReadsOnly places

def Expr.ListsReadOnly (places : Places) : List (List Expr) → Prop
  | [] => True
  | items :: rest => Expr.AllReadOnly places items ∧ Expr.ListsReadOnly places rest

end

theorem Places.beneath_everything : everything.beneath = everything := by
  funext level index
  cases level <;> rfl

mutual

theorem Expr.readsOnly_everything : ∀ e : Expr, e.ReadsOnly .everything
  | .constant _ _ | .column _ _ | .aggregate _ _ => trivial
  | .outer _ _ _ => Or.inr trivial
  | .apply _ args _ | .call _ args => Expr.allReadOnly_everything args
  | .scalar query _ | .hasRows query _ => query.readsOnly_everything
  | .among arg query _ _ => ⟨arg.readsOnly_everything, query.readsOnly_everything⟩

theorem Expr.allReadOnly_everything : ∀ items : List Expr, Expr.AllReadOnly .everything items
  | [] => trivial
  | e :: rest => ⟨e.readsOnly_everything, Expr.allReadOnly_everything rest⟩

theorem Plan.readsOnly_everything : ∀ p : Plan, p.ReadsOnly .everything
  | .values rows => by
      simpa only [Plan.ReadsOnly, Places.beneath_everything] using Expr.listsReadOnly_everything rows
  | .fixed _ | .scan _ => trivial
  | .filter source condition => by
      rw [Plan.ReadsOnly, Places.beneath_everything]
      exact ⟨source.readsOnly_everything, condition.readsOnly_everything⟩
  | .project source items => by
      rw [Plan.ReadsOnly, Places.beneath_everything]
      exact ⟨source.readsOnly_everything, Expr.allReadOnly_everything items⟩
  | .join left right _ _ _ condition => by
      rw [Plan.ReadsOnly, Places.beneath_everything]
      exact ⟨left.readsOnly_everything, right.readsOnly_everything, condition.readsOnly_everything⟩
  | .lookupJoin left _ _ key _ condition => by
      rw [Plan.ReadsOnly, Places.beneath_everything]
      exact ⟨left.readsOnly_everything, key.readsOnly_everything, condition.readsOnly_everything⟩
  | .group source keys _ args => by
      rw [Plan.ReadsOnly, Places.beneath_everything]
      exact ⟨source.readsOnly_everything, Expr.allReadOnly_everything keys,
        Expr.allReadOnly_everything args⟩
  | .order source keys _ => by
      rw [Plan.ReadsOnly, Places.beneath_everything]
      exact ⟨source.readsOnly_everything, Expr.allReadOnly_everything keys⟩
  | .distinct source _ => source.readsOnly_everything
  | .distinctOn source keys => by
      rw [Plan.ReadsOnly, Places.beneath_everything]
      exact ⟨source.readsOnly_everything, Expr.allReadOnly_everything keys⟩
  | .limit source _ _ => source.readsOnly_everything
  | .union left right _ _ => ⟨left.readsOnly_everything, right.readsOnly_everything⟩

theorem Expr.listsReadOnly_everything : ∀ rows : List (List Expr),
    Expr.ListsReadOnly .everything rows
  | [] => trivial
  | items :: rest => ⟨Expr.allReadOnly_everything items, Expr.listsReadOnly_everything rest⟩

end

/-! ### What is read of the state -/

/-- The built-in functions that may be called, and the numbers of the tables that may be read. -/
structure Allowance where
  calls : Builtin → Bool
  tables : Nat → Bool

namespace Allowance

def everything : Allowance := ⟨fun _ => true, fun _ => true⟩

@[simp] theorem everything_calls (f : Builtin) : everything.calls f = true := rfl

@[simp] theorem everything_tables (id : Nat) : everything.tables id = true := rfl

end Allowance

mutual

/-- Does an expression with its subqueries keep within an allowance? -/
def Expr.within (a : Allowance) : Expr → Bool
  | .apply (.builtin f) args _ => a.calls f && Expr.allWithin a args
  | .apply _ args _ => Expr.allWithin a args
  | .call _ args => Expr.allWithin a args
  | .scalar query _ => query.within a
  | .hasRows query _ => query.within a
  | .among arg query _ _ => arg.within a && query.within a
  | _ => true

def Expr.allWithin (a : Allowance) : List Expr → Bool
  | [] => true
  | e :: rest => e.within a && Expr.allWithin a rest

def Plan.within (a : Allowance) : Plan → Bool
  | .values rows => Expr.listsWithin a rows
  | .fixed _ => true
  | .scan table => a.tables table.id
  | .filter source condition => source.within a && condition.within a
  | .project source items => source.within a && Expr.allWithin a items
  | .join left right _ _ _ condition => left.within a && right.within a && condition.within a
  | .lookupJoin left table _ key _ condition =>
    left.within a && a.tables table.id && key.within a && condition.within a
  | .group source keys _ args => source.within a && Expr.allWithin a keys && Expr.allWithin a args
  | .order source keys _ => source.within a && Expr.allWithin a keys
  | .distinct source _ => source.within a
  | .distinctOn source keys => source.within a && Expr.allWithin a keys
  | .limit source _ _ => source.within a
  | .union left right _ _ => left.within a && right.within a

def Expr.listsWithin (a : Allowance) : List (List Expr) → Bool
  | [] => true
  | items :: rest => Expr.allWithin a items && Expr.listsWithin a rest

end

mutual

theorem Expr.within_everything : ∀ e : Expr, e.within .everything = true
  | .constant .. | .column .. | .outer .. | .aggregate .. => rfl
  | .apply op args _ => by
      cases op <;> simp [Expr.within, Expr.allWithin_everything args]
  | .call _ args => Expr.allWithin_everything args
  | .scalar query _ => query.within_everything
  | .hasRows query _ => query.within_everything
  | .among arg query _ _ => by simp [Expr.within, arg.within_everything, query.within_everything]

theorem Expr.allWithin_everything : ∀ items : List Expr, Expr.allWithin .everything items = true
  | [] => rfl
  | e :: rest => by
      simp [Expr.allWithin, e.within_everything, Expr.allWithin_everything rest]

theorem Plan.within_everything : ∀ p : Plan, p.within .everything = true
  | .values rows => Expr.listsWithin_everything rows
  | .fixed _ | .scan _ => rfl
  | .filter source condition => by
      simp [Plan.within, source.within_everything, condition.within_everything]
  | .project source items => by
      simp [Plan.within, source.within_everything, Expr.allWithin_everything items]
  | .join left right _ _ _ condition => by
      simp [Plan.within, left.within_everything, right.within_everything,
        condition.within_everything]
  | .lookupJoin left _ _ key _ condition => by
      simp [Plan.within, left.within_everything, key.within_everything,
        condition.within_everything]
  | .group source keys _ args => by
      simp [Plan.within, source.within_everything, Expr.allWithin_everything keys,
        Expr.allWithin_everything args]
  | .order source keys _ => by
      simp [Plan.within, source.within_everything, Expr.allWithin_everything keys]
  | .distinct source _ => source.within_everything
  | .distinctOn source keys => by
      simp [Plan.within, source.within_everything, Expr.allWithin_everything keys]
  | .limit source _ _ => source.within_everything
  | .union left right _ _ => by
      simp [Plan.within, left.within_everything, right.within_everything]

theorem Expr.listsWithin_everything : ∀ rows : List (List Expr),
    Expr.listsWithin .everything rows = true
  | [] => rfl
  | items :: rest => by
      simp [Expr.listsWithin, Expr.allWithin_everything items, Expr.listsWithin_everything rest]

end

/-- Under related states, the tables that may be read have the same rows, and the functions that
may be called are alike. -/
structure Eval.Parallel (a : Allowance) (env other : Env)
    (related : EvalState → EvalState → Prop) : Prop where
  catalog : other.catalog = env.catalog
  tables : ∀ id, a.tables id = true → ∀ s t, related s t → t.store.table id = s.store.table id
  calls : ∀ f, a.calls f = true → ∀ type values,
    Alike related (f.run env type values) (f.run other type values)

variable {a : Allowance} {env other : Env} {related : EvalState → EvalState → Prop}

/-! ### Operators -/

namespace Op

variable {args operands : List (Eval Value)}

theorem strict_alike (f : List Value → Except SqlError Value)
    (each : List.Forall₂ (Alike related) args operands) :
    Alike related (strict f args) (strict f operands) :=
  (Alike.sequence each).bind fun _ => Alike.lift _

theorem logic_alike (deciding : Bool) (each : List.Forall₂ (Alike related) args operands) :
    Alike related (logic deciding args) (logic deciding operands) := by
  match each with
  | .nil | .cons _ .nil | .cons _ (.cons _ (.cons _ _)) => exact Alike.pure _
  | .cons first (.cons second .nil) =>
      refine first.bind fun l => ?_
      dsimp only
      split
      · exact Alike.pure _
      · refine second.bind fun r => ?_
        split <;> exact Alike.pure _

theorem searchList_alike (type : SqlType) (v : Value)
    (each : List.Forall₂ (Alike related) args operands) :
    ∀ found, Alike related (searchList type v found args) (searchList type v found operands) := by
  induction each with
  | nil => exact fun _ => Alike.pure _
  | cons first _ ih =>
      refine fun found => Alike.bind first fun w => ?_
      split
      · exact Alike.pure _
      · exact ih _
      · exact ih _

theorem member_alike (negated : Bool) (type : SqlType)
    (each : List.Forall₂ (Alike related) args operands) :
    Alike related (member negated type args) (member negated type operands) := by
  cases each with
  | nil => exact Alike.pure _
  | cons first rest =>
      refine first.bind fun v => ?_
      split
      · exact Alike.pure _
      · exact (searchList_alike type v rest _).bind fun _ => Alike.pure _

theorem matchPattern_alike (ignoreCase negated : Bool)
    (each : List.Forall₂ (Alike related) args operands) :
    Alike related (matchPattern ignoreCase negated args)
      (matchPattern ignoreCase negated operands) := by
  match each with
  | .nil | .cons _ .nil | .cons _ (.cons _ (.cons _ _)) => exact Alike.pure _
  | .cons first (.cons second .nil) =>
      refine first.bind fun v => ?_
      split
      · refine second.bind fun w => ?_
        split <;> exact Alike.pure _
      · exact Alike.pure _

theorem choose_alike : ∀ {args operands : List (Eval Value)},
    List.Forall₂ (Alike related) args operands → Alike related (choose args) (choose operands)
  | _, _, .nil => Alike.pure _
  | _, _, .cons otherwise .nil => otherwise
  | _, _, .cons condition (.cons result rest) => by
      refine condition.bind fun v => ?_
      split
      · exact result
      · exact choose_alike rest

theorem firstPresent_alike (each : List.Forall₂ (Alike related) args operands) :
    Alike related (firstPresent args) (firstPresent operands) := by
  induction each with
  | nil => exact Alike.pure _
  | cons first _ ih =>
      refine Alike.bind first fun v => ?_
      split
      · exact ih
      · exact Alike.pure _

theorem perform_alike (parallel : Eval.Parallel a env other related) (type : SqlType)
    (argTypes : List SqlType) (op : Op) (allowed : ∀ f, op = .builtin f → a.calls f = true)
    (each : List.Forall₂ (Alike related) args operands) :
    Alike related (op.perform env type argTypes args) (op.perform other type argTypes operands) := by
  cases op with
  | convert c =>
      unfold perform
      rw [parallel.catalog]
      exact strict_alike _ each
  | conjunction => exact logic_alike false each
  | disjunction => exact logic_alike true each
  | inList negated type => exact member_alike negated type each
  | like ignoreCase negated => exact matchPattern_alike ignoreCase negated each
  | case => exact choose_alike each
  | builtin f =>
      cases f with
      | coalesce => exact firstPresent_alike each
      | typeOf => exact Alike.pure _
      | _ => exact (Alike.sequence each).bind fun values =>
          parallel.calls _ (allowed _ rfl) type values
  | _ => exact strict_alike _ each

end Op

theorem Groups.feed_alike : ∀ (accumulators : List Accumulator) {args operands : List (Eval Value)},
    List.Forall₂ (Alike related) args operands →
      Alike related (feed accumulators args) (feed accumulators operands) := by
  intro accumulators
  induction accumulators with
  | nil => exact fun _ => Alike.pure _
  | cons a rest ih =>
      intro args operands each
      cases each with
      | nil => exact Alike.pure _
      | cons first others =>
          exact first.bind fun v => (Alike.lift _).bind fun a => (ih others).bind fun _ =>
            Alike.pure _

/-! ### Expressions and plans -/

theorem Expr.test_alike {e : Expr} {outer outers : List Row} {row twin : Row} (wanted : Bool)
    (alike : Alike related (e.eval env outer row) (e.eval other outers twin)) :
    Alike related (do return (← e.eval env outer row).bool? == some wanted)
      (do return (← e.eval other outers twin).bool? == some wanted) :=
  alike.bind fun _ => Alike.pure _

mutual

/-- In states and over stacks of rows that show the same, an expression gives the same. -/
theorem Expr.eval_local (parallel : Eval.Parallel a env other related) {places : Places}
    {outer outers : List Row} {row twin : Row} (same : places.Same (row :: outer) (twin :: outers)) :
    ∀ e : Expr, e.within a → e.ReadsOnly places →
      Alike related (e.eval env outer row) (e.eval other outers twin)
  | .constant v _, _, _ => Alike.pure v
  | .column index _, _, reads => by
      unfold Expr.eval
      rcases same 0 index reads with rows | ⟨v, left, right⟩
      · obtain rfl : row = twin := Option.some.inj rows
        split
        · exact Alike.pure _
        · exact Alike.throw _
      · have left : row[index]? = some v := left
        have right : twin[index]? = some v := right
        rw [left, right]
        exact Alike.pure v
  | .outer levels index _, _, reads => by
      have shown : (if levels = 0 then none else (outer[levels - 1]?).bind (·[index]?)) =
          if levels = 0 then none else (outers[levels - 1]?).bind (·[index]?) := by
        cases levels with
        | zero => rfl
        | succ level => exact same.value (reads.resolve_left (Nat.succ_ne_zero level))
      unfold Expr.eval
      rw [shown]
      split
      · exact Alike.pure _
      · exact Alike.throw _
  | .aggregate _ _, _, _ => Alike.throw _
  | .apply op args type, allowed, reads => by
      have inside : Expr.allWithin a args ∧ ∀ f, op = .builtin f → a.calls f = true := by
        cases op <;> simp_all [Expr.within]
      exact op.perform_alike parallel type _ inside.2
        (Expr.actions_local parallel same args inside.1 reads)
  | .call f args, allowed, reads =>
      (Alike.sequence (Expr.actions_local parallel same args allowed reads)).bind
        fun _ => Alike.lift _
  | .scalar query _, allowed, reads => (query.cursor_local parallel same allowed reads).single
  | .hasRows query _, allowed, reads =>
      (query.cursor_local parallel same allowed reads).hasRow.bind fun _ => Alike.pure _
  | .among arg query _ type, allowed, reads => by
      obtain ⟨first, second⟩ := Bool.and_eq_true_iff.mp allowed
      refine (arg.eval_local parallel same first reads.1).bind fun v => ?_
      split
      · exact Alike.pure _
      · exact ((query.cursor_local parallel same second reads.2).among type v).bind
          fun _ => Alike.pure _

theorem Expr.actions_local (parallel : Eval.Parallel a env other related) {places : Places}
    {outer outers : List Row} {row twin : Row} (same : places.Same (row :: outer) (twin :: outers)) :
    ∀ items : List Expr, Expr.allWithin a items → Expr.AllReadOnly places items →
        List.Forall₂ (Alike related) (Expr.actions env outer row items)
          (Expr.actions other outers twin items)
  | [], _, _ => .nil
  | e :: rest, allowed, reads => by
      obtain ⟨first, others⟩ := Bool.and_eq_true_iff.mp allowed
      exact .cons (e.eval_local parallel same first reads.1)
        (Expr.actions_local parallel same rest others reads.2)

theorem Plan.cursor_local (parallel : Eval.Parallel a env other related) {places : Places}
    {outer outers : List Row} (same : places.Same outer outers) :
    ∀ p : Plan, p.within a → p.ReadsOnly places →
      Cursor.Alike related (p.cursor env outer) (p.cursor other outers)
  | .values rows, allowed, reads => Plan.valuesCursor_local parallel same rows allowed reads
  | .fixed rows, _, _ => Cursor.Alike.ofList rows
  | .scan table, allowed, _ => by
      refine Cursor.Alike.deferred (Eval.store_alike fun s t linked => ?_)
      rw [parallel.tables table.id allowed s t linked]
      exact Alike.pure _
  | .filter source condition, allowed, reads => by
      obtain ⟨first, second⟩ := Bool.and_eq_true_iff.mp allowed
      exact (source.cursor_local parallel same first reads.1).filter fun row =>
        Expr.test_alike true (condition.eval_local parallel (same.beneath row) second reads.2)
  | .project source items, allowed, reads => by
      obtain ⟨first, second⟩ := Bool.and_eq_true_iff.mp allowed
      exact (source.cursor_local parallel same first reads.1).map fun row =>
        Alike.sequence (Expr.actions_local parallel (same.beneath row) items second reads.2)
  | .join left right kind leftWidth rightWidth condition, allowed, reads => by
      simp only [Plan.within, Bool.and_eq_true] at allowed
      obtain ⟨⟨first, second⟩, third⟩ := allowed
      exact (left.cursor_local parallel same first reads.1).join
        (right.cursor_local parallel same second reads.2.1) kind leftWidth rightWidth fun row =>
          Expr.test_alike true (condition.eval_local parallel (same.beneath row) third reads.2.2)
  | .lookupJoin left table index key keepLeft condition, allowed, reads => by
      simp only [Plan.within, Bool.and_eq_true] at allowed
      obtain ⟨⟨⟨first, second⟩, third⟩, fourth⟩ := allowed
      refine (left.cursor_local parallel same first reads.1).lookupJoin keepLeft _
        (fun row => Expr.test_alike true
          (condition.eval_local parallel (same.beneath row) fourth reads.2.2))
        fun row => (key.eval_local parallel (same.beneath row) third reads.2.1).bind fun v => ?_
      refine Eval.store_alike fun s t linked => ?_
      rw [TableDef.partners, TableDef.partners, parallel.tables table.id second s t linked]
      exact Alike.pure _
  | .group source keys calls args, allowed, reads => by
      simp only [Plan.within, Bool.and_eq_true] at allowed
      obtain ⟨⟨first, second⟩, third⟩ := allowed
      exact (source.cursor_local parallel same first reads.1).group _ calls
        (fun row => Alike.sequence
          (Expr.actions_local parallel (same.beneath row) keys second reads.2.1))
        fun held row => Groups.feed_alike held
          (Expr.actions_local parallel (same.beneath row) args third reads.2.2)
  | .order source keys directions, allowed, reads => by
      obtain ⟨first, second⟩ := Bool.and_eq_true_iff.mp allowed
      exact (source.cursor_local parallel same first reads.1).order _ fun row =>
        Alike.sequence (Expr.actions_local parallel (same.beneath row) keys second reads.2)
  | .distinct source types, allowed, reads =>
      (source.cursor_local parallel same allowed reads).distinct types fun _ => Alike.pure _
  | .distinctOn source keys, allowed, reads => by
      obtain ⟨first, second⟩ := Bool.and_eq_true_iff.mp allowed
      exact (source.cursor_local parallel same first reads.1).distinct _ fun row =>
        Alike.sequence (Expr.actions_local parallel (same.beneath row) keys second reads.2)
  | .limit source count offset, allowed, reads =>
      (source.cursor_local parallel same allowed reads).limit count offset
  | .union left right all types, allowed, reads => by
      obtain ⟨first, second⟩ := Bool.and_eq_true_iff.mp allowed
      have both := (left.cursor_local parallel same first reads.1).append
        (right.cursor_local parallel same second reads.2)
      unfold Plan.cursor
      split
      · exact both
      · exact both.distinct types fun _ => Alike.pure _

theorem Plan.valuesCursor_local (parallel : Eval.Parallel a env other related) {places : Places}
    {outer outers : List Row} (same : places.Same outer outers) : ∀ rows : List (List Expr),
      Expr.listsWithin a rows → Expr.ListsReadOnly places.beneath rows →
        Cursor.Alike related (Plan.valuesCursor env outer rows) (Plan.valuesCursor other outers rows)
  | [], _, _ => Cursor.Alike.empty
  | items :: rest, allowed, reads => by
      obtain ⟨first, others⟩ := Bool.and_eq_true_iff.mp allowed
      exact Cursor.Alike.after
        (Alike.sequence (Expr.actions_local parallel (same.beneath []) items first reads.1))
        fun row => Cursor.Alike.cons row (Plan.valuesCursor_local parallel same rest others reads.2)

end

/-! ### Over the same rows -/

theorem Expr.eval_alike (parallel : Eval.Parallel a env other related) (outer : List Row)
    (row : Row) (e : Expr) (allowed : e.within a) :
    Alike related (e.eval env outer row) (e.eval other outer row) :=
  e.eval_local parallel (Places.Same.refl _) allowed e.readsOnly_everything

theorem Plan.cursor_alike (parallel : Eval.Parallel a env other related) (outer : List Row)
    (p : Plan) (allowed : p.within a) :
    Cursor.Alike related (p.cursor env outer) (p.cursor other outer) :=
  p.cursor_local parallel (Places.Same.refl _) allowed p.readsOnly_everything

/-! ### Evaluation that only reads

Few built-in functions change the state. An expression that calls none of them gives the same in
any two states that agree on what it may read, and it leaves both as they are.
-/

namespace Store

variable {s t : Store} {id : Nat}

theorem table?_congr (same : t.get? (.table id) = s.get? (.table id)) : t.table? id = s.table? id := by
  rw [table?, table?, same]

theorem table_congr (same : t.get? (.table id) = s.get? (.table id)) : t.table id = s.table id := by
  rw [table, table, table?_congr same]

theorem sequence?_congr (same : t.get? (.sequence id) = s.get? (.sequence id)) :
    t.sequence? id = s.sequence? id := by
  rw [sequence?, sequence?, same]

theorem sequence_congr {d : SequenceDef} (same : t.get? (.sequence d.id) = s.get? (.sequence d.id)) :
    t.sequence d = s.sequence d := by
  rw [sequence, sequence, sequence?_congr same]

theorem settings_congr (same : t.get? .settings = s.get? .settings) : t.settings = s.settings := by
  rw [settings, settings, same]

theorem setting?_congr (same : t.get? .settings = s.get? .settings) (name : String) :
    t.setting? name = s.setting? name := by
  rw [setting?, setting?, settings_congr same]

end Store

theorem Settings.read_congr {s t : Store} (same : t.get? .settings = s.get? .settings)
    (c : Catalog) (name : String) : read t c name = read s c name := by
  rw [read, read, Store.setting?_congr same]

/-! ### Built-in functions -/

namespace Builtin

/-- Does the function leave the state alone? -/
def onlyReads : Builtin → Bool
  | randomUuid | nextValue | setValue => false
  | _ => true

theorem withSequence_alike {f : SequenceDef → Eval Value}
    (each : ∀ d, Alike related (f d) (f d)) (v : Value) :
    Alike related (withSequence env f v) (withSequence env f v) := by
  unfold withSequence
  split
  · exact (Alike.lift _).bind each
  · exact Alike.pure _

theorem lastDrawn_alike {d : SequenceDef}
    (same : ∀ s t, related s t → t.store.get? (.sequence d.id) = s.store.get? (.sequence d.id)) :
    Alike related (lastDrawn d) (lastDrawn d) := by
  refine Eval.store_alike fun s t linked => ?_
  rw [Store.sequence?_congr (same s t linked)]
  exact (Alike.lift _).bind fun _ => Alike.pure _

theorem run_alike
    (sequences : ∀ s t, related s t → ∀ id,
      t.store.get? (.sequence id) = s.store.get? (.sequence id))
    (settings : ∀ s t, related s t → t.store.get? .settings = s.store.get? .settings)
    (type : SqlType) (f : Builtin) (reading : f.onlyReads) (values : List Value) :
    Alike related (f.run env type values) (f.run env type values) := by
  cases f with
  | randomUuid => cases reading
  | nextValue => cases reading
  | setValue => cases reading
  | abs => exact Alike.lift _
  | currentValue =>
      refine withSequence_alike (fun d => lastDrawn_alike ?_) _
      exact fun s t linked => sequences s t linked d.id
  | currentSetting =>
      simp only [run]
      split
      · refine Eval.store_alike fun s t linked => ?_
        rw [Settings.read_congr (settings s t linked)]
        exact (Alike.lift _).bind fun _ => Alike.pure _
      · exact Alike.pure _
  | _ => exact Alike.pure _

end Builtin

/-! ### Two states -/

namespace Allowance

/-- No function that may be called changes the state. -/
def Reading (a : Allowance) : Prop := ∀ f, a.calls f = true → f.onlyReads = true

/-- The states agree on what may be read. -/
structure Agree (a : Allowance) (s t : EvalState) : Prop where
  tables : ∀ id, a.tables id = true → t.store.table id = s.store.table id
  sequences : ∀ id, t.store.get? (.sequence id) = s.store.get? (.sequence id)
  settings : t.store.get? .settings = s.store.get? .settings

theorem Agree.refl (a : Allowance) (s : EvalState) : a.Agree s s :=
  ⟨fun _ _ => rfl, fun _ => rfl, rfl⟩

theorem Agree.parallel {s t : EvalState} (agree : a.Agree s t) (reading : a.Reading) (env : Env) :
    Eval.Parallel a env env (fun x y => x = s ∧ y = t) where
  catalog := rfl
  tables id allowed := by
    rintro _ _ ⟨rfl, rfl⟩
    exact agree.tables id allowed
  calls f allowed type values := by
    refine Builtin.run_alike ?_ ?_ type f (reading f allowed) values
    · rintro _ _ ⟨rfl, rfl⟩
      exact agree.sequences
    · rintro _ _ ⟨rfl, rfl⟩
      exact agree.settings

/-- Anything may be read. -/
def reader : Allowance := ⟨Builtin.onlyReads, fun _ => true⟩

/-- Anything but one table may be read. -/
def readerBut (id : Nat) : Allowance := ⟨Builtin.onlyReads, fun other => other != id⟩

theorem reading_reader : reader.Reading := fun _ allowed => allowed

theorem reading_readerBut (id : Nat) : (readerBut id).Reading := fun _ allowed => allowed

end Allowance

/-- A program that does alike in two states, and leaves them, gives in the second what it gives in
the first. -/
theorem Run.Alike.run_fixed {ε σ α : Type} {m : ExceptT ε (StateM σ) α} {s t : σ}
    (alike : Alike (fun x y => x = s ∧ y = t) m m) : m.run t = ((m.run s).1, t) := by
  obtain ⟨results, -, left⟩ := alike s t ⟨rfl, rfl⟩
  exact Prod.ext results.symm left

end SqlEngine
