import SqlEngine.Proofs.Run
import SqlEngine.Rows.Cursor

/-!
Cursors as lists of rows.

A cursor gives a list of rows if it answers with them, one by one, and then comes to its end, leaving
the state alone; whoever asks may change the state in between, as long as it stays calm, that is, as
long as a chosen condition holds of it. Most sources are of this kind. The others draw numbers or fail
on their way, and of them only the whole course can be told: the rows up to the end or the error, and
the state by then.
-/

namespace SqlEngine

variable {α β σ : Type} {calm : EvalState → Prop}

/-- What evaluation reads in a new database. -/
def Env.fresh : Env := ⟨.create {}, default⟩

/-- What evaluation may change in a new database. -/
def EvalState.fresh : EvalState := ⟨Transaction.empty.fork, 0⟩

/-- In a calm state the evaluation has this result, and changes nothing. -/
def Eval.Gives (calm : EvalState → Prop) (m : Eval α) (a : α) : Prop :=
  ∀ s, calm s → m.run s = (.ok a, s)

/-- What a cursor was asked for in this state goes on with these rows, asked for in calm states. -/
inductive Rows.Gives (calm : EvalState → Prop) : EvalState → List Row → Rows → Prop
  | done (s : EvalState) : Gives calm s [] (.done s)
  | next {s : EvalState} {row : Row} {rows : List Row} {rest : EvalState → Rows}
      (later : ∀ t, calm t → Gives calm t rows (rest t)) :
      Gives calm s (row :: rows) (.next row s rest)

/-- Asked in calm states, the cursor gives these rows and then its end, and changes nothing. -/
def Cursor.Gives (calm : EvalState → Prop) (c : Cursor) (rows : List Row) : Prop :=
  ∀ s, calm s → (c s).Gives calm s rows

namespace Eval.Gives

theorem pure (a : α) : Eval.Gives calm (pure a) a := fun _ _ => rfl

theorem lift {x : Except SqlError α} {a : α} (given : x = .ok a) :
    Eval.Gives calm (liftM x) a := by
  intro s _
  rw [Run.lift_run, given]

theorem bind {m : Eval α} {f : α → Eval β} {a : α} {b : β} (first : m.Gives calm a)
    (next : (f a).Gives calm b) : Eval.Gives calm (m >>= f) b := by
  intro s hs
  rw [Run.bind_of_run (first s hs)]
  exact next s hs

end Eval.Gives

namespace Rows.Gives

variable {s : EvalState} {rows : List Row} {r : Rows}

/-- What the rows contribute is said by `out`: the rows that come out if, with this memory, these
rows are still to be fed. -/
theorem drive {each : σ → Row → (σ → Cursor) → Cursor} {finish : σ → Cursor}
    (out : σ → List Row → List Row) (last : ∀ memory, (finish memory).Gives calm (out memory []))
    (given : r.Gives calm s rows) :
    (∀ row ∈ rows, ∀ memory rest k, (∀ memory, (k memory).Gives calm (out memory rest)) →
      (each memory row k).Gives calm (out memory (row :: rest))) →
        ∀ memory, calm s → (r.drive each finish memory).Gives calm s (out memory rows) := by
  induction given with
  | done s => exact fun _ memory => last memory s
  | next later ih =>
      intro step memory
      refine step _ List.mem_cons_self memory _ _ (fun memory t ht => ?_) _
      exact ih t ht (fun row member => step row (List.mem_cons_of_mem _ member)) memory ht

/-- All rows are fed. What is remembered is told by `holds` from the rows that were fed. -/
theorem fold {f : σ → Row → Eval σ} {holds : List Row → σ → Prop} (given : r.Gives calm s rows) :
    ∀ before : List Row, (∀ fed row rest memory, before ++ rows = fed ++ row :: rest →
      holds fed memory → ∃ next, (f memory row).Gives calm next ∧ holds (fed ++ [row]) next) →
        ∀ memory, holds before memory → calm s →
          ∃ final, r.fold f memory = (.ok final, s) ∧ holds (before ++ rows) final := by
  induction given with
  | done s => exact fun before _ memory start _ => ⟨memory, rfl, by simpa using start⟩
  | @next s row rows rest later ih =>
      intro before step memory start hs
      obtain ⟨next, gives, kept⟩ := step before row rows memory rfl start
      have whole : before ++ row :: rows = (before ++ [row]) ++ rows := by simp
      rw [whole] at step ⊢
      rw [Rows.fold, gives s hs]
      exact ih s hs (before ++ [row]) step next kept hs

end Rows.Gives

namespace Cursor.Gives

variable {row : Row} {rows : List Row} {c : Cursor}

theorem empty : Cursor.Gives calm Cursor.empty [] := fun s _ => .done s

theorem cons (rest : c.Gives calm rows) : Cursor.Gives calm (cons row c) (row :: rows) :=
  fun _ _ => .next rest

theorem ofList : ∀ rows : List Row, Cursor.Gives calm (ofList rows) rows := by
  intro rows
  induction rows with
  | nil => exact empty
  | cons row rest ih => exact cons ih

theorem after {m : Eval α} {k : α → Cursor} {a : α} (first : m.Gives calm a)
    (next : (k a).Gives calm rows) : Cursor.Gives calm (after m k) rows := by
  intro s hs
  rw [Cursor.after, first s hs]
  exact next s hs

theorem drive {each : σ → Row → (σ → Cursor) → Cursor} {finish : σ → Cursor}
    (given : c.Gives calm rows) (out : σ → List Row → List Row)
    (last : ∀ memory, (finish memory).Gives calm (out memory []))
    (step : ∀ row ∈ rows, ∀ memory rest k, (∀ memory, (k memory).Gives calm (out memory rest)) →
      (each memory row k).Gives calm (out memory (row :: rest))) (memory : σ) :
    Cursor.Gives calm (c.drive each finish memory) (out memory rows) :=
  fun s hs => (given s hs).drive out last step memory hs

theorem fold {f : σ → Row → Eval σ} (given : c.Gives calm rows) (holds : List Row → σ → Prop)
    (step : ∀ fed row rest memory, rows = fed ++ row :: rest → holds fed memory →
      ∃ next, (f memory row).Gives calm next ∧ holds (fed ++ [row]) next)
    {memory : σ} (start : holds [] memory) {s : EvalState} (hs : calm s) :
    ∃ final, (c.fold f memory).run s = (.ok final, s) ∧ holds rows final :=
  (given s hs).fold [] step memory start hs

theorem collect (given : c.Gives calm rows) : Eval.Gives calm c.collect rows := by
  intro s hs
  have step : ∀ fed row rest reversed, rows = fed ++ row :: rest → reversed = fed.reverse →
      ∃ next, Eval.Gives calm (Pure.pure (row :: reversed)) next ∧ next = (fed ++ [row]).reverse :=
    fun fed row _ _ _ held => ⟨_, Eval.Gives.pure _, by rw [held, List.reverse_concat]⟩
  obtain ⟨reversed, folded, rfl⟩ := given.fold (fun fed reversed => reversed = fed.reverse) step
    List.reverse_nil.symm hs
  rw [Cursor.collect, Run.bind_of_run folded, List.reverse_reverse]
  rfl

end Cursor.Gives

/-! ### Answers -/

/-- What a cursor answers when it is asked a number of times while nobody changes the state. There is
no answer after an error, and none but its end after its end. -/
def Rows.answers : Nat → Rows → List (Option Row)
  | 0, _ => []
  | n + 1, done s => none :: answers n (done s)
  | _ + 1, fail _ _ => []
  | n + 1, next row s rest => some row :: answers n (rest s)

theorem Rows.answers_done (s : EvalState) (n : Nat) :
    (done s).answers n = List.replicate n none := by
  induction n with
  | zero => rfl
  | succ n ih => rw [answers, ih, List.replicate_succ]

/-- The rows, and then the end, however often it is asked for. -/
theorem Rows.Gives.answers {s : EvalState} {rows : List Row} {r : Rows}
    (given : r.Gives calm s rows) : calm s → ∀ n, r.answers n =
      (rows.map some).take n ++ List.replicate (n - rows.length) none := by
  induction given with
  | done s =>
      intro _ n
      rw [answers_done]
      simp
  | next later ih =>
      intro hs n
      cases n with
      | zero => simp [Rows.answers]
      | succ n =>
          rw [Rows.answers, ih _ hs hs n, List.map_cons, List.take_succ_cons, List.cons_append,
            List.length_cons, Nat.add_sub_add_right]

/-! ### Whole courses -/

/-- The course of a source: what it gave, the error that ended it, and the state that it left. -/
structure Course (α : Type) where
  items : List α
  fault : Option SqlError
  state : EvalState

namespace Course

def map (f : List α → List β) (course : Course α) : Course β :=
  { course with items := f course.items }

end Course

/-- The course of a cursor that is asked until it ends or fails, where something is computed from
each row before the next one is asked for. -/
def Rows.course (f : Row → Eval α) : Rows → Course α
  | done s => ⟨[], none, s⟩
  | fail e s => ⟨[], some e, s⟩
  | next row s rest =>
    match (f row).run s with
    | (.ok a, s) => (course f (rest s)).map (a :: ·)
    | (.error e, s) => ⟨[], some e, s⟩

theorem Rows.course_of_gives {s : EvalState} {rows : List Row} {r : Rows} :
    r.Gives calm s rows → calm s → r.course pure = ⟨rows, none, s⟩ := by
  intro given
  induction given with
  | done s => exact fun _ => rfl
  | @next s row rows rest later ih =>
      intro hs
      rw [Rows.course, Run.pure_run]
      simp only
      rw [ih s hs hs, Course.map]

end SqlEngine
