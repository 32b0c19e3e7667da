import SqlEngine.Proofs.Run
import SqlEngine.Rows.Cursor

/-!
What evaluations and cursors keep of the state, and what they give.

A state that meets a condition is left in one that meets it too, whether the evaluation succeeds or
fails, and what it gives meets a condition of its own. A cursor is asked for rows while others
change the state, so it only counts on the condition.
-/

namespace SqlEngine

/-- Started where `inv` holds, the evaluation leaves a state where it holds, and gives only results
of which `result` holds. -/
def Eval.Meets {α : Type} (inv : EvalState → Prop) (result : α → Prop) (m : Eval α) : Prop :=
  ∀ s, inv s → inv (m.run s).2 ∧ ∀ a, (m.run s).1 = .ok a → result a

namespace Eval

variable {α β : Type} {inv : EvalState → Prop} {result : α → Prop} {final : β → Prop}

theorem Meets.pure {a : α} (ha : result a) : Meets inv result (pure a) := by
  intro s hs
  refine ⟨hs, fun b given => ?_⟩
  cases given
  exact ha

theorem Meets.throw (e : SqlError) : Meets inv result (throw e) :=
  fun _ hs => ⟨hs, fun _ given => by cases given⟩

theorem Meets.lift {x : Except SqlError α} (hx : ∀ a, x = .ok a → result a) :
    Meets inv result (liftM x) :=
  fun _ hs => ⟨hs, hx⟩

theorem Meets.bind {m : Eval α} {f : α → Eval β} (first : Meets inv result m)
    (next : ∀ a, result a → Meets inv final (f a)) : Meets inv final (m >>= f) := by
  intro s hs
  obtain ⟨kept, gives⟩ := first s hs
  rw [Run.bind_run]
  rcases ran : m.run s with ⟨outcome, after⟩
  rw [ran] at kept gives
  cases outcome with
  | error e => exact ⟨kept, fun _ given => by cases given⟩
  | ok a => exact next a (gives a rfl) after kept

theorem Meets.throw_bind (e : SqlError) (f : α → Eval β) :
    Meets inv final (MonadExcept.throw e >>= f) := by
  have never : Meets inv (fun _ : α => False) (MonadExcept.throw e) := Meets.throw e
  exact never.bind fun _ impossible => impossible.elim

theorem Meets.mono {weaker : α → Prop} {m : Eval α} (meets : Meets inv result m)
    (implies : ∀ a, result a → weaker a) : Meets inv weaker m :=
  fun s hs => ⟨(meets s hs).1, fun a given => implies a ((meets s hs).2 a given)⟩

theorem Meets.store : Meets inv (fun store => ∃ s, inv s ∧ s.store = store) store :=
  fun s hs => ⟨hs, fun _ given => ⟨s, hs, Except.ok.inj given⟩⟩

theorem Meets.changeStore {f : Store → Store}
    (kept : ∀ s, inv s → inv { s with store := f s.store }) :
    Meets inv (fun _ => True) (changeStore f) :=
  fun s hs => ⟨kept s hs, fun _ _ => trivial⟩

theorem Meets.mapM {f : α → Eval β} : ∀ {items : List α}, (∀ a ∈ items, Meets inv final (f a)) →
    Meets inv (fun images => ∀ b ∈ images, final b) (items.mapM f) := by
  intro items
  induction items with
  | nil =>
      intro _
      rw [List.mapM_nil]
      exact Meets.pure (by simp)
  | cons a rest ih =>
      intro each
      rw [List.mapM_cons]
      refine (each a List.mem_cons_self).bind fun b hb => ?_
      refine (ih fun c member => each c (List.mem_cons_of_mem _ member)).bind fun bs hbs => ?_
      exact Meets.pure (List.forall_mem_cons.mpr ⟨hb, hbs⟩)

theorem Meets.foldlM {f : β → α → Eval β} : ∀ {items : List α} {b : β}, final b →
    (∀ b, final b → ∀ a ∈ items, Meets inv final (f b a)) → Meets inv final (items.foldlM f b) := by
  intro items
  induction items with
  | nil => exact fun hb _ => Meets.pure hb
  | cons a rest ih =>
      intro b hb each
      rw [List.foldlM_cons]
      refine (each b hb a List.mem_cons_self).bind fun c hc => ?_
      exact ih hc fun d hd e member => each d hd e (List.mem_cons_of_mem _ member)

theorem Meets.forM {f : α → Eval PUnit} : ∀ {items : List α},
    (∀ a ∈ items, Meets inv (fun _ => True) (f a)) → Meets inv (fun _ => True) (items.forM f) := by
  intro items
  induction items with
  | nil => exact fun _ => Meets.pure trivial
  | cons a rest ih =>
      intro each
      exact (each a List.mem_cons_self).bind fun _ _ =>
        ih fun b member => each b (List.mem_cons_of_mem _ member)

end Eval

/-- What is left of a cursor, its rows and the states it leaves. -/
def Rows.Meets (inv : EvalState → Prop) (row : Row → Prop) : Rows → Prop
  | .done s => inv s
  | .fail _ s => inv s
  | .next r s rest => inv s ∧ row r ∧ ∀ s, inv s → (rest s).Meets inv row

def Cursor.Meets (inv : EvalState → Prop) (row : Row → Prop) (c : Cursor) : Prop :=
  ∀ s, inv s → (c s).Meets inv row

variable {α σ : Type} {inv : EvalState → Prop} {row image : Row → Prop} {memory : σ → Prop}

theorem Rows.Meets.drive {each : σ → Row → (σ → Cursor) → Cursor} {finish : σ → Cursor}
    (step : ∀ m r k, row r → (∀ m, (k m).Meets inv image) → (each m r k).Meets inv image)
    (last : ∀ m, (finish m).Meets inv image) :
    ∀ (rows : Rows), rows.Meets inv row → ∀ m, (rows.drive each finish m).Meets inv image := by
  intro rows
  induction rows with
  | done s => exact fun hs m => last m s hs
  | fail e s => exact fun hs _ => hs
  | next r s rest ih =>
      rintro ⟨hs, hr, later⟩ m
      exact step m r _ hr (fun m s hs => ih s (later s hs) m) s hs

theorem Rows.Meets.fold {f : σ → Row → Eval σ}
    (step : ∀ m r, memory m → row r → (f m r).Meets inv memory) :
    ∀ (rows : Rows), rows.Meets inv row → ∀ m, memory m →
      inv (rows.fold f m).2 ∧ ∀ a, (rows.fold f m).1 = .ok a → memory a := by
  intro rows
  induction rows with
  | done s =>
      refine fun hs m hm => ⟨hs, fun a given => ?_⟩
      cases given
      exact hm
  | fail e s => exact fun hs _ _ => ⟨hs, fun _ given => by cases given⟩
  | next r s rest ih =>
      rintro ⟨hs, hr, later⟩ m hm
      obtain ⟨kept, gives⟩ := step m r hm hr s hs
      rw [Rows.fold]
      rcases ran : (f m r).run s with ⟨outcome, after⟩
      rw [ran] at kept gives
      cases outcome with
      | error e => exact ⟨kept, fun _ given => by cases given⟩
      | ok next => exact ih after (later after kept) next (gives next rfl)

theorem Rows.Meets.search {f : σ → Row → σ ⊕ σ}
    (step : ∀ m r, memory m → row r → (∀ a, f m r = .inl a → memory a) ∧
      ∀ a, f m r = .inr a → memory a) :
    ∀ (rows : Rows), rows.Meets inv row → ∀ m, memory m →
      inv (rows.search f m).2 ∧ ∀ a, (rows.search f m).1 = .ok a → memory a := by
  intro rows
  induction rows with
  | done s =>
      refine fun hs m hm => ⟨hs, fun a given => ?_⟩
      cases given
      exact hm
  | fail e s => exact fun hs _ _ => ⟨hs, fun _ given => by cases given⟩
  | next r s rest ih =>
      rintro ⟨hs, hr, later⟩ m hm
      obtain ⟨onward, found⟩ := step m r hm hr
      rw [Rows.search]
      cases looked : f m r with
      | inl next => exact ih s (later s hs) next (onward next looked)
      | inr result =>
          refine ⟨hs, fun a given => ?_⟩
          cases given
          exact found result looked

namespace Cursor

theorem Meets.mono {weaker : Row → Prop} {c : Cursor} (meets : c.Meets inv row)
    (implies : ∀ r, row r → weaker r) : c.Meets inv weaker := by
  have weakened : ∀ rows : Rows, rows.Meets inv row → rows.Meets inv weaker := by
    intro rows
    induction rows with
    | done s => exact id
    | fail e s => exact id
    | next r s rest ih => exact fun ⟨hs, hr, later⟩ => ⟨hs, implies r hr, fun s hs => ih s (later s hs)⟩
  exact fun s hs => weakened _ (meets s hs)

theorem Meets.empty : Meets inv row empty := fun _ hs => hs

theorem Meets.cons {r : Row} {rest : Cursor} (hr : row r) (later : rest.Meets inv row) :
    Meets inv row (cons r rest) :=
  fun _ hs => ⟨hs, hr, later⟩

theorem Meets.ofList : ∀ {rows : List Row}, (∀ r ∈ rows, row r) → Meets inv row (ofList rows) := by
  intro rows
  induction rows with
  | nil => exact fun _ => Meets.empty
  | cons r rest ih =>
      intro each
      exact Meets.cons (each r List.mem_cons_self)
        (ih fun other member => each other (List.mem_cons_of_mem _ member))

theorem Meets.after {result : α → Prop} {m : Eval α} {k : α → Cursor} (first : m.Meets inv result)
    (next : ∀ a, result a → (k a).Meets inv row) : Meets inv row (after m k) := by
  intro s hs
  obtain ⟨kept, gives⟩ := first s hs
  rw [Cursor.after]
  rcases ran : m.run s with ⟨outcome, after⟩
  rw [ran] at kept gives
  cases outcome with
  | error e => exact kept
  | ok a => exact next a (gives a rfl) after kept

theorem Meets.drive {c : Cursor} (source : c.Meets inv row)
    {each : σ → Row → (σ → Cursor) → Cursor} {finish : σ → Cursor}
    (step : ∀ m r k, row r → (∀ m, (k m).Meets inv image) → (each m r k).Meets inv image)
    (last : ∀ m, (finish m).Meets inv image) (m : σ) : Meets inv image (c.drive each finish m) :=
  fun s hs => (source s hs).drive step last _ m

theorem Meets.fold {c : Cursor} (source : c.Meets inv row) (memory : σ → Prop)
    {f : σ → Row → Eval σ}
    (step : ∀ m r, memory m → row r → (f m r).Meets inv memory) {m : σ} (hm : memory m) :
    Eval.Meets inv memory (c.fold f m) :=
  fun s hs => (source s hs).fold step _ m hm

theorem Meets.search {c : Cursor} (source : c.Meets inv row) (memory : σ → Prop)
    {f : σ → Row → σ ⊕ σ}
    (step : ∀ m r, memory m → row r → (∀ a, f m r = .inl a → memory a) ∧
      ∀ a, f m r = .inr a → memory a) {m : σ} (hm : memory m) :
    Eval.Meets inv memory (c.search f m) :=
  fun s hs => (source s hs).search step _ m hm

end Cursor

end SqlEngine
