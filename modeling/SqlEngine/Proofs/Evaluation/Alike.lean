import Mathlib.Data.List.Forall2
import SqlEngine.Proofs.Run
import SqlEngine.Rows.Group
import SqlEngine.Rows.Join
import SqlEngine.Rows.Sorting

/-!
Programs that behave alike.

Two programs are alike under a relation of states if, started in related states, they give the same
and leave related states, whether they succeed or fail. Two cursors are alike if they show the same
rows, and go on alike from any related states, since others may change the state between two rows.
-/

namespace SqlEngine

namespace Run

variable {ε σ α β : Type} {related : σ → σ → Prop}

def Alike (related : σ → σ → Prop) (m n : ExceptT ε (StateM σ) α) : Prop :=
  ∀ s t, related s t → (m.run s).1 = (n.run t).1 ∧ related (m.run s).2 (n.run t).2

namespace Alike

theorem pure (a : α) :
    Alike related (pure a : ExceptT ε (StateM σ) α) (pure a) :=
  fun _ _ same => ⟨rfl, same⟩

theorem throw (e : ε) : Alike related (throw e : ExceptT ε (StateM σ) α) (throw e) :=
  fun _ _ same => ⟨rfl, same⟩

theorem throw_bind (e : ε) (f g : α → ExceptT ε (StateM σ) β) :
    Alike related (MonadExcept.throw e >>= f) (MonadExcept.throw e >>= g) :=
  fun _ _ same => ⟨rfl, same⟩

theorem lift (x : Except ε α) :
    Alike related (liftM x : ExceptT ε (StateM σ) α) (liftM x) :=
  fun _ _ same => ⟨rfl, same⟩

theorem modify {f g : σ → σ} (kept : ∀ s t, related s t → related (f s) (g t)) :
    Alike related (modify f : ExceptT ε (StateM σ) PUnit) (modify g) :=
  fun s t same => ⟨rfl, kept s t same⟩

/-- What is read of the state may differ; then it is related. -/
theorem get_bind {f g : σ → ExceptT ε (StateM σ) β}
    (next : ∀ s t, related s t → Alike related (f s) (g t)) :
    Alike related (get >>= f) (get >>= g) :=
  fun s t same => next s t same s t same

theorem bind {m n : ExceptT ε (StateM σ) α} {f g : α → ExceptT ε (StateM σ) β}
    (first : Alike related m n) (next : ∀ a, Alike related (f a) (g a)) :
    Alike related (m >>= f) (n >>= g) := by
  intro s t same
  obtain ⟨results, states⟩ := first s t same
  rw [bind_run, bind_run]
  rcases left : m.run s with ⟨result, after⟩
  rcases right : n.run t with ⟨other, later⟩
  rw [left, right] at results states
  obtain rfl : result = other := results
  cases result with
  | error e => exact ⟨rfl, states⟩
  | ok a => exact next a after later states

theorem mapM {f g : α → ExceptT ε (StateM σ) β} : ∀ {items : List α},
    (∀ a ∈ items, Alike related (f a) (g a)) → Alike related (items.mapM f) (items.mapM g) := by
  intro items
  induction items with
  | nil => exact fun _ => Alike.pure _
  | cons a rest ih =>
      intro each
      obtain ⟨first, others⟩ := List.forall_mem_cons.mp each
      rw [List.mapM_cons, List.mapM_cons]
      exact first.bind fun _ => (ih others).bind fun _ => Alike.pure _

/-- Programs that are carried out one after the other. -/
theorem sequence {ms ns : List (ExceptT ε (StateM σ) α)}
    (each : List.Forall₂ (Alike related) ms ns) : Alike related (ms.mapM id) (ns.mapM id) := by
  induction each with
  | nil => exact Alike.pure _
  | cons first _ ih =>
      rw [List.mapM_cons, List.mapM_cons]
      exact Alike.bind first fun _ => ih.bind fun _ => Alike.pure _

theorem optionMapM {f g : α → ExceptT ε (StateM σ) β} {a : Option α}
    (each : ∀ a, Alike related (f a) (g a)) : Alike related (a.mapM f) (a.mapM g) := by
  cases a with
  | none => exact Alike.pure _
  | some a => exact (each a).bind fun _ => Alike.pure _

theorem forM {f g : α → ExceptT ε (StateM σ) PUnit} : ∀ {items : List α},
    (∀ a ∈ items, Alike related (f a) (g a)) → Alike related (items.forM f) (items.forM g) := by
  intro items
  induction items with
  | nil => exact fun _ => Alike.pure _
  | cons a rest ih =>
      intro each
      obtain ⟨first, others⟩ := List.forall_mem_cons.mp each
      exact first.bind fun _ => ih others

theorem foldlM {f g : β → α → ExceptT ε (StateM σ) β} : ∀ {items : List α} {b : β},
    (∀ b, ∀ a ∈ items, Alike related (f b a) (g b a)) →
      Alike related (items.foldlM f b) (items.foldlM g b) := by
  intro items
  induction items with
  | nil => exact fun _ => Alike.pure _
  | cons a rest ih =>
      intro b each
      rw [List.foldlM_cons, List.foldlM_cons]
      refine (each b a List.mem_cons_self).bind fun c => ?_
      exact ih fun d e member => each d e (List.mem_cons_of_mem _ member)

end Alike

end Run

open Run (Alike)

namespace Eval

variable {α β : Type} {related : EvalState → EvalState → Prop}

/-- A store that is read is the one of a related state. -/
theorem store_alike {f g : Store → Eval β}
    (next : ∀ s t, related s t → Alike related (f s.store) (g t.store)) :
    Alike related (store >>= f) (store >>= g) :=
  fun s t same => next s t same s t same

theorem changeStore_alike {f g : Store → Store}
    (kept : ∀ s t, related s t →
      related { s with store := f s.store } { t with store := g t.store }) :
    Alike related (changeStore f) (changeStore g) :=
  Alike.modify kept

end Eval

/-! ### Cursors -/

inductive Rows.Alike (related : EvalState → EvalState → Prop) : Rows → Rows → Prop where
  | done {s t : EvalState} (same : related s t) : Rows.Alike related (.done s) (.done t)
  | fail {s t : EvalState} (e : SqlError) (same : related s t) :
    Rows.Alike related (.fail e s) (.fail e t)
  | next {s t : EvalState} {rest others : EvalState → Rows} (row : Row) (same : related s t)
    (later : ∀ s t, related s t → Rows.Alike related (rest s) (others t)) :
    Rows.Alike related (.next row s rest) (.next row t others)

def Cursor.Alike (related : EvalState → EvalState → Prop) (c d : Cursor) : Prop :=
  ∀ s t, related s t → Rows.Alike related (c s) (d t)

variable {α σ : Type} {related : EvalState → EvalState → Prop}

namespace Rows.Alike

variable {rows others : Rows}

theorem drive (alike : Rows.Alike related rows others) {each every : σ → Row → (σ → Cursor) → Cursor}
    {finish last : σ → Cursor}
    (step : ∀ m r k l, (∀ m, Cursor.Alike related (k m) (l m)) →
      Cursor.Alike related (each m r k) (every m r l))
    (ends : ∀ m, Cursor.Alike related (finish m) (last m)) (m : σ) :
    Rows.Alike related (rows.drive each finish m) (others.drive every last m) := by
  induction alike generalizing m with
  | done same => exact ends m _ _ same
  | fail e same => exact .fail e same
  | next row same _ ih => exact step m row _ _ (fun m s t same => ih s t same m) _ _ same

theorem fold (alike : Rows.Alike related rows others) {f g : σ → Row → Eval σ}
    (step : ∀ m r, Run.Alike related (f m r) (g m r)) (m : σ) :
    (rows.fold f m).1 = (others.fold g m).1 ∧ related (rows.fold f m).2 (others.fold g m).2 := by
  induction alike generalizing m with
  | done same => exact ⟨rfl, same⟩
  | fail e same => exact ⟨rfl, same⟩
  | @next s t _ _ row same _ ih =>
      obtain ⟨results, states⟩ := step m row s t same
      rw [Rows.fold, Rows.fold]
      rcases left : (f m row).run s with ⟨result, after⟩
      rcases right : (g m row).run t with ⟨other, later⟩
      rw [left, right] at results states
      obtain rfl : result = other := results
      cases result with
      | error e => exact ⟨rfl, states⟩
      | ok memory => exact ih after later states memory

theorem search (alike : Rows.Alike related rows others) (f : σ → Row → σ ⊕ σ) (m : σ) :
    (rows.search f m).1 = (others.search f m).1 ∧
      related (rows.search f m).2 (others.search f m).2 := by
  induction alike generalizing m with
  | done same => exact ⟨rfl, same⟩
  | fail e same => exact ⟨rfl, same⟩
  | @next s t _ _ row same _ ih =>
      rw [Rows.search, Rows.search]
      cases f m row with
      | inl memory => exact ih s t same memory
      | inr result => exact ⟨rfl, same⟩

end Rows.Alike

namespace Cursor.Alike

variable {c d : Cursor}

theorem empty : Cursor.Alike related empty empty := fun _ _ same => .done same

theorem cons (row : Row) (later : Cursor.Alike related c d) :
    Cursor.Alike related (cons row c) (cons row d) :=
  fun _ _ same => .next row same later

theorem ofList : ∀ rows : List Row, Cursor.Alike related (ofList rows) (ofList rows) := by
  intro rows
  induction rows with
  | nil => exact empty
  | cons row rest ih => exact cons row ih

theorem after {m n : Eval α} {k l : α → Cursor} (first : Run.Alike related m n)
    (next : ∀ a, Cursor.Alike related (k a) (l a)) :
    Cursor.Alike related (after m k) (after n l) := by
  intro s t same
  obtain ⟨results, states⟩ := first s t same
  rw [Cursor.after, Cursor.after]
  rcases left : m.run s with ⟨result, after⟩
  rcases right : n.run t with ⟨other, later⟩
  rw [left, right] at results states
  obtain rfl : result = other := results
  cases result with
  | error e => exact .fail e states
  | ok a => exact next a after later states

theorem drive (alike : Cursor.Alike related c d) {each every : σ → Row → (σ → Cursor) → Cursor}
    {finish last : σ → Cursor}
    (step : ∀ m r k l, (∀ m, Cursor.Alike related (k m) (l m)) →
      Cursor.Alike related (each m r k) (every m r l))
    (ends : ∀ m, Cursor.Alike related (finish m) (last m)) (m : σ) :
    Cursor.Alike related (c.drive each finish m) (d.drive every last m) :=
  fun s t same => (alike s t same).drive step ends m

theorem fold (alike : Cursor.Alike related c d) {f g : σ → Row → Eval σ}
    (step : ∀ m r, Run.Alike related (f m r) (g m r)) (m : σ) :
    Run.Alike related (c.fold f m) (d.fold g m) :=
  fun s t same => (alike s t same).fold step m

theorem search (alike : Cursor.Alike related c d) (f : σ → Row → σ ⊕ σ) (m : σ) :
    Run.Alike related (c.search f m) (d.search f m) :=
  fun s t same => (alike s t same).search f m

theorem collect (alike : Cursor.Alike related c d) : Run.Alike related c.collect d.collect :=
  (alike.fold (fun _ _ => Run.Alike.pure _) []).bind fun _ => Run.Alike.pure _

theorem filter (alike : Cursor.Alike related c d) {pass test : Row → Eval Bool}
    (tested : ∀ r, Run.Alike related (pass r) (test r)) :
    Cursor.Alike related (c.filter pass) (d.filter test) := by
  refine alike.drive (fun _ r k l later => after (tested r) fun passed => ?_) (fun _ => empty) _
  split
  · exact cons r (later ())
  · exact later ()

theorem map (alike : Cursor.Alike related c d) {f g : Row → Eval Row}
    (computed : ∀ r, Run.Alike related (f r) (g r)) :
    Cursor.Alike related (c.map f) (d.map g) :=
  alike.drive (fun _ r _ _ later => after (computed r) fun image => cons image (later ()))
    (fun _ => empty) _

theorem append {e f : Cursor} (first : Cursor.Alike related c d)
    (second : Cursor.Alike related e f) : Cursor.Alike related (c.append e) (d.append f) :=
  first.drive (fun _ row _ _ later => cons row (later ())) (fun _ => second) _

theorem limit (alike : Cursor.Alike related c d) (count : Option Nat) (offset : Nat) :
    Cursor.Alike related (c.limit count offset) (d.limit count offset) := by
  rw [Cursor.limit, Cursor.limit]
  split
  · exact empty
  · refine alike.drive ?_ (fun _ => empty) _
    rintro ⟨skip, left⟩ row k l later
    match skip, left with
    | skip + 1, left => exact later _
    | 0, none => exact cons row (later _)
    | 0, some left =>
        refine cons row ?_
        split
        · exact empty
        · exact later _

theorem distinct (alike : Cursor.Alike related c d) (types : List SqlType)
    {keyOf key : Row → Eval Row} (keyed : ∀ r, Run.Alike related (keyOf r) (key r)) :
    Cursor.Alike related (c.distinct types keyOf) (d.distinct types key) := by
  refine alike.drive (fun seen row k l later => after (keyed row) fun values => ?_)
    (fun _ => empty) _
  split
  · exact cons row (later _)
  · exact later _

theorem deferred {rows others : Eval (List Row)} (computed : Run.Alike related rows others) :
    Cursor.Alike related (deferred rows) (deferred others) :=
  after computed ofList

/-! ### Subqueries -/

theorem hasRow (alike : Cursor.Alike related c d) : Run.Alike related c.hasRow d.hasRow :=
  alike.search _ _

theorem single (alike : Cursor.Alike related c d) : Run.Alike related c.single d.single := by
  refine (alike.search _ _).bind fun rows => ?_
  match rows with
  | [] => exact Run.Alike.pure _
  | [row] => exact Run.Alike.pure _
  | _ :: _ :: _ => exact Run.Alike.throw _

theorem among (alike : Cursor.Alike related c d) (type : SqlType) (v : Value) :
    Run.Alike related (c.among type v) (d.among type v) :=
  alike.search _ _

/-! ### Joins -/

theorem combined {pass test : Row → Eval Bool} {k l : List Nat → Cursor}
    (tested : ∀ r, Run.Alike related (pass r) (test r))
    (later : ∀ found, Cursor.Alike related (k found) (l found)) :
    ∀ (candidates : List (Row × Nat)) (found : List Nat),
      Cursor.Alike related (combined pass k found candidates) (combined test l found candidates) := by
  intro candidates
  induction candidates with
  | nil => exact later
  | cons candidate rest ih =>
      obtain ⟨row, partner⟩ := candidate
      refine fun found => after (tested row) fun passed => ?_
      split
      · exact cons row (ih _)
      · exact ih _

theorem join {e f : Cursor} (lefts : Cursor.Alike related c d) (rights : Cursor.Alike related e f)
    (kind : JoinKind) (leftWidth rightWidth : Nat) {pass test : Row → Eval Bool}
    (tested : ∀ r, Run.Alike related (pass r) (test r)) :
    Cursor.Alike related (join kind leftWidth rightWidth pass c e)
      (join kind leftWidth rightWidth test d f) := by
  have driving : Cursor.Alike related (if kind.drivesRight then e else c)
      (if kind.drivesRight then f else d) := by
    split
    · exact rights
    · exact lefts
  have other : Cursor.Alike related (if kind.drivesRight then c else e)
      (if kind.drivesRight then d else f) := by
    split
    · exact lefts
    · exact rights
  refine after other.collect fun partners => driving.drive ?_ (fun matched => ?_) _
  · refine fun matched row k l later => combined tested (fun found => ?_) _ _
    split
    · exact cons _ (later _)
    · exact later _
  · split
    · exact ofList _
    · exact empty

theorem lookupJoin (lefts : Cursor.Alike related c d) (keepLeft : Bool) (rightWidth : Nat)
    {pass test : Row → Eval Bool} {partnersOf partners : Row → Eval (List Row)}
    (tested : ∀ r, Run.Alike related (pass r) (test r))
    (looked : ∀ r, Run.Alike related (partnersOf r) (partners r)) :
    Cursor.Alike related (lookupJoin keepLeft rightWidth pass partnersOf c)
      (lookupJoin keepLeft rightWidth test partners d) := by
  refine lefts.drive (fun _ row k l later => after (looked row) fun found => ?_) (fun _ => empty) _
  refine combined tested (fun found => ?_) _ _
  split
  · exact cons _ (later ())
  · exact later ()

/-! ### Groups and order -/

theorem group (alike : Cursor.Alike related c d) (keyTypes : List SqlType)
    (calls : List AggregateCall) {keys others : Row → Eval Row}
    {args operands : Row → List (Eval Value)} (keyed : ∀ r, Run.Alike related (keys r) (others r))
    (fed : ∀ held r, Run.Alike related (Groups.feed held (args r)) (Groups.feed held (operands r))) :
    Cursor.Alike related (group keyTypes calls keys args c)
      (group keyTypes calls others operands d) := by
  refine deferred ((alike.fold (fun g r => (keyed r).bind fun key => ?_) _).bind
    fun _ => Run.Alike.pure _)
  generalize g.locate calls (List.zipWith SqlType.canonical keyTypes key) key = placed
  obtain ⟨position, g⟩ := placed
  dsimp only
  split
  · exact Run.Alike.pure _
  · exact (fed _ r).bind fun _ => Run.Alike.pure _

theorem order (alike : Cursor.Alike related c d) (keyOrders : List (KeyOrder × SqlType))
    {keys others : Row → Eval Row} (keyed : ∀ r, Run.Alike related (keys r) (others r)) :
    Cursor.Alike related (order keyOrders keys c) (order keyOrders others d) :=
  deferred ((alike.fold (fun _ r => (keyed r).bind fun _ => Run.Alike.pure _) _).bind
    fun _ => Run.Alike.pure _)

end Cursor.Alike

end SqlEngine
