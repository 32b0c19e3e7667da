import SqlEngine.Error

/-!
Programs that may fail and that keep their state when they do: what they give, and the state that
they leave, for each way to put them together. Computations without a state that give a result.
-/

namespace SqlEngine

namespace Run

variable {ε σ α β : Type}

theorem pure_run (a : α) (s : σ) :
    (pure a : ExceptT ε (StateM σ) α).run s = (.ok a, s) := rfl

theorem get_run (s : σ) : (get : ExceptT ε (StateM σ) σ).run s = (.ok s, s) := rfl

theorem set_run (s t : σ) : (set t : ExceptT ε (StateM σ) PUnit).run s = (.ok ⟨⟩, t) := rfl

/-- A result that needs no state. -/
theorem lift_run (x : Except ε α) (s : σ) :
    (liftM x : ExceptT ε (StateM σ) α).run s = (x, s) := rfl

theorem lift_run_ok {x : Except ε α} {a : α} {s t : σ}
    (ran : (liftM x : ExceptT ε (StateM σ) α).run s = (.ok a, t)) : x = .ok a ∧ t = s := by
  obtain ⟨given, same⟩ := Prod.mk.inj ran
  exact ⟨given, same.symm⟩

theorem bind_run (m : ExceptT ε (StateM σ) α) (f : α → ExceptT ε (StateM σ) β) (s : σ) :
    (m >>= f).run s =
      match m.run s with
      | (.ok a, s) => (f a).run s
      | (.error e, s) => (.error e, s) := by
  simp only [ExceptT.run, bind, ExceptT.bind, ExceptT.mk, StateT.bind]
  rcases m s with ⟨result, next⟩
  cases result <;> rfl

theorem bind_of_run {m : ExceptT ε (StateM σ) α} {f : α → ExceptT ε (StateM σ) β} {s t : σ} {a : α}
    (ran : m.run s = (.ok a, t)) : (m >>= f).run s = (f a).run t := by
  rw [bind_run, ran]

/-- A success of two programs is one of the first and then one of the second. -/
theorem bind_run_ok {m : ExceptT ε (StateM σ) α} {f : α → ExceptT ε (StateM σ) β} {s t : σ} {b : β}
    (ran : (m >>= f).run s = (.ok b, t)) :
    ∃ a u, m.run s = (.ok a, u) ∧ (f a).run u = (.ok b, t) := by
  rw [bind_run] at ran
  rcases first : m.run s with ⟨result, u⟩
  rw [first] at ran
  cases result with
  | error e => cases ran
  | ok a => exact ⟨a, u, rfl, ran⟩

theorem lift_bind_ok {x : Except ε α} {f : α → ExceptT ε (StateM σ) β} {s t : σ} {b : β}
    (ran : ((liftM x : ExceptT ε (StateM σ) α) >>= f).run s = (.ok b, t)) :
    ∃ a, x = .ok a ∧ (f a).run s = (.ok b, t) := by
  obtain ⟨a, u, lifted, rest⟩ := bind_run_ok ran
  obtain ⟨given, rfl⟩ := lift_run_ok lifted
  exact ⟨a, given, rest⟩

theorem forM_run_ok {f : α → ExceptT ε (StateM σ) PUnit} {items : List α} {s t : σ}
    (ran : (items.forM f).run s = (.ok ⟨⟩, t)) : ∀ a ∈ items, ∃ u v, (f a).run u = (.ok ⟨⟩, v) := by
  induction items generalizing s with
  | nil => exact fun _ member => absurd member List.not_mem_nil
  | cons a rest ih =>
      obtain ⟨_, u, first, others⟩ := bind_run_ok ran
      exact List.forall_mem_cons.mpr ⟨⟨s, u, first⟩, ih others⟩

/-- What every step of a successful run keeps is kept by the run. -/
theorem forM_run_keeps {f : α → ExceptT ε (StateM σ) PUnit} {p : σ → Prop} {items : List α} {s t : σ}
    (each : ∀ a ∈ items, ∀ u v, p u → (f a).run u = (.ok ⟨⟩, v) → p v) (start : p s)
    (ran : (items.forM f).run s = (.ok ⟨⟩, t)) : p t := by
  induction items generalizing s with
  | nil =>
      cases ran
      exact start
  | cons a rest ih =>
      obtain ⟨first, others⟩ := List.forall_mem_cons.mp each
      obtain ⟨_, u, one, ran⟩ := bind_run_ok ran
      exact ih others (first s u start one) ran

theorem mapM_lift (f : α → Except ε β) (items : List α) :
    (items.mapM fun a => (liftM (f a) : ExceptT ε (StateM σ) β)) = liftM (items.mapM f) := by
  induction items with
  | nil => rfl
  | cons a rest ih =>
      rw [List.mapM_cons, List.mapM_cons, ih]
      cases f a with
      | error e => rfl
      | ok b => cases rest.mapM f <;> rfl

theorem map_ok {f : α → β} {x : Except ε α} {b : β} (given : x.map f = .ok b) :
    ∃ a, x = .ok a ∧ f a = b := by
  cases x with
  | error e => cases given
  | ok a => exact ⟨a, rfl, Except.ok.inj given⟩

theorem optionMapM_lift {f : α → Except ε β} {a : Option α} {b : Option β} (given : a.mapM f = .ok b)
    (s : σ) : (a.mapM fun a => (liftM (f a) : ExceptT ε (StateM σ) β)).run s = (.ok b, s) := by
  cases a with
  | none =>
      cases given
      rfl
  | some a =>
      obtain ⟨c, image, given⟩ := map_ok given
      cases given
      exact (bind_of_run (congrArg (·, s) image)).trans rfl

theorem bind_ok {f : α → Except ε β} {x : Except ε α} {b : β} (given : x >>= f = .ok b) :
    ∃ a, x = .ok a ∧ f a = .ok b := by
  cases x with
  | error e => cases given
  | ok a => exact ⟨a, rfl, given⟩

theorem mapError_ok {ε' : Type} {f : ε → ε'} {x : Except ε α} {a : α}
    (given : x.mapError f = .ok a) : x = .ok a := by
  cases x with
  | error e => cases given
  | ok b => exact congrArg Except.ok (Except.ok.inj given)

theorem foldlM_ok {f : β → α → Except ε β} {p : β → Prop} {items : List α} {b c : β}
    (each : ∀ b, p b → ∀ a ∈ items, ∀ c, f b a = .ok c → p c) (start : p b)
    (folded : items.foldlM f b = .ok c) : p c := by
  induction items generalizing b with
  | nil =>
      cases folded
      exact start
  | cons a rest ih =>
      rw [List.foldlM_cons] at folded
      obtain ⟨d, one, folded⟩ := bind_ok folded
      refine ih (fun b held e member => each b held e (List.mem_cons_of_mem _ member)) ?_ folded
      exact each b start a List.mem_cons_self d one

theorem mapM_mem_ok {f : α → Except ε β} {items : List α} {images : List β}
    (mapped : items.mapM f = .ok images) : ∀ a ∈ items, ∃ b, f a = .ok b ∧ b ∈ images := by
  induction items generalizing images with
  | nil => exact fun _ member => absurd member List.not_mem_nil
  | cons a rest ih =>
      rw [List.mapM_cons] at mapped
      obtain ⟨b, first, mapped⟩ := bind_ok mapped
      obtain ⟨bs, others, mapped⟩ := bind_ok mapped
      cases mapped
      refine List.forall_mem_cons.mpr ⟨⟨b, first, List.mem_cons_self⟩, fun c member => ?_⟩
      obtain ⟨d, image, there⟩ := ih others c member
      exact ⟨d, image, List.mem_cons_of_mem b there⟩

/-- A list that cannot be mapped has an item that cannot. -/
theorem mapM_error {f : α → Except ε β} {items : List α} {e : ε} (failed : items.mapM f = .error e) :
    ∃ a ∈ items, f a = .error e := by
  induction items with
  | nil => cases failed
  | cons a rest ih =>
      rw [List.mapM_cons] at failed
      cases first : f a with
      | error d =>
          rw [first] at failed
          cases failed
          exact ⟨a, List.mem_cons_self, first⟩
      | ok b =>
          rw [first] at failed
          cases others : rest.mapM f with
          | ok bs =>
              rw [others] at failed
              cases failed
          | error d =>
              rw [others] at failed
              cases failed
              obtain ⟨c, member, stopped⟩ := ih others
              exact ⟨c, List.mem_cons_of_mem a member, stopped⟩

theorem mapM_ok {f : α → Except ε β} {p : β → Prop} {items : List α} {images : List β}
    (each : ∀ a ∈ items, ∀ b, f a = .ok b → p b) (mapped : items.mapM f = .ok images) :
    ∀ b ∈ images, p b := by
  induction items generalizing images with
  | nil =>
      cases mapped
      simp
  | cons a rest ih =>
      obtain ⟨first, others⟩ := List.forall_mem_cons.mp each
      rw [List.mapM_cons] at mapped
      obtain ⟨b, one, mapped⟩ := bind_ok mapped
      obtain ⟨bs, more, mapped⟩ := bind_ok mapped
      cases mapped
      exact List.forall_mem_cons.mpr ⟨first b one, ih others more⟩

theorem mapM_congr {f g : α → Except ε β} : ∀ {items : List α},
    (∀ a ∈ items, f a = g a) → items.mapM f = items.mapM g
  | [], _ => rfl
  | a :: rest, same => by
      obtain ⟨first, others⟩ := List.forall_mem_cons.mp same
      rw [List.mapM_cons, List.mapM_cons, first, mapM_congr others]

theorem mapM_eraseIdx {f : α → Except ε β} : ∀ {items : List α} {images : List β},
    items.mapM f = .ok images → ∀ position : Nat,
      (items.eraseIdx position).mapM f = .ok (images.eraseIdx position)
  | [], images, mapped, position => by
      cases mapped
      rfl
  | a :: rest, images, mapped, position => by
      rw [List.mapM_cons] at mapped
      obtain ⟨b, first, mapped⟩ := bind_ok mapped
      obtain ⟨others, later, mapped⟩ := bind_ok mapped
      cases mapped
      cases position with
      | zero => exact later
      | succ position =>
          rw [List.eraseIdx_cons_succ, List.mapM_cons, first, mapM_eraseIdx later position]
          rfl

theorem mapM_modify {f : α → Except ε β} {g : α → α} (same : ∀ a, f (g a) = f a) :
    ∀ (items : List α) (position : Nat), (items.modify position g).mapM f = items.mapM f
  | [], _ => by rw [List.modify_nil]
  | a :: rest, 0 => by rw [List.modify_zero_cons, List.mapM_cons, List.mapM_cons, same]
  | a :: rest, position + 1 => by
      rw [List.modify_succ_cons, List.mapM_cons, List.mapM_cons, mapM_modify same rest position]

end Run

end SqlEngine
