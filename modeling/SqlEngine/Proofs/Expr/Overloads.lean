import Mathlib.Data.List.TakeWhile
import SqlEngine.Proofs.Run
import SqlEngine.Proofs.Types.Reconciliation
import SqlEngine.Query.Build

/-!
Which of several functions of one name is called.

The functions are tried in the order of their registration. One that is registered for another
number of arguments, or for an argument of another type, is passed over, and the first one that is
not decides. So the order matters for constants only: whether a constant can be given where a type
is declared depends on the types, whether it can be converted on its value, and one that cannot be
converted ends the search.
-/

namespace SqlEngine

open Run (bind_ok map_ok)

/-! ### Arguments -/

namespace HostFunction

variable {registry : Registry} {name : String} {f g : HostFunction} {arg e : Expr}
  {args : List Expr} {type : SqlType} {candidates : List HostFunction} {x : SqlError}

/-- An argument is taken where there is a conversion, by a cast if it is a constant. -/
theorem takes_iff : takes type arg ↔ arg.type.castsTo type ∧
    (arg.isConstant = false → arg.type.convertsTo type) := by
  have same : arg.type = type → arg.type.castsTo type ∧ arg.type.convertsTo type := by
    rintro rfl
    simp [SqlType.castsTo, SqlType.convertsTo, Conversion.plan?]
  simp only [takes, Bool.or_eq_true, Bool.and_eq_true, decide_eq_true_eq]
  constructor
  · rintro ((equal | implicit) | ⟨constant, casts⟩)
    · exact ⟨(same equal).1, fun _ => (same equal).2⟩
    · exact ⟨SqlType.castsTo_of_convertsTo implicit, fun _ => implicit⟩
    · exact ⟨casts, fun ordinary => absurd constant (by simp [ordinary])⟩
  · rintro ⟨casts, converts⟩
    cases constant : arg.isConstant with
    | true => exact .inr ⟨rfl, casts⟩
    | false => exact .inl (.inr (converts constant))

theorem takes_of_coerce (given : arg.coerce registry type = .ok e) : takes type arg := by
  rw [takes_iff, SqlType.castsTo, SqlType.convertsTo]
  rw [Expr.coerce, Expr.convert] at given
  split at given
  · rename_i same
    simp [Conversion.plan?, same]
  · split at given
    · cases given
    · rename_i plan planned
      cases constant : arg.isConstant with
      | true =>
          rw [constant] at planned
          exact ⟨by rw [planned]; rfl, fun ordinary => by cases ordinary⟩
      | false =>
          have converts : arg.type.convertsTo type := by
            rw [SqlType.convertsTo, ← constant, planned]
            rfl
          exact ⟨SqlType.castsTo_of_convertsTo converts, fun _ => converts⟩

/-- What is taken and cannot be converted is a constant with a value that the conversion refuses. -/
theorem constant_of_coerce_error (taken : takes type arg)
    (failed : arg.coerce registry type = .error x) : ∃ v s plan, arg = .constant v s ∧
      Conversion.plan? s type true = some plan ∧ plan.apply registry v = .error x := by
  obtain ⟨casts, converts⟩ := takes_iff.mp taken
  have either : (∃ built, arg.coerce registry type = .ok built) ∨ _ :=
    Expr.coerce_of_castsTo casts converts
  rcases either with ⟨built, given⟩ | ⟨v, s, plan, y, shape, planned, refused, stopped⟩
  · rw [failed] at given
    cases given
  · rw [failed] at stopped
    cases stopped
    exact ⟨v, s, plan, shape, planned, refused⟩

/-! ### One function -/

/-- The arguments, each behind the type that the function declares for it. -/
def slots (f : HostFunction) (args : List Expr) : List (SqlType × Expr) :=
  (f.declared args.length).zip args

theorem argType?_isSome {count i : Nat} (accepts : f.signature.accepts count) (below : i < count) :
    (f.signature.argType? i).isSome := by
  simp only [Signature.accepts, Bool.or_eq_true, beq_iff_eq, Bool.and_eq_true,
    decide_eq_true_eq] at accepts
  rw [Signature.argType?, Option.isSome_or, Bool.or_eq_true]
  rcases accepts with rfl | ⟨rest, -⟩
  · exact .inl (by simpa using below)
  · exact .inr rest

theorem getElem?_declared {count i : Nat} (accepts : f.signature.accepts count)
    (below : i < count) : (f.declared count)[i]? = f.signature.argType? i := by
  -- a type is declared for each of so many arguments, so none of them is filtered out
  have each : (List.range count).filterMap f.signature.argType? =
      (List.range count).map fun i => (f.signature.argType? i).getD .null := by
    rw [← List.filterMap_eq_map]
    refine List.filterMap_congr fun i member => ?_
    obtain ⟨type, declared⟩ :=
      Option.isSome_iff_exists.mp (argType?_isSome accepts (List.mem_range.mp member))
    simp [declared]
  obtain ⟨type, declared⟩ := Option.isSome_iff_exists.mp (argType?_isSome accepts below)
  rw [HostFunction.declared, each, List.getElem?_map, List.getElem?_range below, declared]
  simp [declared]

theorem mem_slots_iff (accepts : f.signature.accepts args.length) {slot : SqlType × Expr} :
    slot ∈ f.slots args ↔
      ∃ i : Nat, args[i]? = some slot.2 ∧ f.signature.argType? i = some slot.1 := by
  rw [slots, List.mem_iff_getElem?]
  refine exists_congr fun i => ?_
  rw [List.getElem?_zip_eq_some, and_comm]
  refine and_congr_right fun given => ?_
  rw [getElem?_declared accepts (List.getElem?_eq_some_iff.mp given).1]

/-- The function can be called: it takes so many arguments, and each of them can be converted to the
type that is declared for it. -/
structure Workable (registry : Registry) (f : HostFunction) (args : List Expr) : Prop where
  arity : f.signature.accepts args.length
  converts : ∀ (i : Nat) (arg : Expr) (type : SqlType), args[i]? = some arg →
    f.signature.argType? i = some type → ∃ built, arg.coerce registry type = .ok built

/-- A function that declares the types of the arguments can be called. -/
theorem Workable.of_types (arity : f.signature.accepts args.length)
    (types : ∀ (i : Nat) (arg : Expr), args[i]? = some arg →
      f.signature.argType? i = some arg.type) : f.Workable registry args where
  arity := arity
  converts i arg type there declared := by
    rw [types i arg there] at declared
    cases declared
    exact ⟨arg, by rw [Expr.coerce, Expr.convert, if_pos rfl]⟩

/-- The arguments before the first one that the function does not take, converted. -/
def converted (registry : Registry) (f : HostFunction) (args : List Expr) :
    Except SqlError (List Expr) :=
  (f.accepted args).mapM fun (type, arg) => arg.coerce registry type

theorem accepted_of_matchesArgs (fits : f.matchesArgs args) : f.accepted args = f.slots args := by
  rw [matchesArgs, Bool.and_eq_true, List.all_eq_true] at fits
  exact List.takeWhile_eq_self_iff.mpr fits.2

theorem converted_error (failed : f.converted registry args = .error x) :
    ∃ slot ∈ f.slots args, takes slot.1 slot.2 ∧ slot.2.coerce registry slot.1 = .error x := by
  obtain ⟨slot, member, stopped⟩ := Run.mapM_error failed
  have taken : takes slot.1 slot.2 :=
    List.mem_takeWhile_imp (p := fun (type, arg) => takes type arg) member
  exact ⟨slot, (List.takeWhile_sublist _).subset member, taken, stopped⟩

theorem workable_iff : f.Workable registry args ↔
    f.matchesArgs args ∧ ∃ es, f.converted registry args = .ok es := by
  constructor
  · rintro ⟨arity, converts⟩
    have each : ∀ slot ∈ f.slots args, ∃ built, slot.2.coerce registry slot.1 = .ok built := by
      intro slot member
      obtain ⟨i, there, declared⟩ := (mem_slots_iff arity).mp member
      exact converts i slot.2 slot.1 there declared
    refine ⟨?_, ?_⟩
    · rw [matchesArgs, Bool.and_eq_true, List.all_eq_true]
      refine ⟨arity, fun slot member => ?_⟩
      obtain ⟨built, given⟩ := each slot member
      exact takes_of_coerce given
    · cases result : f.converted registry args with
      | ok es => exact ⟨es, rfl⟩
      | error x =>
          obtain ⟨slot, member, -, failed⟩ := converted_error result
          obtain ⟨built, given⟩ := each slot member
          rw [failed] at given
          cases given
  · rintro ⟨fits, es, given⟩
    have arity : f.signature.accepts args.length := by
      rw [matchesArgs, Bool.and_eq_true] at fits
      exact fits.1
    refine ⟨arity, fun i arg type there declared => ?_⟩
    have member : (type, arg) ∈ f.slots args := (mem_slots_iff arity).mpr ⟨i, there, declared⟩
    rw [converted, accepted_of_matchesArgs fits] at given
    obtain ⟨built, image, -⟩ := Run.mapM_mem_ok given _ member
    exact ⟨built, image⟩

/-! ### The search -/

/-- Does the search go on behind the function? It does if the function takes another number of
arguments, or if it does not take one of them and all those before that one can be converted. -/
def declines (registry : Registry) (f : HostFunction) (args : List Expr) : Bool :=
  !f.signature.accepts args.length || (!f.matchesArgs args && (f.converted registry args).isOk)

theorem resolve_cons (candidates : List HostFunction) :
    resolve registry name args (f :: candidates) =
      if f.declines registry args then resolve registry name args candidates
      else (f.converted registry args).map (.call f) := by
  rw [resolve, declines]
  cases arity : f.signature.accepts args.length with
  | false => rfl
  | true =>
      change ((f.converted registry args) >>= fun converted => _) = _
      cases fits : f.matchesArgs args <;> cases f.converted registry args <;> rfl

/-- The first function that does not decline decides. -/
theorem resolve_eq_find? (candidates : List HostFunction) :
    resolve registry name args candidates =
      match candidates.find? (!·.declines registry args) with
      | some f => (f.converted registry args).map (.call f)
      | none => .error (functionMissing name args) := by
  induction candidates with
  | nil => rfl
  | cons f rest ih =>
      rw [resolve_cons, List.find?_cons]
      cases f.declines registry args with
      | false => rfl
      | true => exact ih

theorem not_declines_of_workable (workable : f.Workable registry args) :
    f.declines registry args = false := by
  obtain ⟨fits, -⟩ := workable_iff.mp workable
  simp [declines, workable.arity, fits]

theorem workable_of_not_declines (decides : f.declines registry args = false) {es : List Expr}
    (given : f.converted registry args = .ok es) : f.Workable registry args := by
  refine workable_iff.mpr ⟨?_, es, given⟩
  simp only [declines, given, Bool.or_eq_false_iff] at decides
  simpa [Except.isOk, Except.toBool] using decides.2

/-- A call is found if and only if a function can be called with the arguments and all the ones
before it decline; the functions behind it do not matter. -/
theorem resolve_ok_iff : resolve registry name args candidates = .ok e ↔
    ∃ before f after es, candidates = before ++ f :: after ∧
      (∀ g ∈ before, g.declines registry args) ∧ f.Workable registry args ∧
        f.converted registry args = .ok es ∧ e = .call f es := by
  rw [resolve_eq_find?]
  constructor
  · intro given
    split at given
    · rename_i f found
      obtain ⟨es, converted, rfl⟩ := map_ok given
      obtain ⟨decides, before, after, rfl, declining⟩ := List.find?_eq_some_iff_append.mp found
      refine ⟨before, f, after, es, rfl, by simpa using declining, ?_, converted, rfl⟩
      exact workable_of_not_declines (by simpa using decides) converted
    · cases given
  · rintro ⟨before, f, after, es, rfl, declining, workable, converted, rfl⟩
    have found : (before ++ f :: after).find? (!·.declines registry args) = some f :=
      List.find?_eq_some_iff_append.mpr
        ⟨by simp [not_declines_of_workable workable], before, after, rfl, by simpa using declining⟩
    simp only [found, converted]
    rfl

/-- If a function that can be called is not found, the value of a constant is in the way: it cannot
be converted to the type that a function further in front declares. -/
theorem constant_of_resolve_error (member : f ∈ candidates) (workable : f.Workable registry args)
    (failed : resolve registry name args candidates = .error x) :
    ∃ before g after, candidates = before ++ g :: after ∧
      (∀ h ∈ before, h.declines registry args) ∧ g.signature.accepts args.length ∧
        ∃ (i : Nat) (v : Value) (source target : SqlType) (plan : Conversion),
          args[i]? = some (.constant v source) ∧ g.signature.argType? i = some target ∧
            Conversion.plan? source target true = some plan ∧ plan.apply registry v = .error x := by
  rw [resolve_eq_find?] at failed
  split at failed
  · -- the function that decides takes so many arguments, and fails in converting one of them
    rename_i g found
    obtain ⟨decides, before, after, rfl, declining⟩ := List.find?_eq_some_iff_append.mp found
    have arity : g.signature.accepts args.length := by
      simp only [declines, Bool.not_or, Bool.not_not, Bool.and_eq_true] at decides
      exact decides.1
    refine ⟨before, g, after, rfl, by simpa using declining, arity, ?_⟩
    cases result : g.converted registry args with
    | ok es =>
        rw [result] at failed
        cases failed
    | error y =>
        rw [result] at failed
        cases failed
        obtain ⟨slot, among, taken, stopped⟩ := converted_error result
        obtain ⟨i, there, declared⟩ := (mem_slots_iff arity).mp among
        obtain ⟨v, source, plan, shape, planned, refused⟩ := constant_of_coerce_error taken stopped
        exact ⟨i, v, source, slot.1, plan, shape ▸ there, declared, planned, refused⟩
  · rename_i none
    have declining := List.find?_eq_none.mp none f member
    simp [not_declines_of_workable workable] at declining

/-- Where every constant can be converted to all the types that it could be cast to for one of the
functions, a call is found if and only if some function can be called. -/
theorem resolve_succeeds_iff
    (smooth : ∀ g ∈ candidates, g.signature.accepts args.length →
      ∀ (i : Nat) (v : Value) (source target : SqlType) (plan : Conversion),
        args[i]? = some (.constant v source) → g.signature.argType? i = some target →
          Conversion.plan? source target true = some plan → ∃ w, plan.apply registry v = .ok w) :
    (∃ e, resolve registry name args candidates = .ok e) ↔
      ∃ f ∈ candidates, f.Workable registry args := by
  constructor
  · rintro ⟨e, given⟩
    obtain ⟨before, f, after, -, rfl, -, workable, -⟩ := resolve_ok_iff.mp given
    exact ⟨f, by simp, workable⟩
  · rintro ⟨f, member, workable⟩
    cases result : resolve registry name args candidates with
    | ok e => exact ⟨e, rfl⟩
    | error x =>
        obtain ⟨before, g, after, rfl, -, arity, i, v, source, target, plan, there, declared,
          planned, refused⟩ := constant_of_resolve_error member workable result
        obtain ⟨w, converts⟩ :=
          smooth g (by simp) arity i v source target plan there declared planned
        rw [refused] at converts
        cases converts

end HostFunction

/-- A call of a registered function whose arguments are no constants is compiled if and only if one
of the functions of the name can be called, in whichever order they were registered. -/
theorem Build.function_succeeds_iff {n : Names} {name : QName} {args : List Expr}
    (registered : n.catalog.functionsNamed name ≠ [])
    (ordinary : ∀ arg ∈ args, arg.isConstant = false) :
    (∃ e, function n name args = .ok e) ↔
      ∃ f ∈ n.catalog.functionsNamed name, f.Workable n.registry args := by
  have resolved : function n name args = HostFunction.resolve n.registry (Text.lower name.name) args
      (n.catalog.functionsNamed name) := by
    unfold function
    split
    · rename_i none
      exact absurd none registered
    · rfl
  rw [resolved]
  refine HostFunction.resolve_succeeds_iff fun g _ _ i v source _ _ there => ?_
  cases ordinary _ (List.mem_of_getElem? there)

/-! ### A constant in the way -/

namespace HostFunction

/-- A function of one argument. -/
def exampleOf (id : Nat) (type : SqlType) : HostFunction :=
  ⟨id, "public", ⟨"f", [type], none, .text none, false⟩, fun values => .ok (values.headD .null)⟩

/-- A function of a text can be called with a text, and is not found behind one of an integer. -/
theorem exampleOf_stopped (registry : Registry) :
    let word := Expr.constant (.text "abc") (.text none)
    (exampleOf 1 (.text none)).Workable registry [word] ∧
      resolve registry "f" [word] [exampleOf 0 .integer, exampleOf 1 (.text none)] =
        .error (.query (.invalidInteger "abc")) ∧
      resolve registry "f" [word] [exampleOf 1 (.text none), exampleOf 0 .integer] =
        .ok (.call (exampleOf 1 (.text none)) [word]) := by
  refine ⟨.of_types rfl fun i arg there => ?_, rfl, rfl⟩
  cases i with
  | zero =>
      cases there
      rfl
  | succ i => cases there

end HostFunction

end SqlEngine
