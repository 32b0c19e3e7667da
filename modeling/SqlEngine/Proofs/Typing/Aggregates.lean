import SqlEngine.Proofs.Typing.Operators

/-!
The types of aggregates: fed with values of one type, they give values of another.
-/

namespace SqlEngine

open Eval (Meets)

variable {inv : EvalState → Prop} {arg type : SqlType} {v : Value}

namespace Tally

/-- What was gathered from values of the type of the argument gives values of the other type. -/
def Fits (arg type : SqlType) : Tally → Prop
  | count _ | intSum _ => type = .integer
  | floatSum _ | mean _ _ => type = .float
  | extreme _ best => (∀ v, arg.Admits v → type.Admits v) ∧ ∀ v ∈ best, type.Admits v
  | values vs => (∀ v, arg.Admits v → type.Admits v) ∧ ∀ v ∈ vs, type.Admits v
  | all _ | any _ | texts _ => True

theorem start_fits {f : AggregateFunc} (typed : f.resultType? (some arg) = some type) :
    (start f type).Fits arg type := by
  cases f with
  | countRows => exact (Option.some.inj typed).symm
  | count => exact (Option.some.inj typed).symm
  | sum =>
      cases arg <;> cases typed <;> rfl
  | avg =>
      simp only [AggregateFunc.resultType?] at typed
      split at typed <;> cases typed
      rfl
  | min =>
      simp only [AggregateFunc.resultType?] at typed
      split at typed <;> cases typed
      exact ⟨fun _ => id, by simp⟩
  | max =>
      simp only [AggregateFunc.resultType?] at typed
      split at typed <;> cases typed
      exact ⟨fun _ => id, by simp⟩
  | arrayAgg =>
      cases typed
      exact ⟨fun _ => SqlType.admits_array_iff.mpr, by simp⟩
  | _ => trivial

theorem start_countRows_fits (arg : SqlType) : (start .countRows .integer).Fits arg .integer := rfl

theorem add_fits {argType : Option SqlType} {t next : Tally} (fits : t.Fits arg type)
    (admitted : arg.Admits v) (added : t.add argType v = .ok next) : next.Fits arg type := by
  cases t with
  | count n =>
      cases added
      exact fits
  | intSum sum =>
      simp only [add] at added
      split at added <;> cases added
      exact fits
  | floatSum sum =>
      simp only [add] at added
      split at added <;> cases added <;> exact fits
  | mean sum n =>
      simp only [add] at added
      split at added <;> cases added <;> exact fits
  | extreme wanted best =>
      obtain ⟨kept, held⟩ := fits
      have better : ∀ u ∈ some v, type.Admits u := by
        rintro u ⟨⟩
        exact kept v admitted
      cases best with
      | none =>
          cases added
          exact ⟨kept, better⟩
      | some best =>
          simp only [add] at added
          split at added <;> cases added
          · exact ⟨kept, better⟩
          · exact ⟨kept, held⟩
  | values vs =>
      cases added
      exact ⟨fits.1, List.forall_mem_cons.mpr ⟨fits.1 v admitted, fits.2⟩⟩
  | all result =>
      simp only [add] at added
      split at added <;> cases added <;> trivial
  | any result =>
      simp only [add] at added
      split at added <;> cases added <;> trivial
  | texts ss =>
      cases added
      trivial

theorem result_admitted {t : Tally} (fits : t.Fits arg type) (separator : Option String) :
    type.Admits (t.result separator) := by
  cases t with
  | count n =>
      cases fits
      exact SqlType.admits_int n
  | intSum sum =>
      cases fits
      cases sum with
      | none => exact SqlType.admits_null
      | some n => exact SqlType.admits_int n
  | floatSum sum =>
      cases fits
      cases sum with
      | none => exact SqlType.admits_null
      | some x => exact SqlType.admits_float x
  | mean sum n =>
      cases fits
      simp only [result]
      split
      · exact SqlType.admits_null
      · exact SqlType.admits_float _
  | extreme wanted best =>
      cases best with
      | none => exact SqlType.admits_null
      | some best => exact fits.2 best rfl
  | values vs =>
      cases vs with
      | nil => exact SqlType.admits_null
      | cons v vs =>
          refine SqlType.admits_items.mpr fun w member => fits.2 w ?_
          exact List.mem_reverse.mp member
  | all result => cases result <;> exact SqlType.admits_of_fits fun _ => rfl
  | any result => cases result <;> exact SqlType.admits_of_fits fun _ => rfl
  | texts ss => cases ss <;> exact SqlType.admits_of_fits fun _ => rfl

end Tally

/-- The call takes an argument of the type. -/
def AggregateCall.Takes (c : AggregateCall) (arg : SqlType) : Prop :=
  (c.func = .countRows ∧ c.type = .integer) ∨ c.func.resultType? (some arg) = some c.type

theorem AggregateCall.Takes.start {c : AggregateCall} (takes : c.Takes arg) :
    (Accumulator.start c.func c.argType c.type c.distinct).tally.Fits arg c.type := by
  rcases takes with ⟨counts, integer⟩ | typed
  · simp only [Accumulator.start, counts, integer]
    exact Tally.start_countRows_fits arg
  · exact Tally.start_fits typed

theorem Accumulator.add_fits {a next : Accumulator} (fits : a.tally.Fits arg type)
    (admitted : arg.Admits v) (added : a.add v = .ok next) : next.tally.Fits arg type := by
  have fed : ∀ seen, (do return { a with seen, tally := ← a.tally.add a.argType v }) = .ok next →
      next.tally.Fits arg type := by
    intro seen given
    obtain ⟨tally, counted, given⟩ := Run.bind_ok given
    cases given
    exact Tally.add_fits fits admitted counted
  unfold Accumulator.add at added
  split at added
  · exact fed a.seen added
  · split at added
    · cases added
      exact fits
    · split at added
      · exact fed a.seen added
      · split at added
        · cases added
          exact fits
        · exact fed _ added

/-! ### Groups -/

namespace Groups

/-- The accumulators of calls with arguments of the types. -/
abbrev Fed (calls : List AggregateCall) (argTypes : List SqlType)
    (accumulators : List Accumulator) : Prop :=
  List.Forall₂ (fun (c : AggregateCall × SqlType) a => a.tally.Fits c.2 c.1.type)
    (calls.zip argTypes) accumulators

abbrev Take (calls : List AggregateCall) (argTypes : List SqlType) : Prop :=
  List.Forall₂ AggregateCall.Takes calls argTypes

variable {calls : List AggregateCall} {argTypes : List SqlType}

theorem fed_fresh (takes : Take calls argTypes) : Fed calls argTypes (fresh calls) := by
  induction takes with
  | nil => exact List.Forall₂.nil
  | cons first _ ih => exact List.Forall₂.cons first.start ih

theorem feed_meets (takes : Take calls argTypes) : ∀ {accumulators : List Accumulator}
    {args : List (Eval Value)}, Fed calls argTypes accumulators → Eval.Give inv argTypes args →
      (feed accumulators args).Meets inv (Fed calls argTypes) := by
  induction takes with
  | nil =>
      intro accumulators args fed given
      cases fed
      cases given
      exact Meets.pure List.Forall₂.nil
  | cons _ _ ih =>
      intro accumulators args fed given
      obtain _ | ⟨fits, others⟩ := fed
      obtain _ | ⟨first, rest⟩ := given
      refine first.bind fun v admitted => ?_
      refine Meets.bind (Meets.lift fun next => Accumulator.add_fits fits admitted) fun a fed => ?_
      exact (ih others rest).bind fun more others => Meets.pure (List.Forall₂.cons fed others)

theorem results_fit (takes : Take calls argTypes) : ∀ {accumulators : List Accumulator},
    Fed calls argTypes accumulators →
      Row.Fits (calls.map (·.type))
        (List.zipWith (fun c a => a.result c.separator) calls accumulators) := by
  induction takes with
  | nil => exact fun _ => List.Forall₂.nil
  | cons _ _ ih =>
      intro accumulators fed
      obtain _ | ⟨fits, others⟩ := fed
      exact List.Forall₂.cons (Tally.result_admitted fits _) (ih others)

end Groups

end SqlEngine
