import SqlEngine.Expr.Function
import SqlEngine.Proofs.Typing.Judgement

/-!
Conversions, operators and calls that are put around typed expressions give typed expressions.
-/

namespace SqlEngine

open Run (bind_ok mapError_ok mapM_ok)

variable {known : TableDef → Prop} {around : Surroundings} {registry : Registry}

/-- The expression is typed, and of the type. -/
def Expr.Of (known : TableDef → Prop) (around : Surroundings) (type : SqlType) (e : Expr) : Prop :=
  e.Typed known around ∧ e.type = type

namespace Expr

variable {type target : SqlType} {e l r built : Expr} {es : List Expr} {explicit : Bool}

theorem Of.apply {op : Op} {args : List Expr} (typed : ∀ e ∈ args, e.Typed known around)
    (accepted : op.Accepts (args.map Expr.type) type) :
    Of known around type (.apply op args type) :=
  ⟨⟨allTyped_iff.mpr typed, accepted⟩, rfl⟩

theorem convert_typed (given : e.convert registry target explicit = .ok built)
    (typed : e.Typed known around) : Of known around target built := by
  unfold convert at given
  split at given
  · cases given
    exact ⟨typed, ‹_›⟩
  · split at given
    · cases given
    · rename_i c planned
      have turns := Conversion.plan_turns planned
      split at given
      · obtain ⟨w, converted, given⟩ := bind_ok given
        cases given
        exact ⟨turns registry _ w typed converted, rfl⟩
      · cases given
        exact Of.apply (by simpa using typed) (.convert turns)

theorem coerce_typed (given : e.coerce registry target = .ok built)
    (typed : e.Typed known around) : Of known around target built :=
  convert_typed given typed

theorem unify_typed {typedAs : List Expr} (given : unify registry es = .ok (type, typedAs))
    (typed : ∀ e ∈ es, e.Typed known around) : ∀ e ∈ typedAs, Of known around type e := by
  obtain ⟨common, _, given⟩ := bind_ok given
  obtain ⟨converted, mapped, given⟩ := bind_ok given
  cases given
  exact mapM_ok (fun e member built coerced => coerce_typed coerced (typed e member)) mapped

theorem Of.types {es : List Expr} (each : ∀ e ∈ es, Of known around type e) :
    ∀ t ∈ es.map Expr.type, t = type := by
  intro t member
  obtain ⟨e, there, rfl⟩ := List.mem_map.mp member
  exact (each e there).2

theorem comparison_typed {op : Comparison} (given : comparison registry op l r = .ok built)
    (left : l.Typed known around) (right : r.Typed known around) :
    Of known around .bool built := by
  obtain ⟨⟨type, operands⟩, unified, given⟩ := bind_ok given
  cases given
  have each := unify_typed unified (by simpa using ⟨left, right⟩)
  exact Of.apply (fun e member => (each e member).1) (.test rfl)

theorem asText_typed (given : e.asText registry = .ok built) (typed : e.Typed known around) :
    Of known around (.text none) built :=
  convert_typed given typed

theorem condition_typed (given : e.condition registry = .ok built)
    (typed : e.Typed known around) : built.Typed known around := by
  unfold condition at given
  split at given
  · cases given
    exact typed
  · split at given
    · exact (convert_typed given typed).1
    · cases given

theorem numeric_typed {op : Arithmetic} {operands : List Expr} (numeric : type.isNumeric)
    (each : ∀ e ∈ operands, Of known around type e) :
    Of known around type (.apply (.arithmetic op) operands type) :=
  Of.apply (fun e member => (each e member).1) (.arithmetic numeric)

/-- The common type of a type and itself. -/
theorem commonType_self {a b : Candidate} (same : a.type = b.type) (present : !b.type.isNull) :
    commonType [a, b] = .ok b.type := by
  simp only [commonType, Candidate.reconcile, List.filter_cons, same, present, List.filter_nil,
    ↓reduceIte, List.all_cons, List.all_nil, decide_true, Bool.and_true]
  rfl

/-- The common type of two floats. -/
theorem unify_floats {operands : List Expr} (given : unify registry [l, r] = .ok (type, operands))
    (left : l.type = .float) (right : r.type = .float) : type = .float := by
  obtain ⟨common, found, given⟩ := bind_ok given
  obtain ⟨_, _, given⟩ := bind_ok given
  cases given
  have agreed := commonType_self (a := l.candidate) (b := r.candidate) (left.trans right.symm)
    (by simp [candidate, right, SqlType.isNull])
  rw [List.map_cons, List.map_cons, List.map_nil, agreed] at found
  exact (Except.ok.inj found).symm.trans right

theorem arithmetic_typed {op : Arithmetic} (given : arithmetic registry op l r = .ok built)
    (left : l.Typed known around) (right : r.Typed known around) : built.Typed known around := by
  obtain ⟨⟨type, operands⟩, unified, given⟩ := bind_ok given
  dsimp only at given
  split at given
  · cases given
    exact (numeric_typed ‹_› (unify_typed (mapError_ok unified) (by simpa using ⟨left, right⟩))).1
  · split at given
    · obtain ⟨x, first, given⟩ := bind_ok given
      obtain ⟨y, second, given⟩ := bind_ok given
      obtain ⟨⟨type, operands⟩, floats, given⟩ := bind_ok given
      cases given
      obtain ⟨leftFloat, isFloat⟩ := convert_typed first left
      obtain ⟨rightFloat, isFloatToo⟩ := convert_typed second right
      have each := unify_typed floats (by simpa using ⟨leftFloat, rightFloat⟩)
      have same := unify_floats floats isFloat isFloatToo
      exact (numeric_typed (by rw [same]; rfl) each).1
    · cases given

theorem concatSide_typed {array element : SqlType}
    (given : concatSide registry array element e = .ok built) (typed : e.Typed known around) :
    Of known around (if e.type.element?.isSome then array else element) built :=
  coerce_typed given typed

/-- The side of a concatenation that is an array; the left one comes first. -/
theorem arraySide_ok {array element : SqlType}
    (found : (l.type.element?.map (l.type, ·)).or (r.type.element?.map (r.type, ·)) =
      some (array, element)) :
    array = element.array ∧ (l.type = element.array ∨ r.type = element.array) := by
  have isArray : ∀ e : Expr, e.type.element?.map (e.type, ·) = some (array, element) →
      array = element.array ∧ e.type = element.array := by
    intro e found
    obtain ⟨_, inside, same⟩ := Option.map_eq_some_iff.mp found
    cases same
    exact ⟨SqlType.eq_array_of_element? inside, SqlType.eq_array_of_element? inside⟩
  rcases Option.or_eq_some_iff.mp found with first | ⟨_, second⟩
  · exact ⟨(isArray l first).1, .inl (isArray l first).2⟩
  · exact ⟨(isArray r second).1, .inr (isArray r second).2⟩

theorem concatenation_typed (given : concatenation registry l r = .ok built)
    (left : l.Typed known around) (right : r.Typed known around) : built.Typed known around := by
  unfold concatenation at given
  dsimp only at given
  split at given
  · rename_i array element found
    obtain ⟨isArray, _⟩ := arraySide_ok found
    obtain ⟨x, first, given⟩ := bind_ok given
    obtain ⟨y, second, given⟩ := bind_ok given
    cases given
    have side : ∀ (e : Expr) v, (if e.type.element?.isSome then array else element).Admits v →
        array.Admits v := by
      intro e v admitted
      split at admitted
      · exact admitted
      · rw [isArray]
        exact SqlType.admits_array_iff.mpr admitted
    obtain ⟨leftTyped, leftType⟩ := concatSide_typed first left
    obtain ⟨rightTyped, rightType⟩ := concatSide_typed second right
    refine (Of.apply (by simpa using ⟨leftTyped, rightTyped⟩) ?_).1
    rw [List.map_cons, List.map_cons, List.map_nil, leftType, rightType]
    exact .concat (side l) (side r)
  · obtain ⟨x, first, given⟩ := bind_ok given
    obtain ⟨y, second, given⟩ := bind_ok given
    cases given
    obtain ⟨leftTyped, leftType⟩ := asText_typed first left
    obtain ⟨rightTyped, rightType⟩ := asText_typed second right
    refine (Of.apply (by simpa using ⟨leftTyped, rightTyped⟩) ?_).1
    rw [List.map_cons, List.map_cons, List.map_nil, leftType, rightType]
    exact .concat (fun _ => id) (fun _ => id)

theorem negative_typed (given : negative registry e = .ok built)
    (typed : e.Typed known around) : built.Typed known around := by
  unfold negative at given
  extract_lets finish at given
  have finished : ∀ operand : Expr, operand.Typed known around →
      finish operand = .ok built → built.Typed known around := by
    intro operand operandTyped given
    simp only [finish] at given
    split at given
    · obtain ⟨i, _, given⟩ := bind_ok given
      cases given
      exact SqlType.admits_int _
    · cases given
      exact SqlType.admits_float _
    · cases given
      exact (Of.apply (by simpa using operandTyped) .negate).1
  split at given
  · obtain ⟨_, found, given⟩ := bind_ok given
    cases found
    exact finished e typed given
  · split at given
    · obtain ⟨operand, found, given⟩ := bind_ok given
      exact finished operand (convert_typed found typed).1 given
    · cases given

theorem likeOperand_typed (given : likeOperand registry e = .ok built)
    (typed : e.Typed known around) : built.Typed known around := by
  unfold likeOperand at given
  split at given
  · exact (asText_typed given typed).1
  · cases given

theorem assigned_typed (given : assigned registry target e = .ok built)
    (typed : e.Typed known around) : Of known around target built :=
  convert_typed given typed

end Expr

/-! ### Calls -/

namespace Builtin

variable {f : Builtin} {e : Expr} {args prepared : List Expr} {type : SqlType} {built : Expr}

theorem textArg_typed (given : f.textArg registry e = .ok built) (typed : e.Typed known around) :
    built.Typed known around := by
  unfold textArg at given
  split at given
  · cases given
    exact typed
  · split at given
    · exact (Expr.asText_typed given typed).1
    · cases given

/-- The prepared arguments are typed, and the function accepts them. -/
theorem prepare_typed (given : f.prepare registry args = .ok (prepared, type))
    (typed : ∀ e ∈ args, e.Typed known around) :
    (∀ e ∈ prepared, e.Typed known around) ∧
      (Op.builtin f).Accepts (prepared.map Expr.type) type := by
  have asText : ∀ {g : Builtin} {e text : Expr}, g.textArg registry e = .ok text →
      e.Typed known around → ∀ e ∈ [text], e.Typed known around := fun found typed =>
    List.forall_mem_singleton.mpr (textArg_typed found typed)
  unfold prepare at given
  split at given
  case h_1 | h_2 =>
    obtain ⟨text, found, given⟩ := bind_ok given
    cases given
    exact ⟨asText found (typed _ (by simp)), .text rfl⟩
  case h_3 | h_4 | h_5 =>
    obtain ⟨text, found, given⟩ := bind_ok given
    cases given
    exact ⟨asText found (typed _ (by simp)), .count rfl⟩
  case h_6 =>
    obtain ⟨texts, found, given⟩ := bind_ok given
    cases given
    refine ⟨mapM_ok (fun e member built converted => ?_) found, .text rfl⟩
    exact (Expr.asText_typed converted (typed e member)).1
  case h_7 =>
    obtain ⟨⟨common, unified⟩, found, given⟩ := bind_ok given
    cases given
    have each := Expr.unify_typed found typed
    exact ⟨fun e member => (each e member).1, .coalesce (Expr.Of.types each)⟩
  case h_8 =>
    obtain ⟨⟨common, unified⟩, found, given⟩ := bind_ok given
    cases given
    have each := Expr.unify_typed found typed
    exact ⟨fun e member => (each e member).1, .nullIf (Expr.Of.types each)⟩
  case h_9 =>
    obtain ⟨computed, _, given⟩ := bind_ok given
    obtain ⟨number, found, given⟩ := bind_ok given
    cases given
    obtain ⟨numberTyped, same⟩ := Expr.coerce_typed found (typed _ (by simp))
    refine ⟨by simpa using numberTyped, ?_⟩
    rw [List.map_cons, List.map_nil, same]
    exact .abs
  case h_10 =>
    cases given
    exact ⟨by simp, .now⟩
  case h_11 =>
    cases given
    exact ⟨by simp, .randomUuid⟩
  case h_12 name value called =>
    obtain ⟨nameTyped, others⟩ := List.forall_mem_cons.mp typed
    obtain ⟨valueTyped, calledTyped⟩ := List.forall_mem_cons.mp others
    dsimp only at given
    split at given
    · cases given
    · obtain ⟨text, found, given⟩ := bind_ok given
      obtain ⟨number, converted, given⟩ := bind_ok given
      obtain ⟨flags, mapped, given⟩ := bind_ok given
      cases given
      have flagsTyped : ∀ e ∈ flags, e.Typed known around :=
        mapM_ok (fun e member built coerced =>
          (Expr.coerce_typed coerced (calledTyped e member)).1) mapped
      refine ⟨?_, .count rfl⟩
      simp only [List.forall_mem_cons]
      exact ⟨textArg_typed found nameTyped, (Expr.coerce_typed converted valueTyped).1, flagsTyped⟩
  case h_13 | h_14 =>
    cases given
    exact ⟨by simp, .text rfl⟩
  case h_15 =>
    obtain ⟨text, found, given⟩ := bind_ok given
    cases given
    exact ⟨asText found (typed _ (by simp)), .text rfl⟩
  case h_16 =>
    cases given
    exact ⟨typed, .typeOf⟩
  case h_17 => cases given

theorem call_typed (given : f.call registry args = .ok built)
    (typed : ∀ e ∈ args, e.Typed known around) : built.Typed known around := by
  obtain ⟨⟨prepared, type⟩, found, given⟩ := bind_ok given
  cases given
  obtain ⟨each, accepted⟩ := prepare_typed found typed
  exact (Expr.Of.apply each accepted).1

end Builtin

end SqlEngine
