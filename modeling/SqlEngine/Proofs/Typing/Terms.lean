import SqlEngine.Proofs.Typing.Building
import SqlEngine.Query.Compile

/-!
What is built from typed parts of a term is typed.
-/

namespace SqlEngine

open Run (bind_ok mapM_ok)

namespace Build

section Parts

variable {known : TableDef → Prop} {around : Surroundings} {n : Names} {e l r built : Expr}
  {es : List Expr}

theorem literal_typed {c : Sql.Constant} (given : literal c = .ok built) :
    built.Typed known around := by
  unfold literal at given
  split at given
  · split at given
    · cases given
      exact SqlType.admits_int _
    · split at given
      · cases given
        exact SqlType.admits_float _
      · cases given
  · cases given
    exact SqlType.admits_text _
  · cases given
    exact SqlType.admits_text _
  · cases given
    exact SqlType.admits_text _
  · cases given
    exact SqlType.admits_bool _
  · cases given
    exact SqlType.admits_null
  · cases given
  · cases given

theorem typed_typed {type text : String} (given : typed n type text = .ok built) :
    built.Typed known around := by
  obtain ⟨target, _, given⟩ := bind_ok given
  exact (Expr.convert_typed given (SqlType.admits_text text)).1

theorem test_apply {op : Op} {args : List Expr} (tests : op.isTest)
    (each : ∀ e ∈ args, e.Typed known around) : (Expr.apply op args .bool).Typed known around :=
  (Expr.Of.apply each (.test tests)).1

theorem unary_typed {op : Sql.UnaryOperator} (given : unary n op e = .ok built)
    (typed : e.Typed known around) : built.Typed known around := by
  unfold unary at given
  split at given
  · cases given
    exact typed
  · exact Expr.negative_typed given typed
  · obtain ⟨condition, found, given⟩ := bind_ok given
    cases given
    exact test_apply rfl (by simpa using Expr.condition_typed found typed)
  · cases given

theorem logic_typed {op : Op} (tests : op.isTest) (given : logic n op l r = .ok built)
    (left : l.Typed known around) (right : r.Typed known around) : built.Typed known around := by
  obtain ⟨x, first, given⟩ := bind_ok given
  obtain ⟨y, second, given⟩ := bind_ok given
  cases given
  exact test_apply tests
    (by simpa using ⟨Expr.condition_typed first left, Expr.condition_typed second right⟩)

theorem binary_typed {op : Sql.BinaryOperator} (given : binary n op l r = .ok built)
    (left : l.Typed known around) (right : r.Typed known around) : built.Typed known around := by
  unfold binary at given
  split at given
  · exact (Expr.comparison_typed given left right).1
  · exact Expr.arithmetic_typed given left right
  · split at given
    · exact logic_typed rfl given left right
    · exact logic_typed rfl given left right
    · exact Expr.concatenation_typed given left right
    · cases given

theorem truthTest_typed {test : Sql.TruthTest} {negated : Bool}
    (given : truthTest n test negated e = .ok built) (typed : e.Typed known around) :
    built.Typed known around := by
  have truth : ∀ value, (do return .apply (.isBool value negated) [← e.condition n.registry] .bool :
      Except SqlError Expr) = .ok built → built.Typed known around := by
    intro value given
    obtain ⟨condition, found, given⟩ := bind_ok given
    cases given
    exact test_apply rfl (by simpa using Expr.condition_typed found typed)
  cases test with
  | null =>
      cases given
      exact test_apply rfl (by simpa using typed)
  | isTrue => exact truth true given
  | isFalse => exact truth false given

theorem test_typed {operand : Option Expr} (given : test n operand e = .ok built)
    (operandTyped : ∀ o ∈ operand, o.Typed known around) (typed : e.Typed known around) :
    built.Typed known around := by
  cases operand with
  | some o => exact (Expr.comparison_typed given (operandTyped o rfl) typed).1
  | none => exact Expr.condition_typed given typed

/-! ### Documents and arrays -/

theorem document_typed {operator : String} (given : document n operator e = .ok built)
    (typed : e.Typed known around) :
    built.Typed known around ∧ ∀ v, built.type.Admits v := by
  unfold document at given
  split at given
  · rename_i isDocument
    cases given
    refine ⟨typed, ?_⟩
    cases held : e.type <;> simp [held, SqlType.kind] at isDocument
    · exact SqlType.admits_json
    · exact SqlType.admits_jsonb
  · split at given
    · obtain ⟨converted, same⟩ := Expr.convert_typed given typed
      exact ⟨converted, same ▸ SqlType.admits_jsonb⟩
    · cases given

theorem documentKey_typed (given : documentKey n e = .ok built) (typed : e.Typed known around) :
    built.Typed known around := by
  unfold documentKey at given
  split at given
  · cases given
    exact typed
  · exact (Expr.asText_typed given typed).1

theorem jsonAccess_typed {doc key : Expr} (asText : Bool) (docTyped : doc.Typed known around)
    (document : ∀ v, doc.type.Admits v) (keyTyped : key.Typed known around) :
    (jsonAccess asText doc key).Typed known around := by
  have each : ∀ e ∈ [doc, key], e.Typed known around := by simpa using ⟨docTyped, keyTyped⟩
  cases asText with
  | true => exact (Expr.Of.apply each .jsonText).1
  | false => exact (Expr.Of.apply each (.jsonPart document)).1

theorem array_typed (given : array n es = .ok built) (typed : ∀ e ∈ es, e.Typed known around) :
    built.Typed known around := by
  obtain ⟨⟨type, items⟩, unified, given⟩ := bind_ok given
  cases given
  have each := Expr.unify_typed unified typed
  exact (Expr.Of.apply (fun e member => (each e member).1) (.array (Expr.Of.types each))).1

/-! ### Choices and lists -/

theorem mem_interleave : ∀ {tests results : List Expr} {e : Expr}, e ∈ interleave tests results →
    e ∈ tests ∨ e ∈ results
  | [], _, _, member => .inr (by simpa [interleave] using member)
  | _ :: _, [], _, member => by simp [interleave] at member
  | test :: tests, result :: results, e, member => by
      simp only [interleave, List.mem_cons] at member ⊢
      rcases member with rfl | rfl | member
      · simp
      · simp
      · rcases mem_interleave member with inTests | inResults
        · simp [inTests]
        · simp [inResults]

theorem outcomes_interleave : ∀ {tests results : List Expr} {e : Expr},
    e ∈ Op.outcomes (interleave tests results) → e ∈ results
  | [], _, _, member => Op.mem_of_mem_outcomes (by simpa [interleave] using member)
  | _ :: _, [], _, member => by simp [interleave, Op.outcomes] at member
  | test :: tests, result :: results, e, member => by
      simp only [interleave, Op.outcomes, List.mem_cons] at member ⊢
      rcases member with rfl | member
      · simp
      · exact .inr (outcomes_interleave member)

theorem outcomes_map {α β : Type} (f : α → β) : ∀ items : List α,
    Op.outcomes (items.map f) = (Op.outcomes items).map f
  | [] => rfl
  | [_] => rfl
  | _ :: _ :: rest => by
      simp only [List.map_cons, Op.outcomes]
      rw [outcomes_map f rest]

theorem choice_typed {tests results : List Expr} (given : choice n tests results = .ok built)
    (testsTyped : ∀ e ∈ tests, e.Typed known around)
    (resultsTyped : ∀ e ∈ results, e.Typed known around) : built.Typed known around := by
  obtain ⟨⟨type, unified⟩, found, given⟩ := bind_ok given
  cases given
  have each := Expr.unify_typed found resultsTyped
  refine (Expr.Of.apply ?_ (.case ?_)).1
  · intro e member
    rcases mem_interleave member with inTests | inResults
    · exact testsTyped e inTests
    · exact (each e inResults).1
  · rw [outcomes_map]
    exact Expr.Of.types fun e member => each e (outcomes_interleave member)

theorem inList_typed {negated : Bool} (given : inList n negated es = .ok built)
    (typed : ∀ e ∈ es, e.Typed known around) : built.Typed known around := by
  obtain ⟨⟨type, operands⟩, unified, given⟩ := bind_ok given
  cases given
  exact test_apply rfl fun e member => (Expr.unify_typed unified typed e member).1

theorem between_typed {negated : Bool} {low high : Expr}
    (given : between n negated e low high = .ok built) (typed : e.Typed known around)
    (lowTyped : low.Typed known around) (highTyped : high.Typed known around) :
    built.Typed known around := by
  obtain ⟨⟨type, operands⟩, unified, given⟩ := bind_ok given
  cases given
  have each := Expr.unify_typed unified (by simpa using ⟨typed, lowTyped, highTyped⟩)
  exact test_apply rfl fun e member => (each e member).1

end Parts

section Scopes

variable {known : TableDef → Prop} {n : Names} {beyond : List Seen} {s : Scope}
  {calls start : List CollectedCall} {e built : Expr} {good : CollectedCall → Prop}

/-! ### Names and calls -/

theorem name_typed {id : Sql.Ident} (given : name n s id = .ok built) :
    built.Typed known (n.around beyond s calls) := by
  unfold name at given
  split at given
  · exact Builtin.call_typed given (by simp)
  · exact n.resolve_typed given

theorem path_typed {parts : List Sql.Ident} (given : path n s parts = .ok built) :
    built.Typed known (n.around beyond s calls) := by
  unfold path at given
  split at given
  · exact n.resolve_typed given
  · exact n.resolve_typed given
  · cases given

theorem function_typed {name : QName} {args : List Expr} {around : Surroundings}
    (sound : n.Sound known) (given : function n name args = .ok built)
    (typed : ∀ e ∈ args, e.Typed known around) : built.Typed known around := by
  have none : n.catalog.functionsNamed name = [] := by
    simp [Catalog.functionsNamed, sound.functions]
  unfold function at given
  rw [none] at given
  dsimp only at given
  split at given
  · exact Builtin.call_typed given typed
  · cases given

/-! ### Subqueries -/

theorem singleColumn_ok {p : TypedPlan} {c : Column} (given : singleColumn p = .ok c) :
    p.columns = [c] := by
  unfold singleColumn at given
  split at given
  · rename_i only
    cases given
    exact only
  · cases given
  · cases given

theorem scalar_typed {p : TypedPlan} {around : Surroundings} (given : scalar p = .ok built)
    (typed : p.Typed known (around.inner :: around.outer)) : built.Typed known around := by
  obtain ⟨c, single, given⟩ := bind_ok given
  cases given
  have types : p.types = [c.type] := by
    rw [TypedPlan.types, singleColumn_ok single]
    rfl
  exact ⟨[], types ▸ typed.1⟩

theorem among_typed {p : TypedPlan} {around : Surroundings} {negated : Bool}
    (given : among n negated e p = .ok built) (left : e.Typed known around)
    (typed : p.Typed known (around.inner :: around.outer)) : built.Typed known around := by
  obtain ⟨c, single, given⟩ := bind_ok given
  obtain ⟨type, _, given⟩ := bind_ok given
  obtain ⟨arg, coerced, given⟩ := bind_ok given
  have argTyped := (Expr.coerce_typed coerced left).1
  have types : p.types = [c.type] := by
    rw [TypedPlan.types, singleColumn_ok single]
    rfl
  split at given
  · cases given
    exact ⟨argTyped, _, typed.1⟩
  · obtain ⟨item, converted, given⟩ := bind_ok given
    cases given
    have columnTyped : (Expr.column 0 c.type).Typed known
        (.upon (around.inner :: around.outer) p.types) := by
      rw [types]
      exact ⟨_, rfl, fun t there => (Option.some.inj there).symm⟩
    have itemTyped := (Expr.convert_typed converted columnTyped).1
    exact ⟨argTyped, _, p.types, typed.1, ⟨itemTyped, trivial⟩, rfl⟩

/-! ### Parts that are built when they are needed -/

/-- What building a part of a term gives. -/
abbrev Part (known : TableDef → Prop) (n : Names) (beyond : List Seen) (s : Scope)
    (calls : List CollectedCall) (e : Expr) : Prop :=
  e.Typed known (n.around beyond s calls)

theorem subscript_gives {array : Expr} {index : Build Expr}
    (typed : Part known n beyond s start array)
    (gives : Gives good start (Part known n beyond s) index) :
    Gives good start (Part known n beyond s) (subscript n array index) := by
  unfold subscript
  split
  · exact Gives.throw _
  · rename_i element found
    have isArray := SqlType.eq_array_of_element? found
    refine gives.bind fun i mid grown indexTyped => ?_
    refine Gives.lift_bind fun position coerced => Gives.pure ?_
    have each : ∀ e ∈ [array, position], e.Typed known (n.around beyond s mid) := by
      simpa using ⟨n.grow typed grown, (Expr.coerce_typed coerced indexTyped).1⟩
    refine (Expr.Of.apply each ?_).1
    rw [List.map_cons, isArray]
    exact .subscript

theorem like_gives {ignoreCase negated : Bool} {pattern : Build Expr}
    (typed : Part known n beyond s start e)
    (gives : Gives good start (Part known n beyond s) pattern) :
    Gives good start (Part known n beyond s) (like n ignoreCase negated e pattern) := by
  refine Gives.lift_bind fun text read => gives.bind fun p mid grown patternTyped => ?_
  refine Gives.lift_bind fun q readToo => Gives.pure ?_
  have textTyped := n.grow (Expr.likeOperand_typed read typed) grown
  exact test_apply rfl (by simpa using ⟨textTyped, Expr.likeOperand_typed readToo patternTyped⟩)

/-! ### Aggregates -/

theorem type_eq_of_sameCall {a b : CollectedCall} (same : sameCall a b) (first : a.1.Takes a.2.type)
    (second : b.1.Takes b.2.type) (noCall : ∀ f args, a.2 ≠ .call f args) :
    a.1.type = b.1.type := by
  simp only [sameCall, Bool.and_eq_true, decide_eq_true_eq] at same
  obtain ⟨⟨⟨func, _⟩, _⟩, equal⟩ := same
  rw [Expr.same_type equal noCall] at first
  rcases first with ⟨counts, integer⟩ | typed
  · rcases second with ⟨_, integerToo⟩ | typedToo
    · rw [integer, integerToo]
    · rw [← func, counts] at typedToo
      rw [integer]
      exact Option.some.inj typedToo
  · rcases second with ⟨counts, integerToo⟩ | typedToo
    · rw [func, counts] at typed
      rw [integerToo]
      exact (Option.some.inj typed).symm
    · rw [func, typedToo] at typed
      exact (Option.some.inj typed).symm

theorem collect_gives {call : CollectedCall} (grouped : s.isGrouped)
    (collected : n.Collects known beyond s call) :
    Gives (n.Collects known beyond s) start (Part known n beyond s) (collect call) := by
  intro held e after ran
  unfold collect at ran
  rw [StateT.run_bind] at ran
  obtain ⟨⟨calls, _⟩, got, ran⟩ := bind_ok ran
  cases got
  dsimp only at ran
  split at ran
  · rename_i number found
    cases ran
    obtain ⟨inside, same, _⟩ := List.findIdx?_eq_some_iff_getElem.mp found
    have there := held _ (List.getElem_mem inside)
    refine ⟨held, List.prefix_refl _, grouped, _, List.getElem?_eq_getElem inside, ?_⟩
    exact type_eq_of_sameCall same there.1 collected.1 (Expr.Typed.ne_call there.2)
  · cases ran
    refine ⟨?_, List.prefix_append _ _, grouped, call, by simp, rfl⟩
    intro c member
    rcases List.mem_append.mp member with old | new
    · exact held c old
    · exact List.mem_singleton.mp new ▸ collected

theorem resultType_ok {f : AggregateFunc} {arg : Option SqlType} {type : SqlType}
    (given : f.resultType arg = .ok type) : f.resultType? arg = some type := by
  unfold AggregateFunc.resultType at given
  split at given
  · rename_i found
    exact Except.ok.inj given ▸ found
  · cases given

theorem aggregate_gives {f : AggregateFunc} {arg : Option (Scope → Build Expr)}
    {separator : Option String} {distinct : Bool} (rows : arg = none → f = .countRows)
    (gives : ∀ build ∈ arg, ∀ start,
      Gives (n.Collects known beyond s) start (Part known n beyond s.ungrouped)
        (build s.ungrouped)) :
    Gives (n.Collects known beyond s) start (Part known n beyond s)
      (aggregate s f arg separator distinct) := by
  unfold aggregate
  dsimp only
  split
  · exact Gives.throw _
  · rename_i grouped
    have grouped : s.isGrouped := by simpa using grouped
    have argument : Gives (n.Collects known beyond s) start (fun _ (arg? : Option Expr) =>
        (∀ e ∈ arg?, e.Typed known (.upon (n.seen beyond) s.types)) ∧
          (arg? = none → f = .countRows)) (arg.mapM fun build => build s.ungrouped) := by
      cases arg with
      | none => exact Gives.pure ⟨by simp, fun _ => rows rfl⟩
      | some build =>
          refine (gives build rfl start).bind fun e _ _ typed => Gives.pure ⟨?_, by simp⟩
          rintro _ ⟨⟩
          exact typed.narrow (n.narrows_upon rfl)
    refine argument.bind fun arg? mid _ ⟨typed, onlyRows⟩ => Gives.lift_bind fun type found =>
      collect_gives grouped ?_
    have takes := resultType_ok found
    cases arg? with
    | none =>
        obtain rfl := onlyRows rfl
        exact ⟨.inl ⟨rfl, (Option.some.inj takes).symm⟩, SqlType.admits_null⟩
    | some e => exact ⟨.inr takes, typed e rfl⟩

theorem aggregateCall_gives {f : AggregateFunc} {distinct : Bool} {args : List Arg}
    {texts : List String}
    (gives : ∀ build, .term build ∈ args → ∀ start,
      Gives (n.Collects known beyond s) start (Part known n beyond s.ungrouped)
        (build s.ungrouped))
    (separators : ∀ build, .term build ∈ args → ∀ start,
      Gives (n.Collects known beyond s) start (Part known n beyond s) (build s)) :
    Gives (n.Collects known beyond s) start (Part known n beyond s)
      (aggregateCall s f distinct args texts) := by
  unfold aggregateCall
  split
  · exact aggregate_gives (fun _ => rfl) (by simp)
  · rename_i arg sep
    refine (separators sep (by simp) start).bind fun e mid _ _ => Gives.lift_bind fun text _ => ?_
    refine aggregate_gives (by simp) ?_
    rintro _ ⟨⟩
    exact gives arg (by simp)
  · exact Gives.throw _
  · rename_i arg _
    refine aggregate_gives (by simp) ?_
    rintro _ ⟨⟩
    exact gives arg (by simp)
  · exact Gives.throw _

end Scopes

end Build

end SqlEngine
