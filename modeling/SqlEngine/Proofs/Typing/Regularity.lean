import SqlEngine.Proofs.Typing.Exactness
import SqlEngine.Proofs.Typing.Terms

/-!
Compiled terms are regular, and so their values are of their types.

In a regular expression every node has the type that its operands give it. What holds of the parts
of a term holds of the whole, so the proofs follow the steps by which expressions are built. The
induction is over terms alone: the results of aggregate calls and the values of subqueries are read
through nodes of which nothing is said, and tests give truth values whatever they are built from, so
many parts of a term need not be looked into.
-/

namespace SqlEngine

open Run (bind_ok mapError_ok mapM_ok)

variable {columns : List SqlType} {enclosing : List (List SqlType)} {registry : Registry}

/-- The expression is regular, and of the type. -/
def Expr.RegularOf (columns : List SqlType) (enclosing : List (List SqlType)) (type : SqlType)
    (e : Expr) : Prop :=
  e.Regular columns enclosing ∧ e.type = type

namespace Expr

variable {type target : SqlType} {e l r built : Expr} {es : List Expr} {explicit : Bool}

theorem RegularOf.apply {op : Op} {args : List Expr}
    (each : ∀ e ∈ args, e.Regular columns enclosing)
    (regular : op.Regular (args.map Expr.type) type) :
    RegularOf columns enclosing type (.apply op args type) :=
  ⟨.inr ⟨allRegular_iff.mpr each, regular⟩, rfl⟩

theorem test_regular {op : Op} (args : List Expr) (tests : op.isTest) :
    (apply op args .bool).Regular columns enclosing :=
  .inl ⟨tests, rfl⟩

theorem RegularOf.types (each : ∀ e ∈ es, RegularOf columns enclosing type e) :
    ∀ t ∈ es.map Expr.type, t = type := by
  intro t member
  obtain ⟨e, there, rfl⟩ := List.mem_map.mp member
  exact (each e there).2

theorem convert_regular (numbered : registry.Numbered)
    (given : e.convert registry target explicit = .ok built)
    (regular : e.Regular columns enclosing) : RegularOf columns enclosing target built := by
  unfold convert at given
  split at given
  · cases given
    exact ⟨regular, ‹_›⟩
  · split at given
    · cases given
    · rename_i c planned
      split at given
      · obtain ⟨w, converted, given⟩ := bind_ok given
        cases given
        have converts := (Conversion.plan_sound numbered planned).converts _ regular
        exact ⟨converts.given w converted, rfl⟩
      · cases given
        exact RegularOf.apply (List.forall_mem_singleton.mpr regular) (.convert planned)

theorem unify_regular (numbered : registry.Numbered) {operands : List Expr}
    (given : unify registry es = .ok (type, operands))
    (each : ∀ e ∈ es, e.Regular columns enclosing) :
    ∀ e ∈ operands, RegularOf columns enclosing type e := by
  obtain ⟨common, _, given⟩ := bind_ok given
  obtain ⟨converted, mapped, given⟩ := bind_ok given
  cases given
  exact mapM_ok (fun e member built coerced => convert_regular numbered coerced (each e member))
    mapped

theorem unify_two (numbered : registry.Numbered) {operands : List Expr}
    (given : unify registry [l, r] = .ok (type, operands))
    (left : l.Regular columns enclosing) (right : r.Regular columns enclosing) :
    ∃ x y, operands = [x, y] ∧ RegularOf columns enclosing type x ∧
      RegularOf columns enclosing type y := by
  have each := unify_regular numbered given (by simpa using ⟨left, right⟩)
  obtain ⟨_, _, given⟩ := bind_ok given
  obtain ⟨converted, mapped, given⟩ := bind_ok given
  cases given
  rw [List.mapM_cons] at mapped
  obtain ⟨x, _, mapped⟩ := bind_ok mapped
  obtain ⟨ys, second, mapped⟩ := bind_ok mapped
  cases mapped
  rw [List.mapM_cons] at second
  obtain ⟨y, _, second⟩ := bind_ok second
  cases second
  exact ⟨x, y, rfl, each x (by simp), each y (by simp)⟩

theorem condition_regular (numbered : registry.Numbered) (given : e.condition registry = .ok built)
    (regular : e.Regular columns enclosing) : built.Regular columns enclosing := by
  unfold condition at given
  split at given
  · cases given
    exact regular
  · split at given
    · exact (convert_regular numbered given regular).1
    · cases given

theorem numeric_regular {op : Arithmetic} (numeric : type.isNumeric)
    (left : RegularOf columns enclosing type l) (right : RegularOf columns enclosing type r) :
    (apply (.arithmetic op) [l, r] type).Regular columns enclosing := by
  refine (RegularOf.apply (by simpa using ⟨left.1, right.1⟩) ?_).1
  rw [List.map_cons, List.map_cons, List.map_nil, right.2]
  exact .arithmetic numeric

theorem arithmetic_regular (numbered : registry.Numbered) {op : Arithmetic}
    (given : arithmetic registry op l r = .ok built) (left : l.Regular columns enclosing)
    (right : r.Regular columns enclosing) : built.Regular columns enclosing := by
  obtain ⟨⟨type, operands⟩, unified, given⟩ := bind_ok given
  dsimp only at given
  split at given
  · cases given
    obtain ⟨x, y, rfl, first, second⟩ := unify_two numbered (mapError_ok unified) left right
    exact numeric_regular ‹_› first second
  · split at given
    · obtain ⟨x, first, given⟩ := bind_ok given
      obtain ⟨y, second, given⟩ := bind_ok given
      obtain ⟨⟨type, operands⟩, floats, given⟩ := bind_ok given
      cases given
      obtain ⟨leftFloat, isFloat⟩ := convert_regular numbered first left
      obtain ⟨rightFloat, isFloatToo⟩ := convert_regular numbered second right
      have numeric : type.isNumeric := by
        rw [unify_floats floats isFloat isFloatToo]
        rfl
      obtain ⟨u, v, rfl, one, two⟩ := unify_two numbered floats leftFloat rightFloat
      exact numeric_regular numeric one two
    · cases given

/-- One of the sides of a concatenation is an array, unless both are texts. -/
theorem concatenation_regular (numbered : registry.Numbered)
    (given : concatenation registry l r = .ok built) (left : l.Regular columns enclosing)
    (right : r.Regular columns enclosing) : built.Regular columns enclosing := by
  unfold concatenation at given
  dsimp only at given
  split at given
  · rename_i array element found
    obtain ⟨x, first, given⟩ := bind_ok given
    obtain ⟨y, second, given⟩ := bind_ok given
    cases given
    obtain ⟨rfl, isArray⟩ := arraySide_ok found
    obtain ⟨leftRegular, leftType⟩ := convert_regular numbered first left
    obtain ⟨rightRegular, rightType⟩ := convert_regular numbered second right
    have side : ∀ {e : Expr} {t : SqlType},
        t = (if e.type.element?.isSome then element.array else element) →
          t = element.array ∨ t = element := by
      intro e t same
      split at same
      · exact .inl same
      · exact .inr same
    refine (RegularOf.apply (by simpa using ⟨leftRegular, rightRegular⟩) ?_).1
    rw [List.map_cons, List.map_cons, List.map_nil]
    exact .concatArrays (side leftType) (side rightType)
      (isArray.imp (fun same => by rw [leftType, same]; rfl)
        fun same => by rw [rightType, same]; rfl)
  · obtain ⟨x, first, given⟩ := bind_ok given
    obtain ⟨y, second, given⟩ := bind_ok given
    cases given
    obtain ⟨leftRegular, leftType⟩ := convert_regular numbered first left
    obtain ⟨rightRegular, rightType⟩ := convert_regular numbered second right
    refine (RegularOf.apply (by simpa using ⟨leftRegular, rightRegular⟩) ?_).1
    rw [List.map_cons, List.map_cons, List.map_nil, leftType, rightType]
    exact .concatTexts

theorem negative_regular (numbered : registry.Numbered) (given : negative registry e = .ok built)
    (regular : e.Regular columns enclosing) : built.Regular columns enclosing := by
  unfold negative at given
  extract_lets finish at given
  have finished : ∀ operand : Expr, operand.Regular columns enclosing → operand.type.isNumeric →
      finish operand = .ok built → built.Regular columns enclosing := by
    intro operand operandRegular numeric given
    simp only [finish] at given
    split at given
    · obtain ⟨i, negated, given⟩ := bind_ok given
      cases given
      exact Arithmetic.int64_fits negated
    · cases given
      rfl
    · cases given
      exact (RegularOf.apply (List.forall_mem_singleton.mpr operandRegular) (.negate numeric)).1
  split at given
  · obtain ⟨_, found, given⟩ := bind_ok given
    cases found
    exact finished e regular ‹_› given
  · split at given
    · obtain ⟨operand, found, given⟩ := bind_ok given
      obtain ⟨operandRegular, isFloat⟩ := convert_regular numbered found regular
      exact finished operand operandRegular (isFloat ▸ rfl) given
    · cases given

end Expr

/-! ### Calls -/

namespace Builtin

variable {f : Builtin} {e : Expr} {args prepared : List Expr} {type : SqlType} {built : Expr}

theorem absType_ok (given : absType e = .ok type) : type.isNumeric := by
  unfold absType at given
  split at given
  · cases given
    assumption
  · split at given <;> cases given
    rfl

theorem textArg_regular (numbered : registry.Numbered) (given : f.textArg registry e = .ok built)
    (regular : e.Regular columns enclosing) : built.Regular columns enclosing := by
  unfold textArg at given
  split at given
  · cases given
    exact regular
  · split at given
    · exact (Expr.convert_regular numbered given regular).1
    · cases given

/-- The prepared arguments are regular, and the function takes arguments of their types. -/
theorem prepare_regular (numbered : registry.Numbered)
    (given : f.prepare registry args = .ok (prepared, type))
    (each : ∀ e ∈ args, e.Regular columns enclosing) :
    (∀ e ∈ prepared, e.Regular columns enclosing) ∧
      (Op.builtin f).Regular (prepared.map Expr.type) type := by
  have asText : ∀ {g : Builtin} {e text : Expr}, g.textArg registry e = .ok text →
      e.Regular columns enclosing → ∀ e ∈ [text], e.Regular columns enclosing :=
    fun found regular => List.forall_mem_singleton.mpr (textArg_regular numbered found regular)
  have everyText : ∀ s, (SqlType.text none).includes (.text s) := fun _ => rfl
  unfold prepare at given
  split at given
  case h_1 | h_2 =>
    obtain ⟨text, found, given⟩ := bind_ok given
    cases given
    refine ⟨asText found (each _ (by simp)), .text rfl fun s => ?_⟩
    split <;> rfl
  case h_3 | h_4 | h_5 =>
    obtain ⟨text, found, given⟩ := bind_ok given
    cases given
    exact ⟨asText found (each _ (by simp)), .count rfl⟩
  case h_6 =>
    obtain ⟨texts, found, given⟩ := bind_ok given
    cases given
    refine ⟨mapM_ok (fun e member built converted => ?_) found, .text rfl everyText⟩
    exact (Expr.convert_regular numbered converted (each e member)).1
  case h_7 =>
    obtain ⟨⟨common, unified⟩, found, given⟩ := bind_ok given
    cases given
    have same := Expr.unify_regular numbered found each
    exact ⟨fun e member => (same e member).1, .coalesce (Expr.RegularOf.types same)⟩
  case h_8 =>
    obtain ⟨⟨common, unified⟩, found, given⟩ := bind_ok given
    cases given
    have same := Expr.unify_regular numbered found each
    exact ⟨fun e member => (same e member).1, .nullIf (Expr.RegularOf.types same)⟩
  case h_9 =>
    obtain ⟨computed, numeric, given⟩ := bind_ok given
    obtain ⟨number, found, given⟩ := bind_ok given
    cases given
    obtain ⟨regular, same⟩ := Expr.convert_regular numbered found (each _ (by simp))
    refine ⟨List.forall_mem_singleton.mpr regular, ?_⟩
    rw [List.map_cons, List.map_nil, same]
    exact .abs (absType_ok numeric)
  case h_10 =>
    cases given
    exact ⟨by simp, .now⟩
  case h_11 =>
    cases given
    exact ⟨by simp, .randomUuid⟩
  case h_12 name value called =>
    obtain ⟨nameRegular, others⟩ := List.forall_mem_cons.mp each
    obtain ⟨valueRegular, calledRegular⟩ := List.forall_mem_cons.mp others
    dsimp only at given
    split at given
    · cases given
    · obtain ⟨text, found, given⟩ := bind_ok given
      obtain ⟨number, converted, given⟩ := bind_ok given
      obtain ⟨flags, mapped, given⟩ := bind_ok given
      cases given
      have flagsRegular : ∀ e ∈ flags, e.Regular columns enclosing :=
        mapM_ok (fun e member built coerced =>
          (Expr.convert_regular numbered coerced (calledRegular e member)).1) mapped
      refine ⟨?_, .count rfl⟩
      simp only [List.forall_mem_cons]
      exact ⟨textArg_regular numbered found nameRegular,
        (Expr.convert_regular numbered converted valueRegular).1, flagsRegular⟩
  case h_13 | h_14 =>
    cases given
    exact ⟨by simp, .text rfl everyText⟩
  case h_15 =>
    obtain ⟨text, found, given⟩ := bind_ok given
    cases given
    exact ⟨asText found (each _ (by simp)), .text rfl everyText⟩
  case h_16 =>
    cases given
    exact ⟨each, .typeOf⟩
  case h_17 => cases given

theorem call_regular (numbered : registry.Numbered) (given : f.call registry args = .ok built)
    (each : ∀ e ∈ args, e.Regular columns enclosing) : built.Regular columns enclosing := by
  obtain ⟨⟨prepared, type⟩, found, given⟩ := bind_ok given
  cases given
  obtain ⟨regularArgs, regular⟩ := prepare_regular numbered found each
  exact (Expr.RegularOf.apply regularArgs regular).1

end Builtin

/-- A resolved call is one of a function from the list. -/
theorem HostFunction.resolve_regular {name : String} {args : List Expr} {built : Expr} :
    ∀ {candidates : List HostFunction}, (∀ f ∈ candidates, f.IsFaithful) →
      resolve registry name args candidates = .ok built → built.Regular columns enclosing
  | [], _, given => by cases given
  | f :: rest, faithful, given => by
      obtain ⟨first, others⟩ := List.forall_mem_cons.mp faithful
      unfold resolve at given
      split at given
      · obtain ⟨converted, _, given⟩ := bind_ok given
        split at given
        · cases given
          exact first
        · exact resolve_regular others given
      · exact resolve_regular others given

/-! ### Parts of terms -/

/-- The scopes of the enclosing queries, as the types of their rows. -/
def Names.outerTypes (n : Names) : List (List SqlType) := n.outer.map Scope.types

/-- What is known of the names that expressions are built with. -/
structure Names.Reliable (n : Names) : Prop where
  numbered : n.registry.Numbered
  faithful : ∀ f ∈ n.catalog.functions, f.IsFaithful

theorem Names.resolve_regular {n : Names} {s : Scope} {table : Option String} {name : String}
    {e : Expr} (found : n.resolve s table name = .ok e) : e.Regular s.types n.outerTypes := by
  obtain ⟨column?, looked, found⟩ := bind_ok found
  cases column? with
  | some column =>
      cases found
      exact Scope.at_types (Scope.find?_ok looked)
  | none =>
      obtain ⟨outer?, reached, found⟩ := bind_ok found
      cases outer? with
      | none => cases found
      | some outer =>
          cases found
          obtain ⟨up, index, type, scope, rfl, there, _, at_⟩ := findOuter_ok reached
          intro types known
          have position : 1 + up - 1 = up := by omega
          rw [position, Names.outerTypes, List.getElem?_map, there] at known
          cases known
          exact at_

namespace Build

section Parts

variable {n : Names} {s : Scope} {e l r built : Expr} {es : List Expr}

theorem literal_regular {c : Sql.Constant} (given : literal c = .ok built) :
    built.Regular columns enclosing := by
  unfold literal at given
  split at given
  · split at given
    · rename_i read
      cases given
      exact Numeral.int64?_fits read
    · split at given <;> cases given
      rfl
  all_goals
    cases given
    try rfl

theorem name_regular (reliable : n.Reliable) {id : Sql.Ident} (given : name n s id = .ok built) :
    built.Regular s.types n.outerTypes := by
  unfold name at given
  split at given
  · exact Builtin.call_regular reliable.numbered given (by simp)
  · exact Names.resolve_regular given

theorem path_regular {parts : List Sql.Ident} (given : path n s parts = .ok built) :
    built.Regular s.types n.outerTypes := by
  unfold path at given
  split at given
  · exact Names.resolve_regular given
  · exact Names.resolve_regular given
  · cases given

theorem unary_regular (reliable : n.Reliable) {op : Sql.UnaryOperator}
    (given : unary n op e = .ok built) (regular : e.Regular columns enclosing) :
    built.Regular columns enclosing := by
  unfold unary at given
  split at given
  · cases given
    exact regular
  · exact Expr.negative_regular reliable.numbered given regular
  · obtain ⟨condition, _, given⟩ := bind_ok given
    cases given
    exact Expr.test_regular _ rfl
  · cases given

theorem logic_regular {op : Op} (tests : op.isTest) (given : logic n op l r = .ok built) :
    built.Regular columns enclosing := by
  obtain ⟨x, _, given⟩ := bind_ok given
  obtain ⟨y, _, given⟩ := bind_ok given
  cases given
  exact Expr.test_regular _ tests

theorem comparison_regular {op : Comparison}
    (given : Expr.comparison registry op l r = .ok built) : built.Regular columns enclosing := by
  obtain ⟨⟨type, operands⟩, _, given⟩ := bind_ok given
  cases given
  exact Expr.test_regular _ rfl

theorem binary_regular (reliable : n.Reliable) {op : Sql.BinaryOperator}
    (given : binary n op l r = .ok built) (left : l.Regular columns enclosing)
    (right : r.Regular columns enclosing) : built.Regular columns enclosing := by
  unfold binary at given
  split at given
  · exact comparison_regular given
  · exact Expr.arithmetic_regular reliable.numbered given left right
  · split at given
    · exact logic_regular rfl given
    · exact logic_regular rfl given
    · exact Expr.concatenation_regular reliable.numbered given left right
    · cases given

theorem truthTest_regular {test : Sql.TruthTest} {negated : Bool}
    (given : truthTest n test negated e = .ok built) : built.Regular columns enclosing := by
  cases test with
  | null =>
      cases given
      exact Expr.test_regular _ rfl
  | isTrue | isFalse =>
      obtain ⟨condition, _, given⟩ := bind_ok given
      cases given
      exact Expr.test_regular _ rfl

theorem test_regular (reliable : n.Reliable) {operand : Option Expr}
    (given : test n operand e = .ok built) (regular : e.Regular columns enclosing) :
    built.Regular columns enclosing := by
  cases operand with
  | some o => exact comparison_regular given
  | none => exact Expr.condition_regular reliable.numbered given regular

theorem inList_regular {negated : Bool} (given : inList n negated es = .ok built) :
    built.Regular columns enclosing := by
  obtain ⟨⟨type, operands⟩, _, given⟩ := bind_ok given
  cases given
  exact Expr.test_regular _ rfl

theorem between_regular {negated : Bool} {low high : Expr}
    (given : between n negated e low high = .ok built) : built.Regular columns enclosing := by
  obtain ⟨⟨type, operands⟩, _, given⟩ := bind_ok given
  cases given
  exact Expr.test_regular _ rfl

theorem document_regular (reliable : n.Reliable) {operator : String}
    (given : document n operator e = .ok built) (regular : e.Regular columns enclosing) :
    built.Regular columns enclosing ∧ (built.type = .json ∨ built.type = .jsonb) := by
  unfold document at given
  split at given
  · rename_i isDocument
    cases given
    refine ⟨regular, ?_⟩
    cases held : e.type <;> simp [held, SqlType.kind] at isDocument
    · exact .inl rfl
    · exact .inr rfl
  · split at given
    · obtain ⟨converted, same⟩ := Expr.convert_regular reliable.numbered given regular
      exact ⟨converted, .inr same⟩
    · cases given

theorem documentKey_regular (reliable : n.Reliable) (given : documentKey n e = .ok built)
    (regular : e.Regular columns enclosing) : built.Regular columns enclosing := by
  unfold documentKey at given
  split at given
  · cases given
    exact regular
  · exact (Expr.convert_regular reliable.numbered given regular).1

theorem jsonAccess_regular {doc key : Expr} (asText : Bool)
    (document : doc.type = .json ∨ doc.type = .jsonb) (docRegular : doc.Regular columns enclosing)
    (keyRegular : key.Regular columns enclosing) :
    (jsonAccess asText doc key).Regular columns enclosing := by
  have each : ∀ e ∈ [doc, key], e.Regular columns enclosing := by
    simpa using ⟨docRegular, keyRegular⟩
  cases asText with
  | true => exact (Expr.RegularOf.apply each .jsonText).1
  | false => exact (Expr.RegularOf.apply each (.jsonPart document)).1

theorem array_regular (reliable : n.Reliable) (given : array n es = .ok built)
    (each : ∀ e ∈ es, e.Regular columns enclosing) : built.Regular columns enclosing := by
  obtain ⟨⟨type, items⟩, unified, given⟩ := bind_ok given
  cases given
  have same := Expr.unify_regular reliable.numbered unified each
  exact (Expr.RegularOf.apply (fun e member => (same e member).1)
    (.array (Expr.RegularOf.types same))).1

theorem choice_regular (reliable : n.Reliable) {tests results : List Expr}
    (given : choice n tests results = .ok built)
    (eachTest : ∀ e ∈ tests, e.Regular columns enclosing)
    (eachResult : ∀ e ∈ results, e.Regular columns enclosing) :
    built.Regular columns enclosing := by
  obtain ⟨⟨type, unified⟩, found, given⟩ := bind_ok given
  cases given
  have same := Expr.unify_regular reliable.numbered found eachResult
  refine (Expr.RegularOf.apply ?_ (.case ?_)).1
  · intro e member
    rcases mem_interleave member with inTests | inResults
    · exact eachTest e inTests
    · exact (same e inResults).1
  · rw [outcomes_map]
    exact Expr.RegularOf.types fun e member => same e (outcomes_interleave member)

theorem function_regular (reliable : n.Reliable) {name : QName}
    (given : function n name es = .ok built) (each : ∀ e ∈ es, e.Regular columns enclosing) :
    built.Regular columns enclosing := by
  unfold function at given
  dsimp only at given
  split at given
  · split at given
    · exact Builtin.call_regular reliable.numbered given each
    · cases given
  · refine HostFunction.resolve_regular (fun f member => reliable.faithful f ?_) given
    obtain ⟨schema, _, member⟩ := List.mem_flatMap.mp member
    exact List.mem_of_mem_filter member

end Parts

end Build

/-! ### Terms -/

namespace Build

/-- Whatever calls were collected before, the build gives only results that meet the condition. -/
def Only {α : Type} (result : α → Prop) (b : Build α) : Prop :=
  ∀ calls a after, b.run calls = .ok (a, after) → result a

section Only

variable {α β : Type} {result : α → Prop} {final : β → Prop}

theorem Only.pure {a : α} (held : result a) : Only result (pure a) := by
  intro calls b after ran
  cases ran
  exact held

theorem Only.throw (e : SqlError) : Only result (throw e) := by
  intro calls a after ran
  cases ran

theorem Only.lift {x : Except SqlError α} (given : ∀ a, x = .ok a → result a) :
    Only result (liftM x) := by
  intro calls a after ran
  cases x with
  | error e => cases ran
  | ok b =>
      cases ran
      exact given _ rfl

theorem Only.bind {b : Build α} {f : α → Build β} (first : Only result b)
    (next : ∀ a, result a → Only final (f a)) : Only final (b >>= f) := by
  intro calls c after ran
  rw [StateT.run_bind] at ran
  obtain ⟨⟨a, mid⟩, ranFirst, ran⟩ := bind_ok ran
  exact next a (first calls a mid ranFirst) mid c after ran

/-- A part in front on which the result does not depend. -/
theorem Only.skip {b : Build α} {f : α → Build β} (next : ∀ a, Only final (f a)) :
    Only final (b >>= f) := by
  have anything : Only (fun _ => True) b := fun _ _ _ _ => trivial
  exact anything.bind fun a _ => next a

theorem Only.lift_bind {x : Except SqlError α} {f : α → Build β}
    (next : ∀ a, x = .ok a → Only final (f a)) : Only final (liftM x >>= f) :=
  Only.bind (Only.lift fun _ given => given) next

end Only

section Parts

variable {columns : List SqlType} {enclosing : List (List SqlType)} {n : Names} {s : Scope}
  {e built : Expr}

theorem subscript_only (reliable : n.Reliable) {array : Expr} {index : Build Expr}
    (regular : array.Regular columns enclosing)
    (only : Only (Expr.Regular columns enclosing) index) :
    Only (Expr.Regular columns enclosing) (subscript n array index) := by
  unfold subscript
  split
  · exact Only.throw _
  · rename_i element found
    refine only.bind fun i indexRegular => Only.lift_bind fun position coerced => Only.pure ?_
    have positionRegular := (Expr.convert_regular reliable.numbered coerced indexRegular).1
    refine (Expr.RegularOf.apply (by simpa using ⟨regular, positionRegular⟩) ?_).1
    rw [List.map_cons, SqlType.eq_array_of_element? found]
    exact .subscript

theorem like_only {ignoreCase negated : Bool} {pattern : Build Expr} :
    Only (Expr.Regular columns enclosing) (like n ignoreCase negated e pattern) :=
  Only.skip fun _ => Only.skip fun _ => Only.skip fun _ => Only.pure (Expr.test_regular _ rfl)

theorem among_regular {negated : Bool} {p : TypedPlan} (given : among n negated e p = .ok built) :
    built.Regular columns enclosing := by
  obtain ⟨c, _, given⟩ := bind_ok given
  obtain ⟨type, _, given⟩ := bind_ok given
  obtain ⟨arg, _, given⟩ := bind_ok given
  split at given
  · cases given
    trivial
  · obtain ⟨item, _, given⟩ := bind_ok given
    cases given
    trivial

theorem scalar_regular {p : TypedPlan} (given : scalar p = .ok built) :
    built.Regular columns enclosing := by
  obtain ⟨c, _, given⟩ := bind_ok given
  cases given
  trivial

theorem collect_only (call : CollectedCall) :
    Only (Expr.Regular columns enclosing) (collect call) := by
  unfold collect
  refine Only.skip fun calls => ?_
  split
  · exact Only.pure trivial
  · exact Only.skip fun _ => Only.pure trivial

theorem aggregate_only {f : AggregateFunc} {arg : Option (Scope → Build Expr)}
    {separator : Option String} {distinct : Bool} :
    Only (Expr.Regular columns enclosing) (aggregate s f arg separator distinct) := by
  unfold aggregate
  dsimp only
  split
  · exact Only.throw _
  · exact Only.skip fun _ => Only.skip fun _ => collect_only _

theorem aggregateCall_only {f : AggregateFunc} {distinct : Bool} {args : List Arg}
    {texts : List String} :
    Only (Expr.Regular columns enclosing) (aggregateCall s f distinct args texts) := by
  unfold aggregateCall
  split
  · exact aggregate_only
  · exact Only.skip fun _ => Only.skip fun _ => aggregate_only
  · exact Only.throw _
  · exact aggregate_only
  · exact Only.throw _

end Parts

end Build

namespace Sql

open Build (Only)

/-- All expressions of a list are regular. -/
abbrev EachRegular (n : Names) (s : Scope) (es : List Expr) : Prop :=
  ∀ e ∈ es, e.Regular s.types n.outerTypes

mutual

theorem Term.compile_only {n : Names} {s : Scope} (reliable : n.Reliable) : ∀ t : Term,
    Only (Expr.Regular s.types n.outerTypes) (t.compile n s)
  | .name id => by
      rw [Term.compile]
      exact Only.lift fun _ => Build.name_regular reliable
  | .path parts => by
      rw [Term.compile]
      exact Only.lift fun _ => Build.path_regular
  | .constant value => by
      rw [Term.compile]
      exact Only.lift fun _ => Build.literal_regular
  | .nested t => by
      rw [Term.compile]
      exact Term.compile_only reliable t
  | .typed type text => by
      rw [Term.compile]
      refine Only.lift fun _ given => ?_
      obtain ⟨target, _, given⟩ := bind_ok given
      exact (Expr.convert_regular reliable.numbered given rfl).1
  | .cast t type _ => by
      rw [Term.compile]
      refine Only.skip fun target => (Term.compile_only reliable t).bind fun e regular => ?_
      exact Only.lift fun _ given => (Expr.convert_regular reliable.numbered given regular).1
  | .unary op t => by
      rw [Term.compile]
      refine (Term.compile_only reliable t).bind fun e regular => ?_
      exact Only.lift fun _ given => Build.unary_regular reliable given regular
  | .binary left op right => by
      rw [Term.compile]
      refine (Term.compile_only reliable left).bind fun l leftRegular => ?_
      refine (Term.compile_only reliable right).bind fun r rightRegular => ?_
      exact Only.lift fun _ given => Build.binary_regular reliable given leftRegular rightRegular
  | .is t test negated => by
      rw [Term.compile]
      exact Only.skip fun _ => Only.lift fun _ => Build.truthTest_regular
  | .inList t items negated => by
      rw [Term.compile]
      exact Only.skip fun _ => Only.skip fun _ => Only.lift fun _ => Build.inList_regular
  | .inQuery t query negated => by
      rw [Term.compile]
      exact Only.skip fun _ => Only.skip fun _ => Only.lift fun _ => Build.among_regular
  | .exists query negated => by
      rw [Term.compile]
      exact Only.skip fun _ => Only.pure trivial
  | .subquery query => by
      rw [Term.compile]
      exact Only.skip fun _ => Only.lift fun _ => Build.scalar_regular
  | .between t low high negated => by
      rw [Term.compile]
      exact Only.skip fun _ => Only.skip fun _ => Only.skip fun _ =>
        Only.lift fun _ => Build.between_regular
  | .like t pattern escape negated insensitive => by
      rw [Term.compile]
      dsimp only
      split
      · exact Only.throw _
      · exact Only.skip fun _ => Build.like_only
  | .case operand branches otherwise => by
      rw [Term.compile]
      refine Only.skip fun operand => ?_
      refine (Term.compileTests_only reliable operand branches).bind fun tests eachTest => ?_
      refine (Term.compileResults_only reliable branches).bind fun results eachResult => ?_
      refine (Term.compileOption_only reliable otherwise).bind fun last lastRegular => ?_
      refine Only.lift fun _ given => Build.choice_regular reliable given eachTest ?_
      exact List.forall_mem_append.mpr
        ⟨eachResult, fun e isLast => lastRegular e (Option.mem_toList.mp isLast)⟩
  | .call head args _ _ => by
      rw [Term.compile]
      dsimp only
      split
      · exact Only.throw _
      · refine Only.skip fun name => ?_
        split
        · exact Build.aggregateCall_only
        · split
          · exact Only.throw _
          · refine (Argument.compileAll_only reliable args).bind fun es each => ?_
            exact Only.lift fun _ given => Build.function_regular reliable given each
  | .arrayAgg distinct t orderBy limit => by
      rw [Term.compile]
      dsimp only
      split
      · exact Only.throw _
      · exact Build.aggregate_only
  | .array items _ => by
      rw [Term.compile]
      refine (Term.compileAll_only reliable items).bind fun es each => ?_
      exact Only.lift fun _ given => Build.array_regular reliable given each
  | .subscript t indexes => by
      rw [Term.compile]
      exact (Term.compile_only reliable t).bind fun e regular =>
        Term.compileSubscripts_only reliable regular indexes
  | .json left operator right => by
      rw [Term.compile]
      refine Only.skip fun asText => (Term.compile_only reliable left).bind fun l leftRegular => ?_
      refine Only.lift_bind fun doc read => ?_
      refine (Term.compile_only reliable right).bind fun r rightRegular => ?_
      refine Only.lift_bind fun key keyed => Only.pure ?_
      obtain ⟨docRegular, document⟩ := Build.document_regular reliable read leftRegular
      exact Build.jsonAccess_regular asText document docRegular
        (Build.documentKey_regular reliable keyed rightRegular)
  | .unsupported phrase => by
      rw [Term.compile]
      exact Only.throw _

theorem Term.compileAll_only {n : Names} {s : Scope} (reliable : n.Reliable) : ∀ terms : List Term,
    Only (EachRegular n s) (Term.compileAll n s terms)
  | [] => by
      rw [Term.compileAll]
      exact Only.pure (List.forall_mem_nil _)
  | t :: rest => by
      rw [Term.compileAll]
      refine (Term.compile_only reliable t).bind fun e regular => ?_
      refine (Term.compileAll_only reliable rest).bind fun es each => ?_
      exact Only.pure (List.forall_mem_cons.mpr ⟨regular, each⟩)

theorem Term.compileOption_only {n : Names} {s : Scope} (reliable : n.Reliable) :
    ∀ term : Option Term, Only (fun e? : Option Expr => ∀ e ∈ e?, e.Regular s.types n.outerTypes)
      (Term.compileOption n s term)
  | none => by
      rw [Term.compileOption]
      exact Only.pure (by simp)
  | some t => by
      rw [Term.compileOption]
      refine (Term.compile_only reliable t).bind fun e regular => Only.pure ?_
      rintro _ ⟨⟩
      exact regular

theorem Term.compileTests_only {n : Names} {s : Scope} (reliable : n.Reliable)
    (operand : Option Expr) : ∀ branches : List (Term × Term),
      Only (EachRegular n s) (Term.compileTests n s operand branches)
  | [] => by
      rw [Term.compileTests]
      exact Only.pure (List.forall_mem_nil _)
  | (condition, _) :: rest => by
      rw [Term.compileTests]
      refine (Term.compile_only reliable condition).bind fun e regular => ?_
      refine Only.lift_bind fun test given => ?_
      refine (Term.compileTests_only reliable operand rest).bind fun tests each => Only.pure ?_
      exact List.forall_mem_cons.mpr ⟨Build.test_regular reliable given regular, each⟩

theorem Term.compileResults_only {n : Names} {s : Scope} (reliable : n.Reliable) :
    ∀ branches : List (Term × Term), Only (EachRegular n s) (Term.compileResults n s branches)
  | [] => by
      rw [Term.compileResults]
      exact Only.pure (List.forall_mem_nil _)
  | (_, result) :: rest => by
      rw [Term.compileResults]
      refine (Term.compile_only reliable result).bind fun e regular => ?_
      refine (Term.compileResults_only reliable rest).bind fun es each => ?_
      exact Only.pure (List.forall_mem_cons.mpr ⟨regular, each⟩)

theorem Term.compileSubscripts_only {n : Names} {s : Scope} (reliable : n.Reliable) {array : Expr}
    (regular : array.Regular s.types n.outerTypes) : ∀ indexes : List Term,
      Only (Expr.Regular s.types n.outerTypes) (Term.compileSubscripts n s array indexes)
  | [] => by
      rw [Term.compileSubscripts]
      exact Only.pure regular
  | index :: rest => by
      rw [Term.compileSubscripts]
      refine (Build.subscript_only reliable regular (Term.compile_only reliable index)).bind
        fun item itemRegular => ?_
      exact Term.compileSubscripts_only reliable itemRegular rest

theorem Argument.compileAll_only {n : Names} {s : Scope} {name : String} (reliable : n.Reliable) :
    ∀ args : List Argument, Only (EachRegular n s) (Argument.compileAll n s name args)
  | [] => by
      rw [Argument.compileAll]
      exact Only.pure (List.forall_mem_nil _)
  | .term none t :: rest => by
      rw [Argument.compileAll]
      refine (Term.compile_only reliable t).bind fun e regular => ?_
      refine (Argument.compileAll_only reliable rest).bind fun es each => ?_
      exact Only.pure (List.forall_mem_cons.mpr ⟨regular, each⟩)
  | .term (some label) t :: _ => by
      rw [Argument.compileAll]
      exact Only.throw _
  | .star label :: _ => by
      rw [Argument.compileAll]
      exact Only.throw _
  | .tableStar label table :: _ => by
      rw [Argument.compileAll]
      exact Only.throw _

end

/-- What a compiled term evaluates to is of its type, over every row of its scope and within rows of
the enclosing scopes, unless the value comes out of an operator that is not exact. -/
theorem Term.compile_included {t : Term} {n : Names} {s : Scope} {e : Expr}
    {calls collected : List CollectedCall} (reliable : n.Reliable)
    (compiled : (t.compile n s).run calls = .ok (e, collected)) (exact : e.isExact) {env : Env}
    (numbered : env.catalog.registry.Numbered) {outer : List Row} {row : Row}
    (fits : Row.Of s.types row) (around : List.Forall₂ Row.Of n.outerTypes outer)
    {before after : EvalState} {v : Value}
    (evaluated : (e.eval env outer row).run before = (.ok v, after)) : e.type.includes v := by
  have regular := Term.compile_only reliable t calls e collected compiled
  have stable : Eval.Stable env fun _ => True := ⟨fun _ _ _ => trivial, fun _ _ _ _ _ _ _ => trivial⟩
  have meets := regular.eval stable numbered fits around exact
  exact (meets before trivial).2 v (congrArg Prod.fst evaluated)

end Sql

end SqlEngine
