import SqlEngine.Expr.Eval
import SqlEngine.Proofs.Typing.Renaming

/-!
Terms over rows whose columns stand at other places.

Where a column comes or goes, the ones behind it move. A term that names neither compiles again, to the
expression that reads the moved columns and is otherwise the same; over the moved row it has the value
that it had before.
-/

namespace SqlEngine

open Run (bind_ok map_ok mapError_ok)

/-! ### Computations that succeed together -/

/-- Where the first of two computations succeeds, so does the second one, with a related result. -/
def Run.Follows {ε α β : Type} (p : α → β → Prop) (x : Except ε α) (y : Except ε β) : Prop :=
  ∀ a, x = .ok a → ∃ b, y = .ok b ∧ p a b

open Run (Follows)

namespace Run.Follows

variable {ε α β γ δ : Type} {p : α → β → Prop} {q : γ → δ → Prop}
  {x : Except ε α} {y : Except ε β}

theorem ok {a : α} {b : β} (same : p a b) :
    Follows p (.ok a : Except ε α) (.ok b : Except ε β) := by
  rintro _ ⟨⟩
  exact ⟨b, rfl, same⟩

theorem error (e : ε) : Follows p (.error e : Except ε α) y := nofun

theorem same (x : Except ε α) : Follows Eq x x := fun a given => ⟨a, given, rfl⟩

theorem bind {f : α → Except ε γ} {g : β → Except ε δ} (first : Follows p x y)
    (next : ∀ a b, p a b → Follows q (f a) (g b)) : Follows q (x >>= f) (y >>= g) := by
  intro c given
  obtain ⟨a, one, given⟩ := bind_ok given
  obtain ⟨b, other, same⟩ := first a one
  obtain ⟨d, last, linked⟩ := next a b same c given
  exact ⟨d, by rw [other]; exact last, linked⟩

theorem mapM {f : α → Except ε γ} {g : β → Except ε δ} {as : List α} {bs : List β}
    (each : ∀ a b, p a b → Follows q (f a) (g b)) (same : List.Forall₂ p as bs) :
    Follows (List.Forall₂ q) (as.mapM f) (bs.mapM g) := by
  induction same with
  | nil => exact ok .nil
  | cons first _ ih =>
      rw [List.mapM_cons, List.mapM_cons]
      exact (each _ _ first).bind fun _ _ head => ih.bind fun _ _ tail => ok (.cons head tail)

end Run.Follows

/-! ### Moved expressions -/

/-- The second expression computes from the columns at other places what the first one computes from
its columns. Neither has a subquery. -/
inductive Expr.Moved (place : Nat → Nat → Prop) : Expr → Expr → Prop where
  | constant (v : Value) (type : SqlType) : Moved place (.constant v type) (.constant v type)
  | column {i j : Nat} (type : SqlType) (moved : place i j) :
      Moved place (.column i type) (.column j type)
  | apply (op : Op) (type : SqlType) {args others : List Expr}
      (moved : List.Forall₂ (Moved place) args others) :
      Moved place (.apply op args type) (.apply op others type)
  | call (f : HostFunction) {args others : List Expr}
      (moved : List.Forall₂ (Moved place) args others) : Moved place (.call f args) (.call f others)

variable {place : Nat → Nat → Prop} {registry : Registry} {l r x y : Expr} {es fs : List Expr}

open SqlEngine.Expr (Moved)

namespace Expr.Moved

theorem type (moved : Moved place l r) : r.type = l.type := by cases moved <;> rfl

theorem isConstant (moved : Moved place l r) : r.isConstant = l.isConstant := by
  cases moved <;> rfl

theorem candidate (moved : Moved place l r) : r.candidate = l.candidate := by
  rw [Expr.candidate, Expr.candidate, moved.type, moved.isConstant]

theorem map_eq {α : Type} {f : Expr → α} (same : ∀ {l r}, Moved place l r → f r = f l)
    (moved : List.Forall₂ (Moved place) es fs) : fs.map f = es.map f := by
  induction moved with
  | nil => rfl
  | cons first _ ih => rw [List.map_cons, List.map_cons, same first, ih]

/-! ### Conversions -/

theorem convert (moved : Moved place l r) (target : SqlType) (explicit : Bool) :
    Follows (Moved place) (l.convert registry target explicit)
      (r.convert registry target explicit) := by
  unfold Expr.convert
  rw [moved.type]
  split
  · exact .ok moved
  · split
    · exact .error _
    · cases moved with
      | constant v _ => exact (Follows.same _).bind fun _ _ same => same ▸ .ok (.constant _ _)
      | column type moved => exact .ok (.apply _ _ (.cons (.column type moved) .nil))
      | apply op type moved => exact .ok (.apply _ _ (.cons (.apply op type moved) .nil))
      | call f moved => exact .ok (.apply _ _ (.cons (.call f moved) .nil))

theorem coerce (moved : Moved place l r) (target : SqlType) :
    Follows (Moved place) (l.coerce registry target) (r.coerce registry target) := by
  rw [Expr.coerce, Expr.coerce, moved.isConstant]
  exact moved.convert target _

theorem coerceAll (moved : List.Forall₂ (Moved place) es fs) (target : SqlType) :
    Follows (List.Forall₂ (Moved place)) (es.mapM (Expr.coerce registry target))
      (fs.mapM (Expr.coerce registry target)) :=
  Follows.mapM (fun _ _ moved => moved.coerce target) moved

theorem unify (moved : List.Forall₂ (Moved place) es fs) :
    Follows (fun p q => q.1 = p.1 ∧ List.Forall₂ (Moved place) p.2 q.2) (Expr.unify registry es)
      (Expr.unify registry fs) := by
  rw [Expr.unify, Expr.unify, map_eq (fun moved => moved.candidate) moved]
  refine (Follows.same _).bind ?_
  rintro type _ rfl
  exact (coerceAll moved type).bind fun _ _ moved => .ok ⟨rfl, moved⟩

/-- What is made of expressions of their common type follows if the expressions are moved. -/
theorem unify_bind {α β : Type} {final : α → β → Prop} {f : SqlType × List Expr → Except SqlError α}
    {g : SqlType × List Expr → Except SqlError β} (moved : List.Forall₂ (Moved place) es fs)
    (next : ∀ type operands others, List.Forall₂ (Moved place) operands others →
      Follows final (f (type, operands)) (g (type, others))) :
    Follows final (Expr.unify registry es >>= f) (Expr.unify registry fs >>= g) := by
  refine (unify moved).bind ?_
  rintro ⟨_, operands⟩ ⟨target, others⟩ ⟨rfl, moved⟩
  exact next target operands others moved

theorem pair (first : Moved place l r) (second : Moved place x y) :
    List.Forall₂ (Moved place) [l, x] [r, y] := .cons first (.cons second .nil)

theorem comparison (first : Moved place l r) (second : Moved place x y) (op : Comparison) :
    Follows (Moved place) (Expr.comparison registry op l x) (Expr.comparison registry op r y) :=
  unify_bind (pair first second) fun _ _ _ moved => .ok (.apply _ _ moved)

theorem asText (moved : Moved place l r) :
    Follows (Moved place) (l.asText registry) (r.asText registry) := moved.convert _ _

theorem condition (moved : Moved place l r) :
    Follows (Moved place) (l.condition registry) (r.condition registry) := by
  rw [Expr.condition, Expr.condition, moved.type, moved.isConstant]
  split
  · exact .ok moved
  · split
    · exact moved.convert _ _
    · exact .error _

theorem unify_mapError (moved : List.Forall₂ (Moved place) es fs) (f g : SqlError → SqlError) :
    Follows (fun p q => q.1 = p.1 ∧ List.Forall₂ (Moved place) p.2 q.2)
      ((Expr.unify registry es).mapError f) ((Expr.unify registry fs).mapError g) := by
  intro p given
  obtain ⟨q, other, same⟩ := unify moved p (mapError_ok given)
  exact ⟨q, by rw [other]; rfl, same⟩

theorem arithmetic (first : Moved place l r) (second : Moved place x y) (op : Arithmetic) :
    Follows (Moved place) (Expr.arithmetic registry op l x) (Expr.arithmetic registry op r y) := by
  refine (unify_mapError (pair first second) _ _).bind ?_
  rintro ⟨type, operands⟩ ⟨_, others⟩ ⟨rfl, moved⟩
  dsimp only
  rw [first.isConstant, second.isConstant]
  split
  · exact .ok (.apply _ _ moved)
  · split
    · refine (first.convert _ _).bind fun _ _ left => (second.convert _ _).bind fun _ _ right => ?_
      exact unify_bind (pair left right) fun _ _ _ moved => .ok (.apply _ _ moved)
    · exact .error _

theorem concatSide (moved : Moved place l r) (array element : SqlType) :
    Follows (Moved place) (Expr.concatSide registry array element l)
      (Expr.concatSide registry array element r) := by
  rw [Expr.concatSide, Expr.concatSide, moved.type]
  exact moved.coerce _

theorem concatenation (first : Moved place l r) (second : Moved place x y) :
    Follows (Moved place) (Expr.concatenation registry l x) (Expr.concatenation registry r y) := by
  unfold Expr.concatenation
  dsimp only
  rw [first.type, second.type]
  split
  · exact (first.concatSide _ _).bind fun _ _ left => (second.concatSide _ _).bind fun _ _ right =>
      .ok (.apply _ _ (pair left right))
  · exact first.asText.bind fun _ _ left => second.asText.bind fun _ _ right =>
      .ok (.apply _ _ (pair left right))

/-- The negative of an operand that is a number. -/
def negated : Expr → Except SqlError Expr
  | .constant (.int i) _ => do return .constant (.int (← Arithmetic.int64 (-i))) .integer
  | .constant (.float x) _ => return .constant (.float x.neg) .float
  | operand => return .apply .negate [operand] operand.type

theorem negated_follows (moved : Moved place l r) :
    Follows (Moved place) (negated l) (negated r) := by
  cases moved with
  | constant v type =>
      cases v with
      | int i => exact (Follows.same _).bind fun _ _ same => same ▸ .ok (.constant _ _)
      | float x => exact .ok (.constant _ _)
      | _ => exact .ok (.apply _ _ (.cons (.constant _ _) .nil))
  | column type moved => exact .ok (.apply _ _ (.cons (.column type moved) .nil))
  | apply op type moved => exact .ok (.apply _ _ (.cons (.apply op type moved) .nil))
  | call f moved => exact .ok (.apply _ _ (.cons (.call f moved) .nil))

theorem negative (moved : Moved place l r) :
    Follows (Moved place) (l.negative registry) (r.negative registry) := by
  unfold Expr.negative
  dsimp only
  rw [moved.type, moved.isConstant]
  split
  · exact (Follows.ok moved).bind fun _ _ => negated_follows
  · split
    · exact (moved.convert _ _).bind fun _ _ => negated_follows
    · exact (Follows.error (p := Moved place) _).bind fun _ _ => negated_follows

theorem likeOperand (moved : Moved place l r) :
    Follows (Moved place) (l.likeOperand registry) (r.likeOperand registry) := by
  rw [Expr.likeOperand, Expr.likeOperand, moved.type, moved.isConstant]
  split
  · exact moved.asText
  · exact .error _

/-! ### Calls -/

theorem textArg (moved : Moved place l r) (f : Builtin) :
    Follows (Moved place) (f.textArg registry l) (f.textArg registry r) := by
  rw [Builtin.textArg, Builtin.textArg, moved.type, moved.isConstant]
  split
  · exact .ok moved
  · split
    · exact moved.asText
    · exact .error _

theorem absType (moved : Moved place l r) :
    Follows Eq (Builtin.absType l) (Builtin.absType r) := by
  rw [Builtin.absType, Builtin.absType, moved.type, moved.isConstant]
  split
  · exact .ok rfl
  · split
    · exact .ok rfl
    · exact .error _

/-- Moved arguments, and a result of the same type. -/
def Prepared (place : Nat → Nat → Prop) (one other : List Expr × SqlType) : Prop :=
  other.2 = one.2 ∧ List.Forall₂ (Moved place) one.1 other.1

theorem prepared_textArg (moved : Moved place l r) (f : Builtin) (t : SqlType) :
    Follows (Prepared place) (do return ([← f.textArg registry l], t))
      (do return ([← f.textArg registry r], t)) :=
  (moved.textArg f).bind fun _ _ text => .ok ⟨rfl, .cons text .nil⟩

theorem setValue_prepare (first : Moved place l r) (second : Moved place x y)
    (more : List.Forall₂ (Moved place) es fs) :
    Follows (Prepared place) (Builtin.setValue.prepare registry (l :: x :: es))
      (Builtin.setValue.prepare registry (r :: y :: fs)) := by
  unfold Builtin.prepare
  dsimp only
  rw [more.length_eq]
  split
  · exact .error _
  · exact (first.textArg _).bind fun _ _ name => (second.coerce _).bind fun _ _ value =>
      (coerceAll more _).bind fun _ _ called => .ok ⟨rfl, .cons name (.cons value called)⟩

theorem prepare (moved : List.Forall₂ (Moved place) es fs) (f : Builtin) :
    Follows (Prepared place) (f.prepare registry es) (f.prepare registry fs) := by
  have texts : Follows (List.Forall₂ (Moved place)) (es.mapM (Expr.asText registry))
      (fs.mapM (Expr.asText registry)) := Follows.mapM (fun _ _ moved => asText moved) moved
  have unified : Follows (Prepared place) (do let p ← Expr.unify registry es; return (p.2, p.1))
      (do let p ← Expr.unify registry fs; return (p.2, p.1)) :=
    unify_bind moved fun _ _ _ moved => .ok ⟨rfl, moved⟩
  -- by the number of the arguments; with a number that it does not take, the function fails
  match moved with
  | .nil => cases f <;> first | exact .error _ | exact .ok ⟨rfl, .nil⟩
  | .cons first .nil =>
      cases f <;> try exact .error _
      case lower | upper =>
        unfold Builtin.prepare
        dsimp only
        rw [first.type]
        exact prepared_textArg first _ _
      case length | nextValue | currentValue | currentSetting => exact prepared_textArg first _ _
      case concat => exact texts.bind fun _ _ moved => .ok ⟨rfl, moved⟩
      case coalesce => exact unified
      case abs =>
        refine first.absType.bind ?_
        rintro t _ rfl
        exact (first.coerce t).bind fun _ _ number => .ok ⟨rfl, .cons number .nil⟩
      case typeOf => exact .ok ⟨rfl, .cons first .nil⟩
  | .cons first (.cons second .nil) =>
      cases f <;> try exact .error _
      case concat => exact texts.bind fun _ _ moved => .ok ⟨rfl, moved⟩
      case coalesce | nullIf => exact unified
      case setValue => exact setValue_prepare first second .nil
  | .cons first (.cons second (.cons third more)) =>
      cases f <;> try exact .error _
      case concat => exact texts.bind fun _ _ moved => .ok ⟨rfl, moved⟩
      case coalesce => exact unified
      case setValue => exact setValue_prepare first second (.cons third more)

theorem call_follows (moved : List.Forall₂ (Moved place) es fs) (f : Builtin) :
    Follows (Moved place) (f.call registry es) (f.call registry fs) := by
  refine (prepare moved f).bind ?_
  rintro ⟨operands, _⟩ ⟨others, target⟩ ⟨rfl, moved⟩
  exact .ok (.apply _ _ moved)

theorem takes (moved : Moved place l r) (t : SqlType) :
    HostFunction.takes t r = HostFunction.takes t l := by
  rw [HostFunction.takes, HostFunction.takes, moved.type, moved.isConstant]

theorem zip_types (types : List SqlType) (moved : List.Forall₂ (Moved place) es fs) :
    List.Forall₂ (fun p q => q.1 = p.1 ∧ Moved place p.2 q.2) (types.zip es) (types.zip fs) := by
  induction moved generalizing types with
  | nil => simp
  | cons first _ ih =>
      cases types with
      | nil => exact .nil
      | cons t types => exact .cons ⟨rfl, first⟩ (ih types)

theorem matchesArgs (moved : List.Forall₂ (Moved place) es fs) (f : HostFunction) :
    f.matchesArgs fs = f.matchesArgs es := by
  have all : ∀ {xs ys : List (SqlType × Expr)},
      List.Forall₂ (fun p q => q.1 = p.1 ∧ Moved place p.2 q.2) xs ys →
        (ys.all fun slot => HostFunction.takes slot.1 slot.2) =
          xs.all fun slot => HostFunction.takes slot.1 slot.2 := by
    intro xs ys zipped
    induction zipped with
    | nil => rfl
    | cons first _ ih =>
        rw [List.all_cons, List.all_cons, ih]
        simp only [first.1, first.2.takes]
  rw [HostFunction.matchesArgs, HostFunction.matchesArgs, moved.length_eq]
  exact congrArg _ (all (zip_types _ moved))

theorem accepted (moved : List.Forall₂ (Moved place) es fs) (f : HostFunction) :
    List.Forall₂ (fun p q => q.1 = p.1 ∧ Moved place p.2 q.2) (f.accepted es) (f.accepted fs) := by
  have taken : ∀ {xs ys : List (SqlType × Expr)},
      List.Forall₂ (fun p q => q.1 = p.1 ∧ Moved place p.2 q.2) xs ys →
        List.Forall₂ (fun p q => q.1 = p.1 ∧ Moved place p.2 q.2)
          (xs.takeWhile fun slot => HostFunction.takes slot.1 slot.2)
          (ys.takeWhile fun slot => HostFunction.takes slot.1 slot.2) := by
    intro xs ys zipped
    induction zipped with
    | nil => exact .nil
    | cons first _ ih =>
        rw [List.takeWhile_cons, List.takeWhile_cons]
        simp only [first.1, first.2.takes]
        split
        · exact .cons first ih
        · exact .nil
  rw [HostFunction.accepted, HostFunction.accepted, moved.length_eq]
  exact taken (zip_types _ moved)

theorem resolve (moved : List.Forall₂ (Moved place) es fs) (label : String) :
    ∀ candidates : List HostFunction,
      Follows (Moved place) (HostFunction.resolve registry label es candidates)
        (HostFunction.resolve registry label fs candidates)
  | [] => .error _
  | f :: rest => by
      rw [HostFunction.resolve, HostFunction.resolve, moved.length_eq, matchesArgs moved]
      split
      · refine Follows.bind (p := List.Forall₂ (Moved place))
          (Follows.mapM (fun p q same => ?_) (accepted moved f)) fun _ _ converted => ?_
        · dsimp only
          rw [same.1]
          exact same.2.coerce p.1
        · split
          · exact .ok (.call f converted)
          · exact resolve moved label rest
      · exact resolve moved label rest

end Expr.Moved

/-! ### Values of moved expressions -/

section Values

variable {env : Env} {outer : List Row} {row moved : Row}

mutual

/-- A moved expression has the same value over a row that has the same values at the other places. -/
theorem Expr.eval_moved (shown : ∀ i j, place i j → ∃ v, row[i]? = some v ∧ moved[j]? = some v) :
    ∀ {l r : Expr}, Moved place l r → r.eval env outer moved = l.eval env outer row
  | .constant _ _, _, same => by
      cases same
      rw [Expr.eval, Expr.eval]
  | .column i _, _, same => by
      cases same with
      | column type placed =>
          obtain ⟨v, before, now⟩ := shown _ _ placed
          rw [Expr.eval, Expr.eval, before, now]
  | .apply op args type, _, same => by
      cases same with
      | apply _ _ operands =>
          rw [Expr.eval, Expr.eval, Expr.actions_moved shown operands,
            Moved.map_eq (fun same => same.type) operands]
  | .call f args, _, same => by
      cases same with
      | call _ operands => rw [Expr.eval, Expr.eval, Expr.actions_moved shown operands]
  | .outer .., _, same | .aggregate .., _, same | .scalar .., _, same | .hasRows .., _, same
  | .among .., _, same => by cases same

theorem Expr.actions_moved (shown : ∀ i j, place i j → ∃ v, row[i]? = some v ∧ moved[j]? = some v) :
    ∀ {es fs : List Expr}, List.Forall₂ (Moved place) es fs →
      Expr.actions env outer moved fs = Expr.actions env outer row es
  | [], _, same => by
      cases same
      rw [Expr.actions, Expr.actions]
  | e :: rest, _, same => by
      cases same with
      | cons first others =>
          rw [Expr.actions, Expr.actions, Expr.eval_moved shown first, Expr.actions_moved shown others]

end

end Values

/-! ### Building moved expressions -/

namespace Build

/-- Where the first of two expressions can be built, so can the second one, with the same calls and a
related result. -/
def Follows {α β : Type} (p : α → β → Prop) (a : Build α) (b : Build β) : Prop :=
  ∀ calls, Run.Follows (fun x y => p x.1 y.1 ∧ y.2 = x.2) (a.run calls) (b.run calls)

namespace Follows

variable {α β γ δ : Type} {p : α → β → Prop} {q : γ → δ → Prop} {a : Build α} {b : Build β}

theorem pure {x : α} {y : β} (same : p x y) : Follows p (pure x : Build α) (pure y) :=
  fun _ => .ok ⟨same, rfl⟩

theorem throw (e : SqlError) : Follows p (throw e : Build α) b := fun _ => .error e

theorem lift {x : Except SqlError α} {y : Except SqlError β} (first : Run.Follows p x y) :
    Follows p (liftM x : Build α) (liftM y) := fun _ =>
  Run.Follows.bind first fun _ _ same => .ok ⟨same, rfl⟩

theorem bind {f : α → Build γ} {g : β → Build δ} (first : Follows p a b)
    (next : ∀ x y, p x y → Follows q (f x) (g y)) : Follows q (a >>= f) (b >>= g) := fun calls =>
  (first calls).bind fun x y same => by
    obtain ⟨x, _⟩ := x
    obtain ⟨y, later⟩ := y
    obtain ⟨same, rfl⟩ := same
    exact next x y same later

/-- Where one side starts with a computation that the other one shares. -/
theorem lift_bind {x : Except SqlError α} {f : α → Build γ} {g : α → Build δ}
    (next : ∀ x, Follows q (f x) (g x)) : Follows q (liftM x >>= f) (liftM x >>= g) :=
  (lift (Run.Follows.same x)).bind fun _ _ same => same ▸ next _

/-- Nothing can be built on the left. -/
theorem of_needs (never : Needs False a) : Follows p a b :=
  fun calls result built => (never calls result built).elim

end Follows

variable {n m : Names}

theorem unary_follows (same : m.registry = n.registry) (moved : Moved place l r)
    (op : Sql.UnaryOperator) : Run.Follows (Moved place) (unary n op l) (unary m op r) := by
  unfold unary
  rw [same]
  split
  · exact .ok moved
  · exact moved.negative
  · exact moved.condition.bind fun _ _ moved => .ok (.apply _ _ (.cons moved .nil))
  · exact .error _

theorem logic_follows (same : m.registry = n.registry) (first : Moved place l r)
    (second : Moved place x y) (op : Op) :
    Run.Follows (Moved place) (logic n op l x) (logic m op r y) := by
  unfold logic
  rw [same]
  exact first.condition.bind fun _ _ left => second.condition.bind fun _ _ right =>
    .ok (.apply _ _ (Moved.pair left right))

theorem binary_follows (same : m.registry = n.registry) (first : Moved place l r)
    (second : Moved place x y) (op : Sql.BinaryOperator) :
    Run.Follows (Moved place) (binary n op l x) (binary m op r y) := by
  unfold binary
  rw [same]
  split
  · exact first.comparison second _
  · exact first.arithmetic second _
  · split
    · exact logic_follows same first second _
    · exact logic_follows same first second _
    · exact first.concatenation second
    · exact .error _

theorem truthTest_follows (same : m.registry = n.registry) (moved : Moved place l r)
    (test : Sql.TruthTest) (negated : Bool) :
    Run.Follows (Moved place) (truthTest n test negated l) (truthTest m test negated r) := by
  unfold truthTest
  rw [same]
  cases test with
  | null => exact .ok (.apply _ _ (.cons moved .nil))
  | isTrue | isFalse =>
      exact moved.condition.bind fun _ _ moved => .ok (.apply _ _ (.cons moved .nil))

theorem test_follows (same : m.registry = n.registry) (moved : Moved place l r)
    {operand other : Option Expr} (operands : Option.Rel (Moved place) operand other) :
    Run.Follows (Moved place) (test n operand l) (test m other r) := by
  unfold test
  rw [same]
  cases operands with
  | none => exact moved.condition
  | some first => exact first.comparison moved _

theorem document_follows (same : m.registry = n.registry) (moved : Moved place l r)
    (operator : String) :
    Run.Follows (Moved place) (document n operator l) (document m operator r) := by
  unfold document
  rw [same, moved.type, moved.isConstant]
  split
  · exact .ok moved
  · split
    · exact moved.convert _ _
    · exact .error _

theorem documentKey_follows (same : m.registry = n.registry) (moved : Moved place l r) :
    Run.Follows (Moved place) (documentKey n l) (documentKey m r) := by
  unfold documentKey
  rw [same, moved.type]
  split
  · exact .ok moved
  · exact moved.asText

theorem jsonAccess_moved (first : Moved place l r) (second : Moved place x y) (asText : Bool) :
    Moved place (jsonAccess asText l x) (jsonAccess asText r y) := by
  rw [jsonAccess, jsonAccess, first.type]
  exact .apply _ _ (Moved.pair first second)

theorem subscript_follows (same : m.registry = n.registry) (moved : Moved place l r)
    {index other : Build Expr} (follows : Follows (Moved place) index other) :
    Follows (Moved place) (subscript n l index) (subscript m r other) := by
  unfold subscript
  rw [same, moved.type]
  split
  · exact .throw _
  · refine follows.bind fun _ _ found => ?_
    exact (Follows.lift (found.coerce _)).bind fun _ _ position =>
      .pure (.apply _ _ (Moved.pair moved position))

theorem interleave_moved {tests others : List Expr} (moved : List.Forall₂ (Moved place) tests others) :
    ∀ {es fs : List Expr}, List.Forall₂ (Moved place) es fs →
      List.Forall₂ (Moved place) (interleave tests es) (interleave others fs) := by
  induction moved with
  | nil => exact fun results => results
  | cons first _ ih =>
      intro es fs results
      cases results with
      | nil => exact .nil
      | cons result later => exact .cons first (.cons result (ih later))

theorem choice_follows (same : m.registry = n.registry) {tests others : List Expr}
    (moved : List.Forall₂ (Moved place) tests others) (results : List.Forall₂ (Moved place) es fs) :
    Run.Follows (Moved place) (choice n tests es) (choice m others fs) := by
  unfold choice
  rw [same]
  exact Moved.unify_bind results fun _ _ _ results => .ok (.apply _ _ (interleave_moved moved results))

theorem inList_follows (same : m.registry = n.registry) (moved : List.Forall₂ (Moved place) es fs)
    (negated : Bool) : Run.Follows (Moved place) (inList n negated es) (inList m negated fs) := by
  unfold inList
  rw [same]
  exact Moved.unify_bind moved fun _ _ _ moved => .ok (.apply _ _ moved)

theorem between_follows (same : m.registry = n.registry) {low high : Expr} (first : Moved place l r)
    (lower : Moved place x y) (upper : Moved place low high) (negated : Bool) :
    Run.Follows (Moved place) (between n negated l x low) (between m negated r y high) := by
  unfold between
  rw [same]
  exact Moved.unify_bind (.cons first (Moved.pair lower upper)) fun _ _ _ moved =>
    .ok (.apply _ _ moved)

theorem like_follows (same : m.registry = n.registry) (moved : Moved place l r)
    {pattern other : Build Expr} (follows : Follows (Moved place) pattern other)
    (ignoreCase negated : Bool) :
    Follows (Moved place) (like n ignoreCase negated l pattern) (like m ignoreCase negated r other) := by
  unfold like
  dsimp only
  rw [same, moved.type]
  refine (Follows.lift moved.likeOperand).bind fun _ _ text => follows.bind fun _ _ found => ?_
  exact (Follows.lift found.likeOperand).bind fun _ _ pattern =>
    .pure (.apply _ _ (Moved.pair text pattern))

theorem array_follows (same : m.registry = n.registry) (moved : List.Forall₂ (Moved place) es fs) :
    Run.Follows (Moved place) (array n es) (array m fs) := by
  unfold array
  rw [same]
  exact Moved.unify_bind moved fun _ _ _ moved => .ok (.apply _ _ moved)

theorem function_follows (same : m.registry = n.registry)
    (functions : ∀ name, m.catalog.functionsNamed name = n.catalog.functionsNamed name)
    (moved : List.Forall₂ (Moved place) es fs) (name : QName) :
    Run.Follows (Moved place) (function n name es) (function m name fs) := by
  unfold function
  dsimp only
  rw [same, functions]
  split
  · split
    · exact Moved.call_follows moved _
    · exact .error _
  · exact Moved.resolve moved _ _

end Build

/-! ### Terms whose columns moved -/

/-- Two places where terms are compiled, none of them in a grouped query. Names that are no columns
stand for the same in both, and the columns of which the condition holds are at other places. -/
structure Names.Moves (place : Nat → Nat → Prop) (p : Option String → String → Bool) (n : Names)
    (s : Scope) (m : Names) (r : Scope) : Prop where
  registry : m.registry = n.registry
  functions : ∀ name, m.catalog.functionsNamed name = n.catalog.functionsNamed name
  ungrouped : s.keys = none ∧ r.keys = none
  columns : ∀ table name, p table name = true →
    Follows (Moved place) (n.resolve s table name) (m.resolve r table name)
  missing : ∀ name e, p none name = true → n.resolve s none name = .error (.query e) →
    ∃ f, m.resolve r none name = .error (.query f)

namespace Sql

variable {p : Option String → String → Bool} {n m : Names} {s r : Scope}

theorem name_follows (moves : Names.Moves place p n s m r) (id : Ident)
    (named : p none id.name = true) :
    Follows (Moved place) (Build.name n s id) (Build.name m r id) := by
  unfold Build.name
  rcases found : n.resolve s none id.name with e | e
  · generalize (if id.quote.isNone then Build.bareCalls.lookup id.name else none) = word
    cases e with
    | query e =>
        obtain ⟨f, missing⟩ := moves.missing _ e named found
        rw [missing, moves.registry]
        cases word with
        | none => exact .error _
        | some f => exact Moved.call_follows .nil f
    | _ => exact .error _
  · obtain ⟨e', other, moved⟩ := moves.columns none id.name named e found
    rw [other]
    exact .ok moved

mutual

/-- A term that compiles does so again where its columns moved. -/
theorem Term.compile_follows (moves : Names.Moves place p n s m r) :
    ∀ t : Term, t.names p = true → Build.Follows (Moved place) (t.compile n s) (t.compile m r)
  | .name id, named => by
      rw [Term.compile, Term.compile]
      exact .lift (name_follows moves id named)
  | .path parts, named => by
      rw [Term.compile, Term.compile]
      unfold Term.names Term.pathNames at named
      refine .lift ?_
      unfold Build.path
      split
      · exact moves.columns _ _ named
      · exact moves.columns _ _ named
      · exact .error _
  | .constant c, _ => by
      rw [Term.compile, Term.compile]
      refine .lift ?_
      unfold Build.literal
      repeat' split
      all_goals first | exact .error _ | exact .ok (.constant _ _)
  | .nested t, named => by
      rw [Term.compile, Term.compile]
      exact Term.compile_follows moves t named
  | .typed type text, _ => by
      have types : m.catalog.typeOfText = n.catalog.typeOfText :=
        congrArg Registry.typeByName moves.registry
      rw [Term.compile, Term.compile, Build.typed, Build.typed, types, moves.registry]
      exact .lift ((Follows.same _).bind fun _ _ same => same ▸ (Moved.constant _ _).convert _ true)
  | .cast t type _, named => by
      have types : m.catalog.typeOfText = n.catalog.typeOfText :=
        congrArg Registry.typeByName moves.registry
      rw [Term.compile, Term.compile, types, moves.registry]
      refine .lift_bind fun target => ?_
      exact (Term.compile_follows moves t named).bind fun _ _ moved => .lift (moved.convert target true)
  | .unary op t, named => by
      rw [Term.compile, Term.compile]
      exact (Term.compile_follows moves t named).bind fun _ _ moved =>
        .lift (Build.unary_follows moves.registry moved op)
  | .binary left op right, named => by
      obtain ⟨first, second⟩ := Bool.and_eq_true_iff.mp named
      rw [Term.compile, Term.compile]
      exact (Term.compile_follows moves left first).bind fun _ _ l =>
        (Term.compile_follows moves right second).bind fun _ _ r =>
          .lift (Build.binary_follows moves.registry l r op)
  | .is t test negated, named => by
      rw [Term.compile, Term.compile]
      exact (Term.compile_follows moves t named).bind fun _ _ moved =>
        .lift (Build.truthTest_follows moves.registry moved test negated)
  | .inList t items negated, named => by
      obtain ⟨first, others⟩ := Bool.and_eq_true_iff.mp named
      rw [Term.compile, Term.compile]
      exact (Term.compile_follows moves t first).bind fun _ _ e =>
        (Term.compileAll_follows moves items others).bind fun _ _ es =>
          .lift (Build.inList_follows moves.registry (.cons e es) negated)
  | .between t low high negated, named => by
      obtain ⟨bounds, last⟩ := Bool.and_eq_true_iff.mp named
      obtain ⟨first, second⟩ := Bool.and_eq_true_iff.mp bounds
      rw [Term.compile, Term.compile]
      exact (Term.compile_follows moves t first).bind fun _ _ e =>
        (Term.compile_follows moves low second).bind fun _ _ l =>
          (Term.compile_follows moves high last).bind fun _ _ h =>
            .lift (Build.between_follows moves.registry e l h negated)
  | .like t pattern escape negated insensitive, named => by
      obtain ⟨first, second⟩ := Bool.and_eq_true_iff.mp named
      rw [Term.compile, Term.compile]
      dsimp only
      split
      · exact .throw _
      · exact (Term.compile_follows moves t first).bind fun _ _ e =>
          Build.like_follows moves.registry e (Term.compile_follows moves pattern second) _ _
  | .case operand branches otherwise, named => by
      obtain ⟨before, last⟩ := Bool.and_eq_true_iff.mp named
      obtain ⟨before, third⟩ := Bool.and_eq_true_iff.mp before
      obtain ⟨first, second⟩ := Bool.and_eq_true_iff.mp before
      rw [Term.compile, Term.compile]
      refine (Term.compileOption_follows moves operand first).bind fun _ _ o => ?_
      refine (Term.compileTests_follows moves o branches second).bind fun _ _ tests => ?_
      refine (Term.compileResults_follows moves branches third).bind fun _ _ results => ?_
      refine (Term.compileOption_follows moves otherwise last).bind fun _ _ e => ?_
      refine .lift (Build.choice_follows moves.registry tests (List.rel_append results ?_))
      cases e with
      | none => exact .nil
      | some moved => exact .cons moved .nil
  | .call head args _ _, named => by
      rw [Term.compile, Term.compile]
      dsimp only
      split
      · exact .throw _
      · refine .lift_bind fun name => ?_
        split
        · exact .of_needs (Build.aggregateCall_needs moves.ungrouped.1 _ _ _ _)
        · split
          · exact .throw _
          · exact (Argument.compileAll_follows moves args named).bind fun _ _ moved =>
              .lift (Build.function_follows moves.registry moves.functions moved name)
  | .arrayAgg distinct t orderBy limit, _ => by
      rw [Term.compile, Term.compile]
      dsimp only
      split
      · exact .throw _
      · exact .of_needs (Build.aggregate_needs moves.ungrouped.1 _ _ _ _)
  | .array items _, named => by
      rw [Term.compile, Term.compile]
      exact (Term.compileAll_follows moves items named).bind fun _ _ moved =>
        .lift (Build.array_follows moves.registry moved)
  | .subscript t indexes, named => by
      obtain ⟨first, others⟩ := Bool.and_eq_true_iff.mp named
      rw [Term.compile, Term.compile]
      exact (Term.compile_follows moves t first).bind fun _ _ e =>
        Term.compileSubscripts_follows moves indexes others e
  | .json left operator right, named => by
      obtain ⟨first, second⟩ := Bool.and_eq_true_iff.mp named
      rw [Term.compile, Term.compile]
      refine .lift_bind fun asText => ?_
      refine (Term.compile_follows moves left first).bind fun _ _ l => ?_
      refine Build.Follows.bind (.lift (Build.document_follows moves.registry l operator))
        fun _ _ doc => ?_
      refine (Term.compile_follows moves right second).bind fun _ _ r => ?_
      exact Build.Follows.bind (.lift (Build.documentKey_follows moves.registry r)) fun _ _ key =>
        .pure (Build.jsonAccess_moved doc key asText)
  | .unsupported phrase, _ => by
      rw [Term.compile, Term.compile]
      exact .throw _
  | .inQuery .., named | .exists .., named | .subquery _, named => by cases named

theorem Term.compileAll_follows (moves : Names.Moves place p n s m r) :
    ∀ items : List Term, Term.allName p items = true →
      Build.Follows (List.Forall₂ (Moved place)) (Term.compileAll n s items) (Term.compileAll m r items)
  | [], _ => .pure .nil
  | t :: rest, named => by
      obtain ⟨first, others⟩ := Bool.and_eq_true_iff.mp named
      rw [Term.compileAll, Term.compileAll]
      exact (Term.compile_follows moves t first).bind fun _ _ e =>
        (Term.compileAll_follows moves rest others).bind fun _ _ es => .pure (.cons e es)

theorem Term.compileOption_follows (moves : Names.Moves place p n s m r) :
    ∀ t : Option Term, Term.optionNames p t = true →
      Build.Follows (Option.Rel (Moved place)) (Term.compileOption n s t) (Term.compileOption m r t)
  | none, _ => .pure .none
  | some t, named => by
      rw [Term.compileOption, Term.compileOption]
      exact (Term.compile_follows moves t named).bind fun _ _ e => .pure (.some e)

theorem Term.compileTests_follows (moves : Names.Moves place p n s m r)
    {operand other : Option Expr} (operands : Option.Rel (Moved place) operand other) :
    ∀ branches : List (Term × Term), Term.testsName p branches = true →
      Build.Follows (List.Forall₂ (Moved place)) (Term.compileTests n s operand branches)
        (Term.compileTests m r other branches)
  | [], _ => .pure .nil
  | (condition, _) :: rest, named => by
      obtain ⟨first, others⟩ := Bool.and_eq_true_iff.mp named
      rw [Term.compileTests, Term.compileTests]
      refine (Term.compile_follows moves condition first).bind fun _ _ e => ?_
      refine Build.Follows.bind (.lift (Build.test_follows moves.registry e operands)) fun _ _ test => ?_
      exact (Term.compileTests_follows moves operands rest others).bind fun _ _ tests =>
        .pure (.cons test tests)

theorem Term.compileResults_follows (moves : Names.Moves place p n s m r) :
    ∀ branches : List (Term × Term), Term.resultsName p branches = true →
      Build.Follows (List.Forall₂ (Moved place)) (Term.compileResults n s branches)
        (Term.compileResults m r branches)
  | [], _ => .pure .nil
  | (_, result) :: rest, named => by
      obtain ⟨first, others⟩ := Bool.and_eq_true_iff.mp named
      rw [Term.compileResults, Term.compileResults]
      exact (Term.compile_follows moves result first).bind fun _ _ e =>
        (Term.compileResults_follows moves rest others).bind fun _ _ es => .pure (.cons e es)

theorem Term.compileSubscripts_follows (moves : Names.Moves place p n s m r) :
    ∀ indexes : List Term, Term.allName p indexes = true → ∀ {array other : Expr},
      Moved place array other → Build.Follows (Moved place)
        (Term.compileSubscripts n s array indexes) (Term.compileSubscripts m r other indexes)
  | [], _, _, _, moved => .pure moved
  | index :: rest, named, _, _, moved => by
      obtain ⟨first, others⟩ := Bool.and_eq_true_iff.mp named
      rw [Term.compileSubscripts, Term.compileSubscripts]
      exact (Build.subscript_follows moves.registry moved
        (Term.compile_follows moves index first)).bind fun _ _ item =>
          Term.compileSubscripts_follows moves rest others item

theorem Argument.compileAll_follows (moves : Names.Moves place p n s m r) {label : String} :
    ∀ args : List Argument, Argument.allName p args = true →
      Build.Follows (List.Forall₂ (Moved place)) (Argument.compileAll n s label args)
        (Argument.compileAll m r label args)
  | [], _ => .pure .nil
  | .term none t :: rest, named => by
      obtain ⟨first, others⟩ := Bool.and_eq_true_iff.mp named
      rw [Argument.compileAll, Argument.compileAll]
      exact (Term.compile_follows moves t first).bind fun _ _ e =>
        (Argument.compileAll_follows moves rest others).bind fun _ _ es => .pure (.cons e es)
  | .term (some _) _ :: _, _ | .star _ :: _, _ | .tableStar _ _ :: _, _ => .throw _

end

/-- A condition is one again where its columns moved. -/
theorem Term.condition_follows (moves : Names.Moves place p n s m r) (t : Term)
    (named : t.names p = true) :
    Follows (Moved place) (t.condition n s) (t.condition m r) := by
  have built : Build.Follows (Moved place) ((t.pending n).condition n s)
      ((t.pending m).condition m r) := by
    simp only [pending, Pending.condition, Pending.build, Scope.finish, moves.ungrouped.1,
      moves.ungrouped.2, moves.registry]
    refine Build.Follows.bind (p := Moved place) ?_ fun _ _ moved => .lift moved.condition
    exact (Term.compile_follows moves t named).bind fun _ _ moved => .pure moved
  exact (built []).bind fun _ _ same => .ok same.1

end Sql

/-! ### A column that goes -/

/-- The places of a column of the given width before and after the column at a position goes. -/
structure Closes (position width i j : Nat) : Prop where
  inside : i < width
  other : i ≠ position
  place : j = if i < position then i else i - 1

/-- The columns that are left hold the same values at their new places. -/
theorem Closes.shown {position i j : Nat} {row : Row} (closes : Closes position row.length i j) :
    ∃ v, row[i]? = some v ∧ (row.eraseIdx position)[j]? = some v := by
  obtain ⟨inside, other, rfl⟩ := closes
  refine ⟨row[i], List.getElem?_eq_getElem inside, ?_⟩
  rw [List.getElem?_eraseIdx]
  by_cases before : i < position
  · rw [if_pos before, if_pos before, List.getElem?_eq_getElem inside]
  · have behind : i - 1 + 1 = i := by omega
    rw [if_neg before, if_neg (by omega), behind, List.getElem?_eq_getElem inside]

/-- Where one item of a list goes that is not chosen, the others are chosen as before. -/
theorem filter_zipIdx_eraseIdx {α : Type} (chosen : α → Bool) :
    ∀ (items : List α) (position start : Nat),
      (∀ a, items[position]? = some a → chosen a = false) →
        ((items.eraseIdx position).zipIdx start).filter (fun e => chosen e.1) =
          ((items.zipIdx start).filter fun e => chosen e.1).map fun e =>
            (e.1, if e.2 < start + position then e.2 else e.2 - 1)
  | [], _, _, _ => by simp
  | a :: rest, 0, start, out => by
      have out : chosen a = false := out a rfl
      rw [List.eraseIdx_zero, List.tail_cons, List.zipIdx_cons, List.filter_cons_of_neg (by simp [out]),
        List.zipIdx_succ, List.filter_map, List.map_map]
      refine (List.map_congr_left fun e member => ?_).trans (List.map_id _) |>.symm
      have after := (List.mem_zipIdx (List.mem_of_mem_filter member)).1
      have gone : ¬e.2 + 1 < start := by omega
      simp [gone]
  | a :: rest, position + 1, start, out => by
      have shift : start + (position + 1) = start + 1 + position := by omega
      have ih := filter_zipIdx_eraseIdx chosen rest position (start + 1) fun b there => out b there
      rw [List.eraseIdx_cons_succ, List.zipIdx_cons, List.zipIdx_cons, shift]
      have first : start < start + 1 + position := by omega
      cases taken : chosen a <;> simp [taken, ih, first]

namespace Scope

variable {s : Scope} {position : Nat} {column : Column} {table : Option String} {name : String}

/-- The scope in which a column is missing. -/
def withoutColumn (s : Scope) (position : Nat) : Scope :=
  { s with columns := s.columns.eraseIdx position }

theorem answers_withoutColumn (s : Scope) {position : Nat}
    (out : ∀ c, s.columns[position]? = some c → c.answersTo table name = false) :
    (s.withoutColumn position).answers table name = (s.answers table name).map fun e =>
      (e.1, if e.2 < position then e.2 else e.2 - 1) := by
  have same := filter_zipIdx_eraseIdx (fun c : Column => c.answersTo table name) s.columns position 0 out
  rwa [Nat.zero_add] at same

/-- Another column is found at its new place, or as before there is none, or too many. -/
theorem find?_withoutColumn (there : s.columns[position]? = some column) (other : name ≠ column.name) :
    (s.withoutColumn position).find? table name = (s.find? table name).map fun found =>
      found.map fun e => (if e.1 < position then e.1 else e.1 - 1, e.2) := by
  have out : ∀ c, s.columns[position]? = some c → c.answersTo table name = false := by
    intro c same
    obtain rfl := Option.some.inj (there.symm.trans same)
    simp [Column.answersTo, Ne.symm other]
  have answers := answers_withoutColumn s out
  simp only [Scope.answers] at answers
  rw [find?, find?, answers]
  rcases (s.columns.zipIdx.filter _) with _ | ⟨e, _ | ⟨f, rest⟩⟩ <;> rfl

/-- The name of the column that is missing refers to nothing, if it referred to a column. -/
theorem find?_withoutColumn_gone (there : s.columns[position]? = some column) {c : Column} {i : Nat}
    (alike : ∀ c ∈ s.columns, c.table = column.table ∧ c.hidden = column.hidden)
    (found : s.find? table column.name = .ok (some (i, c))) :
    (s.withoutColumn position).find? table column.name = .ok none := by
  have only := answers_of_alike there alike found
  refine find?_of_answers_nil (List.eq_nil_iff_forall_not_mem.mpr fun e member => ?_)
  -- what is found after the column went was found before, at another place
  obtain ⟨held, answered⟩ := mem_answers.mp member
  obtain ⟨k, elsewhere, held⟩ : ∃ k ≠ position, s.columns[k]? = some e.1 := by
    rw [withoutColumn, List.getElem?_eraseIdx] at held
    split at held
    · exact ⟨e.2, by omega, held⟩
    · exact ⟨e.2 + 1, by omega, held⟩
  have again : (e.1, k) ∈ s.answers table column.name := mem_answers.mpr ⟨held, answered⟩
  rw [only, List.mem_singleton] at again
  exact elsewhere (Prod.mk.inj again).2

end Scope

namespace Names

variable {n m : Names} {s : Scope} {position : Nat} {column : Column}

theorem Alike.moves_withoutColumn (alike : n.Alike m) (ungrouped : s.keys = none)
    (there : s.columns[position]? = some column) :
    Moves (Closes position s.columns.length) (fun _ name => name != column.name) n s m
      (s.withoutColumn position) where
  registry := alike.registry
  functions := alike.functions
  ungrouped := ⟨ungrouped, ungrouped⟩
  columns table name other := by
    rw [resolve_top alike.tops.1, resolve_top alike.tops.2,
      Scope.find?_withoutColumn there (bne_iff_ne.mp other)]
    rcases found : s.find? table name with e | _ | ⟨i, c⟩
    · exact .error _
    · exact .error _
    · obtain ⟨held, answers⟩ := Scope.mem_answers.mp
        (Scope.answers_of_find? found ▸ List.mem_singleton_self (c, i))
      refine .ok (.column _ ⟨(List.getElem?_eq_some_iff.mp held).1, ?_, rfl⟩)
      rintro rfl
      obtain rfl := Option.some.inj (there.symm.trans held)
      exact bne_iff_ne.mp other (beq_iff_eq.mp (Bool.and_eq_true_iff.mp answers).1).symm
  missing name e other missing := by
    rw [resolve_top alike.tops.1] at missing
    rw [resolve_top alike.tops.2, Scope.find?_withoutColumn there (bne_iff_ne.mp other)]
    rcases found : s.find? none name with f | _ | ⟨i, c⟩
    · rw [found] at missing
      cases missing
      exact ⟨_, rfl⟩
    · exact ⟨_, rfl⟩
    · rw [found] at missing
      cases missing

theorem not_knows_withoutColumn (tops : n.outer = [] ∧ m.outer = [])
    (word : Build.bareCalls.lookup column.name = none) (there : s.columns[position]? = some column)
    (alike : ∀ c ∈ s.columns, c.table = column.table ∧ c.hidden = column.hidden)
    {table : Option String} (known : n.knows s table column.name = true) :
    m.knows (s.withoutColumn position) table column.name = false := by
  obtain ⟨⟨i, c⟩, found⟩ := (knows_iff tops.1 fun _ => word).mp known
  rw [← Bool.not_eq_true, knows_iff tops.2 fun _ => word]
  rintro ⟨_, still⟩
  rw [Scope.find?_withoutColumn_gone there alike found] at still
  cases still

end Names

end SqlEngine
