import Mathlib.Data.List.Forall2
import SqlEngine.Proofs.Run
import SqlEngine.Query.Compile

/-!
Terms under other names of columns.
-/

namespace SqlEngine

namespace Sql

/-- The condition holds of the column that a dotted name refers to. -/
def Term.pathNames (p : Option String → String → Bool) : List Ident → Bool
  | [table, column] | [_, table, column] => p (some table.name) column.name
  | _ => true

mutual

/-- Has the term no subquery, and does the condition hold of all the columns that it names? -/
def Term.names (p : Option String → String → Bool) : Term → Bool
  | .name id => p none id.name
  | .path parts => Term.pathNames p parts
  | .nested t | .cast t _ _ | .unary _ t | .is t _ _ => t.names p
  | .binary l _ r | .json l _ r | .like l r _ _ _ => l.names p && r.names p
  | .between t low high _ => t.names p && low.names p && high.names p
  | .inList t items _ | .subscript t items => t.names p && Term.allName p items
  | .case operand branches otherwise =>
    Term.optionNames p operand && Term.testsName p branches && Term.resultsName p branches &&
      Term.optionNames p otherwise
  | .call _ args _ _ => Argument.allName p args
  | .array items _ => Term.allName p items
  | .inQuery .. | .exists .. | .subquery _ => false
  | .constant _ | .typed .. | .arrayAgg .. | .unsupported _ => true

def Term.allName (p : Option String → String → Bool) : List Term → Bool
  | [] => true
  | t :: rest => t.names p && Term.allName p rest

def Term.optionNames (p : Option String → String → Bool) : Option Term → Bool
  | none => true
  | some t => t.names p

def Term.testsName (p : Option String → String → Bool) : List (Term × Term) → Bool
  | [] => true
  | (condition, _) :: rest => condition.names p && Term.testsName p rest

def Term.resultsName (p : Option String → String → Bool) : List (Term × Term) → Bool
  | [] => true
  | (_, result) :: rest => result.names p && Term.resultsName p rest

def Argument.allName (p : Option String → String → Bool) : List Argument → Bool
  | [] => true
  | .term _ t :: rest => t.names p && Argument.allName p rest
  | .star _ :: rest | .tableStar _ _ :: rest => Argument.allName p rest

end

end Sql

/-- Two places where terms are compiled, none of them in a grouped query. Names that are no columns
stand for the same in both, and so do the columns of which the condition holds. -/
structure Names.Agree (p : Option String → String → Bool) (n : Names) (s : Scope) (m : Names)
    (r : Scope) : Prop where
  registry : m.registry = n.registry
  functions : ∀ name, m.catalog.functionsNamed name = n.catalog.functionsNamed name
  ungrouped : s.keys = none ∧ r.keys = none
  columns : ∀ table name, p table name = true → m.resolve r table name = n.resolve s table name

variable {n m : Names} {s r : Scope} {p : Option String → String → Bool}

namespace Build

theorem aggregate_ungrouped (ungrouped : s.keys = none) (f : AggregateFunc)
    (arg : Option (Scope → Build Expr)) (separator : Option String) (distinct : Bool) :
    aggregate s f arg separator distinct = throw (.query (.aggregateMisplaced f.name)) := by
  simp only [aggregate, Scope.isGrouped, ungrouped]
  rfl

/-- The arguments are built alike in two scopes. -/
def Arg.Same (s r : Scope) : Arg → Arg → Prop
  | .term one, .term another => another r = one s
  | .star, .star | .other, .other => True
  | _, _ => False

/-- A query that is not grouped refuses calls of aggregates, once it has read the separator. -/
theorem aggregateCall_ungrouped {args others : List Arg} (ungrouped : s.keys = none ∧ r.keys = none)
    (same : List.Forall₂ (Arg.Same s r) args others) (f : AggregateFunc) (distinct : Bool)
    (texts : List String) : aggregateCall r f distinct others texts =
      aggregateCall s f distinct args texts := by
  obtain ⟨one, another⟩ := ungrouped
  match same with
  | .nil => cases f <;> rfl
  | .cons (a := a) (b := b) first .nil =>
      cases a <;> cases b <;> first | exact first.elim | skip
      all_goals cases f <;>
        simp only [aggregateCall, aggregate_ungrouped one, aggregate_ungrouped another]
  | .cons (a := a) (b := b) first (.cons (a := c) (b := d) second .nil) =>
      cases a <;> cases b <;> first | exact first.elim | skip
      all_goals cases c <;> cases d <;> first | exact second.elim | skip
      all_goals cases f <;> try rfl
      have second : _ = _ := second
      simp only [aggregateCall, second, aggregate_ungrouped one, aggregate_ungrouped another]
  | .cons _ (.cons _ (.cons _ _)) => cases f <;> simp [aggregateCall]

end Build

namespace Sql

mutual

theorem Term.compile_agree (agree : Names.Agree p n s m r) :
    ∀ t : Term, t.names p = true → t.compile m r = t.compile n s
  | .name id, named => by
      simp only [Term.compile, Build.name, agree.columns none id.name named, agree.registry]
  | .path parts, named => by
      unfold Term.compile Build.path
      split
      · rw [agree.columns _ _ named]
      · rw [agree.columns _ _ named]
      · rfl
  | .constant _, _ => rfl
  | .nested t, named => Term.compile_agree agree t named
  | .typed type text, _ => by
      have types : m.catalog.typeOfText = n.catalog.typeOfText :=
        congrArg Registry.typeByName agree.registry
      simp only [Term.compile, Build.typed, types, agree.registry]
  | .cast t type _, named => by
      have types : m.catalog.typeOfText = n.catalog.typeOfText :=
        congrArg Registry.typeByName agree.registry
      simp only [Term.compile, types, Term.compile_agree agree t named, agree.registry]
  | .unary op t, named => by
      simp only [Term.compile, Term.compile_agree agree t named, Build.unary, agree.registry]
  | .binary left op right, named => by
      obtain ⟨first, second⟩ := Bool.and_eq_true_iff.mp named
      simp only [Term.compile, Term.compile_agree agree left first,
        Term.compile_agree agree right second, Build.binary, Build.logic, agree.registry]
  | .is t test negated, named => by
      simp only [Term.compile, Term.compile_agree agree t named, Build.truthTest, agree.registry]
  | .inList t items negated, named => by
      obtain ⟨first, others⟩ := Bool.and_eq_true_iff.mp named
      simp only [Term.compile, Term.compile_agree agree t first,
        Term.compileAll_agree agree items others, Build.inList, agree.registry]
  | .between t low high negated, named => by
      obtain ⟨bounds, last⟩ := Bool.and_eq_true_iff.mp named
      obtain ⟨first, second⟩ := Bool.and_eq_true_iff.mp bounds
      simp only [Term.compile, Term.compile_agree agree t first, Term.compile_agree agree low second,
        Term.compile_agree agree high last, Build.between, agree.registry]
  | .like t pattern escape negated insensitive, named => by
      obtain ⟨first, second⟩ := Bool.and_eq_true_iff.mp named
      simp only [Term.compile, Term.compile_agree agree t first,
        Term.compile_agree agree pattern second, Build.like, agree.registry]
  | .case operand branches otherwise, named => by
      obtain ⟨before, last⟩ := Bool.and_eq_true_iff.mp named
      obtain ⟨before, third⟩ := Bool.and_eq_true_iff.mp before
      obtain ⟨first, second⟩ := Bool.and_eq_true_iff.mp before
      simp only [Term.compile, Term.compileOption_agree agree operand first,
        Term.compileTests_agree agree branches second, Term.compileResults_agree agree branches third,
        Term.compileOption_agree agree otherwise last, Build.choice, agree.registry]
  | .call head args _ _, named => by
      have calls := Build.aggregateCall_ungrouped agree.ungrouped (Argument.pendings_agree agree args named)
      simp only [Term.compile, calls, Argument.compileAll_agree agree args named, Build.function,
        agree.functions, agree.registry]
  | .arrayAgg distinct t orderBy limit, _ => by
      simp only [Term.compile, Build.aggregate_ungrouped agree.ungrouped.1,
        Build.aggregate_ungrouped agree.ungrouped.2]
  | .array items _, named => by
      simp only [Term.compile, Term.compileAll_agree agree items named, Build.array, agree.registry]
  | .subscript t indexes, named => by
      obtain ⟨first, others⟩ := Bool.and_eq_true_iff.mp named
      simp only [Term.compile, Term.compile_agree agree t first,
        Term.compileSubscripts_agree agree indexes others]
  | .json left operator right, named => by
      obtain ⟨first, second⟩ := Bool.and_eq_true_iff.mp named
      simp only [Term.compile, Term.compile_agree agree left first,
        Term.compile_agree agree right second, Build.document, Build.documentKey, agree.registry]
  | .unsupported _, _ => rfl
  | .inQuery .., named | .exists .., named | .subquery _, named => by cases named

theorem Term.compileAll_agree (agree : Names.Agree p n s m r) :
    ∀ items : List Term, Term.allName p items = true →
      Term.compileAll m r items = Term.compileAll n s items
  | [], _ => rfl
  | t :: rest, named => by
      obtain ⟨first, others⟩ := Bool.and_eq_true_iff.mp named
      simp only [Term.compileAll, Term.compile_agree agree t first,
        Term.compileAll_agree agree rest others]

theorem Term.compileOption_agree (agree : Names.Agree p n s m r) :
    ∀ t : Option Term, Term.optionNames p t = true →
      Term.compileOption m r t = Term.compileOption n s t
  | none, _ => rfl
  | some t, named => by simp only [Term.compileOption, Term.compile_agree agree t named]

theorem Term.compileTests_agree (agree : Names.Agree p n s m r) {operand : Option Expr} :
    ∀ branches : List (Term × Term), Term.testsName p branches = true →
      Term.compileTests m r operand branches = Term.compileTests n s operand branches
  | [], _ => rfl
  | (condition, result) :: rest, named => by
      obtain ⟨first, others⟩ := Bool.and_eq_true_iff.mp named
      simp only [Term.compileTests, Term.compile_agree agree condition first,
        Term.compileTests_agree agree rest others, Build.test, agree.registry]

theorem Term.compileResults_agree (agree : Names.Agree p n s m r) :
    ∀ branches : List (Term × Term), Term.resultsName p branches = true →
      Term.compileResults m r branches = Term.compileResults n s branches
  | [], _ => rfl
  | (condition, result) :: rest, named => by
      obtain ⟨first, others⟩ := Bool.and_eq_true_iff.mp named
      simp only [Term.compileResults, Term.compile_agree agree result first,
        Term.compileResults_agree agree rest others]

theorem Term.compileSubscripts_agree (agree : Names.Agree p n s m r) {array : Expr} :
    ∀ indexes : List Term, Term.allName p indexes = true →
      Term.compileSubscripts m r array indexes = Term.compileSubscripts n s array indexes
  | [], _ => rfl
  | index :: rest, named => by
      obtain ⟨first, others⟩ := Bool.and_eq_true_iff.mp named
      simp only [Term.compileSubscripts, Term.compile_agree agree index first, Build.subscript,
        agree.registry, Term.compileSubscripts_agree agree rest others]

theorem Argument.compileAll_agree (agree : Names.Agree p n s m r) {name : String} :
    ∀ args : List Argument, Argument.allName p args = true →
      Argument.compileAll m r name args = Argument.compileAll n s name args
  | [], _ => rfl
  | .term none t :: rest, named => by
      obtain ⟨first, others⟩ := Bool.and_eq_true_iff.mp named
      simp only [Argument.compileAll, Term.compile_agree agree t first,
        Argument.compileAll_agree agree rest others]
  | .term (some _) _ :: _, _ | .star _ :: _, _ | .tableStar _ _ :: _, _ => rfl

theorem Argument.pendings_agree (agree : Names.Agree p n s m r) :
    ∀ args : List Argument, Argument.allName p args = true →
      List.Forall₂ (Build.Arg.Same s r) (Argument.pendings n args) (Argument.pendings m args)
  | [], _ => .nil
  | .term _ t :: rest, named => by
      obtain ⟨first, others⟩ := Bool.and_eq_true_iff.mp named
      exact .cons (Term.compile_agree agree t first) (Argument.pendings_agree agree rest others)
  | .star _ :: rest, named => .cons trivial (Argument.pendings_agree agree rest named)
  | .tableStar _ _ :: rest, named => .cons trivial (Argument.pendings_agree agree rest named)

end

end Sql

/-! ### Terms that compile -/

/-- The column is one that the name can stand for, or the name is a call that is written like a
column. -/
def Names.knows (n : Names) (s : Scope) (table : Option String) (name : String) : Bool :=
  (n.resolve s table name).isOk || (table.isNone && (Build.bareCalls.lookup name).isSome)

namespace Build

variable {α β : Type} {needed : Prop}

/-- What is built is only built under the condition. -/
def Needs (needed : Prop) (b : Build α) : Prop := ∀ calls result, b.run calls = .ok result → needed

theorem Needs.bind {b : Build α} (first : Needs needed b) (f : α → Build β) :
    Needs needed (b >>= f) := by
  intro calls result built
  obtain ⟨one, given, _⟩ := Run.bind_ok built
  exact first calls one given

theorem Needs.next {f : α → Build β} (b : Build α) (later : ∀ a, Needs needed (f a)) :
    Needs needed (b >>= f) := by
  intro calls result built
  obtain ⟨one, _, rest⟩ := Run.bind_ok built
  exact later one.1 one.2 result rest

theorem Needs.lift {x : Except SqlError α} (given : ∀ a, x = .ok a → needed) :
    Needs needed (liftM x : Build α) := by
  intro calls result built
  obtain ⟨a, one, _⟩ := Run.bind_ok built
  exact given a one

theorem Needs.throw (e : SqlError) : Needs needed (throw e : Build α) :=
  fun _ _ built => nomatch built

theorem Needs.and {b : Build α} {p q : Bool} (first : Needs (p = true) b)
    (second : Needs (q = true) b) : Needs ((p && q) = true) b :=
  fun calls result built =>
    Bool.and_eq_true_iff.mpr ⟨first calls result built, second calls result built⟩

theorem Needs.trivial {b : Build α} : Needs (true = true) b := fun _ _ _ => rfl

theorem aggregate_needs (ungrouped : s.keys = none) (f : AggregateFunc)
    (arg : Option (Scope → Build Expr)) (separator : Option String) (distinct : Bool) :
    Needs needed (aggregate s f arg separator distinct) := by
  rw [aggregate_ungrouped ungrouped]
  exact .throw _

theorem aggregateCall_needs (ungrouped : s.keys = none) (f : AggregateFunc) (distinct : Bool)
    (args : List Arg) (texts : List String) :
    Needs needed (aggregateCall s f distinct args texts) := by
  unfold aggregateCall
  split
  · exact aggregate_needs ungrouped _ _ _ _
  · exact .next _ fun _ => .next _ fun _ => aggregate_needs ungrouped _ _ _ _
  · exact .throw _
  · exact aggregate_needs ungrouped _ _ _ _
  · exact .throw _

end Build

namespace Sql

open Build (Needs)

mutual

/-- A term compiles only if all the columns that it names are known. -/
theorem Term.compile_needs (ungrouped : s.keys = none) :
    ∀ t : Term, t.names (fun _ _ => true) = true →
      Needs (t.names (n.knows s) = true) (t.compile n s)
  | .name id, _ => by
      refine .lift fun e given => ?_
      simp only [Term.names, Names.knows, Bool.or_eq_true]
      unfold Build.name at given
      split at given
      · rename_i f missing word
        refine .inr ?_
        split at word
        · simp [word]
        · cases word
      · rw [given]
        exact .inl rfl
  | .path parts, _ => by
      refine .lift fun e given => ?_
      unfold Build.path at given
      split at given
      · simp [Term.names, Term.pathNames, Names.knows, given, Except.isOk, Except.toBool]
      · simp [Term.names, Term.pathNames, Names.knows, given, Except.isOk, Except.toBool]
      · cases given
  | .constant _, _ => .trivial
  | .nested t, plain => Term.compile_needs ungrouped t plain
  | .typed type text, _ => .trivial
  | .cast t type _, plain => .next _ fun _ => .bind (Term.compile_needs ungrouped t plain) _
  | .unary op t, plain => .bind (Term.compile_needs ungrouped t plain) _
  | .binary left op right, plain => by
      obtain ⟨first, second⟩ := Bool.and_eq_true_iff.mp plain
      rw [Term.compile]
      exact .and (.bind (Term.compile_needs ungrouped left first) _)
        (.next _ fun _ => .bind (Term.compile_needs ungrouped right second) _)
  | .is t test negated, plain => .bind (Term.compile_needs ungrouped t plain) _
  | .inList t items negated, plain => by
      obtain ⟨first, others⟩ := Bool.and_eq_true_iff.mp plain
      rw [Term.compile]
      exact .and (.bind (Term.compile_needs ungrouped t first) _)
        (.next _ fun _ => .bind (Term.compileAll_needs ungrouped items others) _)
  | .between t low high negated, plain => by
      obtain ⟨bounds, last⟩ := Bool.and_eq_true_iff.mp plain
      obtain ⟨first, second⟩ := Bool.and_eq_true_iff.mp bounds
      rw [Term.compile]
      exact .and (.and (.bind (Term.compile_needs ungrouped t first) _)
        (.next _ fun _ => .bind (Term.compile_needs ungrouped low second) _))
        (.next _ fun _ => .next _ fun _ => .bind (Term.compile_needs ungrouped high last) _)
  | .like t pattern escape negated insensitive, plain => by
      obtain ⟨first, second⟩ := Bool.and_eq_true_iff.mp plain
      rw [Term.compile]
      dsimp only
      split
      · exact .bind (.throw _) _
      · exact .and (.bind (Term.compile_needs ungrouped t first) _)
          (.next _ fun _ => .next _ fun _ => .bind (Term.compile_needs ungrouped pattern second) _)
  | .case operand branches otherwise, plain => by
      obtain ⟨before, last⟩ := Bool.and_eq_true_iff.mp plain
      obtain ⟨before, third⟩ := Bool.and_eq_true_iff.mp before
      obtain ⟨first, second⟩ := Bool.and_eq_true_iff.mp before
      rw [Term.compile]
      refine .and (.and (.and ?_ ?_) ?_) ?_
      · exact .bind (Term.compileOption_needs ungrouped operand first) _
      · exact .next _ fun _ => .bind (Term.compileTests_needs ungrouped branches second) _
      · exact .next _ fun _ => .next _ fun _ =>
          .bind (Term.compileResults_needs ungrouped branches third) _
      · exact .next _ fun _ => .next _ fun _ => .next _ fun _ =>
          .bind (Term.compileOption_needs ungrouped otherwise last) _
  | .call head args _ _, plain => by
      rw [Term.compile]
      dsimp only
      split
      · exact .bind (.throw _) _
      · refine .next _ fun name => ?_
        split
        · exact Build.aggregateCall_needs ungrouped _ _ _ _
        · split
          · exact .bind (.throw _) _
          · exact .bind (Argument.compileAll_needs ungrouped args plain) _
  | .arrayAgg .., _ => .trivial
  | .array items _, plain => .bind (Term.compileAll_needs ungrouped items plain) _
  | .subscript t indexes, plain => by
      obtain ⟨first, others⟩ := Bool.and_eq_true_iff.mp plain
      rw [Term.compile]
      exact .and (.bind (Term.compile_needs ungrouped t first) _)
        (.next _ fun _ => Term.compileSubscripts_needs ungrouped indexes others)
  | .json left operator right, plain => by
      obtain ⟨first, second⟩ := Bool.and_eq_true_iff.mp plain
      rw [Term.compile]
      exact .next _ fun _ => .and (.bind (Term.compile_needs ungrouped left first) _)
        (.next _ fun _ => .next _ fun _ => .bind (Term.compile_needs ungrouped right second) _)
  | .unsupported _, _ => .trivial
  | .inQuery .., plain | .exists .., plain | .subquery _, plain => by cases plain

theorem Term.compileAll_needs (ungrouped : s.keys = none) :
    ∀ items : List Term, Term.allName (fun _ _ => true) items = true →
      Needs (Term.allName (n.knows s) items = true) (Term.compileAll n s items)
  | [], _ => .trivial
  | t :: rest, plain => by
      obtain ⟨first, others⟩ := Bool.and_eq_true_iff.mp plain
      rw [Term.compileAll]
      exact .and (.bind (Term.compile_needs ungrouped t first) _)
        (.next _ fun _ => .bind (Term.compileAll_needs ungrouped rest others) _)

theorem Term.compileOption_needs (ungrouped : s.keys = none) :
    ∀ t : Option Term, Term.optionNames (fun _ _ => true) t = true →
      Needs (Term.optionNames (n.knows s) t = true) (Term.compileOption n s t)
  | none, _ => .trivial
  | some t, plain => .bind (Term.compile_needs ungrouped t plain) _

theorem Term.compileTests_needs (ungrouped : s.keys = none) {operand : Option Expr} :
    ∀ branches : List (Term × Term), Term.testsName (fun _ _ => true) branches = true →
      Needs (Term.testsName (n.knows s) branches = true) (Term.compileTests n s operand branches)
  | [], _ => .trivial
  | (condition, _) :: rest, plain => by
      obtain ⟨first, others⟩ := Bool.and_eq_true_iff.mp plain
      rw [Term.compileTests]
      exact .and (.bind (Term.compile_needs ungrouped condition first) _)
        (.next _ fun _ => .next _ fun _ => .bind (Term.compileTests_needs ungrouped rest others) _)

theorem Term.compileResults_needs (ungrouped : s.keys = none) :
    ∀ branches : List (Term × Term), Term.resultsName (fun _ _ => true) branches = true →
      Needs (Term.resultsName (n.knows s) branches = true) (Term.compileResults n s branches)
  | [], _ => .trivial
  | (_, result) :: rest, plain => by
      obtain ⟨first, others⟩ := Bool.and_eq_true_iff.mp plain
      rw [Term.compileResults]
      exact .and (.bind (Term.compile_needs ungrouped result first) _)
        (.next _ fun _ => .bind (Term.compileResults_needs ungrouped rest others) _)

theorem Term.compileSubscripts_needs (ungrouped : s.keys = none) {array : Expr} :
    ∀ indexes : List Term, Term.allName (fun _ _ => true) indexes = true →
      Needs (Term.allName (n.knows s) indexes = true) (Term.compileSubscripts n s array indexes)
  | [], _ => .trivial
  | index :: rest, plain => by
      obtain ⟨first, others⟩ := Bool.and_eq_true_iff.mp plain
      rw [Term.compileSubscripts]
      refine .and (.bind ?_ _) (.next _ fun _ => Term.compileSubscripts_needs ungrouped rest others)
      unfold Build.subscript
      split
      · exact .throw _
      · exact .bind (Term.compile_needs ungrouped index first) _

theorem Argument.compileAll_needs (ungrouped : s.keys = none) {name : String} :
    ∀ args : List Argument, Argument.allName (fun _ _ => true) args = true →
      Needs (Argument.allName (n.knows s) args = true) (Argument.compileAll n s name args)
  | [], _ => .trivial
  | .term none t :: rest, plain => by
      obtain ⟨first, others⟩ := Bool.and_eq_true_iff.mp plain
      rw [Argument.compileAll]
      exact .and (.bind (Term.compile_needs ungrouped t first) _)
        (.next _ fun _ => .bind (Argument.compileAll_needs ungrouped rest others) _)
  | .term (some _) _ :: _, _ | .star _ :: _, _ | .tableStar _ _ :: _, _ => .throw _

end

end Sql

/-! ### Conditions -/

namespace Sql

variable {q both : Option String → String → Bool}

mutual

/-- Two conditions that hold of the columns of a term are put together. -/
theorem Term.names_both
    (join : ∀ table name, p table name = true → q table name = true → both table name = true) :
    ∀ t : Term, t.names p = true → t.names q = true → t.names both = true
  | .name _, one, another => join _ _ one another
  | .path parts, one, another => by
      unfold Term.names Term.pathNames at *
      split at * <;> first | exact join _ _ one another | rfl
  | .nested t, one, another | .cast t _ _, one, another | .unary _ t, one, another
  | .is t _ _, one, another => Term.names_both join t one another
  | .binary l _ r, one, another | .json l _ r, one, another | .like l r _ _ _, one, another => by
      simp only [Term.names, Bool.and_eq_true] at one another ⊢
      exact ⟨Term.names_both join l one.1 another.1, Term.names_both join r one.2 another.2⟩
  | .between t low high _, one, another => by
      simp only [Term.names, Bool.and_eq_true] at one another ⊢
      exact ⟨⟨Term.names_both join t one.1.1 another.1.1,
        Term.names_both join low one.1.2 another.1.2⟩, Term.names_both join high one.2 another.2⟩
  | .inList t items _, one, another | .subscript t items, one, another => by
      simp only [Term.names, Bool.and_eq_true] at one another ⊢
      exact ⟨Term.names_both join t one.1 another.1, Term.allName_both join items one.2 another.2⟩
  | .case operand branches otherwise, one, another => by
      simp only [Term.names, Bool.and_eq_true] at one another ⊢
      exact ⟨⟨⟨Term.optionNames_both join operand one.1.1.1 another.1.1.1,
        Term.testsName_both join branches one.1.1.2 another.1.1.2⟩,
        Term.resultsName_both join branches one.1.2 another.1.2⟩,
        Term.optionNames_both join otherwise one.2 another.2⟩
  | .call _ args _ _, one, another => Argument.allName_both join args one another
  | .array items _, one, another => Term.allName_both join items one another
  | .inQuery .., one, _ | .exists .., one, _ | .subquery _, one, _ => by cases one
  | .constant _, _, _ | .typed .., _, _ | .arrayAgg .., _, _ | .unsupported _, _, _ => rfl

theorem Term.allName_both
    (join : ∀ table name, p table name = true → q table name = true → both table name = true) :
    ∀ items : List Term, Term.allName p items = true → Term.allName q items = true →
      Term.allName both items = true
  | [], _, _ => rfl
  | t :: rest, one, another => by
      simp only [Term.allName, Bool.and_eq_true] at one another ⊢
      exact ⟨Term.names_both join t one.1 another.1, Term.allName_both join rest one.2 another.2⟩

theorem Term.optionNames_both
    (join : ∀ table name, p table name = true → q table name = true → both table name = true) :
    ∀ t : Option Term, Term.optionNames p t = true → Term.optionNames q t = true →
      Term.optionNames both t = true
  | none, _, _ => rfl
  | some t, one, another => Term.names_both join t one another

theorem Term.testsName_both
    (join : ∀ table name, p table name = true → q table name = true → both table name = true) :
    ∀ branches : List (Term × Term), Term.testsName p branches = true →
      Term.testsName q branches = true → Term.testsName both branches = true
  | [], _, _ => rfl
  | (condition, _) :: rest, one, another => by
      simp only [Term.testsName, Bool.and_eq_true] at one another ⊢
      exact ⟨Term.names_both join condition one.1 another.1,
        Term.testsName_both join rest one.2 another.2⟩

theorem Term.resultsName_both
    (join : ∀ table name, p table name = true → q table name = true → both table name = true) :
    ∀ branches : List (Term × Term), Term.resultsName p branches = true →
      Term.resultsName q branches = true → Term.resultsName both branches = true
  | [], _, _ => rfl
  | (_, result) :: rest, one, another => by
      simp only [Term.resultsName, Bool.and_eq_true] at one another ⊢
      exact ⟨Term.names_both join result one.1 another.1,
        Term.resultsName_both join rest one.2 another.2⟩

theorem Argument.allName_both
    (join : ∀ table name, p table name = true → q table name = true → both table name = true) :
    ∀ args : List Argument, Argument.allName p args = true → Argument.allName q args = true →
      Argument.allName both args = true
  | [], _, _ => rfl
  | .term _ t :: rest, one, another => by
      simp only [Argument.allName, Bool.and_eq_true] at one another ⊢
      exact ⟨Term.names_both join t one.1 another.1, Argument.allName_both join rest one.2 another.2⟩
  | .star _ :: rest, one, another | .tableStar _ _ :: rest, one, another =>
      Argument.allName_both join rest one another

end

end Sql

/-! ### Complete terms -/

namespace Sql.Term

theorem build_agree (agree : Names.Agree p n s m r) (t : Term) (named : t.names p = true) :
    t.build m r = t.build n s := by
  simp only [build, pending, Pending.build, compile_agree agree t named, Scope.finish,
    agree.ungrouped.1, agree.ungrouped.2]

theorem condition_agree (agree : Names.Agree p n s m r) (t : Term) (named : t.names p = true) :
    t.condition m r = t.condition n s := by
  simp only [condition, pending, Pending.condition, Pending.build, compile_agree agree t named,
    Scope.finish, agree.ungrouped.1, agree.ungrouped.2, agree.registry]

/-- A condition knows all the columns that it names. -/
theorem names_of_condition (ungrouped : s.keys = none) {t : Term} {e : Expr}
    (plain : t.names (fun _ _ => true) = true) (given : t.condition n s = .ok e) :
    t.names (n.knows s) = true := by
  obtain ⟨result, built, _⟩ := Run.bind_ok given
  have needs := ((compile_needs (n := n) ungrouped t plain).bind fun e => liftM (s.finish e)).bind
    fun e => liftM (e.condition n.registry)
  exact needs [] result built

end Sql.Term

/-! ### Columns under another name -/

/-- Where one item of a list changes so that it is not chosen, the others are chosen as before. -/
theorem filter_zipIdx_modify {α : Type} (chosen : α × Nat → Bool) (f : α → α) :
    ∀ (items : List α) (position start : Nat),
      (∀ a, items[position]? = some a → chosen (f a, start + position) = false) →
        ((items.modify position f).zipIdx start).filter chosen =
          ((items.zipIdx start).filter chosen).filter (·.2 != start + position)
  | [], _, _, _ => by simp
  | a :: rest, 0, start, out => by
      have out : chosen (f a, start) = false := out a rfl
      have later : ∀ e ∈ rest.zipIdx (start + 1), (e.2 != start) = true := by
        intro e member
        have := (List.mem_zipIdx member).1
        simp
        omega
      rw [List.modify_zero_cons, List.zipIdx_cons, List.zipIdx_cons, List.filter_filter,
        List.filter_cons_of_neg (by simp [out]), List.filter_cons_of_neg (by simp)]
      refine List.filter_congr fun e member => ?_
      simp [later e member]
  | a :: rest, position + 1, start, out => by
      -- the rest is numbered from one more, and the changed item is one nearer to its front
      have shift : start + (position + 1) = start + 1 + position := by omega
      have ih := filter_zipIdx_modify chosen f rest position (start + 1) fun b there => shift ▸ out b there
      have first : (start != start + 1 + position) = true := by
        simp
        omega
      rw [shift, List.modify_succ_cons, List.zipIdx_cons, List.zipIdx_cons]
      by_cases taken : chosen (a, start) = true
      · rw [List.filter_cons_of_pos taken, List.filter_cons_of_pos taken, ih,
          List.filter_cons (x := (a, start)), if_pos first]
      · rw [List.filter_cons_of_neg taken, List.filter_cons_of_neg taken, ih]

theorem map_modify {α β : Type} {f : α → α} {g : α → β} {h : β → β} (same : ∀ a, g (f a) = h (g a))
    (items : List α) (position : Nat) : (items.modify position f).map g = (items.map g).modify position h := by
  refine List.ext_getElem? fun i => ?_
  rw [List.getElem?_map, List.getElem?_modify, List.getElem?_modify, List.getElem?_map]
  cases items[i]? with
  | none => rfl
  | some a => by_cases here : position = i <;> simp [here, same]

namespace Scope

/-- The scope in which a column has another name. -/
def renameColumn (s : Scope) (position : Nat) (name : String) : Scope :=
  { s with columns := s.columns.modify position fun c => { c with name } }

/-- The columns that a name can refer to. -/
def answers (s : Scope) (table : Option String) (name : String) : List (Column × Nat) :=
  s.columns.zipIdx.filter fun (c, _) => c.answersTo table name

variable {position : Nat} {before after : String} {column : Column} {table : Option String}
  {name : String}

theorem find?_congr (same : r.answers table name = s.answers table name) :
    r.find? table name = s.find? table name := by
  simp only [answers] at same
  rw [find?, find?, same]

theorem find?_of_answers_nil (empty : s.answers table name = []) : s.find? table name = .ok none := by
  simp only [answers] at empty
  rw [find?, empty]

theorem answers_of_find? {c : Column} (found : s.find? table name = .ok (some (position, c))) :
    s.answers table name = [(c, position)] := by
  unfold find? at found
  split at found
  · cases found
  · rename_i only
    cases found
    exact only
  · cases found

theorem mem_answers {e : Column × Nat} :
    e ∈ s.answers table name ↔ s.columns[e.2]? = some e.1 ∧ e.1.answersTo table name = true := by
  rw [answers, List.mem_filter, List.mem_zipIdx_iff_getElem?]

theorem hasTable_renameColumn (s : Scope) (position : Nat) (name table : String) :
    (s.renameColumn position name).hasTable table = s.hasTable table := by
  have tables := map_modify (f := fun c : Column => { c with name }) (g := Column.table) (h := id)
    (fun _ => rfl) s.columns position
  rw [List.modify_id] at tables
  have any : ∀ columns : List Column, columns.any (·.table == some table) =
      (columns.map Column.table).any (· == some table) := fun columns => by simp [List.any_map]; rfl
  rw [hasTable, hasTable, any, any, ← tables]
  rfl

theorem answers_renameColumn (s : Scope) (position : Nat) (table : Option String)
    (other : name ≠ after) : (s.renameColumn position after).answers table name =
      (s.answers table name).filter (·.2 != position) := by
  have out := filter_zipIdx_modify (fun (c, _) => c.answersTo table name)
    (fun c : Column => { c with name := after }) s.columns position 0 fun c _ => by simp [Column.answersTo, Ne.symm other]
  rwa [Nat.zero_add] at out

theorem find?_renameColumn (there : s.columns[position]? = some column) (table : Option String)
    (old : name ≠ column.name) (other : name ≠ after) :
    (s.renameColumn position after).find? table name = s.find? table name := by
  refine find?_congr ?_
  rw [answers_renameColumn s position table other, List.filter_eq_self]
  intro e member
  obtain ⟨found, answers⟩ := mem_answers.mp member
  rw [bne_iff_ne]
  rintro same
  rw [same, there] at found
  rw [← Option.some.inj found] at answers
  simp [Column.answersTo, Ne.symm old] at answers

/-- Where the columns of a table are alike, a name that is found at all is that of one column. -/
theorem answers_of_alike (there : s.columns[position]? = some column) {c : Column} {i : Nat}
    (alike : ∀ c ∈ s.columns, c.table = column.table ∧ c.hidden = column.hidden)
    (found : s.find? table column.name = .ok (some (i, c))) :
    s.answers table column.name = [(column, position)] := by
  have only := answers_of_find? found
  have answers : column.answersTo table column.name = true := by
    obtain ⟨held, answered⟩ := mem_answers.mp (only ▸ List.mem_singleton_self (c, i))
    obtain ⟨named, placed⟩ := alike c (List.mem_of_getElem? held)
    simpa [Column.answersTo, named, placed] using (Bool.and_eq_true_iff.mp answered).2
  have own : (column, position) ∈ s.answers table column.name := mem_answers.mpr ⟨there, answers⟩
  rw [only, List.mem_singleton] at own
  rw [only, own]

/-- The old name refers to nothing, if it referred to a column. -/
theorem find?_renameColumn_old (there : s.columns[position]? = some column) {c : Column} {i : Nat}
    (alike : ∀ c ∈ s.columns, c.table = column.table ∧ c.hidden = column.hidden)
    (found : s.find? table column.name = .ok (some (i, c))) (other : column.name ≠ after) :
    (s.renameColumn position after).find? table column.name = .ok none := by
  refine find?_of_answers_nil ?_
  rw [answers_renameColumn s position table other, answers_of_alike there alike found]
  simp

end Scope

/-- The names of two queries that no other one encloses, where all names but those of columns stand for
the same. -/
structure Names.Alike (n m : Names) : Prop where
  registry : m.registry = n.registry
  functions : ∀ name, m.catalog.functionsNamed name = n.catalog.functionsNamed name
  tops : n.outer = [] ∧ m.outer = []

namespace Names

variable {position : Nat} {after : String} {column : Column} {table : Option String} {name : String}

theorem resolve_top (top : n.outer = []) (s : Scope) (table : Option String) (name : String) :
    n.resolve s table name = match s.find? table name with
      | .ok (some (position, c)) => .ok (.column position c.type)
      | .ok none => .error (.query (n.missing s table name))
      | .error e => .error e := by
  unfold resolve
  rw [top]
  rcases s.find? table name with _ | _ | _ <;> rfl

theorem resolve_congr (tops : n.outer = [] ∧ m.outer = [])
    (found : r.find? table name = s.find? table name) (tables : ∀ t, r.hasTable t = s.hasTable t) :
    m.resolve r table name = n.resolve s table name := by
  rw [resolve_top tops.1, resolve_top tops.2, found]
  simp only [missing, tops.1, tops.2, List.any_cons, tables]

theorem knows_iff (top : n.outer = []) (word : table = none → Build.bareCalls.lookup name = none) :
    n.knows s table name = true ↔ ∃ found, s.find? table name = .ok (some found) := by
  have column : (table.isNone && (Build.bareCalls.lookup name).isSome) = false := by
    cases table with
    | none => simp [word]
    | some table => rfl
  rw [knows, resolve_top top, column]
  rcases s.find? table name with _ | _ | _ <;> simp [Except.isOk, Except.toBool]

theorem Alike.agree (alike : n.Alike m) (ungrouped : s.keys = none ∧ r.keys = none)
    (columns : ∀ table name, p table name = true → r.find? table name = s.find? table name)
    (tables : ∀ t, r.hasTable t = s.hasTable t) : Agree p n s m r where
  registry := alike.registry
  functions := alike.functions
  ungrouped := ungrouped
  columns table name chosen := resolve_congr alike.tops (columns table name chosen) tables

theorem Alike.agree_same (alike : n.Alike m) (ungrouped : s.keys = none) :
    Agree (fun _ _ => true) n s m s :=
  alike.agree ⟨ungrouped, ungrouped⟩ (fun _ _ _ => rfl) fun _ => rfl

theorem Alike.agree_renameColumn (alike : n.Alike m) (after : String) (ungrouped : s.keys = none)
    (there : s.columns[position]? = some column) :
    Agree (fun _ name => name != column.name && name != after) n s m
      (s.renameColumn position after) := by
  refine alike.agree ⟨ungrouped, ungrouped⟩ (fun table name other => ?_)
    (Scope.hasTable_renameColumn s position after)
  simp only [Bool.and_eq_true, bne_iff_ne] at other
  exact Scope.find?_renameColumn there table other.1 other.2

theorem not_knows_renameColumn (tops : n.outer = [] ∧ m.outer = [])
    (word : Build.bareCalls.lookup column.name = none) (there : s.columns[position]? = some column)
    (alike : ∀ c ∈ s.columns, c.table = column.table ∧ c.hidden = column.hidden)
    (other : column.name ≠ after) (known : n.knows s table column.name = true) :
    m.knows (s.renameColumn position after) table column.name = false := by
  obtain ⟨⟨i, c⟩, found⟩ := (knows_iff tops.1 fun _ => word).mp known
  rw [← Bool.not_eq_true, knows_iff tops.2 fun _ => word]
  rintro ⟨_, still⟩
  rw [Scope.find?_renameColumn_old there alike found other] at still
  cases still

end Names

end SqlEngine
