import SqlEngine.Proofs.Evaluation.Parallel
import SqlEngine.Proofs.Rows.Listing
import SqlEngine.Proofs.Types.ArrayText
import SqlEngine.Proofs.Types.Keys
import SqlEngine.Proofs.Typing.Locality

/-!
Expressions over grouped rows.

A grouped row has the values of the keys and then the results of the aggregate calls. An expression
over the rows that were grouped becomes one over grouped rows: what is the same as a key becomes
that key. Expressions are the same if they are built in the same way from the same columns and from
constants of the same text. So they are equal if their constants are told apart by their texts, as
those of most types are, but not those of all.
-/

namespace SqlEngine

open Run (Alike)

/-- Stacks that differ in the nearest row show the same where that row is not read. -/
theorem Places.same_of_hidden {places : Places} (hidden : ∀ index, ¬places 0 index)
    (row twin : Row) (outer : List Row) : places.Same (row :: outer) (twin :: outer) := by
  intro level index read
  cases level with
  | zero => exact absurd read (hidden index)
  | succ level => exact Or.inl rfl

/-! ### The same expressions -/

namespace SqlType

/-- Are two values of the type never shown alike? -/
def isLegible : SqlType → Bool
  | array element => element.keepsText
  | type => type.keepsText

variable {type leaf : SqlType} {v w : Value}

theorem scalar_of_includes (kept : type.keepsText) (present : v.isNull = false)
    (given : type.includes v) : type.includesScalar v ∧ v.chars = v.scalarChars := by
  cases v with
  | null => cases present
  | _ =>
      cases type <;>
        first
          | exact ⟨given, rfl⟩
          | exact absurd kept Bool.false_ne_true
          | cases given

theorem eq_of_scalars (kept : type.keepsText) (presentV : v.isNull = false)
    (presentW : w.isNull = false) (givenV : type.includes v) (givenW : type.includes w)
    (shown : v.render = w.render) : v = w := by
  have reads : Conversion.ReadsBack (Catalog.create {}).registry type :=
    Conversion.readsBack_of_keepsText kept
  obtain ⟨scalarV, charsV⟩ := scalar_of_includes kept presentV givenV
  obtain ⟨scalarW, charsW⟩ := scalar_of_includes kept presentW givenW
  have back := reads v scalarV
  rw [← charsV, ← Value.render, shown, Value.render, charsW, reads w scalarW] at back
  exact (Except.ok.inj back).symm

theorem eq_of_arrays (kept : leaf.keepsText) {xs ys : List Value}
    (givenX : leaf.array.includes (.array xs)) (givenY : leaf.array.includes (.array ys))
    (shown : (Value.array xs).render = (Value.array ys).render) : xs = ys := by
  have noItems : leaf.element? = none := by
    cases leaf <;> first | rfl | cases kept
  have reads : Conversion.ReadsBack (Catalog.create {}).registry leaf :=
    Conversion.readsBack_of_keepsText kept
  have back := Conversion.textToArray_render reads noItems givenX
  rw [shown, Conversion.textToArray_render reads noItems givenY] at back
  exact (Value.array.inj (Except.ok.inj back)).symm

/-- Values of most types are told apart by their text, once NULL is. -/
theorem eq_of_render (legible : type.isLegible) (givenV : type.includes v)
    (givenW : type.includes w) (missing : v.isNull = w.isNull) (shown : v.render = w.render) :
    v = w := by
  cases nullV : v.isNull with
  | true =>
      have nullW : w.isNull := missing ▸ nullV
      exact (Value.eq_null_of_isNull nullV).trans (Value.eq_null_of_isNull nullW).symm
  | false =>
      have nullW : w.isNull = false := missing ▸ nullV
      cases type with
      | array element =>
          obtain rfl | ⟨xs, rfl⟩ := includes_array_cases givenV
          · cases nullV
          · obtain rfl | ⟨ys, rfl⟩ := includes_array_cases givenW
            · cases nullW
            · rw [eq_of_arrays legible givenV givenW shown]
      | _ =>
          refine eq_of_scalars ?_ nullV nullW givenV givenW shown
          exact legible

end SqlType

namespace Expr

mutual

/-- Are all constants and host functions of an expression, those of its subqueries apart, of some
kind? -/
def MadeOf (constants : Value → SqlType → Prop) (functions : HostFunction → Prop) : Expr → Prop
  | constant v type => constants v type
  | apply _ args _ => AllMadeOf constants functions args
  | call f args => functions f ∧ AllMadeOf constants functions args
  | among arg _ _ _ => MadeOf constants functions arg
  | _ => True

def AllMadeOf (constants : Value → SqlType → Prop) (functions : HostFunction → Prop) :
    List Expr → Prop
  | [] => True
  | e :: rest => MadeOf constants functions e ∧ AllMadeOf constants functions rest

end

variable {constants : Value → SqlType → Prop} {functions : HostFunction → Prop}

/-- What the comparison of expressions takes for granted: constants of a type are known by their
texts, and functions by their numbers. -/
structure ToldApart (constants : Value → SqlType → Prop) (functions : HostFunction → Prop) :
    Prop where
  constants : ∀ v w type, constants v type → constants w type → v.isNull = w.isNull →
    v.render = w.render → v = w
  functions : ∀ f g, functions f → functions g → f.id = g.id → f = g

mutual

theorem eq_of_same (told : ToldApart constants functions) : ∀ {a b : Expr},
    a.MadeOf constants functions → b.MadeOf constants functions → a.same b → a = b
  | .constant v type, b, madeA, madeB, same => by
      cases b <;> simp [Expr.same] at same
      obtain ⟨⟨shown, missing⟩, rfl⟩ := same
      rw [told.constants v _ type madeA madeB missing shown]
  | .column _ _, b, _, _, same => by
      cases b <;> simp_all [Expr.same]
  | .outer _ _ _, b, _, _, same => by
      cases b <;> simp_all [Expr.same]
  | .aggregate _ _, b, _, _, same => by
      cases b <;> simp_all [Expr.same]
  | .apply _ args _, b, madeA, madeB, same => by
      cases b <;> simp [Expr.same] at same
      obtain ⟨⟨rfl, alike⟩, rfl⟩ := same
      rw [eq_of_sameAll told madeA madeB alike]
  | .call f args, b, madeA, madeB, same => by
      cases b <;> simp [Expr.same] at same
      obtain ⟨id, alike⟩ := same
      rw [told.functions f _ madeA.1 madeB.1 id, eq_of_sameAll told madeA.2 madeB.2 alike]
  | .scalar _ _, b, _, _, same | .hasRows _ _, b, _, _, same | .among _ _ _ _, b, _, _, same => by
      cases b <;> simp [Expr.same] at same

theorem eq_of_sameAll (told : ToldApart constants functions) : ∀ {as bs : List Expr},
    AllMadeOf constants functions as → AllMadeOf constants functions bs → sameAll as bs → as = bs
  | [], [], _, _, _ => rfl
  | [], _ :: _, _, _, same => by simp [sameAll] at same
  | _ :: _, [], _, _, same => by simp [sameAll] at same
  | a :: as, b :: bs, madeA, madeB, same => by
      rw [sameAll, Bool.and_eq_true] at same
      rw [eq_of_same told madeA.1 madeB.1 same.1, eq_of_sameAll told madeA.2 madeB.2 same.2]

end

/-- The constants of these types are known by their texts. -/
theorem toldApart_legible (numbered : ∀ f g, functions f → functions g → f.id = g.id → f = g) :
    ToldApart (fun v type => type.isLegible ∧ type.includes v) functions :=
  ⟨fun _ _ _ givenV givenW => SqlType.eq_of_render givenV.1 givenV.2 givenW.2, numbered⟩

/-- Expressions that are the same give the same over every row, if their constants are told apart by
their texts. -/
theorem eval_eq_of_same (told : ToldApart constants functions) {a b : Expr}
    (madeA : a.MadeOf constants functions) (madeB : b.MadeOf constants functions)
    (same : a.same b) (env : Env) (outer : List Row) (row : Row) :
    a.eval env outer row = b.eval env outer row := by
  rw [eq_of_same told madeA madeB same]

/-- A moment that many nanoseconds after the beginning of a day. -/
def exampleMoment (nanosecond : Nat) : Value := .timestamp ⟨⟨0⟩, ⟨0, nanosecond⟩⟩

/-- Is a column later than the moment? -/
def exampleLater (nanosecond : Nat) : Expr :=
  .apply (.compare .greater .timestamp)
    [.column 0 .timestamp, .constant (exampleMoment nanosecond) .timestamp] .bool

/-- The text of a moment has microseconds, so that moments within one are not told apart. -/
theorem exampleLater_same :
    (exampleLater 800).same (exampleLater 200) ∧
      ((exampleLater 800).eval .fresh [] [exampleMoment 500]).run .fresh =
        (.ok (.bool false), .fresh) ∧
      ((exampleLater 200).eval .fresh [] [exampleMoment 500]).run .fresh =
        (.ok (.bool true), .fresh) :=
  ⟨by decide +kernel, rfl, rfl⟩

/-! ### Grouped rows -/

mutual

/-- An expression and the expressions that it is made of, those of its subqueries apart. -/
def nodes : Expr → List Expr
  | apply op args type => apply op args type :: allNodes args
  | call f args => call f args :: allNodes args
  | among arg query negated type => among arg query negated type :: nodes arg
  | e => [e]

def allNodes : List Expr → List Expr
  | [] => []
  | e :: rest => nodes e ++ allNodes rest

/-- The expression in which the results of aggregate calls are put in their places. -/
def filled (results : Row) : Expr → Expr
  | aggregate number type => constant (results.getD number .null) type
  | apply op args type => apply op (allFilled results args) type
  | call f args => call f (allFilled results args)
  | among arg query negated type => among (filled results arg) query negated type
  | e => e

def allFilled (results : Row) : List Expr → List Expr
  | [] => []
  | e :: rest => filled results e :: allFilled results rest

end

/-- The plan of the subquery reads nothing but these places, if the expression is one. -/
def SubqueryReads (places : Places) : Expr → Prop
  | scalar query _ | hasRows query _ | among _ query _ _ => query.ReadsOnly places
  | _ => True

theorem mem_nodes (e : Expr) : e ∈ e.nodes := by
  cases e <;> simp [nodes]

theorem type_filled (results : Row) (e : Expr) : (e.filled results).type = e.type := by
  cases e <;> simp [filled, type]

theorem types_allFilled (results : Row) (es : List Expr) :
    (allFilled results es).map type = es.map type := by
  induction es with
  | nil => rfl
  | cons e rest ih => simp [allFilled, type_filled, ih]

/-- The expression over grouped rows if it is no key itself: its parts are rewritten. -/
def regroupParts (keys : List Expr) : Expr → Except Nat Expr
  | column index _ => .error index
  | aggregate number type => .ok (column (keys.length + number) type)
  | apply op args type => (regroupAll keys args).map (apply op · type)
  | call f args => (regroupAll keys args).map (call f)
  | among arg query negated type => (regroup keys arg).map (among · query negated type)
  | e => .ok e

theorem regroup_eq (keys : List Expr) (e : Expr) : e.regroup keys =
    match (if e.isConstant then none else keys.findIdx? (same · e)) with
    | some position => .ok (column position e.type)
    | none => e.regroupParts keys := by
  unfold regroup
  cases (if e.isConstant then none else keys.findIdx? (same · e)) with
  | some position => rfl
  | none => cases e <;> rfl

section Regrouping

variable {keys : List Expr} {env : Env} {outer : List Row} {s : EvalState}
  {first keyValues results : Row} {places : Places} {e e' : Expr}

theorem type_regroup (given : e.regroup keys = .ok e') : e'.type = e.type := by
  rw [regroup_eq] at given
  split at given
  · cases given
    rfl
  · cases e with
    | column index type => cases given
    | apply op args type | call f args | among arg query negated type =>
        obtain ⟨parts, _, rfl⟩ := Run.map_ok given
        rfl
    | _ =>
        cases given
        rfl

theorem types_regroupAll : ∀ {es es' : List Expr}, regroupAll keys es = .ok es' →
    es'.map type = es.map type
  | [], _, given => by
      cases given
      rfl
  | e :: rest, _, given => by
      obtain ⟨e', one, given⟩ := Run.bind_ok given
      obtain ⟨rest', others, given⟩ := Run.bind_ok given
      cases given
      rw [List.map_cons, List.map_cons, type_regroup one, types_regroupAll others]

/-- What the rewriting takes for granted of a part of an expression: with the results in their
places it gives what a key gives that is the same, its subquery reads these places only, and there
is a result for it. -/
structure Suits (places : Places) (env : Env) (outer : List Row) (s : EvalState)
    (first results : Row) (keys : List Expr) (e : Expr) : Prop where
  same : e.isConstant = false → ∀ key ∈ keys, key.same e →
    ((e.filled results).eval env outer first).run s = (key.eval env outer first).run s
  reads : e.SubqueryReads places
  answered : ∀ number type, e = aggregate number type → number < results.length

/-- The values of the keys are those of the first row of the group. -/
abbrev KeysGive (env : Env) (outer : List Row) (s : EvalState) (first : Row) :
    List Expr → Row → Prop :=
  List.Forall₂ fun key v => (key.eval env outer first).run s = (.ok v, s)

theorem key_alike (values : KeysGive env outer s first keys keyValues)
    (suits : e.Suits places env outer s first results keys) {position : Nat}
    (found : (if e.isConstant then none else keys.findIdx? (same · e)) = some position) :
    Alike (fun x y => x = s ∧ y = s)
      ((column position e.type).eval env outer (keyValues ++ results))
      ((e.filled results).eval env outer first) := by
  split at found
  · cases found
  · rename_i notConstant
    -- the first key of the kind, which the grouped row has a value for
    obtain ⟨inside, alike, _⟩ := List.findIdx?_eq_some_iff_getElem.mp found
    have width : position < keyValues.length := values.length_eq ▸ inside
    have computed := values.get inside width
    have given := (suits.same (by simpa using notConstant) _ (List.getElem_mem inside) alike).trans
      computed
    have read : (keyValues ++ results)[position]? = some (keyValues.get ⟨position, width⟩) := by
      rw [List.getElem?_append_left width, List.getElem?_eq_getElem width]
      rfl
    rintro _ _ ⟨rfl, rfl⟩
    rw [given, Expr.eval, read]
    exact ⟨rfl, rfl, rfl⟩

theorem key_or_parts (values : KeysGive env outer s first keys keyValues)
    (suits : e.Suits places env outer s first results keys) (given : e.regroup keys = .ok e') :
    Alike (fun x y => x = s ∧ y = s) (e'.eval env outer (keyValues ++ results))
      ((e.filled results).eval env outer first) ∨ e.regroupParts keys = .ok e' := by
  rw [regroup_eq] at given
  split at given
  · cases given
    exact .inl (key_alike values suits ‹_›)
  · exact .inr given

theorem aggregate_alike (values : KeysGive env outer s first keys keyValues) {number : Nat}
    {type : SqlType} (suits : (aggregate number type).Suits places env outer s first results keys) :
    Alike (fun x y => x = s ∧ y = s)
      ((column (keys.length + number) type).eval env outer (keyValues ++ results))
      (((aggregate number type).filled results).eval env outer first) := by
  have inside := suits.answered number type rfl
  have read : (keyValues ++ results)[keys.length + number]? = some results[number] := by
    rw [values.length_eq, List.getElem?_append_right (by omega), Nat.add_sub_cancel_left,
      List.getElem?_eq_getElem inside]
  rw [filled, Expr.eval, Expr.eval, read, List.getD_eq_getElem?_getD,
    List.getElem?_eq_getElem inside]
  exact Alike.pure _

theorem parallel_at (env : Env) (s : EvalState) :
    Eval.Parallel .reader env env fun x y => x = s ∧ y = s :=
  (Allowance.Agree.refl .reader s).parallel Allowance.reading_reader env

/-- A subquery gives the same below the grouped row, which it does not read. -/
theorem subquery_alike (hidden : ∀ index, ¬places 0 index) {query : Plan} (row : Row)
    (within : query.within .reader) (reads : query.ReadsOnly places) :
    Cursor.Alike (fun x y => x = s ∧ y = s) (query.cursor env (row :: outer))
      (query.cursor env (first :: outer)) :=
  query.cursor_local (parallel_at env s) (Places.same_of_hidden hidden row first outer) within reads

mutual

theorem regroup_alike (hidden : ∀ index, ¬places 0 index)
    (values : KeysGive env outer s first keys keyValues) : ∀ {e e' : Expr},
      (∀ node ∈ e.nodes, node.Suits places env outer s first results keys) → e.within .reader →
        e.regroup keys = .ok e' → Alike (fun x y => x = s ∧ y = s)
          (e'.eval env outer (keyValues ++ results)) ((e.filled results).eval env outer first)
  -- In every case the whole may be a key. If it is none, only the parts are rewritten.
  | .constant v type, _, suits, _, given => by
      rcases key_or_parts values (suits _ (mem_nodes _)) given with key | parts
      · exact key
      · cases parts
        exact Alike.pure _
  | .column index type, _, suits, _, given => by
      rcases key_or_parts values (suits _ (mem_nodes _)) given with key | parts
      · exact key
      · cases parts
  | .outer levels index type, _, suits, _, given => by
      rcases key_or_parts values (suits _ (mem_nodes _)) given with key | parts
      · exact key
      · cases parts
        simp only [filled, Expr.eval]
        split
        · exact Alike.pure _
        · exact Alike.throw _
  | .aggregate number type, _, suits, _, given => by
      rcases key_or_parts values (suits _ (mem_nodes _)) given with key | parts
      · exact key
      · cases parts
        exact aggregate_alike values (suits _ (mem_nodes _))
  | .apply op args type, _, suits, reads, given => by
      rcases key_or_parts values (suits _ (mem_nodes _)) given with key | parts
      · exact key
      · obtain ⟨args', mapped, rfl⟩ := Run.map_ok parts
        have inside : Expr.allWithin .reader args ∧
            ∀ f, op = .builtin f → Allowance.reader.calls f = true := by
          cases op <;> simp_all [Expr.within]
        have each := regroupAll_alike hidden values
          (fun node member => suits node (List.mem_cons_of_mem _ member)) inside.1 mapped
        rw [filled, Expr.eval, Expr.eval, types_regroupAll mapped, types_allFilled]
        exact op.perform_alike (parallel_at env s) type _ inside.2 each
  | .call f args, _, suits, reads, given => by
      rcases key_or_parts values (suits _ (mem_nodes _)) given with key | parts
      · exact key
      · obtain ⟨args', mapped, rfl⟩ := Run.map_ok parts
        have each := regroupAll_alike hidden values
          (fun node member => suits node (List.mem_cons_of_mem _ member)) reads mapped
        exact (Alike.sequence each).bind fun _ => Alike.lift _
  | .scalar query type, _, suits, reads, given => by
      rcases key_or_parts values (suits _ (mem_nodes _)) given with key | parts
      · exact key
      · cases parts
        exact (subquery_alike hidden _ reads (suits _ (mem_nodes _)).reads).single
  | .hasRows query negated, _, suits, reads, given => by
      rcases key_or_parts values (suits _ (mem_nodes _)) given with key | parts
      · exact key
      · cases parts
        exact (subquery_alike hidden _ reads (suits _ (mem_nodes _)).reads).hasRow.bind
          fun _ => Alike.pure _
  | .among arg query negated type, _, suits, reads, given => by
      rcases key_or_parts values (suits _ (mem_nodes _)) given with key | parts
      · exact key
      · obtain ⟨arg', mapped, rfl⟩ := Run.map_ok parts
        obtain ⟨readsArg, readsQuery⟩ := Bool.and_eq_true_iff.mp reads
        refine (regroup_alike hidden values
          (fun node member => suits node (List.mem_cons_of_mem _ member)) readsArg mapped).bind
            fun v => ?_
        split
        · exact Alike.pure _
        · exact ((subquery_alike hidden _ readsQuery (suits _ (mem_nodes _)).reads).among type
            v).bind fun _ => Alike.pure _

theorem regroupAll_alike (hidden : ∀ index, ¬places 0 index)
    (values : KeysGive env outer s first keys keyValues) : ∀ {es es' : List Expr},
      (∀ node ∈ allNodes es, node.Suits places env outer s first results keys) →
        Expr.allWithin .reader es → regroupAll keys es = .ok es' →
          List.Forall₂ (Alike fun x y => x = s ∧ y = s)
            (actions env outer (keyValues ++ results) es')
            (actions env outer first (allFilled results es))
  | [], _, _, _, given => by
      cases given
      exact .nil
  | e :: rest, _, suits, reads, given => by
      obtain ⟨e', one, given⟩ := Run.bind_ok given
      obtain ⟨rest', others, given⟩ := Run.bind_ok given
      cases given
      obtain ⟨ofFirst, ofRest⟩ := List.forall_mem_append.mp suits
      obtain ⟨readsFirst, readsRest⟩ := Bool.and_eq_true_iff.mp reads
      exact .cons (regroup_alike hidden values ofFirst readsFirst one)
        (regroupAll_alike hidden values ofRest readsRest others)

end

/-- Over the grouped row the rewritten expression gives what the expression gives over the first row
of the group with the results of the calls in their places. -/
theorem regroup_gives (hidden : ∀ index, ¬places 0 index)
    (values : KeysGive env outer s first keys keyValues)
    (suits : ∀ node ∈ e.nodes, node.Suits places env outer s first results keys)
    (reads : e.within .reader) (given : e.regroup keys = .ok e') :
    (e'.eval env outer (keyValues ++ results)).run s =
      ((e.filled results).eval env outer first).run s := by
  obtain ⟨outcomes, left, right⟩ := regroup_alike hidden values suits reads given s s ⟨rfl, rfl⟩
  exact Prod.ext outcomes (left.trans right.symm)

/-- A subquery that reads the row of its expression, as one does that uses a name of a `WITH` list
farther out. It is left as it is, and over the grouped row it reads a key. -/
def exampleInner : Expr := .scalar (.values [[.outer 1 0 .integer]]) .integer

theorem exampleInner_regrouped :
    exampleInner.regroup [.column 1 .integer] = .ok exampleInner ∧
      KeysGive .fresh [] .fresh [.int 7, .int 5] [.column 1 .integer] [.int 5] ∧
      (exampleInner.eval .fresh [] [.int 5]).run .fresh = (.ok (.int 5), .fresh) ∧
      ((exampleInner.filled []).eval .fresh [] [.int 7, .int 5]).run .fresh =
        (.ok (.int 7), .fresh) :=
  ⟨rfl, .cons rfl .nil, rfl, rfl⟩

/-! ### Expressions of a query -/

mutual

theorem MadeOf.nodes {constants : Value → SqlType → Prop} {functions : HostFunction → Prop} :
    ∀ {e : Expr}, e.MadeOf constants functions → ∀ node ∈ e.nodes, node.MadeOf constants functions
  | .apply _ _ _, made => List.forall_mem_cons.mpr ⟨made, AllMadeOf.nodes made⟩
  | .call _ _, made => List.forall_mem_cons.mpr ⟨made, AllMadeOf.nodes made.2⟩
  | .among _ _ _ _, made => List.forall_mem_cons.mpr ⟨made, MadeOf.nodes made⟩
  | .constant _ _, made | .column _ _, made | .outer _ _ _, made | .aggregate _ _, made
  | .scalar _ _, made | .hasRows _ _, made => List.forall_mem_singleton.mpr made

theorem AllMadeOf.nodes {constants : Value → SqlType → Prop} {functions : HostFunction → Prop} :
    ∀ {es : List Expr}, AllMadeOf constants functions es →
      ∀ node ∈ allNodes es, node.MadeOf constants functions
  | [], _ => by simp [allNodes]
  | _ :: _, ⟨first, rest⟩ => List.forall_mem_append.mpr ⟨first.nodes, AllMadeOf.nodes rest⟩

end

mutual

theorem Typed.nodes {known : TableDef → Prop} {around : Surroundings} : ∀ {e : Expr},
    e.Typed known around → ∀ node ∈ e.nodes, node.Typed known around
  | .apply _ _ _, typed => List.forall_mem_cons.mpr ⟨typed, AllTyped.nodes typed.1⟩
  | .call _ _, typed => typed.elim
  | .among _ _ _ _, typed => List.forall_mem_cons.mpr ⟨typed, Typed.nodes typed.1⟩
  | .constant _ _, typed | .column _ _, typed | .outer _ _ _, typed | .aggregate _ _, typed
  | .scalar _ _, typed | .hasRows _ _, typed => List.forall_mem_singleton.mpr typed

theorem AllTyped.nodes {known : TableDef → Prop} {around : Surroundings} : ∀ {es : List Expr},
    AllTyped known around es → ∀ node ∈ allNodes es, node.Typed known around
  | [], _ => by simp [allNodes]
  | _ :: _, ⟨first, rest⟩ => List.forall_mem_append.mpr ⟨first.nodes, AllTyped.nodes rest⟩

end

theorem Typed.subqueryReads {known : TableDef → Prop} {around : Surroundings}
    (typed : e.Typed known around) :
    e.SubqueryReads (Seen.places (around.inner :: around.outer)) := by
  cases e with
  | scalar query type =>
      obtain ⟨_, typed⟩ := typed
      exact typed.readsOnly
  | hasRows query negated =>
      obtain ⟨_, typed⟩ := typed
      exact typed.readsOnly
  | among arg query negated type =>
      obtain ⟨_, _, typed⟩ := typed
      exact typed.readsOnly
  | _ => trivial

mutual

theorem filled_of_plain : ∀ {e : Expr}, (∀ number type, aggregate number type ∉ e.nodes) →
    e.filled results = e
  | .aggregate number type, plain => absurd (mem_nodes _) (plain number type)
  | .apply op args type, plain => by
      rw [filled, allFilled_of_plain fun number type member =>
        plain number type (List.mem_cons_of_mem _ member)]
  | .call f args, plain => by
      rw [filled, allFilled_of_plain fun number type member =>
        plain number type (List.mem_cons_of_mem _ member)]
  | .among arg query negated type, plain => by
      rw [filled, filled_of_plain fun number type member =>
        plain number type (List.mem_cons_of_mem _ member)]
  | .constant _ _, _ | .column _ _, _ | .outer _ _ _, _ | .scalar _ _, _ | .hasRows _ _, _ => rfl

theorem allFilled_of_plain : ∀ {es : List Expr},
    (∀ number type, aggregate number type ∉ allNodes es) → allFilled results es = es
  | [], _ => rfl
  | e :: rest, plain => by
      rw [allFilled, filled_of_plain fun number type member =>
          plain number type (List.mem_append_left _ member),
        allFilled_of_plain fun number type member =>
          plain number type (List.mem_append_right _ member)]

end

end Regrouping

end Expr

/-- What a query without `WITH` lists in its subqueries computes over its grouped rows: the keys are
made of constants that are told apart and hold no aggregate calls, and all collected calls have
results. -/
theorem Sql.Term.regroup_gives {known : TableDef → Prop} {n : Names} {scope : Scope} {t : Sql.Term}
    {start calls : List CollectedCall} {keys : List Expr} {e e' : Expr} (sound : n.Sound known)
    (flat : t.isFlat) (collected : ∀ c ∈ start, n.Collects known [] scope c)
    (compiled : (t.compile n scope).run start = .ok (e, calls)) (grouped : scope.keys = some keys)
    (finished : scope.finish e = .ok e') (reads : e.within .reader)
    {constants : Value → SqlType → Prop} {functions : HostFunction → Prop}
    (told : Expr.ToldApart constants functions) (made : e.MadeOf constants functions)
    (madeKeys : ∀ key ∈ keys, key.MadeOf constants functions)
    (plain : ∀ key ∈ keys, ∀ number type, .aggregate number type ∉ key.nodes)
    {env : Env} {outer : List Row} {s : EvalState} {first keyValues results : Row}
    (values : Expr.KeysGive env outer s first keys keyValues)
    (width : results.length = calls.length) :
    (e'.eval env outer (keyValues ++ results)).run s =
      ((e.filled results).eval env outer first).run s := by
  obtain ⟨_, _, typed⟩ := Term.compile_gives sound flat collected e calls compiled
  have unseen : (n.around [] scope calls).inner = none := by
    simp [Names.around, Scope.seen, Scope.isGrouped, grouped]
  have rewritten : e.regroup keys = .ok e' := by
    rw [Scope.finish, grouped] at finished
    cases result : e.regroup keys <;> simp_all
  -- no subquery sees the row that it is computed over
  have hidden : ∀ index, ¬Seen.places (none :: n.seen []) 0 index := by simp [Seen.places]
  refine Expr.regroup_gives hidden values (fun node member => ?_) reads rewritten
  have typedNode := typed.nodes node member
  refine ⟨fun _ key there same => ?_, ?_, ?_⟩
  · obtain rfl := Expr.eq_of_same told (madeKeys key there) (made.nodes node member) same
    rw [Expr.filled_of_plain (plain key there)]
  · exact unseen ▸ typedNode.subqueryReads
  · rintro number type rfl
    obtain ⟨_, call, collected, _⟩ := typedNode
    exact width ▸ (List.getElem?_eq_some_iff.mp collected).1

end SqlEngine
