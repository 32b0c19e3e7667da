import SqlEngine.Proofs.Typing.Expressions
import SqlEngine.Query.Build

/-!
Expressions that are built in a scope are typed for it.

While the terms of a grouped query are built, aggregate calls are collected, and an expression refers
to them by their numbers. So what is said of an expression depends on the calls that were collected
so far; calls that are collected later change nothing about it.
-/

namespace SqlEngine

open Run (bind_ok)

namespace Scope

def types (s : Scope) : List SqlType := s.columns.map (·.type)

/-- The rows of a query; rows without columns are not read. -/
def read (s : Scope) : Seen := if s.columns.isEmpty then none else some s.types

/-- The rows of a query as its subqueries see them. -/
def seen (s : Scope) : Seen := if s.isGrouped then none else s.read

variable {s : Scope} {position : Nat} {c : Column}

theorem at_types (found : s.columns[position]? = some c) : SqlType.At s.types position c.type := by
  intro t there
  rw [Scope.types, List.getElem?_map, found] at there
  exact (Option.some.inj there).symm

theorem read_of_column (found : s.columns[position]? = some c) : s.read = some s.types := by
  unfold read
  split
  · rename_i none
    rw [List.isEmpty_iff.mp none] at found
    cases found
  · rfl

theorem narrows_read (s : Scope) : Seen.Narrows s.read (some s.types) := by
  unfold read
  split
  · exact Seen.Narrows.of_none
  · exact Seen.Narrows.refl

end Scope

/-- The plan gives rows with its columns, and it is that of a known table if it is a bare one. -/
def TypedPlan.Typed (known : TableDef → Prop) (outer : List Seen) (p : TypedPlan) : Prop :=
  p.plan.Typed known outer p.types ∧ ∀ d, p.bare = some d → known d ∧ p.types = d.types

namespace Names

/-- The rows of the enclosing queries. `beyond` are rows behind those that the names know. -/
def seen (n : Names) (beyond : List Seen) : List Seen := n.outer.map Scope.seen ++ beyond

/-- What an expression can read while it is built. -/
def around (n : Names) (beyond : List Seen) (s : Scope) (calls : List CollectedCall) :
    Surroundings where
  row := s.read
  inner := s.seen
  outer := n.seen beyond
  calls number type := s.isGrouped ∧ ∃ c, calls[number]? = some c ∧ c.1.type = type

/-- The tables that the names stand for are known, and named queries are typed, whatever rows
enclose them. -/
structure Sound (known : TableDef → Prop) (n : Names) : Prop where
  tables : ∀ name d, n.catalog.table name = .ok d → known d
  functions : n.catalog.functions = []
  bindings : ∀ name p, (name, .rows p) ∈ n.bindings → ∀ outer, p.Typed known outer

theorem Sound.bind {known : TableDef → Prop} {n : Names} {named : Named} (sound : n.Sound known)
    (typed : ∀ p, named = .rows p → ∀ outer, p.Typed known outer) (name : String) :
    (n.bind name named).Sound known := by
  refine ⟨sound.tables, sound.functions, ?_⟩
  intro other p member
  rcases List.mem_cons.mp member with first | later
  · exact typed p (Prod.mk.inj first).2.symm
  · exact sound.bindings other p later

/-- The calls that a query collects take their arguments, which are expressions over the rows before
they are grouped. -/
def Collects (known : TableDef → Prop) (n : Names) (beyond : List Seen) (s : Scope)
    (c : CollectedCall) : Prop :=
  c.1.Takes c.2.type ∧ c.2.Typed known (.upon (n.seen beyond) s.types)

variable {known : TableDef → Prop} {n : Names} {beyond : List Seen} {s : Scope}
  {calls more : List CollectedCall}

theorem Sound.within (sound : n.Sound known) (s : Scope) : (n.within s).Sound known :=
  ⟨sound.tables, sound.functions, sound.bindings⟩

theorem narrows_of_longer (grown : calls <+: more) :
    (n.around beyond s calls).Narrows (n.around beyond s more) where
  row := Seen.Narrows.refl
  inner := Seen.Narrows.refl
  outer := Seen.narrows_refl _
  calls := by
    rintro number type ⟨grouped, c, found, same⟩
    obtain ⟨rest, rfl⟩ := grown
    refine ⟨grouped, c, ?_, same⟩
    obtain ⟨inside, _⟩ := List.getElem?_eq_some_iff.mp found
    rw [List.getElem?_append_left inside, found]

/-- What is typed while some calls are collected is typed when there are more of them. -/
theorem grow {e : Expr} (typed : e.Typed known (n.around beyond s calls)) (grown : calls <+: more) :
    e.Typed known (n.around beyond s more) :=
  typed.narrow (narrows_of_longer grown)

/-- An expression over rows that are not grouped is complete. -/
theorem narrows_upon (plain : s.isGrouped = false) :
    (n.around beyond s calls).Narrows (.upon (n.seen beyond) s.types) where
  row := s.narrows_read
  inner := by
    have same : s.seen = s.read := by simp [Scope.seen, plain]
    rw [around, same]
    exact s.narrows_read
  outer := Seen.narrows_refl _
  calls := fun _ _ _ => trivial

end Names

/-! ### Columns -/

section Columns

variable {known : TableDef → Prop} {n : Names} {beyond : List Seen} {s : Scope}
  {calls : List CollectedCall} {table : Option String} {name : String} {e : Expr}

theorem Scope.find?_ok {position : Nat} {c : Column}
    (found : s.find? table name = .ok (some (position, c))) : s.columns[position]? = some c := by
  unfold Scope.find? at found
  split at found
  · cases found
  · rename_i only
    cases found
    have member : (c, position) ∈ s.columns.zipIdx :=
      List.mem_of_mem_filter (by rw [only]; exact List.mem_singleton.mpr rfl)
    simpa using List.mem_zipIdx_iff_getElem?.mp member
  · cases found

theorem Names.findOuter_ok : ∀ {scopes : List Scope} {levels : Nat},
    findOuter table name levels scopes = .ok (some e) →
      ∃ up index type scope, e = .outer (levels + up) index type ∧ scopes[up]? = some scope ∧
        scope.seen = some scope.types ∧ SqlType.At scope.types index type := by
  intro scopes
  induction scopes with
  | nil =>
      intro levels found
      cases found
  | cons scope rest ih =>
      intro levels found
      obtain ⟨column?, looked, found⟩ := bind_ok found
      cases column? with
      | none =>
          obtain ⟨up, index, type, other, same, there, seen, at_⟩ := ih found
          exact ⟨up + 1, index, type, other, by rw [same]; congr 1; omega, there, seen, at_⟩
      | some column =>
          obtain ⟨position, c⟩ := column
          dsimp only at found
          split at found
          · cases found
          · rename_i plain
            cases found
            have there := Scope.find?_ok looked
            have seen : scope.seen = some scope.types := by
              simpa [Scope.seen, plain] using Scope.read_of_column there
            exact ⟨0, position, c.type, scope, rfl, rfl, seen, Scope.at_types there⟩

theorem Names.resolve_typed (found : n.resolve s table name = .ok e) :
    e.Typed known (n.around beyond s calls) := by
  obtain ⟨column?, looked, found⟩ := bind_ok found
  cases column? with
  | some column =>
      obtain ⟨position, c⟩ := column
      cases found
      have there := Scope.find?_ok looked
      exact ⟨s.types, Scope.read_of_column there, Scope.at_types there⟩
  | none =>
      obtain ⟨outer?, enclosing, found⟩ := bind_ok found
      cases outer? with
      | none => cases found
      | some outer =>
          cases found
          obtain ⟨up, index, type, scope, rfl, there, seen, at_⟩ := findOuter_ok enclosing
          intro row reached
          have position : 1 + up - 1 = up := by omega
          have inside : up < (n.outer.map Scope.seen).length := by
            rw [List.length_map]
            exact (List.getElem?_eq_some_iff.mp there).1
          rw [position, Names.around, Names.seen, List.getElem?_append_left inside,
            List.getElem?_map, there] at reached
          refine ⟨scope.types, ?_, at_⟩
          cases reached
          exact seen

end Columns

/-! ### Expressions over groups -/

namespace Expr

theorem same_type {a b : Expr} (same : a.same b) (noCall : ∀ f args, a ≠ .call f args) :
    a.type = b.type := by
  cases a <;> cases b <;> simp only [Expr.same, Bool.and_eq_true, decide_eq_true_eq] at same <;>
    first
      | contradiction
      | exact same.2
      | exact absurd rfl (noCall _ _)

theorem Typed.ne_call {known : TableDef → Prop} {around : Surroundings} {e : Expr}
    (typed : e.Typed known around) (f : HostFunction) (args : List Expr) : e ≠ .call f args := by
  rintro rfl
  exact typed

variable {known : TableDef → Prop} {around : Surroundings} {keys : List Expr}
  {results : List SqlType}

/-- An expression that equals a key becomes a column of its type. -/
theorem at_key {e : Expr} {position : Nat}
    (found : (if e.isConstant then none else keys.findIdx? (same · e)) = some position)
    (noCalls : ∀ k ∈ keys, ∀ f args, k ≠ call f args) :
    SqlType.At (keys.map Expr.type ++ results) position e.type := by
  have found : keys.findIdx? (same · e) = some position := by
    split at found
    · cases found
    · exact found
  obtain ⟨inside, equal, _⟩ := List.findIdx?_eq_some_iff_getElem.mp found
  intro t there
  rw [List.getElem?_append_left (by simpa using inside), List.getElem?_map,
    List.getElem?_eq_getElem inside] at there
  cases there
  exact same_type equal (noCalls _ (List.getElem_mem inside))

/-- Subqueries do not read the rows of a grouped query. -/
theorem narrows_grouped (noInner : around.inner = none) (seen : Seen) :
    List.Forall₂ Seen.Narrows (around.inner :: around.outer) (seen :: around.outer) :=
  .cons (noInner ▸ Seen.Narrows.of_none) (Seen.narrows_refl _)

mutual

theorem Typed.regroup (noInner : around.inner = none)
    (collected : ∀ number type, around.calls number type → results[number]? = some type)
    (noCalls : ∀ k ∈ keys, ∀ f args, k ≠ call f args) : ∀ {e grouped : Expr},
      e.Typed known around → e.regroup keys = .ok grouped →
        Of known (.upon around.outer (keys.map Expr.type ++ results)) e.type grouped := by
  intro e grouped typed given
  unfold Expr.regroup at given
  split at given
  · rename_i position found
    cases given
    exact ⟨⟨_, rfl, at_key found noCalls⟩, rfl⟩
  · cases e with
    | constant v type =>
        cases given
        exact ⟨typed, rfl⟩
    | column index type => cases given
    | outer levels index type =>
        cases given
        exact ⟨typed, rfl⟩
    | aggregate number type =>
        cases given
        refine ⟨⟨_, rfl, fun t there => ?_⟩, rfl⟩
        have position : (keys.map Expr.type ++ results)[keys.length + number]? = some type := by
          rw [List.getElem?_append_right (by simp), List.length_map, Nat.add_sub_cancel_left]
          exact collected number type typed
        exact Option.some.inj (there.symm.trans position)
    | apply op args type =>
        obtain ⟨each, accepted⟩ := typed
        obtain ⟨groupedArgs, regrouped, rfl⟩ := Run.map_ok given
        obtain ⟨groupedEach, same⟩ := AllTyped.regroup noInner collected noCalls each regrouped
        exact ⟨⟨groupedEach, same ▸ accepted⟩, rfl⟩
    | call f args => exact typed.elim
    | scalar query type =>
        cases given
        obtain ⟨types, query⟩ := typed
        exact ⟨⟨types, query.narrow (narrows_grouped noInner _)⟩, rfl⟩
    | hasRows query negated =>
        cases given
        obtain ⟨types, query⟩ := typed
        exact ⟨⟨types, query.narrow (narrows_grouped noInner _)⟩, rfl⟩
    | among arg query negated type =>
        obtain ⟨argTyped, types, query⟩ := typed
        obtain ⟨groupedArg, regrouped, rfl⟩ := Run.map_ok given
        obtain ⟨argGrouped, _⟩ := Typed.regroup noInner collected noCalls argTyped regrouped
        exact ⟨⟨argGrouped, types, query.narrow (narrows_grouped noInner _)⟩, rfl⟩

theorem AllTyped.regroup (noInner : around.inner = none)
    (collected : ∀ number type, around.calls number type → results[number]? = some type)
    (noCalls : ∀ k ∈ keys, ∀ f args, k ≠ call f args) : ∀ {es grouped : List Expr},
      AllTyped known around es → regroupAll keys es = .ok grouped →
        AllTyped known (.upon around.outer (keys.map Expr.type ++ results)) grouped ∧
          grouped.map Expr.type = es.map Expr.type := by
  intro es grouped typed given
  cases es with
  | nil =>
      cases given
      exact ⟨trivial, rfl⟩
  | cons e rest =>
      rw [Expr.regroupAll] at given
      obtain ⟨first, one, given⟩ := bind_ok given
      obtain ⟨others, more, given⟩ := bind_ok given
      cases given
      obtain ⟨firstTyped, same⟩ := Typed.regroup noInner collected noCalls typed.1 one
      obtain ⟨othersTyped, sameToo⟩ := AllTyped.regroup noInner collected noCalls typed.2 more
      exact ⟨⟨firstTyped, othersTyped⟩, by rw [List.map_cons, List.map_cons, same, sameToo]⟩

end

end Expr

section Finish

variable {known : TableDef → Prop} {n : Names} {beyond : List Seen} {s : Scope}
  {calls : List CollectedCall} {e built : Expr}

/-- The columns of the rows over which the complete expressions of a query are evaluated. -/
def Scope.finished (s : Scope) (calls : List CollectedCall) : List SqlType :=
  match s.keys with
  | none => s.types
  | some keys => keys.map Expr.type ++ calls.map (·.1.type)

/-- The expression is typed over the rows of the query, however many calls are still collected. -/
def Names.Complete (known : TableDef → Prop) (n : Names) (beyond : List Seen) (s : Scope)
    (calls : List CollectedCall) (e : Expr) : Prop :=
  ∀ more, calls <+: more → e.Typed known (.upon (n.seen beyond) (s.finished more))

theorem Names.Complete.grow {more : List CollectedCall}
    (complete : n.Complete known beyond s calls e) (grown : calls <+: more) :
    n.Complete known beyond s more e :=
  fun _ further => complete _ (grown.trans further)

/-- The keys of a grouped query are typed over the rows before they are grouped. -/
def Names.Keyed (known : TableDef → Prop) (n : Names) (beyond : List Seen) (s : Scope) : Prop :=
  ∀ keys, s.keys = some keys → ∀ k ∈ keys, k.Typed known (.upon (n.seen beyond) s.types)

theorem Scope.finish_complete (keyed : n.Keyed known beyond s)
    (typed : e.Typed known (n.around beyond s calls)) (given : s.finish e = .ok built) :
    n.Complete known beyond s calls built := by
  intro more grown
  have typed := n.grow typed grown
  unfold Scope.finish at given
  split at given
  · rename_i plain
    cases given
    have types : s.finished more = s.types := by simp only [Scope.finished, plain]
    rw [types]
    exact typed.narrow (n.narrows_upon (by simp [Scope.isGrouped, plain]))
  · rename_i keys grouped
    have seen : s.seen = none := by simp [Scope.seen, Scope.isGrouped, grouped]
    have types : s.finished more = keys.map Expr.type ++ more.map (·.1.type) := by
      simp only [Scope.finished, grouped]
    rw [types]
    split at given
    · rename_i regrouped
      cases given
      refine (typed.regroup seen ?_ ?_ regrouped).1
      · rintro number type ⟨_, c, found, rfl⟩
        rw [List.getElem?_map, found]
        rfl
      · exact fun k member => Expr.Typed.ne_call (keyed keys grouped k member)
    · cases given

end Finish

/-! ### Collecting calls -/

namespace Build

variable {α β : Type} {good : CollectedCall → Prop} {start : List CollectedCall}

/-- Started with good calls, the build ends with good calls that continue them, and its result goes
with the calls at its end. -/
def Gives (good : CollectedCall → Prop) (start : List CollectedCall)
    (result : List CollectedCall → α → Prop) (b : Build α) : Prop :=
  (∀ c ∈ start, good c) → ∀ a after, b.run start = .ok (a, after) →
    (∀ c ∈ after, good c) ∧ start <+: after ∧ result after a

variable {result : List CollectedCall → α → Prop} {final : List CollectedCall → β → Prop}

theorem Gives.pure {a : α} (given : result start a) : Gives good start result (pure a) := by
  intro held b after ran
  cases ran
  exact ⟨held, List.prefix_refl _, given⟩

theorem Gives.throw (e : SqlError) : Gives good start result (throw e) := by
  intro _ _ _ ran
  cases ran

theorem Gives.lift {x : Except SqlError α} (given : ∀ a, x = .ok a → result start a) :
    Gives good start result (liftM x) := by
  intro held a after ran
  cases x with
  | error e => cases ran
  | ok b =>
      cases ran
      exact ⟨held, List.prefix_refl _, given _ rfl⟩

theorem Gives.bind {b : Build α} {f : α → Build β} (first : Gives good start result b)
    (next : ∀ a mid, start <+: mid → result mid a → Gives good mid final (f a)) :
    Gives good start final (b >>= f) := by
  intro held c after ran
  rw [StateT.run_bind] at ran
  obtain ⟨⟨a, mid⟩, ranFirst, ran⟩ := bind_ok ran
  obtain ⟨goodMid, grown, given⟩ := first held a mid ranFirst
  obtain ⟨goodAfter, more, last⟩ := next a mid grown given goodMid c after ran
  exact ⟨goodAfter, grown.trans more, last⟩

theorem Gives.mono {b : Build α} {weaker : List CollectedCall → α → Prop}
    (gives : Gives good start result b) (implies : ∀ calls a, result calls a → weaker calls a) :
    Gives good start weaker b := by
  intro held a after ran
  obtain ⟨goodAfter, grown, given⟩ := gives held a after ran
  exact ⟨goodAfter, grown, implies after a given⟩

/-- A part in front of a build that collects no calls. -/
theorem Gives.lift_bind {x : Except SqlError α} {f : α → Build β}
    (next : ∀ a, x = .ok a → Gives good start final (f a)) :
    Gives good start final (liftM x >>= f) := by
  intro held b after ran
  rw [StateT.run_bind] at ran
  cases x with
  | error e => cases ran
  | ok a => exact next a rfl held b after ran

theorem Gives.alone {b : Build α} {a : α} (gives : Gives good [] result b)
    (built : Build.alone b = .ok a) : ∃ calls, result calls a := by
  obtain ⟨⟨_, after⟩, ran, built⟩ := bind_ok built
  cases built
  exact ⟨after, (gives (by simp) _ after ran).2.2⟩

/-- Results that stay good when calls are added. -/
theorem Gives.mapM {f : α → Build β} (grow : ∀ calls more b, final calls b → calls <+: more →
      final more b) : ∀ {items : List α} {start : List CollectedCall},
    (∀ a ∈ items, ∀ later, start <+: later → Gives good later final (f a)) →
      Gives good start (fun calls images => ∀ b ∈ images, final calls b) (items.mapM f) := by
  intro items
  induction items with
  | nil =>
      intro start _
      rw [List.mapM_nil]
      exact Gives.pure (by simp)
  | cons a rest ih =>
      intro start each
      obtain ⟨first, others⟩ := List.forall_mem_cons.mp each
      rw [List.mapM_cons]
      refine (first start (List.prefix_refl _)).bind fun b mid begun one => ?_
      have remaining := ih fun c member later grown => others c member later (begun.trans grown)
      refine remaining.bind fun bs after grown more => ?_
      exact Gives.pure (List.forall_mem_cons.mpr ⟨grow _ _ _ one grown, more⟩)

theorem Gives.optionMapM {f : α → Build β} {a? : Option α}
    (each : ∀ a ∈ a?, Gives good start final (f a)) :
    Gives good start (fun calls image => ∀ b ∈ image, final calls b) (a?.mapM f) := by
  cases a? with
  | none => exact Gives.pure (by simp)
  | some a =>
      refine (each a rfl).bind fun b _ _ given => Gives.pure ?_
      rintro _ ⟨⟩
      exact given

end Build

end SqlEngine
