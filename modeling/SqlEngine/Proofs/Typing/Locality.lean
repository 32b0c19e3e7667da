import SqlEngine.Proofs.Evaluation.Parallel
import SqlEngine.Proofs.Typing.Compilation

/-!
Queries read the rows of the queries that enclose them, and no others.

A plan that is typed reads no row of which nothing is known. The plan of a query is typed whatever
lies beyond the queries that enclose it, and so nothing beyond is read: if more queries come to
enclose it, farther out, its rows stay the same.
-/

namespace SqlEngine

open Run (Alike bind_ok)

/-- The places of the rows that are known, or are not there at all. -/
def Seen.places (outer : List Seen) : Places := fun level _ => outer[level]? ≠ some none

theorem Seen.places_cons (types : List SqlType) (outer : List Seen) :
    Seen.places (some types :: outer) = (Seen.places outer).beneath := by
  funext level index
  cases level with
  | zero => simp [Seen.places, Places.beneath]
  | succ level => rfl

mutual

theorem Expr.Typed.readsOnly {known : TableDef → Prop} {outer : List Seen} {row : List SqlType} :
    ∀ {e : Expr}, e.Typed known (.upon outer row) → e.ReadsOnly (Seen.places outer).beneath
  | .constant _ _, _ => trivial
  | .column _ _, _ => trivial
  | .outer levels index type, typed => by
      cases levels with
      | zero => exact Or.inl rfl
      | succ level =>
          refine Or.inr fun unknown => ?_
          obtain ⟨types, read, _⟩ := typed none unknown
          cases read
  | .aggregate _ _, _ => trivial
  | .apply _ _ _, ⟨args, _⟩ => Expr.AllTyped.readsOnly args
  | .scalar query _, ⟨_, typed⟩ => Seen.places_cons row outer ▸ typed.readsOnly
  | .hasRows query _, ⟨_, typed⟩ => Seen.places_cons row outer ▸ typed.readsOnly
  | .among arg query _ _, ⟨left, _, typed⟩ =>
      ⟨left.readsOnly, Seen.places_cons row outer ▸ typed.readsOnly⟩

theorem Expr.AllTyped.readsOnly {known : TableDef → Prop} {outer : List Seen} {row : List SqlType} :
    ∀ {es : List Expr}, Expr.AllTyped known (.upon outer row) es →
      Expr.AllReadOnly (Seen.places outer).beneath es
  | [], _ => trivial
  | _ :: _, ⟨first, rest⟩ => ⟨first.readsOnly, Expr.AllTyped.readsOnly rest⟩

theorem Plan.Typed.readsOnly {known : TableDef → Prop} {outer : List Seen} :
    ∀ {p : Plan} {types : List SqlType}, p.Typed known outer types →
      p.ReadsOnly (Seen.places outer)
  | .values _, _, typed => Plan.RowsTyped.readsOnly typed
  | .fixed _, _, _ => trivial
  | .scan _, _, _ => trivial
  | .filter _ _, _, ⟨source, condition⟩ => ⟨source.readsOnly, condition.readsOnly⟩
  | .project _ _, _, ⟨_, source, items, _⟩ => ⟨source.readsOnly, Expr.AllTyped.readsOnly items⟩
  | .join _ _ _ _ _ _, _, ⟨_, _, left, right, _, _, _, condition⟩ =>
      ⟨left.readsOnly, right.readsOnly, condition.readsOnly⟩
  | .lookupJoin _ _ _ _ _ _, _, ⟨_, left, _, key, _, condition⟩ =>
      ⟨left.readsOnly, key.readsOnly, condition.readsOnly⟩
  | .group _ _ _ _, _, ⟨_, source, keys, args, _, _⟩ =>
      ⟨source.readsOnly, Expr.AllTyped.readsOnly keys, Expr.AllTyped.readsOnly args⟩
  | .order _ _ _, _, ⟨source, keys⟩ => ⟨source.readsOnly, Expr.AllTyped.readsOnly keys⟩
  | .distinct source _, _, typed => Plan.Typed.readsOnly (p := source) typed
  | .distinctOn _ _, _, ⟨source, keys⟩ => ⟨source.readsOnly, Expr.AllTyped.readsOnly keys⟩
  | .limit source _ _, _, typed => Plan.Typed.readsOnly (p := source) typed
  | .union _ _ _ _, _, ⟨left, right⟩ => ⟨left.readsOnly, right.readsOnly⟩

theorem Plan.RowsTyped.readsOnly {known : TableDef → Prop} {outer : List Seen} :
    ∀ {rows : List (List Expr)} {types : List SqlType}, Plan.RowsTyped known outer rows types →
      Expr.ListsReadOnly (Seen.places outer).beneath rows
  | [], _, _ => trivial
  | _ :: _, _, ⟨row, _, rest⟩ => ⟨Expr.AllTyped.readsOnly row, Plan.RowsTyped.readsOnly rest⟩

end

/-! ### Rows that come to enclose a query -/

/-- Stacks that begin alike show the same where rows behind the beginning are not known. -/
theorem Seen.same_of_append {seen : List Seen} {near : List Row}
    (aligned : near.length = seen.length) (far other : List Row) :
    (Seen.places (seen ++ List.replicate (far.length + other.length) none)).Same
      (near ++ far) (near ++ other) := by
  intro level index known
  refine Or.inl ?_
  by_cases inside : level < near.length
  · rw [List.getElem?_append_left inside, List.getElem?_append_left inside]
  · -- a place that is known behind the beginning is behind both stacks
    have past : seen.length ≤ level := by omega
    have beyond : far.length + other.length ≤ level - seen.length := by
      by_contra within
      refine known ?_
      rw [List.getElem?_append_right past, List.getElem?_replicate_of_lt (by omega)]
    rw [List.getElem?_eq_none (by rw [List.length_append]; omega),
      List.getElem?_eq_none (by rw [List.length_append]; omega)]

theorem Rows.Alike.eq {rows others : Rows} (alike : Rows.Alike Eq rows others) : rows = others := by
  induction alike with
  | done same => rw [same]
  | fail e same => rw [same]
  | next row same _ ih =>
      rw [same]
      congr
      funext s
      exact ih s s rfl

theorem Eval.parallel_same (env : Env) : Eval.Parallel .everything env env Eq where
  catalog := rfl
  tables _ _ := by
    rintro s _ rfl
    rfl
  calls _ _ _ _ := by
    rintro s _ rfl
    exact ⟨rfl, rfl⟩

namespace Sql

variable {known : TableDef → Prop} {query : Query} {n : Names} {inside : Bool} {p : TypedPlan}

/-- The rows of a query depend on the rows of the queries that enclosed it when it was planned, and
not on rows farther out. -/
theorem Query.plan_local (sound : n.Sound known) (alone : inside = false → n.outer = [])
    (flat : query.isFlat inside) (planned : query.plan n = .ok p) (env : Env) {near : List Row}
    (aligned : near.length = n.outer.length) (far other : List Row) :
    p.plan.cursor env (near ++ far) = p.plan.cursor env (near ++ other) := by
  obtain ⟨typed, _⟩ := query.plan_typed (List.replicate (far.length + other.length) none) sound alone
    flat planned
  have shown : near.length = (n.outer.map Scope.seen).length := by rw [List.length_map, aligned]
  have same := Seen.same_of_append shown far other
  funext s
  exact (p.plan.cursor_local (Eval.parallel_same env) same p.plan.within_everything
    typed.readsOnly s s rfl).eq

/-- A query that no query encloses gives the same rows wherever its plan is used, as the queries in
the `WITH` list of a statement are. -/
theorem Query.plan_anywhere (sound : n.Sound known) (top : n.outer = []) (flat : query.isFlat inside)
    (planned : query.plan n = .ok p) (env : Env) (s t : List Row) :
    p.plan.cursor env s = p.plan.cursor env t := by
  have none : ([] : List Row).length = n.outer.length := by rw [top]; rfl
  exact query.plan_local sound (fun _ => top) flat planned env none s t

end Sql

/-! ### Names -/

namespace Names

variable {n : Names} {s : Scope} {scopes : List Scope} {table : Option String} {name : String}
  {e : Expr}

/-- The nearest of some scopes that knows a name, and the column that the name stands for there. -/
structure Nearest (scopes : List Scope) (table : Option String) (name : String)
    (level position : Nat) (c : Column) : Prop where
  found : ∃ s, scopes[level]? = some s ∧ s.find? table name = .ok (some (position, c))
  nearer : ∀ l < level, ∀ s, scopes[l]? = some s → s.find? table name = .ok none

theorem Nearest.cons {level position : Nat} {c : Column}
    (nearest : Nearest scopes table name level position c) (unknown : s.find? table name = .ok none) :
    Nearest (s :: scopes) table name (level + 1) position c := by
  refine ⟨nearest.found, ?_⟩
  intro l below scope there
  cases l with
  | zero => exact Option.some.inj there ▸ unknown
  | succ l => exact nearest.nearer l (by omega) scope there

theorem findOuter_nearest : ∀ {scopes : List Scope} {levels : Nat},
    findOuter table name levels scopes = .ok (some e) → ∃ level position c,
      e = .outer (levels + level) position c.type ∧ Nearest scopes table name level position c := by
  intro scopes
  induction scopes with
  | nil =>
      intro levels given
      cases given
  | cons s rest ih =>
      intro levels given
      obtain ⟨answer, asked, given⟩ := bind_ok given
      cases answer with
      | none =>
          obtain ⟨level, position, c, rfl, nearest⟩ := ih given
          exact ⟨level + 1, position, c, by rw [Nat.add_assoc, Nat.add_comm 1], nearest.cons asked⟩
      | some found =>
          obtain ⟨position, c⟩ := found
          dsimp only at given
          split at given
          · cases given
          · cases given
            exact ⟨0, position, c, rfl, ⟨s, rfl, asked⟩, fun _ below => absurd below (by omega)⟩

/-- A name is read from the row of the nearest query that knows it. -/
theorem resolve_reads (given : n.resolve s table name = .ok e) : ∃ level position c,
    Nearest (s :: n.outer) table name level position c ∧ ∀ env row outer v,
      ((row :: outer)[level]?).bind (·[position]?) = some v → e.eval env outer row = pure v := by
  obtain ⟨answer, asked, given⟩ := bind_ok given
  cases answer with
  | some found =>
      obtain ⟨position, c⟩ := found
      cases given
      refine ⟨0, position, c, ⟨⟨s, rfl, asked⟩, fun _ below => absurd below (by omega)⟩, ?_⟩
      intro env row outer v shown
      have shown : row[position]? = some v := shown
      rw [Expr.eval, shown]
  | none =>
      obtain ⟨answer, searched, given⟩ := bind_ok given
      cases answer with
      | none => cases given
      | some e =>
          cases given
          obtain ⟨level, position, c, rfl, nearest⟩ := findOuter_nearest searched
          refine ⟨level + 1, position, c, nearest.cons asked, ?_⟩
          intro env row outer v shown
          have shown : (outer[level]?).bind (·[position]?) = some v := shown
          rw [Expr.eval, if_neg (by omega), Nat.add_sub_cancel_left, shown]

end Names

end SqlEngine
