import SqlEngine.Proofs.Typing.Terms

/-!
The plans of selects are typed when their terms and their sources are.
-/

namespace SqlEngine

open Run (bind_ok mapM_ok)
open Build (Gives)

namespace TypedPlan

variable {known : TableDef → Prop} {outer : List Seen} {p : TypedPlan}

theorem typed_of_types {types : List SqlType} (typed : p.plan.Typed known outer types)
    (same : p.types = types) (notBare : p.bare = none) : p.Typed known outer :=
  ⟨same ▸ typed, by simp [notBare]⟩

theorem types_project (items : List (String × Expr)) :
    (p.project items).types = (items.map (·.2)).map Expr.type := by
  simp [TypedPlan.types, TypedPlan.project, Column.visible, Function.comp_def]

theorem project_typed {row : List SqlType} {items : List (String × Expr)}
    (source : p.plan.Typed known outer row)
    (each : ∀ item ∈ items, item.2.Typed known (.upon outer row)) :
    (p.project items).Typed known outer := by
  refine ⟨⟨row, source, Expr.allTyped_iff.mpr ?_, types_project items⟩, by simp [project]⟩
  intro e member
  obtain ⟨item, there, rfl⟩ := List.mem_map.mp member
  exact each item there

theorem types_zipWith {table : Option String} {names : List String} {types : List SqlType}
    (enough : types.length ≤ names.length) :
    (List.zipWith (Column.visible table) names types).map (·.type) = types := by
  rw [List.map_zipWith]
  induction types generalizing names with
  | nil => simp
  | cons type rest ih =>
      cases names with
      | nil => simp at enough
      | cons name names =>
          rw [List.zipWith_cons_cons, ih (by simpa using enough)]
          rfl

theorem named_typed {named : TypedPlan} {table : String} {names : List String}
    (given : p.named table names = .ok named) (typed : p.Typed known outer) :
    named.Typed known outer := by
  unfold TypedPlan.named at given
  split at given
  · cases given
  · rename_i enough
    cases given
    have types : (List.zipWith (Column.visible (some table))
        (names ++ (p.columns.map (·.name)).drop names.length) p.types).map (·.type) = p.types := by
      apply types_zipWith
      simp only [TypedPlan.types, List.length_map, List.length_append, List.length_drop]
      omega
    exact typed_of_types typed.1 types rfl

theorem scan_typed {d : TableDef} {knownAs : Option String} (held : known d) :
    (scan d knownAs).Typed known outer := by
  have types : (scan d knownAs).types = d.types := by
    simp [TypedPlan.types, scan, TableDef.types, Column.visible, Function.comp_def]
  exact ⟨⟨held, types⟩, fun _ given => Option.some.inj given ▸ ⟨held, types⟩⟩

theorem unit_typed : unit.Typed known outer := ⟨⟨trivial, rfl, trivial⟩, by simp [unit]⟩

end TypedPlan

section Names

variable {known : TableDef → Prop} {n : Names} {beyond : List Seen} {s : Scope}
  {calls start : List CollectedCall} {e built : Expr}

/-- Over rows that are not grouped, a complete expression does not depend on calls. -/
theorem Names.Complete.plain (complete : n.Complete known beyond s calls e)
    (plain : s.keys = none) : e.Typed known (.upon (n.seen beyond) s.types) := by
  have typed := complete calls (List.prefix_refl _)
  rwa [Scope.finished, plain] at typed

theorem Names.Keyed.plain (plain : s.keys = none) : n.Keyed known beyond s := by
  intro keys grouped
  rw [plain] at grouped
  cases grouped

/-- The term builds a typed expression in every scope. -/
def Pending.Sound (known : TableDef → Prop) (n : Names) (beyond : List Seen) (p : Pending) : Prop :=
  ∀ s start, Gives (n.Collects known beyond s) start (Build.Part known n beyond s) (p.compile s)

namespace Pending

variable {p : Pending}

theorem Sound.build (sound : p.Sound known n beyond) (keyed : n.Keyed known beyond s) :
    Gives (n.Collects known beyond s) start (n.Complete known beyond s) (p.build s) :=
  (sound s start).bind fun _ _ _ typed => Gives.lift fun _ => Scope.finish_complete keyed typed

theorem Sound.condition (sound : p.Sound known n beyond) (keyed : n.Keyed known beyond s) :
    Gives (n.Collects known beyond s) start (n.Complete known beyond s) (p.condition n s) :=
  (sound.build keyed).bind fun _ _ _ complete => Gives.lift fun _ given more grown =>
    Expr.condition_typed given (complete more grown)

/-- A term that is built apart from others is complete over the rows as they are. -/
theorem Sound.alone (sound : p.Sound known n beyond) (plain : s.keys = none)
    (given : Build.alone (p.build s) = .ok built) :
    built.Typed known (.upon (n.seen beyond) s.types) := by
  obtain ⟨calls, complete⟩ := (sound.build (.plain plain)).alone given
  exact complete.plain plain

theorem Sound.alone_condition (sound : p.Sound known n beyond) (plain : s.keys = none)
    (given : Build.alone (p.condition n s) = .ok built) :
    built.Typed known (.upon (n.seen beyond) s.types) := by
  obtain ⟨calls, complete⟩ := (sound.condition (.plain plain)).alone given
  exact complete.plain plain

end Pending

end Names

namespace Select

variable {known : TableDef → Prop} {n : Names} {beyond : List Seen} {s : Scope}
  {calls start : List CollectedCall} {e built : Expr}

/-- All outputs are complete expressions. -/
abbrev Completed (known : TableDef → Prop) (n : Names) (beyond : List Seen) (s : Scope)
    (calls : List CollectedCall) (outputs : Outputs) : Prop :=
  ∀ output ∈ outputs, n.Complete known beyond s calls output.2

def ItemSound (known : TableDef → Prop) (n : Names) (beyond : List Seen) : PendingItem → Prop
  | .term p _ => p.Sound known n beyond
  | _ => True

theorem star_ok {table : Option String} {position : Nat} {c : Column}
    (member : (position, c) ∈ s.star table) : s.columns[position]? = some c := by
  obtain ⟨⟨c', position'⟩, kept, same⟩ := List.mem_map.mp member
  cases same
  simpa using List.mem_zipIdx_iff_getElem?.mp (List.mem_of_mem_filter kept)

theorem column_gives (keyed : n.Keyed known beyond s) {table : Option String}
    {column : Nat × Column} (member : column ∈ s.star table) :
    Gives (n.Collects known beyond s) start
      (fun calls output => n.Complete known beyond s calls output.2)
      (do return (some column.2.name, ← s.finish (.column column.1 column.2.type)) :
        Build (Option String × Expr)) := by
  refine Gives.lift_bind fun e given => Gives.pure ?_
  have typed : (Expr.column column.1 column.2.type).Typed known (n.around beyond s start) :=
    ⟨s.types, Scope.read_of_column (star_ok member), Scope.at_types (star_ok member)⟩
  exact Scope.finish_complete keyed typed given

theorem itemOutputs_gives (keyed : n.Keyed known beyond s) {item : PendingItem}
    (sound : ItemSound known n beyond item) :
    Gives (n.Collects known beyond s) start
      (fun calls outputs => ∀ output ∈ outputs, n.Complete known beyond s calls output.2)
      (itemOutputs s item) := by
  have columns : ∀ table, Gives (n.Collects known beyond s) start
      (fun calls (outputs : List (Option String × Expr)) =>
        ∀ output ∈ outputs, n.Complete known beyond s calls output.2)
      ((s.star table).mapM fun e => do
        return (some e.2.name, ← s.finish (.column e.1 e.2.type))) := by
    intro table
    refine Gives.mapM (fun _ _ _ complete grown => complete.grow grown) ?_
    exact fun column member _ _ => column_gives keyed member
  cases item with
  | term p knownAs =>
      refine (sound.build keyed).bind fun e _ _ complete => Gives.pure ?_
      exact List.forall_mem_singleton.mpr complete
  | star => exact columns none
  | tableStar table =>
      simp only [itemOutputs]
      split
      · exact Gives.throw _
      · exact columns _

theorem outputs_give (keyed : n.Keyed known beyond s) {items : List PendingItem}
    (sound : ∀ item ∈ items, ItemSound known n beyond item) :
    Gives (n.Collects known beyond s) start (Completed known n beyond s) (outputs s items) := by
  have lists : Gives (n.Collects known beyond s) start
      (fun calls (lists : List (List (Option String × Expr))) =>
        ∀ list ∈ lists, ∀ output ∈ list, n.Complete known beyond s calls output.2)
      (items.mapM (itemOutputs s)) :=
    Gives.mapM (fun _ _ _ complete grown output member => (complete output member).grow grown)
      fun item member _ _ => itemOutputs_gives keyed (sound item member)
  refine lists.bind fun suggested _ _ complete => Gives.pure ?_
  intro output member
  obtain ⟨entry, there, same⟩ := List.mem_map.mp (List.of_mem_zip member).2
  obtain ⟨list, listed, inside⟩ := List.mem_flatten.mp there
  exact same ▸ complete list listed entry inside

/-! ### Keys -/

theorem reference?_ok {outputs : Outputs} {term : Sql.Term}
    (given : reference? outputs term = .ok (some e)) : ∃ name, (name, e) ∈ outputs := by
  obtain ⟨position?, _, given⟩ := bind_ok given
  cases position? with
  | some position =>
      dsimp only at given
      split at given
      · rename_i name output found
        cases given
        exact ⟨name, List.mem_of_getElem? found⟩
      · cases given
  | none =>
      dsimp only at given
      split at given
      · split at given
        · cases given
        · rename_i named
          split at given <;> cases given
          exact ⟨_, List.mem_of_mem_filter (named ▸ List.mem_cons_self)⟩
      · cases given

theorem key_gives (keyed : n.Keyed known beyond s) {outputs : Outputs} {p : Pending}
    (sound : p.Sound known n beyond) (complete : Completed known n beyond s start outputs) :
    Gives (n.Collects known beyond s) start (n.Complete known beyond s) (key s outputs p) := by
  refine Gives.lift_bind fun reference found => ?_
  cases reference with
  | some e =>
      obtain ⟨name, member⟩ := reference?_ok found
      exact Gives.pure (complete _ member)
  | none => exact sound.build keyed

theorem itemAt_ok {items : List PendingItem} {position : Nat} {p : Pending}
    (sound : ∀ item ∈ items, ItemSound known n beyond item)
    (found : itemAt items position = .ok p) : p.Sound known n beyond := by
  unfold itemAt at found
  split at found
  · rename_i there
    cases found
    exact sound _ (List.mem_of_getElem? there)
  · cases found

theorem itemNamed?_ok {items : List PendingItem} {name : String} {p : Pending}
    (sound : ∀ item ∈ items, ItemSound known n beyond item)
    (found : itemNamed? items name = some p) : p.Sound known n beyond := by
  obtain ⟨item, member, found⟩ := List.exists_of_findSome?_eq_some found
  split at found
  · split at found <;> cases found
    exact sound _ member
  · cases found

theorem groupKey_typed {items : List PendingItem} {p : Pending} (plain : s.keys = none)
    (sound : ∀ item ∈ items, ItemSound known n beyond item) (termSound : p.Sound known n beyond)
    (given : groupKey s items p = .ok built) :
    built.Typed known (.upon (n.seen beyond) s.types) := by
  obtain ⟨position?, _, given⟩ := bind_ok given
  cases position? with
  | some position =>
      obtain ⟨item, found, given⟩ := bind_ok given
      exact (itemAt_ok sound found).alone plain given
  | none =>
      dsimp only at given
      split at given
      · split at given
        · rename_i item found
          exact (itemNamed?_ok sound found).alone plain given
        · cases given
      · exact termSound.alone plain given

/-! ### Plans -/

namespace Parts

structure Sound (known : TableDef → Prop) (n : Names) (beyond : List Seen) (p : Parts) : Prop where
  distinctOn : ∀ keys ∈ p.distinctOn, ∀ k ∈ keys, k.Sound known n beyond
  items : ∀ item ∈ p.items, ItemSound known n beyond item
  source : ∀ source, p.source = .ok source → source.Typed known (n.seen beyond)
  condition : ∀ c ∈ p.condition, c.Sound known n beyond
  groupBy : ∀ keys ∈ p.groupBy, ∀ k ∈ keys, k.Sound known n beyond
  having : ∀ c ∈ p.having, c.Sound known n beyond
  orderBy : ∀ k ∈ p.orderBy, k.pending.Sound known n beyond

variable {p : Parts} {source : Plan} {types : List SqlType} {outputs : Outputs}

theorem keys_give (keyed : n.Keyed known beyond s) {keys : List Pending}
    (sound : ∀ k ∈ keys, k.Sound known n beyond)
    (complete : Completed known n beyond s start outputs) :
    Gives (n.Collects known beyond s) start
      (fun calls built => ∀ e ∈ built, n.Complete known beyond s calls e)
      (keys.mapM (key s outputs)) :=
  Gives.mapM (fun _ _ _ complete grown => complete.grow grown) fun k member _ grown =>
    key_gives keyed (sound k member) fun output there => (complete output there).grow grown

theorem orderKeys_give (keyed : n.Keyed known beyond s) (sound : p.Sound known n beyond)
    (complete : Completed known n beyond s start outputs) :
    Gives (n.Collects known beyond s) start
      (fun calls built => ∀ e ∈ built, n.Complete known beyond s calls e)
      (p.orderBy.mapM fun k => key s outputs k.pending) :=
  Gives.mapM (fun _ _ _ complete grown => complete.grow grown) fun k member _ grown =>
    key_gives keyed (sound.orderBy k member) fun output there => (complete output there).grow grown

theorem output_typed (typed : source.Typed known (n.seen beyond) types)
    (each : ∀ output ∈ outputs, output.2.Typed known (.upon (n.seen beyond) types)) :
    (p.output source outputs).Typed known (n.seen beyond) := by
  have projected : (TypedPlan.project ⟨source, [], none⟩ outputs).Typed known (n.seen beyond) :=
    TypedPlan.project_typed typed each
  unfold Parts.output
  dsimp only
  split
  · exact ⟨projected.1, by simp [TypedPlan.project]⟩
  · exact projected

theorem firstRows_give (plain : s.keys = none) (sound : p.Sound known n beyond)
    (typed : source.Typed known (n.seen beyond) s.types)
    (complete : Completed known n beyond s start outputs) :
    Gives (n.Collects known beyond s) start (fun _ plan => plan.Typed known (n.seen beyond) s.types)
      (p.firstRows s outputs source) := by
  unfold Parts.firstRows
  split
  · exact Gives.pure typed
  · rename_i keys asked
    refine (keys_give (.plain plain) (sound.distinctOn keys asked) complete).bind
      fun built _ _ each => Gives.pure ⟨typed, Expr.allTyped_iff.mpr ?_⟩
    exact fun e member => (each e member).plain plain

theorem ordered_gives (plain : s.keys = none) (sound : p.Sound known n beyond)
    (typed : source.Typed known (n.seen beyond) s.types)
    (complete : Completed known n beyond s start outputs) :
    Gives (n.Collects known beyond s) start (fun _ plan => plan.Typed known (n.seen beyond) s.types)
      (p.ordered s outputs source) := by
  unfold Parts.ordered
  split
  · exact Gives.pure typed
  · refine (orderKeys_give (.plain plain) sound complete).bind
      fun built _ _ each => Gives.pure ⟨typed, Expr.allTyped_iff.mpr ?_⟩
    exact fun e member => (each e member).plain plain

theorem plain_typed {source plan : TypedPlan} (sound : p.Sound known n beyond)
    (typed : source.Typed known (n.seen beyond)) (given : (p.plain source).alone = .ok plan) :
    plan.Typed known (n.seen beyond) := by
  have alone : (Scope.ofColumns source.columns).keys = none := rfl
  have gives : Gives (n.Collects known beyond (.ofColumns source.columns)) []
      (fun _ plan => TypedPlan.Typed known (n.seen beyond) plan) (p.plain source) := by
    refine (outputs_give (.plain alone) sound.items).bind fun outputs _ _ complete => ?_
    refine (firstRows_give alone sound typed.1 complete).bind fun first _ grown firstTyped => ?_
    have still : Completed known n beyond _ _ outputs := fun output member =>
      (complete output member).grow grown
    refine (ordered_gives alone sound firstTyped still).bind fun sorted _ _ sortedTyped => ?_
    exact Gives.pure (output_typed sortedTyped fun output member =>
      (complete output member).plain alone)
  obtain ⟨_, planned⟩ := gives.alone given
  exact planned

/-- What a grouped select builds is typed over the rows of its groups. -/
def GroupedTyped (known : TableDef → Prop) (n : Names) (beyond : List Seen) (s : Scope)
    (calls : List CollectedCall) (built : Grouped) : Prop :=
  (∀ output ∈ built.outputs, output.2.Typed known (.upon (n.seen beyond) (s.finished calls))) ∧
    ∀ groups : Plan, groups.Typed known (n.seen beyond) (s.finished calls) →
      (built.plan groups).Typed known (n.seen beyond) (s.finished calls)

theorem overGroups_give (keyed : n.Keyed known beyond s) (sound : p.Sound known n beyond) :
    Gives (n.Collects known beyond s) start (GroupedTyped known n beyond s)
      (p.overGroups n s) := by
  refine (outputs_give keyed sound.items).bind fun outputs _ _ complete => ?_
  refine (Gives.optionMapM fun c there => (sound.having c there).condition keyed).bind
    fun having _ grown havingComplete => ?_
  have complete : Completed known n beyond s _ outputs := fun output member =>
    (complete output member).grow grown
  refine (orderKeys_give keyed sound complete).bind fun orderKeys _ grown ordersComplete => ?_
  have complete : Completed known n beyond s _ outputs := fun output member =>
    (complete output member).grow grown
  have havingComplete : ∀ e ∈ having, n.Complete known beyond s _ e := fun e there =>
    (havingComplete e there).grow grown
  refine (Gives.optionMapM fun keys there => keys_give keyed (sound.distinctOn keys there)
    complete).bind fun onKeys last grown onComplete => Gives.pure ⟨?_, ?_⟩
  · exact fun output member => complete output member last grown
  · intro groups typed
    have kept : ((having.map (Plan.filter groups)).getD groups).Typed known (n.seen beyond)
        (s.finished last) := by
      cases having with
      | none => exact typed
      | some condition => exact ⟨typed, havingComplete condition rfl last grown⟩
    have sorted : (if orderKeys.isEmpty then (having.map (Plan.filter groups)).getD groups
        else .order ((having.map (Plan.filter groups)).getD groups) orderKeys
          (p.orderBy.map (·.direction))).Typed known (n.seen beyond) (s.finished last) := by
      split
      · exact kept
      · exact ⟨kept, Expr.allTyped_iff.mpr fun e member => ordersComplete e member last grown⟩
    cases onKeys with
    | none => exact sorted
    | some keys =>
        exact ⟨sorted, Expr.allTyped_iff.mpr fun e member =>
          onComplete keys rfl e member last (List.prefix_refl _)⟩

theorem take_of_collected {calls : List CollectedCall}
    (collected : ∀ c ∈ calls, n.Collects known beyond s c) :
    Groups.Take (calls.map (·.1)) ((calls.map (·.2)).map Expr.type) := by
  induction calls with
  | nil => exact List.Forall₂.nil
  | cons c rest ih =>
      obtain ⟨first, others⟩ := List.forall_mem_cons.mp collected
      exact List.Forall₂.cons first.1 (ih others)

theorem grouped_typed {source plan : TypedPlan} {groupBy : List Pending}
    (sound : p.Sound known n beyond) (typed : source.Typed known (n.seen beyond))
    (keysSound : ∀ k ∈ groupBy, k.Sound known n beyond)
    (given : p.grouped n source groupBy = .ok plan) : plan.Typed known (n.seen beyond) := by
  obtain ⟨keys, mapped, given⟩ := bind_ok given
  have plain : (Scope.ofColumns source.columns).keys = none := rfl
  have keysTyped : ∀ k ∈ keys, k.Typed known (.upon (n.seen beyond) source.types) :=
    mapM_ok (fun k member built found =>
      groupKey_typed plain sound.items (keysSound k member) found) mapped
  obtain ⟨⟨built, calls⟩, ran, given⟩ := bind_ok given
  cases given
  have keyed : n.Keyed known beyond ⟨source.columns, some keys⟩ := by
    rintro _ ⟨⟩
    exact keysTyped
  obtain ⟨collected, _, outputs, grown⟩ := overGroups_give keyed sound (by simp) built calls ran
  refine output_typed (grown _ ?_) outputs
  refine ⟨source.types, typed.1, Expr.allTyped_iff.mpr keysTyped, Expr.allTyped_iff.mpr ?_,
    take_of_collected collected, ?_⟩
  · intro e member
    obtain ⟨c, there, rfl⟩ := List.mem_map.mp member
    exact (collected c there).2
  · simp [Scope.finished, Function.comp_def]

theorem filtered_typed {source kept : TypedPlan} (sound : p.Sound known n beyond)
    (typed : source.Typed known (n.seen beyond)) (given : p.filtered n source = .ok kept) :
    kept.Typed known (n.seen beyond) := by
  unfold Parts.filtered at given
  split at given
  · cases given
    exact typed
  · rename_i c asked
    obtain ⟨condition, built, given⟩ := bind_ok given
    cases given
    exact ⟨⟨typed.1, (sound.condition c asked).alone_condition rfl built⟩, by simp⟩

theorem plan_typed {plan : TypedPlan} (sound : p.Sound known n beyond)
    (given : p.plan n = .ok plan) : plan.Typed known (n.seen beyond) := by
  unfold Parts.plan at given
  dsimp only at given
  split at given
  · split at given <;> cases given
  · split at given
    · rename_i groupBy asked
      obtain ⟨source, found, given⟩ := bind_ok given
      obtain ⟨kept, filtered, given⟩ := bind_ok given
      have typed := filtered_typed sound (sound.source source found) filtered
      split at given
      · exact grouped_typed sound typed (sound.groupBy groupBy asked) given
      · exact plain_typed sound typed given
    · cases given

end Parts

end Select

end SqlEngine
