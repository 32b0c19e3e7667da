import SqlEngine.Proofs.Evaluation.Meets
import SqlEngine.Proofs.Rows.Sorting
import SqlEngine.Rows.Group
import SqlEngine.Rows.Join

/-!
The cursors that plans are made of keep what their sources and their tests keep, and their rows
come from rows of the sources.
-/

namespace SqlEngine

variable {α : Type} {inv : EvalState → Prop} {row image : Row → Prop}

namespace Cursor

theorem Meets.filter {c : Cursor} (source : c.Meets inv row) {pass : Row → Eval Bool}
    (tested : ∀ r, row r → (pass r).Meets inv fun _ => True) : Meets inv row (c.filter pass) := by
  refine source.drive ?_ (fun _ => Meets.empty) _
  intro _ r k hr later
  refine Meets.after (tested r hr) fun passed _ => ?_
  split
  · exact Meets.cons hr (later ())
  · exact later ()

theorem Meets.map {c : Cursor} (source : c.Meets inv row) {f : Row → Eval Row}
    (computed : ∀ r, row r → (f r).Meets inv image) : Meets inv image (c.map f) := by
  refine source.drive ?_ (fun _ => Meets.empty) _
  intro _ r k hr later
  exact Meets.after (computed r hr) fun _ given => Meets.cons given (later ())

theorem Meets.append {c d : Cursor} (first : c.Meets inv row) (second : d.Meets inv row) :
    Meets inv row (c.append d) := by
  refine first.drive ?_ (fun _ => second) _
  intro _ r k hr later
  exact Meets.cons hr (later ())

theorem Meets.limit {c : Cursor} (source : c.Meets inv row) (count : Option Nat) (offset : Nat) :
    Meets inv row (c.limit count offset) := by
  rw [Cursor.limit]
  split
  · exact Meets.empty
  · refine source.drive ?_ (fun _ => Meets.empty) _
    rintro ⟨skip, left⟩ r k hr later
    match skip, left with
    | skip + 1, left => exact later _
    | 0, none => exact Meets.cons hr (later _)
    | 0, some left =>
        refine Meets.cons hr ?_
        split
        · exact Meets.empty
        · exact later _

theorem Meets.distinct {c : Cursor} (source : c.Meets inv row) (types : List SqlType)
    {keyOf : Row → Eval Row} (keyed : ∀ r, row r → (keyOf r).Meets inv fun _ => True) :
    Meets inv row (c.distinct types keyOf) := by
  refine source.drive ?_ (fun _ => Meets.empty) _
  intro seen r k hr later
  refine Meets.after (keyed r hr) fun key _ => ?_
  split
  · exact Meets.cons hr (later _)
  · exact later _

theorem Meets.deferred {rows : Eval (List Row)} (computed : rows.Meets inv (∀ r ∈ ·, row r)) :
    Meets inv row (deferred rows) :=
  Meets.after computed fun _ each => Meets.ofList each

theorem Meets.collect {c : Cursor} (source : c.Meets inv row) :
    Eval.Meets inv (∀ r ∈ ·, row r) c.collect := by
  refine (source.fold (fun rows => ∀ r ∈ rows, row r) ?_ (by simp)).bind fun rows each =>
    Eval.Meets.pure fun r member => each r (List.mem_reverse.mp member)
  exact fun rows r each hr => Eval.Meets.pure (List.forall_mem_cons.mpr ⟨hr, each⟩)

/-! ### Subqueries -/

theorem Meets.hasRow {c : Cursor} (source : c.Meets inv row) :
    Eval.Meets inv (fun _ => True) c.hasRow :=
  source.search (fun _ => True) (fun _ _ _ _ => ⟨fun _ _ => trivial, fun _ _ => trivial⟩) trivial

theorem Meets.single {c : Cursor} (source : c.Meets inv row) {value : Value → Prop}
    (absent : value .null) (first : ∀ r, row r → value (r.headD .null)) :
    Eval.Meets inv value c.single := by
  refine (source.search (fun rows => ∀ r ∈ rows, row r) ?_ (by simp)).bind ?_
  · intro rows r each hr
    split
    · exact ⟨by rintro _ ⟨⟩; simpa using hr, by rintro _ ⟨⟩⟩
    · exact ⟨by rintro _ ⟨⟩, by rintro _ ⟨⟩; simpa using hr⟩
  · intro rows each
    match rows, each with
    | [], _ => exact Eval.Meets.pure absent
    | [r], each => exact Eval.Meets.pure (first r (each r List.mem_cons_self))
    | _ :: _ :: _, _ => exact Eval.Meets.throw _

theorem Meets.among {c : Cursor} (source : c.Meets inv row) (type : SqlType) (v : Value) :
    Eval.Meets inv (fun _ => True) (c.among type v) :=
  source.search (fun _ => True) (fun _ _ _ _ => ⟨fun _ _ => trivial, fun _ _ => trivial⟩) trivial

/-! ### Joins -/

theorem Meets.combined {pass : Row → Eval Bool} {k : List Nat → Cursor}
    (later : ∀ found, (k found).Meets inv row) :
    ∀ {candidates : List (Row × Nat)} {found : List Nat}, (∀ e ∈ candidates, row e.1) →
      (∀ e ∈ candidates, (pass e.1).Meets inv fun _ => True) →
      Meets inv row (combined pass k found candidates) := by
  intro candidates
  induction candidates with
  | nil => exact fun _ _ => later _
  | cons e rest ih =>
      obtain ⟨r, partner⟩ := e
      intro found each tested
      obtain ⟨hr, others⟩ := List.forall_mem_cons.mp each
      obtain ⟨first, untested⟩ := List.forall_mem_cons.mp tested
      refine Meets.after first fun passed _ => ?_
      split
      · exact Meets.cons hr (ih others untested)
      · exact ih others untested

variable {left right : Row → Prop}

theorem Meets.join {c d : Cursor} (lefts : c.Meets inv left) (rights : d.Meets inv right)
    (kind : JoinKind) (leftWidth rightWidth : Nat) {pass : Row → Eval Bool}
    (leftNulls : kind = .right ∨ kind = .full → left (nulls leftWidth))
    (rightNulls : right (nulls rightWidth))
    (both : ∀ r s, left r → right s → row (r ++ s))
    (tested : ∀ r, row r → (pass r).Meets inv fun _ => True) :
    Meets inv row (join kind leftWidth rightWidth pass c d) := by
  rw [Cursor.join]
  cases swapped : kind.drivesRight
  · simp only [Bool.false_eq_true, ↓reduceIte]
    refine Meets.after rights.collect fun partners each => ?_
    refine lefts.drive ?_ ?_ _
    · intro matched r k hr later
      have candidates : ∀ e ∈ partners.zipIdx.map fun e => (r ++ e.1, e.2), row e.1 := by
        intro e member
        obtain ⟨⟨partner, place⟩, numbered, rfl⟩ := List.mem_map.mp member
        exact both r partner hr (each partner (List.fst_mem_of_mem_zipIdx numbered))
      refine Meets.combined (fun found => ?_) candidates fun e member => tested _ (candidates e member)
      split
      · exact Meets.cons (both r _ hr rightNulls) (later _)
      · exact later _
    · intro matched
      split
      · rename_i keeps
        refine Meets.ofList fun r member => ?_
        obtain ⟨⟨partner, place⟩, kept, rfl⟩ := List.mem_map.mp member
        have numbered := (List.mem_filter.mp kept).1
        exact both _ partner (leftNulls (.inr (beq_iff_eq.mp keeps)))
          (each partner (List.fst_mem_of_mem_zipIdx numbered))
      · exact Meets.empty
  · have missing := leftNulls (.inl (beq_iff_eq.mp swapped))
    simp only [↓reduceIte]
    refine Meets.after lefts.collect fun partners each => ?_
    refine rights.drive ?_ ?_ _
    · intro matched r k hr later
      have candidates : ∀ e ∈ partners.zipIdx.map fun e => (e.1 ++ r, e.2), row e.1 := by
        intro e member
        obtain ⟨⟨partner, place⟩, numbered, rfl⟩ := List.mem_map.mp member
        exact both partner r (each partner (List.fst_mem_of_mem_zipIdx numbered)) hr
      refine Meets.combined (fun found => ?_) candidates fun e member => tested _ (candidates e member)
      split
      · exact Meets.cons (both _ r missing hr) (later _)
      · exact later _
    · intro matched
      split
      · refine Meets.ofList fun r member => ?_
        obtain ⟨⟨partner, place⟩, kept, rfl⟩ := List.mem_map.mp member
        have numbered := (List.mem_filter.mp kept).1
        exact both partner _ (each partner (List.fst_mem_of_mem_zipIdx numbered)) rightNulls
      · exact Meets.empty

theorem Meets.lookupJoin {c : Cursor} (lefts : c.Meets inv left) (right : Row → Prop)
    (keepLeft : Bool) (rightWidth : Nat) {pass : Row → Eval Bool} {partnersOf : Row → Eval (List Row)}
    (rightNulls : right (nulls rightWidth)) (both : ∀ r s, left r → right s → row (r ++ s))
    (tested : ∀ r, row r → (pass r).Meets inv fun _ => True)
    (looked : ∀ r, left r → (partnersOf r).Meets inv (∀ s ∈ ·, right s)) :
    Meets inv row (lookupJoin keepLeft rightWidth pass partnersOf c) := by
  refine lefts.drive ?_ (fun _ => Meets.empty) _
  intro _ r k hr later
  refine Meets.after (looked r hr) fun partners each => ?_
  have candidates : ∀ e ∈ (partners.map (r ++ ·)).zipIdx, row e.1 := by
    intro e member
    obtain ⟨partner, there, joined⟩ := List.mem_map.mp (List.fst_mem_of_mem_zipIdx member)
    exact joined ▸ both r partner hr (each partner there)
  refine Meets.combined (fun found => ?_) candidates fun e member => tested _ (candidates e member)
  split
  · exact Meets.cons (both r _ hr rightNulls) (later ())
  · exact later ()

end Cursor

/-! ### Groups -/

/-- Every group has a key and accumulators that meet conditions. -/
def Groups.All (key : Row → Prop) (accumulators : List Accumulator → Prop) (g : Groups) : Prop :=
  ∀ group ∈ g.groups, key group.key ∧ accumulators group.accumulators

namespace Groups

variable {key : Row → Prop} {accumulators : List Accumulator → Prop} {calls : List AggregateCall}

theorem All.locate {g : Groups} (all : g.All key accumulators)
    (unfed : accumulators (fresh calls)) (canonical : Row) {k : Row} (hk : key k) :
    (g.locate calls canonical k).2.All key accumulators := by
  rw [Groups.locate]
  split
  · exact all
  · intro group member
    rcases List.mem_append.mp member with old | new
    · exact all group old
    · cases List.mem_singleton.mp new
      exact ⟨hk, unfed⟩

theorem All.set {g : Groups} (all : g.All key accumulators) (position : Nat) {group : Group}
    (hk : key group.key) (fed : accumulators group.accumulators) :
    ({ g with groups := g.groups.set position group } : Groups).All key accumulators := by
  intro other member
  rcases List.mem_or_eq_of_mem_set member with old | rfl
  · exact all other old
  · exact ⟨hk, fed⟩

theorem All.add (keyTypes : List SqlType) {keys : Row → Eval Row} {args : Row → List (Eval Value)}
    (unfed : accumulators (fresh calls)) {g : Groups} (all : g.All key accumulators) {r : Row}
    (keyed : (keys r).Meets inv key)
    (fed : ∀ held, accumulators held → (feed held (args r)).Meets inv accumulators) :
    (g.add keyTypes calls keys args r).Meets inv (·.All key accumulators) := by
  refine keyed.bind fun k hk => ?_
  have located := all.locate unfed (List.zipWith SqlType.canonical keyTypes k) hk
  generalize g.locate calls (List.zipWith SqlType.canonical keyTypes k) k = placed at located
  obtain ⟨position, g⟩ := placed
  dsimp only at located ⊢
  split
  · exact Eval.Meets.pure located
  · rename_i group found
    obtain ⟨hk, held⟩ := located group (List.mem_of_getElem? found)
    exact (fed _ held).bind fun _ after => Eval.Meets.pure (located.set position hk after)

end Groups

theorem Cursor.Meets.group {c : Cursor} (source : c.Meets inv row) (keyTypes : List SqlType)
    {calls : List AggregateCall} {keys : Row → Eval Row} {args : Row → List (Eval Value)}
    (key : Row → Prop) (accumulators : List Accumulator → Prop)
    (unfed : accumulators (Groups.fresh calls))
    (keyed : ∀ r, row r → (keys r).Meets inv key)
    (fed : ∀ r, row r → ∀ held, accumulators held →
      (Groups.feed held (args r)).Meets inv accumulators)
    (closed : keyTypes = [] → key [])
    (results : ∀ group : Group, key group.key → accumulators group.accumulators →
      image (Groups.rowOf calls group)) :
    (Cursor.group keyTypes calls keys args c).Meets inv image := by
  refine Cursor.Meets.deferred ?_
  refine (source.fold (fun g => g.All key accumulators) ?_ ?_).bind fun g all => ?_
  · exact fun g r all hr => all.add keyTypes unfed (keyed r hr) (fed r hr)
  · intro group member
    simp [Groups.empty] at member
  · refine Eval.Meets.pure ?_
    rw [Groups.rows]
    split
    · rename_i empty
      simp only [Bool.and_eq_true, List.isEmpty_iff] at empty
      exact List.forall_mem_singleton.mpr (results ⟨[], _⟩ (closed empty.2) unfed)
    · intro r member
      obtain ⟨group, there, rfl⟩ := List.mem_map.mp member
      exact results group (all group there).1 (all group there).2

/-! ### Order -/

theorem Cursor.Meets.order {c : Cursor} (source : c.Meets inv row)
    (keyOrders : List (KeyOrder × SqlType)) {keys : Row → Eval Row}
    (keyed : ∀ r, row r → (keys r).Meets inv fun _ => True) :
    (Cursor.order keyOrders keys c).Meets inv row := by
  refine Cursor.Meets.deferred ?_
  refine (source.fold (fun rows => ∀ e ∈ rows, row e.2) ?_ (by simp)).bind
    fun rows each => Eval.Meets.pure ?_
  · intro rows r each hr
    exact (keyed r hr).bind fun _ _ => Eval.Meets.pure (List.forall_mem_cons.mpr ⟨hr, each⟩)
  · intro r member
    obtain ⟨e, there, rfl⟩ := List.mem_map.mp member
    exact KeyOrder.forall_sorted (P := fun e => row e.2) keyOrders
      (fun e held => each e (List.mem_reverse.mp held)) e there

end SqlEngine
