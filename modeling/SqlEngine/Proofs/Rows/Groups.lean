import SqlEngine.Expr.Eval
import SqlEngine.Proofs.Rows.Classes
import SqlEngine.Proofs.Rows.Listing

/-!
Groups are the classes of rows with the same keys.

A group is told without tables: the rows of a source that have the same key values, in their order,
and for each call an accumulator that was fed the values of its argument over these rows. The cursor
keeps all groups at once and adds one row after the other; after each row its groups are the classes
of the rows so far.
-/

namespace SqlEngine

/-- The accumulator of a call that was fed some values. -/
def AggregateCall.fed (c : AggregateCall) (values : List Value) : Except SqlError Accumulator :=
  values.foldlM Accumulator.add (.start c.func c.argType c.type c.distinct)

theorem AggregateCall.fed_append (c : AggregateCall) (values more : List Value) :
    c.fed (values ++ more) = c.fed values >>= (more.foldlM Accumulator.add ·) := by
  rw [fed, List.foldlM_append]
  rfl

theorem Run.mapM_eq_ok {ε α β : Type} {f : α → Except ε β} {items : List α} {images : List β}
    (each : List.Forall₂ (fun a b => f a = .ok b) items images) : items.mapM f = .ok images := by
  induction each with
  | nil => rfl
  | cons first _ ih =>
      rw [List.mapM_cons, first, ih]
      rfl

/-- The partner of an item stands at the same place. -/
theorem exists_forall₂_cut {α β : Type} {related : α → β → Prop} {a : α} {right : List α} :
    ∀ {left : List α} {images : List β}, List.Forall₂ related (left ++ a :: right) images →
      ∃ before b after, images = before ++ b :: after ∧ List.Forall₂ related left before ∧
        related a b ∧ List.Forall₂ related right after
  | [], _, .cons first others => ⟨[], _, _, rfl, .nil, first, others⟩
  | _ :: _, _, .cons first others => by
      obtain ⟨before, b, after, rfl, front, found, back⟩ := exists_forall₂_cut others
      exact ⟨_ :: before, b, after, rfl, .cons first front, found, back⟩

namespace Groups

/-! ### Classes of rows -/

section

-- The values of expressions over rows are given by `value`.
variable (value : Expr → Row → Value) (keys : List Expr) (calls : List AggregateCall)
  (args : List Expr)

/-- The key of a row. -/
def keyOf (row : Row) : Row := keys.map (value · row)

/-- Have two rows the same key? -/
def sameKey (a b : Row) : Bool :=
  Row.same (keys.map Expr.type) (keyOf value keys a) (keyOf value keys b)

/-- The rows of each group. Without keys all rows are one group. -/
def partition (rows : List Row) : List (List Row) :=
  if keys.isEmpty then [rows] else classes (sameKey value keys) rows

/-- The accumulators of the calls, each fed with the values of its argument over some rows. -/
def fed (rows : List Row) : Except SqlError (List Accumulator) :=
  (calls.zip args).mapM fun pair => pair.1.fed (rows.map (value pair.2))

/-- The row of a group with some rows: the key of its first row, and the results of the calls. -/
def result (rows : List Row) : Except SqlError Row := do
  let accumulators ← fed value calls args rows
  return (rows.head?.map (keyOf value keys)).getD [] ++
    List.zipWith (fun c a => a.result c.separator) calls accumulators

end

variable {value : Expr → Row → Value} {keys args : List Expr} {calls : List AggregateCall}
  {rows before after : List Row} {row : Row} {env : Env} {outer : List Row}
  {calm : EvalState → Prop}

theorem fed_prefix {accumulators : List Accumulator}
    (given : fed value calls args (before ++ after) = .ok accumulators) :
    ∃ earlier, fed value calls args before = .ok earlier := by
  unfold fed at given ⊢
  generalize calls.zip args = pairs at given ⊢
  induction pairs generalizing accumulators with
  | nil => exact ⟨[], rfl⟩
  | cons pair rest ih =>
      rw [List.mapM_cons, List.map_append, AggregateCall.fed_append] at given
      obtain ⟨a, whole, given⟩ := Run.bind_ok given
      obtain ⟨first, one, _⟩ := Run.bind_ok whole
      obtain ⟨later, others, _⟩ := Run.bind_ok given
      obtain ⟨earlier, known⟩ := ih others
      refine ⟨first :: earlier, ?_⟩
      rw [List.mapM_cons, one, known]
      rfl

/-- Feeding a row to accumulators that were fed some rows. -/
theorem feed_gives {accumulators next : List Accumulator}
    (evaluated : ∀ e ∈ args, (e.eval env outer row).Gives calm (value e row))
    (given : fed value calls args before = .ok accumulators)
    (grown : fed value calls args (before ++ [row]) = .ok next) :
    (feed accumulators (Expr.actions env outer row args)).Gives calm next := by
  unfold fed at given grown
  induction args generalizing calls accumulators next with
  | nil =>
      rw [List.zip_nil_right, List.mapM_nil] at given grown
      cases given
      cases grown
      exact Eval.Gives.pure []
  | cons arg args ih =>
      cases calls with
      | nil =>
          cases given
          cases grown
          exact Eval.Gives.pure []
      | cons c calls =>
          obtain ⟨first, others⟩ := List.forall_mem_cons.mp evaluated
          rw [List.zip_cons_cons, List.mapM_cons] at given grown
          obtain ⟨a, fedA, given⟩ := Run.bind_ok given
          obtain ⟨accumulators, fedRest, given⟩ := Run.bind_ok given
          obtain ⟨b, fedB, grown⟩ := Run.bind_ok grown
          obtain ⟨next, grownRest, grown⟩ := Run.bind_ok grown
          cases given
          cases grown
          rw [List.map_append, AggregateCall.fed_append, fedA] at fedB
          have added : a.add (value arg row) = .ok b := by
            obtain ⟨_, ⟨⟩, one⟩ := Run.bind_ok fedB
            simpa only [List.map_cons, List.map_nil, List.foldlM_cons, List.foldlM_nil, bind_pure]
              using one
          exact first.bind ((Eval.Gives.lift added).bind
            ((ih others fedRest grownRest).bind (Eval.Gives.pure _)))

/-! ### The groups of the rows so far -/

/-- The groups are the classes of these rows, and the index knows them by their keys. -/
structure Holds (value : Expr → Row → Value) (keys : List Expr) (calls : List AggregateCall)
    (args : List Expr) (rows : List Row) (g : Groups) : Prop where
  index : g.index.Holds (keys.map Expr.type) (g.groups.map Group.key).zipIdx
  groups : List.Forall₂ (fun first group => group.key = keyOf value keys first ∧
    fed value calls args (rows.filter (sameKey value keys first)) = .ok group.accumulators)
      (firsts (sameKey value keys) rows) g.groups

theorem holds_empty : Holds value keys calls args [] (.empty (keys.map Expr.type)) :=
  ⟨.empty _, .nil⟩

theorem Holds.map_key {g : Groups} (holds : g.Holds value keys calls args rows) :
    g.groups.map Group.key = (firsts (sameKey value keys) rows).map (keyOf value keys) := by
  have equal : List.Forall₂ (· = ·) ((firsts (sameKey value keys) rows).map (keyOf value keys))
      (g.groups.map Group.key) :=
    List.forall₂_map_left_iff.mpr (List.forall₂_map_right_iff.mpr
      (holds.groups.imp fun _ _ held => held.1.symm))
  rw [List.forall₂_eq_eq_eq] at equal
  exact equal.symm

theorem sameOn_sameKey (value : Expr → Row → Value) (keys : List Expr) :
    SameOn (sameKey value keys) fun row => Row.Keys (keys.map Expr.type) (keyOf value keys row) :=
  (Row.sameOn_keys (keys.map Expr.type)).comap (keyOf value keys)

theorem fed_nil (paired : calls.length = args.length) :
    fed value calls args [] = .ok (fresh calls) := by
  have called : (calls.zip args).map Prod.fst = calls := List.map_fst_zip (by omega)
  have started : fresh calls = (calls.zip args).map fun pair =>
      Accumulator.start pair.1.func pair.1.argType pair.1.type pair.1.distinct := by
    calc fresh calls = fresh ((calls.zip args).map Prod.fst) := by rw [called]
      _ = _ := by rw [fresh, List.map_map]; rfl
  rw [started]
  exact List.mapM_pure

theorem keys_give (evaluated : ∀ e ∈ keys, (e.eval env outer row).Gives calm (value e row)) :
    ((Expr.actions env outer row keys).mapM id).Gives calm (keyOf value keys row) := by
  induction keys with
  | nil => exact Eval.Gives.pure []
  | cons e keys ih =>
      obtain ⟨first, others⟩ := List.forall_mem_cons.mp evaluated
      rw [Expr.actions, List.mapM_cons]
      exact first.bind ((ih others).bind (Eval.Gives.pure _))

/-- What adding a row does, once its group is located. -/
theorem add_gives {g located : Groups} {position : Nat} {group : Group}
    {accumulators : List Accumulator}
    (keyed : ((Expr.actions env outer row keys).mapM id).Gives calm (keyOf value keys row))
    (locate : g.locate calls (Row.canonical (keys.map Expr.type) (keyOf value keys row))
      (keyOf value keys row) = (position, located))
    (there : located.groups[position]? = some group)
    (fed : (feed group.accumulators (Expr.actions env outer row args)).Gives calm accumulators) :
    (g.add (keys.map Expr.type) calls (fun row => (Expr.actions env outer row keys).mapM id)
      (fun row => Expr.actions env outer row args) row).Gives calm
        { located with groups := located.groups.set position { group with accumulators } } := by
  refine keyed.bind ?_
  rw [locate]
  simp only [there]
  exact fed.bind (Eval.Gives.pure _)

/-- A row stays out of the groups of other keys. -/
theorem kept_groups {firsts : List Row} {groups : List Group}
    (given : List.Forall₂ (fun first group => group.key = keyOf value keys first ∧
      fed value calls args (before.filter (sameKey value keys first)) = .ok group.accumulators)
        firsts groups)
    (apart : ∀ first ∈ firsts, ¬sameKey value keys first row) :
    List.Forall₂ (fun first group => group.key = keyOf value keys first ∧
      fed value calls args ((before ++ [row]).filter (sameKey value keys first)) =
        .ok group.accumulators) firsts groups := by
  refine ((List.forall₂_and_left firsts groups).mpr ⟨apart, given⟩).imp ?_
  rintro first group ⟨other, keyed, fedBefore⟩
  refine ⟨keyed, ?_⟩
  rw [List.filter_append, List.filter_cons, if_neg other, List.filter_nil, List.append_nil]
  exact fedBefore

/-- A row whose key is known goes to the group of its key, and to no other one. -/
theorem Holds.add_known {g : Groups} (holds : g.Holds value keys calls args before)
    (known : ∀ r ∈ before, Row.Keys (keys.map Expr.type) (keyOf value keys r))
    (hkey : Row.Keys (keys.map Expr.type) (keyOf value keys row))
    (evaluated : ∀ e ∈ keys ++ args, (e.eval env outer row).Gives calm (value e row))
    (succeeds : ∀ first ∈ firsts (sameKey value keys) (before ++ [row]), ∃ accumulators,
      fed value calls args ((before ++ [row]).filter (sameKey value keys first)) = .ok accumulators)
    (again : before.any (sameKey value keys · row)) :
    ∃ next : Groups, (g.add (keys.map Expr.type) calls
        (fun row => (Expr.actions env outer row keys).mapM id)
        (fun row => Expr.actions env outer row args) row).Gives calm next ∧
      next.Holds value keys calls args (before ++ [row]) := by
  obtain ⟨keysGive, argsGive⟩ := List.forall_mem_append.mp evaluated
  obtain ⟨left, first, right, cut, alike, apart⟩ :=
    (sameOn_sameKey value keys).exists_unique_first known hkey again
  have same : firsts (sameKey value keys) (before ++ [row]) =
      firsts (sameKey value keys) before := by rw [firsts_concat, if_pos again]
  obtain ⟨accumulators, grown⟩ := succeeds first (by rw [same, cut]; simp)
  have groups := holds.groups
  rw [cut] at groups
  obtain ⟨front, group, back, parts, frontHolds, ⟨keyed, fedBefore⟩, backHolds⟩ :=
    exists_forall₂_cut groups
  have hkeyGroup : group.key = keyOf value keys first := keyed
  have located : g.index.find? (Row.canonical (keys.map Expr.type) (keyOf value keys row)) =
      some front.length := by
    refine (holds.index.find?_eq_some_iff hkey _).mpr ⟨(group.key, front.length), ?_, ?_, rfl⟩
    · rw [List.mem_zipIdx_iff_getElem?, parts]
      simp
    · rw [keyed]
      exact alike
  have locate : g.locate calls (Row.canonical (keys.map Expr.type) (keyOf value keys row))
      (keyOf value keys row) = (front.length, g) := by rw [Groups.locate, located]
  rw [List.filter_append, List.filter_cons, if_pos alike, List.filter_nil] at grown
  refine ⟨_, add_gives (keys_give keysGive) locate (by rw [parts]; simp)
    (feed_gives argsGive fedBefore grown), ?_⟩
  have groupOf : ∀ fed : Group, (front ++ group :: back).set front.length fed =
      front ++ fed :: back := by simp
  rw [parts, groupOf]
  refine ⟨?_, ?_⟩
  · have index := holds.index
    rw [parts] at index
    simpa using index
  · rw [same, cut]
    refine List.rel_append ?_ (.cons ⟨keyed, ?_⟩ ?_)
    · exact kept_groups frontHolds fun y member => apart y (List.mem_append_left _ member)
    · rw [List.filter_append, List.filter_cons, if_pos alike, List.filter_nil]
      exact grown
    · exact kept_groups backHolds fun y member => apart y (List.mem_append_right _ member)

/-- A row whose key is new starts a group. -/
theorem Holds.add_new {g : Groups} (holds : g.Holds value keys calls args before)
    (known : ∀ r ∈ before, Row.Keys (keys.map Expr.type) (keyOf value keys r))
    (hkey : Row.Keys (keys.map Expr.type) (keyOf value keys row))
    (paired : calls.length = args.length)
    (evaluated : ∀ e ∈ keys ++ args, (e.eval env outer row).Gives calm (value e row))
    (succeeds : ∀ first ∈ firsts (sameKey value keys) (before ++ [row]), ∃ accumulators,
      fed value calls args ((before ++ [row]).filter (sameKey value keys first)) = .ok accumulators)
    (new : ¬before.any (sameKey value keys · row)) :
    ∃ next : Groups, (g.add (keys.map Expr.type) calls
        (fun row => (Expr.actions env outer row keys).mapM id)
        (fun row => Expr.actions env outer row args) row).Gives calm next ∧
      next.Holds value keys calls args (before ++ [row]) := by
  obtain ⟨keysGive, argsGive⟩ := List.forall_mem_append.mp evaluated
  have same : firsts (sameKey value keys) (before ++ [row]) =
      firsts (sameKey value keys) before ++ [row] := by rw [firsts_concat, if_neg new]
  have apart : ∀ r ∈ before, ¬sameKey value keys r row :=
    fun r member alike => new (List.any_eq_true.mpr ⟨r, member, alike⟩)
  have alone : (before ++ [row]).filter (sameKey value keys row) = [row] := by
    have others : before.filter (sameKey value keys row) = [] := by
      refine List.filter_eq_nil_iff.mpr fun r member alike => apart r member ?_
      exact (sameOn_sameKey value keys).symm row r hkey (known r member) alike
    have itself : sameKey value keys row row := (sameOn_sameKey value keys).refl row hkey
    rw [List.filter_append, others, List.filter_cons, if_pos itself]
    rfl
  obtain ⟨accumulators, grown⟩ := succeeds row (by rw [same]; simp)
  have absent : g.index.find? (Row.canonical (keys.map Expr.type) (keyOf value keys row)) = none := by
    refine (holds.index.find?_eq_none_iff hkey).mpr fun item member alike => ?_
    have there := List.fst_mem_of_mem_zipIdx member
    rw [holds.map_key] at there
    obtain ⟨first, among, keyed⟩ := List.mem_map.mp there
    rw [← keyed] at alike
    exact apart first ((firsts_sublist before).subset among) alike
  have locate : g.locate calls (Row.canonical (keys.map Expr.type) (keyOf value keys row))
      (keyOf value keys row) = (g.groups.length,
        ⟨g.index.insert (Row.canonical (keys.map Expr.type) (keyOf value keys row)) g.groups.length,
          g.groups ++ [⟨keyOf value keys row, fresh calls⟩]⟩) := by rw [Groups.locate, absent]
  rw [alone] at grown
  have placed : (g.groups ++ [Group.mk (keyOf value keys row) (fresh calls)])[g.groups.length]? =
      some ⟨keyOf value keys row, fresh calls⟩ := by simp
  refine ⟨_, add_gives (keys_give keysGive) locate placed
    (feed_gives argsGive (fed_nil paired) grown), ?_⟩
  have groupOf : ∀ fed : Group, (g.groups ++ [Group.mk (keyOf value keys row) (fresh calls)]).set
      g.groups.length fed = g.groups ++ [fed] := by simp
  rw [groupOf]
  refine ⟨?_, ?_⟩
  · have index := holds.index.insert hkey absent g.groups.length
    simpa [List.zipIdx_append] using index
  · rw [same]
    refine List.rel_append (kept_groups holds.groups ?_) (.cons ⟨rfl, ?_⟩ .nil)
    · exact fun first member => apart first ((firsts_sublist before).subset member)
    · rw [alone]
      exact grown

/-! ### All rows -/

/-- Adding a row leaves the groups of the rows before it and of this row. -/
theorem Holds.add {g : Groups} (holds : g.Holds value keys calls args before)
    (known : ∀ r ∈ before ++ [row], Row.Keys (keys.map Expr.type) (keyOf value keys r))
    (paired : calls.length = args.length)
    (evaluated : ∀ e ∈ keys ++ args, (e.eval env outer row).Gives calm (value e row))
    (succeeds : ∀ first ∈ firsts (sameKey value keys) (before ++ [row]), ∃ accumulators,
      fed value calls args ((before ++ [row]).filter (sameKey value keys first)) = .ok accumulators) :
    ∃ next : Groups, (g.add (keys.map Expr.type) calls
        (fun row => (Expr.actions env outer row keys).mapM id)
        (fun row => Expr.actions env outer row args) row).Gives calm next ∧
      next.Holds value keys calls args (before ++ [row]) := by
  obtain ⟨others, last⟩ := List.forall_mem_append.mp known
  have hkey := last row List.mem_cons_self
  by_cases again : before.any (sameKey value keys · row)
  · exact holds.add_known others hkey evaluated succeeds again
  · exact holds.add_new others hkey paired evaluated succeeds again

/-- What the classes of all rows allow, the classes of the rows so far allow. -/
theorem fed_before (succeeds : ∀ first ∈ firsts (sameKey value keys) (before ++ after), ∃ accumulators,
      fed value calls args ((before ++ after).filter (sameKey value keys first)) = .ok accumulators) :
    ∀ first ∈ firsts (sameKey value keys) before, ∃ accumulators,
      fed value calls args (before.filter (sameKey value keys first)) = .ok accumulators := by
  intro first member
  have whole : first ∈ firsts (sameKey value keys) (before ++ after) := by
    rw [firsts, newIn_append]
    exact List.mem_append_left _ member
  obtain ⟨accumulators, given⟩ := succeeds first whole
  rw [List.filter_append] at given
  exact fed_prefix given

/-- Without keys the rows are one class, if there are rows. -/
theorem partition_eq (rows : List Row) : partition value keys rows =
    if rows.isEmpty && keys.isEmpty then [[]] else classes (sameKey value keys) rows := by
  unfold partition
  cases keys with
  | cons e keys => simp
  | nil =>
      cases rows with
      | nil => rfl
      | cons row rest =>
          have alike : ∀ a b, sameKey value [] a b = true := fun _ _ => rfl
          have only : firsts (sameKey value []) (row :: rest) = [row] := by
            rw [firsts_cons, newIn_eq_nil fun x _ => by simp [alike]]
          have whole : (row :: rest).filter (sameKey value [] row) = row :: rest :=
            List.filter_eq_self.mpr fun x _ => alike row x
          rw [classes, only, List.map_singleton, whole]
          rfl

theorem Holds.results {g : Groups} (holds : g.Holds value keys calls args rows)
    (known : ∀ r ∈ rows, Row.Keys (keys.map Expr.type) (keyOf value keys r)) :
    (classes (sameKey value keys) rows).mapM (result value keys calls args) =
      .ok (g.groups.map (rowOf calls)) := by
  refine Run.mapM_eq_ok ?_
  rw [classes, List.forall₂_map_left_iff, List.forall₂_map_right_iff]
  have each := (List.forall₂_and_left (firsts (sameKey value keys) rows) g.groups).mpr
    ⟨fun first member => member, holds.groups⟩
  refine each.imp ?_
  rintro first group ⟨member, keyed, fedAll⟩
  have start := (sameOn_sameKey value keys).find?_first known member
  rw [result, fedAll, List.head?_filter, start, rowOf, keyed]
  rfl

/-- After all rows, the rows of the groups are the results of the classes. -/
theorem Holds.rows_eq {g : Groups} (holds : g.Holds value keys calls args rows)
    (known : ∀ r ∈ rows, Row.Keys (keys.map Expr.type) (keyOf value keys r))
    (paired : calls.length = args.length) :
    (partition value keys rows).mapM (result value keys calls args) =
      .ok (g.rows (keys.map Expr.type) calls) := by
  have none : g.groups.isEmpty = rows.isEmpty := by
    have parts := holds.groups
    generalize g.groups = groups at parts ⊢
    cases rows with
    | nil =>
        cases parts
        rfl
    | cons row rest =>
        rw [firsts_cons] at parts
        cases parts
        rfl
  rw [partition_eq, Groups.rows, none, List.isEmpty_map]
  split
  · refine Run.mapM_eq_ok (.cons ?_ .nil)
    rw [result, fed_nil paired]
    rfl
  · exact holds.results known

/-- What succeeds for the groups succeeds for the classes of all rows. -/
theorem fed_of_results {results : List Row}
    (succeeds : (partition value keys rows).mapM (result value keys calls args) = .ok results) :
    ∀ first ∈ firsts (sameKey value keys) rows, ∃ accumulators,
      fed value calls args (rows.filter (sameKey value keys first)) = .ok accumulators := by
  intro first member
  cases rows with
  | nil => cases member
  | cons row rest =>
      rw [partition_eq] at succeeds
      obtain ⟨_, one, _⟩ := Run.mapM_mem_ok succeeds _ (List.mem_map_of_mem member)
      obtain ⟨accumulators, fedAll, _⟩ := Run.bind_ok one
      exact ⟨accumulators, fedAll⟩

/-- Grouping a source leaves the results of its classes, and changes nothing. -/
theorem group_gives {c : Cursor} (given : c.Gives calm rows) (paired : calls.length = args.length)
    (evaluated : ∀ e ∈ keys ++ args, ∀ row ∈ rows, (e.eval env outer row).Gives calm (value e row))
    (known : ∀ r ∈ rows, Row.Keys (keys.map Expr.type) (keyOf value keys r)) {results : List Row}
    (succeeds : (partition value keys rows).mapM (result value keys calls args) = .ok results) :
    (Cursor.group (keys.map Expr.type) calls (fun row => (Expr.actions env outer row keys).mapM id)
      (fun row => Expr.actions env outer row args) c).Gives calm results := by
  have step : ∀ before row after g, rows = before ++ row :: after →
      Holds value keys calls args before g → ∃ next, (g.add (keys.map Expr.type) calls
          (fun row => (Expr.actions env outer row keys).mapM id)
          (fun row => Expr.actions env outer row args) row).Gives calm next ∧
        Holds value keys calls args (before ++ [row]) next := by
    intro before row after g whole holds
    have member : row ∈ rows := by rw [whole]; simp
    have cut : rows = (before ++ [row]) ++ after := by rw [whole]; simp
    have classesFed := fed_of_results succeeds
    rw [cut] at known classesFed
    exact holds.add (List.forall_mem_append.mp known).1 paired
      (fun e among => evaluated e among row member) (fed_before classesFed)
  refine Cursor.Gives.after (a := results) (fun s hs => ?_) (Cursor.Gives.ofList results)
  obtain ⟨final, folded, holds⟩ := given.fold (Holds value keys calls args) step holds_empty hs
  have all := holds.rows_eq known paired
  rw [succeeds] at all
  rw [Run.bind_of_run folded, Except.ok.inj all]
  rfl

end Groups

/-- Grouping gives one row for each class of rows with the same keys, in the order of their first
rows: the key of the first row, and the results of accumulators that were fed exactly the rows of the
class, in their order. Every row is in one class; without keys there is one class, even without rows.
Rows are in one class if the canonical forms of their keys are equal. -/
theorem Plan.group_gives_classes (env : Env) (outer : List Row) {calm : EvalState → Prop}
    {source : Plan} {rows : List Row} (given : (source.cursor env outer).Gives calm rows)
    (keys : List Expr) (calls : List AggregateCall) (args : List Expr)
    (paired : calls.length = args.length) (value : Expr → Row → Value)
    (evaluated : ∀ e ∈ keys ++ args, ∀ row ∈ rows, (e.eval env outer row).Gives calm (value e row))
    (known : ∀ row ∈ rows, Row.Keys (keys.map Expr.type) (Groups.keyOf value keys row))
    {results : List Row}
    (succeeds : (Groups.partition value keys rows).mapM (Groups.result value keys calls args) =
      .ok results) :
    ((Plan.group source keys calls args).cursor env outer).Gives calm results ∧
      (Groups.partition value keys rows).flatten.Perm rows ∧
      (keys = [] → results.length = 1) ∧
      ∀ a ∈ rows, ∀ b ∈ rows, Groups.sameKey value keys a b ↔
        Value.orderRows (Row.canonical (keys.map Expr.type) (Groups.keyOf value keys a))
          (Row.canonical (keys.map Expr.type) (Groups.keyOf value keys b)) = .eq := by
  refine ⟨?_, ?_, ?_, ?_⟩
  · rw [Plan.cursor]
    exact Groups.group_gives given paired evaluated known succeeds
  · unfold Groups.partition
    split
    · simp
    · exact (Groups.sameOn_sameKey value keys).flatten_classes_perm known
  · rintro rfl
    obtain ⟨row, _, one⟩ := Run.bind_ok succeeds
    cases one
    rfl
  · exact fun a memberA b memberB =>
      (Row.canonical_order_eq_iff_same (known a memberA) (known b memberB)).symm

namespace Plan

/-- Rows of a text without case and of a number. -/
def exampleSource : List Row :=
  [[.text "b", .int 1], [.null, .int 2], [.text "B", .int 3], [.null, .null]]

def exampleKeys : List Expr := [.column 0 .citext]

/-- How many rows there are, and the sum of the numbers. -/
def exampleCalls : List AggregateCall :=
  [⟨.countRows, none, none, false, .integer⟩, ⟨.sum, some .integer, none, false, .integer⟩]

def exampleArgs : List Expr := [.null, .column 1 .integer]

/-- The values of columns, and NULL. -/
def exampleValue : Expr → Row → Value
  | .column index _, row => row.getD index .null
  | _, _ => .null

/-- Texts without case are grouped whatever their case, and missing ones form a group. -/
theorem exampleGroups_give :
    ((Plan.group (.fixed exampleSource) exampleKeys exampleCalls exampleArgs).cursor .fresh []).Gives
      (fun _ => True) [[.text "b", .int 2, .int 4], [.null, .int 2, .int 2]] := by
  have given : ((Plan.fixed exampleSource).cursor .fresh []).Gives (fun _ => True) exampleSource :=
    Cursor.Gives.ofList exampleSource
  have evaluated : ∀ e ∈ exampleKeys ++ exampleArgs, ∀ row ∈ exampleSource,
      (e.eval .fresh [] row).Gives (fun _ => True) (exampleValue e row) := by
    intro e memberE row memberRow s _
    simp only [exampleKeys, exampleArgs, List.cons_append, List.nil_append, List.mem_cons,
      List.not_mem_nil, or_false] at memberE
    simp only [exampleSource, List.mem_cons, List.not_mem_nil, or_false] at memberRow
    rcases memberE with rfl | rfl | rfl <;> rcases memberRow with rfl | rfl | rfl | rfl <;> rfl
  have known : ∀ row ∈ exampleSource,
      Row.Keys (exampleKeys.map Expr.type) (Groups.keyOf exampleValue exampleKeys row) := by decide
  exact (group_gives_classes .fresh [] given exampleKeys exampleCalls exampleArgs rfl exampleValue
    evaluated known rfl).1

end Plan

end SqlEngine
