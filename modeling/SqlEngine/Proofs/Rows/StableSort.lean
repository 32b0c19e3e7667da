import Mathlib.Data.List.Perm.Basic
import SqlEngine.Proofs.Rows.Repeats
import SqlEngine.Proofs.Types.KeyOrder

/-!
Sorting rows by keys.

A key puts one value before another by its own words about missing values and by its direction; of
several keys the first one that tells two rows apart decides. Where the types of the keys have a
total order, the comparison of rows is one, too, and a sort is stable: its rows are those of the
source, in the order of the keys, and rows that no key tells apart stay as they were.
-/

namespace SqlEngine

/-! ### Total orders

The lemmas about `List.mergeSort` are about orders of a whole type. So they are used for the items
that are held, as a type of their own.
-/

namespace TotalOn

variable {α β : Type} {cmp : α → α → Ordering} {held : α → Prop} {items : List α}

theorem comap (total : TotalOn cmp held) (f : β → α) :
    TotalOn (fun a b => cmp (f a) (f b)) fun b => held (f b) :=
  ⟨fun _ _ => total.swap _ _, fun _ _ _ => total.trans _ _ _⟩

theorem congr {other : α → α → Ordering} (total : TotalOn cmp held)
    (same : ∀ a b, held a → held b → cmp a b = other a b) : TotalOn other held := by
  constructor
  · intro a b ha hb
    rw [← same a b ha hb, ← same b a hb ha]
    exact total.swap a b ha hb
  · intro a b c ha hb hc
    rw [← same a b ha hb, ← same b c hb hc, ← same a c ha hc]
    exact total.trans a b c ha hb hc

theorem reversed (total : TotalOn cmp held) : TotalOn (fun a b => (cmp a b).swap) held := by
  have back : TotalOn (fun a b => cmp b a) held :=
    ⟨fun a b ha hb => total.swap b a hb ha, fun a b c ha hb hc first second =>
      total.trans c b a hc hb ha second first⟩
  exact back.congr fun a b ha hb => total.swap a b ha hb

theorem map_mergeSort (cmp : α → α → Ordering) (each : ∀ x ∈ items, held x) :
    ((items.attachWith held each).mergeSort fun a b => (cmp a.1 b.1).isLE).map (·.1) =
      items.mergeSort fun a b => (cmp a b).isLE := by
  rw [List.map_mergeSort (s := fun a b => (cmp a b).isLE) fun _ _ _ _ => rfl,
    List.attachWith_map_subtype_val]

theorem isLE_trans (total : TotalOn cmp held) (a b c : { x // held x })
    (first : (cmp a.1 b.1).isLE) (second : (cmp b.1 c.1).isLE) : (cmp a.1 c.1).isLE :=
  total.trans a.1 b.1 c.1 a.2 b.2 c.2 first second

theorem isLE_total (total : TotalOn cmp held) (a b : { x // held x }) :
    (cmp a.1 b.1).isLE || (cmp b.1 a.1).isLE := by
  rw [total.swap a.1 b.1 a.2 b.2]
  cases cmp a.1 b.1 <;> rfl

theorem pairwise_mergeSort (total : TotalOn cmp held) (each : ∀ x ∈ items, held x) :
    (items.mergeSort fun a b => (cmp a b).isLE).Pairwise fun a b => (cmp a b).isLE := by
  rw [← map_mergeSort cmp each, List.pairwise_map]
  exact List.pairwise_mergeSort total.isLE_trans total.isLE_total _

/-- Items that are equal to one item keep their order. -/
theorem filter_mergeSort (total : TotalOn cmp held) (each : ∀ x ∈ items, held x) {x : α}
    (hx : held x) : (items.mergeSort fun a b => (cmp a b).isLE).filter (cmp x · == .eq) =
      items.filter (cmp x · == .eq) := by
  have equal : ((items.attachWith held each).filter fun y => cmp x y.1 == .eq).Pairwise
      fun a b => (cmp a.1 b.1).isLE := by
    refine List.pairwise_of_forall_mem_list fun a hasA b hasB => ?_
    have equalA := beq_iff_eq.mp (List.mem_filter.mp hasA).2
    have equalB := beq_iff_eq.mp (List.mem_filter.mp hasB).2
    exact total.trans a.1 x b.1 a.2 hx b.2 (by simp [total.symm hx a.2 equalA]) (by simp [equalB])
  -- what is in order already stays in order
  have kept := List.sublist_mergeSort total.isLE_trans total.isLE_total equal List.filter_sublist
  have same : ((items.attachWith held each).filter fun y => cmp x y.1 == .eq).map (·.1) =
      items.filter (cmp x · == .eq) := by
    conv_rhs => rw [← List.attachWith_map_subtype_val each, List.filter_map]
    rfl
  have inside := (kept.map (·.1)).filter (cmp x · == .eq)
  rw [map_mergeSort, same] at inside
  have permuted := (List.mergeSort_perm items fun a b => (cmp a b).isLE).filter (cmp x · == .eq)
  exact (List.Sublist.eq_of_length (by simpa using inside) permuted.length_eq.symm).symm

end TotalOn

/-! ### One key -/

namespace SqlType

/-- Can the value be sorted under the type? It is a key of the type, and where the type is an
enumeration it is made of labels. -/
def Sortable (type : SqlType) (v : Value) : Prop := type.Keys v ∧ type.labelled v

variable {type : SqlType} {v a b : Value}

instance : Decidable (type.Sortable v) :=
  inferInstanceAs (Decidable (type.Keys v ∧ type.labelled v))

/-- The values of a type without documents can be sorted. -/
theorem sortable_of_includes (total : type.hasTotalOrder) (given : type.includes v) :
    type.Sortable v :=
  ⟨keys_of_includes total v given, labelled_of_includes type v given⟩

theorem compare?_eq_some_iff {o : Ordering} : type.compare? a b = some o ↔
    a.isNull = false ∧ b.isNull = false ∧ type.compareNonNull a b = o := by
  cases nullA : a.isNull <;> cases nullB : b.isNull <;> simp [compare?, nullA, nullB]

theorem totalOn_compareNonNull (type : SqlType) : TotalOn type.compareNonNull type.Sortable := by
  have forms : TotalOn (fun a b => (type.canonical a).order (type.canonical b)) type.Sortable :=
    ((Value.totalOn_fits type.hasFloats).comap type.canonical).mono fun _ given => given.1.canonical
  exact forms.congr fun a b ha hb =>
    canonical_order type a b ha.1.unnumbered hb.1.unnumbered ha.2 hb.2

end SqlType

namespace KeyOrder

variable {k : KeyOrder} {type : SqlType} {a b : Value}

/-- Does a missing value come before all others? If nothing is said, it does where the least value
comes first. -/
def missingFirst (k : KeyOrder) : Bool := k.nullsFirst.getD !k.descending

/-- The key puts a value before another. -/
inductive Before (k : KeyOrder) (type : SqlType) : Value → Value → Prop
  | missing {a b : Value} (first : k.missingFirst) (missing : a.isNull)
      (present : b.isNull = false) : Before k type a b
  | present {a b : Value} (last : k.missingFirst = false) (present : a.isNull = false)
      (missing : b.isNull) : Before k type a b
  | ascending {a b : Value} (up : k.descending = false) (less : type.compare? a b = some .lt) :
      Before k type a b
  | descending {a b : Value} (down : k.descending) (greater : type.compare? a b = some .gt) :
      Before k type a b

theorem compare_of_present (presentA : a.isNull = false) (presentB : b.isNull = false) :
    k.compare type a b =
      if k.descending then (type.compareNonNull a b).swap else type.compareNonNull a b := by
  simp [compare, SqlType.compare?, presentA, presentB]

theorem compare_eq_lt_iff : k.compare type a b = .lt ↔ k.Before type a b := by
  constructor
  · intro less
    cases nullA : a.isNull <;> cases nullB : b.isNull
    · have compared : type.compare? a b = some (type.compareNonNull a b) := by
        simp [SqlType.compare?, nullA, nullB]
      rw [compare_of_present nullA nullB] at less
      cases down : k.descending with
      | false => exact .ascending down (by simpa [compared, down] using less)
      | true => exact .descending down (by simpa [compared, down] using less)
    · exact .present (by simpa [compare, nullA, nullB, missingFirst] using less) nullA nullB
    · exact .missing (by simpa [compare, nullA, nullB, missingFirst] using less) nullA nullB
    · simp [compare, nullA, nullB] at less
  · rintro (⟨first, missing, present⟩ | ⟨last, present, missing⟩ | ⟨up, less⟩ | ⟨down, greater⟩)
    · simpa [compare, missing, present, missingFirst] using first
    · simpa [compare, missing, present, missingFirst] using last
    · obtain ⟨presentA, presentB, less⟩ := SqlType.compare?_eq_some_iff.mp less
      simp [compare_of_present presentA presentB, up, less]
    · obtain ⟨presentA, presentB, greater⟩ := SqlType.compare?_eq_some_iff.mp greater
      simp [compare_of_present presentA presentB, down, greater]

theorem compare_eq_eq_iff : k.compare type a b = .eq ↔ type.same a b := by
  cases nullA : a.isNull <;> cases nullB : b.isNull
  · rw [compare_of_present nullA nullB]
    cases k.descending <;> simp [SqlType.same, SqlType.compare?, nullA, nullB]
  · cases first : k.nullsFirst.getD !k.descending <;>
      simp [compare, SqlType.same, SqlType.compare?, nullA, nullB, first]
  · cases first : k.nullsFirst.getD !k.descending <;>
      simp [compare, SqlType.same, SqlType.compare?, nullA, nullB, first]
  · simp [compare, SqlType.same, nullA, nullB]

theorem totalOn_compare (k : KeyOrder) (type : SqlType) :
    TotalOn (k.compare type) type.Sortable := by
  have values : TotalOn (fun a b => if k.descending then (type.compareNonNull a b).swap
      else type.compareNonNull a b) type.Sortable := by
    cases k.descending
    · exact type.totalOn_compareNonNull
    · exact type.totalOn_compareNonNull.reversed
  constructor
  · intro a b ha hb
    have present := values.swap a b ha hb
    cases nullA : a.isNull <;> cases nullB : b.isNull
    · rwa [compare_of_present nullB nullA, compare_of_present nullA nullB]
    -- the key alone says where missing values stand
    all_goals
      cases first : k.nullsFirst.getD !k.descending <;> simp [compare, nullA, nullB, first]
  · intro a b c ha hb hc first second
    have present := values.trans a b c ha hb hc
    cases nullA : a.isNull <;> cases nullB : b.isNull <;> cases nullC : c.isNull
    · rw [compare_of_present nullA nullB] at first
      rw [compare_of_present nullB nullC] at second
      rw [compare_of_present nullA nullC]
      exact present first second
    all_goals
      cases place : k.nullsFirst.getD !k.descending <;>
        simp [compare, nullA, nullB, nullC, place] at first second ⊢

/-! ### Several keys -/

/-- The keys put a row of key values before another: the first key that tells them apart does. -/
inductive BeforeAll : List (KeyOrder × SqlType) → Row → Row → Prop
  | here {k : KeyOrder} {type : SqlType} {keys : List (KeyOrder × SqlType)} {a b : Value}
      {as bs : Row} (first : k.Before type a b) : BeforeAll ((k, type) :: keys) (a :: as) (b :: bs)
  | later {k : KeyOrder} {type : SqlType} {keys : List (KeyOrder × SqlType)} {a b : Value}
      {as bs : Row} (same : type.same a b) (rest : BeforeAll keys as bs) :
      BeforeAll ((k, type) :: keys) (a :: as) (b :: bs)

theorem compareAll_eq_lt_iff {keys : List (KeyOrder × SqlType)} : ∀ {as bs : Row},
    compareAll keys as bs = .lt ↔ BeforeAll keys as bs := by
  induction keys with
  | nil =>
      intro as bs
      simp only [compareAll, reduceCtorEq, false_iff]
      rintro ⟨⟩
  | cons key keys ih =>
      obtain ⟨k, type⟩ := key
      intro as bs
      constructor
      · intro less
        cases as with
        | nil => simp [compareAll] at less
        | cons a as =>
            cases bs with
            | nil => simp [compareAll] at less
            | cons b bs =>
                rw [compareAll, Ordering.then_eq_lt] at less
                rcases less with first | ⟨same, rest⟩
                · exact .here (compare_eq_lt_iff.mp first)
                · exact .later (compare_eq_eq_iff.mp same) (ih.mp rest)
      · rintro (first | ⟨same, rest⟩)
        · rw [compareAll, compare_eq_lt_iff.mpr first]
          rfl
        · rw [compareAll, compare_eq_eq_iff.mpr same]
          exact ih.mpr rest

theorem compareAll_eq_eq_iff {keys : List (KeyOrder × SqlType)} : ∀ {as bs : Row},
    compareAll keys as bs = .eq ↔ Row.same (keys.map (·.2)) as bs := by
  induction keys with
  | nil =>
      intro as bs
      simp [compareAll, Row.same]
  | cons key keys ih =>
      obtain ⟨k, type⟩ := key
      intro as bs
      cases as with
      | nil => simp [compareAll, Row.same]
      | cons a as =>
          cases bs with
          | nil => simp [compareAll, Row.same]
          | cons b bs =>
              simp only [compareAll, Ordering.then_eq_eq, compare_eq_eq_iff, ih, List.map_cons,
                Row.same, Bool.and_eq_true]

theorem totalOn_compareAll (keys : List (KeyOrder × SqlType)) :
    TotalOn (compareAll keys) (List.Forall₂ SqlType.Sortable (keys.map (·.2))) := by
  induction keys with
  | nil => exact ⟨fun _ _ _ _ => rfl, fun _ _ _ _ _ _ _ _ => rfl⟩
  | cons key keys ih =>
      obtain ⟨k, type⟩ := key
      have first := k.totalOn_compare type
      constructor
      · rintro _ _ (_ | ⟨ha, restA⟩) (_ | ⟨hb, restB⟩)
        rw [compareAll, compareAll, Ordering.swap_then, first.swap _ _ ha hb,
          ih.swap _ _ restA restB]
      · rintro _ _ _ (_ | ⟨ha, restA⟩) (_ | ⟨hb, restB⟩) (_ | ⟨hc, restC⟩) below above
        exact first.then_trans ha hb hc (fun _ _ => ih.trans _ _ _ restA restB restC) below above

theorem sorted_eq_mergeSort {keys : List (KeyOrder × SqlType)}
    (total : ∀ key ∈ keys, key.2.hasTotalOrder) (rows : List (Row × Row)) :
    sorted keys rows = rows.mergeSort fun a b => (compareAll keys a.1 b.1).isLE := by
  have isLE : (fun a b : Row × Row => compareAll keys a.1 b.1 != .gt) =
      fun a b => (compareAll keys a.1 b.1).isLE := by
    funext a b
    cases compareAll keys a.1 b.1 <;> rfl
  rw [sorted, if_pos (List.all_eq_true.mpr total), isLE]

/-- What is sorted by total orders: the same rows, in the order of the keys, those that are the same
in all keys as they were. -/
theorem sorted_stably {keys : List (KeyOrder × SqlType)} {rows : List (Row × Row)}
    (total : ∀ key ∈ keys, key.2.hasTotalOrder)
    (each : ∀ e ∈ rows, List.Forall₂ SqlType.Sortable (keys.map (·.2)) e.1) :
    (sorted keys rows).Perm rows ∧
      (sorted keys rows).Pairwise (fun a b =>
        BeforeAll keys a.1 b.1 ∨ Row.same (keys.map (·.2)) a.1 b.1) ∧
      ∀ e ∈ rows, (sorted keys rows).filter (Row.sameKey (keys.map (·.2)) e) =
        rows.filter (Row.sameKey (keys.map (·.2)) e) := by
  have order := (totalOn_compareAll keys).comap fun e : Row × Row => e.1
  rw [sorted_eq_mergeSort total]
  refine ⟨List.mergeSort_perm _ _, ?_, fun e member => ?_⟩
  · refine (order.pairwise_mergeSort each).imp fun {a b} below => ?_
    rw [← compareAll_eq_lt_iff, ← compareAll_eq_eq_iff]
    exact Ordering.isLE_iff_eq_lt_or_eq_eq.mp below
  · have same : Row.sameKey (keys.map (·.2)) e = (compareAll keys e.1 ·.1 == .eq) := by
      funext b
      rw [Bool.eq_iff_iff, beq_iff_eq, compareAll_eq_eq_iff]
      rfl
    rw [same]
    exact order.filter_mergeSort each (each e member)

end KeyOrder

/-! ### Sorted rows -/

/-- All rows are taken from the source, with their keys, before the first one is given. -/
theorem Rows.fold_keyed (keyOf : Row → Eval Row) (r : Rows) : ∀ earlier : List (Row × Row),
    r.fold (fun rows row => do return ((← keyOf row), row) :: rows) earlier =
      let given := r.course (Cursor.keyed keyOf)
      (match given.fault with
        | none => .ok (given.items.reverse ++ earlier)
        | some e => .error e, given.state) := by
  induction r with
  | done s => exact fun _ => rfl
  | fail e s => exact fun _ => rfl
  | next row s rest ih =>
      intro earlier
      rcases ran : (keyOf row).run s with ⟨outcome, t⟩
      cases outcome with
      | error e =>
          rw [Rows.fold, Run.bind_run, ran, Rows.course_keyed_error ran]
      | ok key =>
          rw [Rows.fold, Run.bind_of_run ran, Rows.course_keyed ran]
          simp only [Run.pure_run, ih t, Course.map, List.reverse_cons, List.append_assoc,
            List.singleton_append]

/-- The rows of a sort: none if the source or a key fails. -/
theorem Cursor.course_order (keys : List (KeyOrder × SqlType)) (keyOf : Row → Eval Row)
    (source : Cursor) (s : EvalState) :
    let given := (source s).course (keyed keyOf)
    (source.order keys keyOf s).course pure =
      match given.fault with
      | none => ⟨(KeyOrder.sorted keys given.items).map (·.2), none, given.state⟩
      | some e => ⟨[], some e, given.state⟩ := by
  intro given
  have taken :
      (source.fold (fun rows row => do return ((← keyOf row), row) :: rows) []).run s = _ :=
    (source s).fold_keyed keyOf []
  have known : (source s).course (keyed keyOf) = given := rfl
  rw [known] at taken
  simp only at taken
  rw [order, deferred, after, Run.bind_run, taken]
  cases fault : given.fault with
  | some e => rfl
  | none =>
      have listed : Cursor.Gives (fun _ => True)
          (ofList ((KeyOrder.sorted keys given.items).map (·.2))) _ := Cursor.Gives.ofList _
      simp only [List.append_nil, List.reverse_reverse]
      exact Rows.course_of_gives (listed given.state trivial) trivial

/-- ORDER BY is a stable sort. If the source comes to its end and all keys can be computed, the rows
that come out are those that went in; of two of them the one that the keys put before the other
comes first; and the rows that are the same in all keys are in the order of the source. If the
source or the computation of a key fails, so does the sort, before it gives any row. No key is a
document, and the keys are values of their types, as in `SqlType.sortable_of_includes`, or at least
can be sorted like them. -/
theorem Plan.order_sorts_stably (env : Env) (outer : List Row) (s : EvalState) (source : Plan)
    (keys : List (Expr × KeyOrder)) :
    let orders := keys.map fun key => (key.2, key.1.type)
    let types := keys.map fun key => key.1.type
    let given := (source.cursor env outer s).course
      (Cursor.keyed fun row => (Expr.actions env outer row (keys.map (·.1))).mapM id)
    let result :=
      ((Plan.order source (keys.map (·.1)) (keys.map (·.2))).cursor env outer s).course pure
    (∀ type ∈ types, type.hasTotalOrder) →
    (∀ e ∈ given.items, List.Forall₂ SqlType.Sortable types e.1) →
      match given.fault with
      | some e => result = ⟨[], some e, given.state⟩
      | none => ∃ out : List (Row × Row), result = ⟨out.map (·.2), none, given.state⟩ ∧
          out.Perm given.items ∧
          out.Pairwise (fun a b => KeyOrder.BeforeAll orders a.1 b.1 ∨ Row.same types a.1 b.1) ∧
          ∀ e ∈ given.items, out.filter (Row.sameKey types e) =
            given.items.filter (Row.sameKey types e) := by
  intro orders types given result total each
  have zipped : (keys.map (·.2)).zip ((keys.map (·.1)).map Expr.type) = orders := by
    simp [orders, List.zip_map', List.map_map]
  have sorted : result = match given.fault with
      | none => ⟨(KeyOrder.sorted orders given.items).map (·.2), none, given.state⟩
      | some e => ⟨[], some e, given.state⟩ := by
    simp only [result]
    rw [Plan.cursor, zipped]
    exact Cursor.course_order orders _ _ s
  have totals : ∀ key ∈ orders, key.2.hasTotalOrder :=
    List.forall_mem_map.mpr fun key member => total _ (List.mem_map_of_mem member)
  have typed : orders.map (·.2) = types := by simp [orders, types]
  cases fault : given.fault with
  | some e => simpa [fault] using sorted
  | none =>
      rw [fault] at sorted
      have stable := KeyOrder.sorted_stably totals (typed ▸ each)
      rw [typed] at stable
      exact ⟨_, sorted, stable⟩

namespace Plan

/-- Rows of a mood, a text in any case, and a number that no key reads. -/
def exampleMoodRows : List Row :=
  [[.text "ok", .text "B", .int 1], [.null, .text "a", .int 2], [.text "happy", .null, .int 3],
    [.text "ok", .text "b", .int 4], [.text "happy", .text "C", .int 5]]

/-- From the best mood to the worst, those without one last, and then by the text, a missing one
last. -/
def exampleSortKeys : List (Expr × KeyOrder) :=
  [(.column 0 exampleMood, ⟨true, none⟩), (.column 1 .citext, ⟨false, some false⟩)]

theorem exampleMoodRows_sorted :
    let orders := exampleSortKeys.map fun key => (key.2, key.1.type)
    let types := [exampleMood, .citext]
    let keyed := exampleMoodRows.map fun row => ([row.getD 0 .null, row.getD 1 .null], row)
    (∀ type ∈ types, type.hasTotalOrder) ∧ (∀ e ∈ keyed, List.Forall₂ SqlType.Sortable types e.1) ∧
      ∃ out : List (Row × Row),
        ((Plan.order (.fixed exampleMoodRows) (exampleSortKeys.map (·.1))
          (exampleSortKeys.map (·.2))).cursor .fresh [] .fresh).course pure =
            ⟨out.map (·.2), none, .fresh⟩ ∧
        out.Perm keyed ∧
        out.Pairwise (fun a b => KeyOrder.BeforeAll orders a.1 b.1 ∨ Row.same types a.1 b.1) ∧
        ∀ e ∈ keyed, out.filter (Row.sameKey types e) = keyed.filter (Row.sameKey types e) := by
  intro orders types keyed
  have total : ∀ type ∈ types, type.hasTotalOrder := by decide
  have each : ∀ e ∈ keyed, List.Forall₂ SqlType.Sortable types e.1 := by decide
  exact ⟨total, each,
    order_sorts_stably .fresh [] .fresh (.fixed exampleMoodRows) exampleSortKeys total each⟩

end Plan

end SqlEngine
