import SqlEngine.Proofs.Database.Agreement
import SqlEngine.Proofs.Evaluation.Parallel
import SqlEngine.Proofs.Typing.Combines
import SqlEngine.Proofs.Typing.Lookup

/-!
A join through an index gives what the join gives that tries every row.

The index leaves rows out for which the condition cannot hold. The key is evaluated over the left
row alone, so it must not read the right one, in its subqueries either; and it is evaluated also
where the table is empty and no row is tried.
-/

namespace SqlEngine

open Run (Alike bind_of_run)

/-- A single state that nothing changes. -/
abbrev EvalState.Only (s : EvalState) : EvalState → EvalState → Prop := fun x y => x = s ∧ y = s

open EvalState (Only)

section Fixed

variable {α : Type} {s : EvalState} {m n : Eval α}

theorem Run.Alike.run_same (alike : Alike (Only s) m n) :
    ∃ x, m.run s = (x, s) ∧ n.run s = (x, s) := by
  obtain ⟨results, left, right⟩ := alike s s ⟨rfl, rfl⟩
  exact ⟨(m.run s).1, Prod.ext rfl left, Prod.ext results.symm right⟩

end Fixed

/-! ### Cursors -/

namespace Rows.Alike

variable {σ τ : Type} {related : EvalState → EvalState → Prop} {inv : EvalState → Prop}
  {held : Row → Prop} {rows others : Rows}

/-- Two sides that feed the same rows need not remember the same. -/
theorem drive_apart (alike : Rows.Alike related rows others) (meets : rows.Meets inv held)
    (kept : ∀ s t, related s t → inv s) {each : σ → Row → (σ → Cursor) → Cursor}
    {every : τ → Row → (τ → Cursor) → Cursor} {finish : σ → Cursor} {last : τ → Cursor}
    (step : ∀ m n r k l, held r → (∀ m n, Cursor.Alike related (k m) (l n)) →
      Cursor.Alike related (each m r k) (every n r l))
    (ends : ∀ m n, Cursor.Alike related (finish m) (last n)) (m : σ) (n : τ) :
    Rows.Alike related (rows.drive each finish m) (others.drive every last n) := by
  induction alike generalizing m n with
  | done same => exact ends m n _ _ same
  | fail e same => exact .fail e same
  | next row same _ ih =>
      obtain ⟨_, fits, later⟩ := meets
      refine step m n row _ _ fits (fun m n s t linked => ?_) _ _ same
      exact ih s t linked (later s (kept s t linked)) m n

end Rows.Alike

namespace Cursor

variable {α β : Type} {s : EvalState}

theorem after_of_run {m : Eval α} {a : α} {t : EvalState} (ran : m.run s = (.ok a, t))
    (k : α → Cursor) : after m k s = k a t := by
  rw [after, ran]

theorem after_failed {m : Eval α} {e : SqlError} {t : EvalState} (ran : m.run s = (.error e, t))
    (k : α → Cursor) : after m k s = .fail e t := by
  rw [after, ran]

/-- Combined rows of which some are left out, none of which pass. -/
theorem combined_filter {pass : Row → Eval Bool} (chosen : Row → Bool) {k l : List Nat → Cursor}
    (later : ∀ found others, found.isEmpty = others.isEmpty →
      Alike (Only s) (k found) (l others)) :
    ∀ (candidates few : List (Row × Nat)) (found others : List Nat),
      few.map (·.1) = (candidates.map (·.1)).filter chosen →
      (∀ e ∈ candidates, ∃ passed, (pass e.1).run s = (.ok passed, s) ∧ (passed → chosen e.1)) →
      found.isEmpty = others.isEmpty →
        Alike (Only s) (combined pass k found candidates) (combined pass l others few) := by
  -- the two sides number the partners differently: only whether one was found is the same
  intro candidates
  induction candidates with
  | nil =>
      intro few found others same _ matched
      obtain rfl : few = [] := List.map_eq_nil_iff.mp same
      exact later found others matched
  | cons candidate rest ih =>
      obtain ⟨row, partner⟩ := candidate
      intro few found others same tested matched
      obtain ⟨⟨passed, ran, covered⟩, testedRest⟩ := List.forall_mem_cons.mp tested
      rintro _ _ ⟨rfl, rfl⟩
      rw [combined, after_of_run ran]
      cases wanted : chosen row with
      | false =>
          rw [List.map_cons, List.filter_cons_of_neg (by simp [wanted])] at same
          rw [if_neg fun holds => by simp [wanted, holds] at covered]
          exact ih few found others same testedRest matched _ _ ⟨rfl, rfl⟩
      | true =>
          rw [List.map_cons, List.filter_cons_of_pos wanted] at same
          obtain ⟨⟨row', partner'⟩, fewer, rfl, rfl, remaining⟩ := List.map_eq_cons_iff.mp same
          rw [combined, after_of_run ran]
          split
          · exact Alike.cons _
              (ih fewer (partner :: found) (partner' :: others) remaining testedRest rfl) _ _ ⟨rfl, rfl⟩
          · exact ih fewer found others remaining testedRest matched _ _ ⟨rfl, rfl⟩

theorem fold_ofList (s : EvalState) : ∀ rows held : List Row,
    (ofList rows).fold (fun rows row => pure (row :: rows)) held s = (.ok (rows.reverse ++ held), s) := by
  intro rows
  induction rows with
  | nil => exact fun _ => rfl
  | cons row rest ih =>
      intro held
      rw [List.reverse_cons, List.append_assoc]
      exact ih (row :: held)

theorem collect_ofList (rows : List Row) (s : EvalState) :
    (ofList rows).collect.run s = (.ok rows, s) := by
  have folded : ((ofList rows).fold (fun rows row => pure (row :: rows)) []).run s =
      (.ok (rows.reverse ++ []), s) := fold_ofList s rows []
  rw [collect, bind_of_run folded, Run.pure_run, List.append_nil, List.reverse_reverse]

/-- What looking up the partners of a row gives: the error that trying any of them gives, or some of
them, and the others would not pass. -/
def Covers (s : EvalState) (pass : Row → Eval Bool) (partnersOf : Row → Eval (List Row))
    (partners : List Row) (row : Row) : Prop :=
  (∃ e, (partnersOf row).run s = (.error e, s) ∧ partners ≠ [] ∧
    ∀ partner ∈ partners, (pass (row ++ partner)).run s = (.error e, s)) ∨
  ∃ chosen, (partnersOf row).run s = (.ok (partners.filter chosen), s) ∧
    ∀ partner ∈ partners, ∃ passed,
      (pass (row ++ partner)).run s = (.ok passed, s) ∧ (passed → chosen partner)

/-- A join that looks partners up gives what the join gives that tries them all. -/
theorem join_alike_lookupJoin {c other : Cursor} {kind : JoinKind}
    (either : kind = .inner ∨ kind = .left) {pass : Row → Eval Bool}
    {partnersOf : Row → Eval (List Row)} {partners : List Row} {held : Row → Prop}
    (lefts : Alike (Only s) c c) (meets : c.Meets (· = s) held)
    (collected : other.collect.run s = (.ok partners, s))
    (covers : ∀ row, held row → Covers s pass partnersOf partners row) (leftWidth rightWidth : Nat) :
    Alike (Only s) (join kind leftWidth rightWidth pass c other)
      (lookupJoin (kind == .left) rightWidth pass partnersOf c) := by
  have forward : kind.drivesRight = false := by rcases either with rfl | rfl <;> rfl
  have keeping : kind.keepsDriving = (kind == .left) := by rcases either with rfl | rfl <;> rfl
  have ending : kind.keepsOther = false := by rcases either with rfl | rfl <;> rfl
  rintro _ _ ⟨rfl, rfl⟩
  simp only [join, lookupJoin, forward, keeping, ending, Bool.false_eq_true, ↓reduceIte]
  rw [after_of_run collected]
  refine (lefts _ _ ⟨rfl, rfl⟩).drive_apart (meets _ rfl) (fun _ _ linked => linked.1) ?_
    (fun _ _ => Alike.empty) _ _
  rintro matched ⟨⟩ row k l fits later _ _ ⟨rfl, rfl⟩
  rcases covers row fits with ⟨e, looked, filled, failed⟩ | ⟨chosen, looked, tested⟩
  · -- the key fails: so does the first row that is tried, if there is one
    rw [after_failed looked]
    obtain ⟨first, rest, rfl⟩ := List.exists_cons_of_ne_nil filled
    rw [List.zipIdx_cons, List.map_cons, combined, after_failed (failed first List.mem_cons_self)]
    exact .fail e ⟨rfl, rfl⟩
  · rw [after_of_run looked]
    refine combined_filter (fun joined => chosen (joined.drop row.length))
      (fun found others same => ?_) _ _ [] [] ?_ ?_ rfl _ _ ⟨rfl, rfl⟩
    · rw [same]
      split
      · exact Alike.cons _ (later _ ())
      · exact later _ ()
    · have whole : (partners.zipIdx.map fun e => (row ++ e.1, e.2)).map (·.1) =
          partners.map (row ++ ·) := by
        rw [List.map_map]
        exact (List.map_map (g := (row ++ ·)) (f := Prod.fst)).symm.trans
          (congrArg _ (List.zipIdx_map_fst 0 partners))
      have restricted : (fun joined : Row => chosen (joined.drop row.length)) ∘ (row ++ ·) = chosen :=
        funext fun partner => congrArg chosen List.drop_left
      rw [whole, List.filter_map, restricted]
      exact List.zipIdx_map_fst 0 _
    · intro candidate there
      obtain ⟨⟨partner, place⟩, numbered, rfl⟩ := List.mem_map.mp there
      have among := List.fst_mem_of_mem_zipIdx numbered
      rw [List.drop_left]
      exact tested partner among

end Cursor

/-! ### The condition -/

/-- The places that lie in a left row of some width, or farther out. -/
def Places.leftOf (width : Nat) : Places := fun level index => level = 0 → index < width

theorem Places.same_leftOf (row partner : Row) (outer : List Row) :
    (Places.leftOf row.length).Same (row :: outer) ((row ++ partner) :: outer)
  | 0, index, inside => by
      have inside : index < row.length := inside rfl
      refine Or.inr ⟨row[index], List.getElem?_eq_getElem inside, ?_⟩
      exact (List.getElem?_append_left inside).trans (List.getElem?_eq_getElem inside)
  | _ + 1, _, _ => Or.inl rfl

mutual

/-- Has the expression no subquery? -/
def Expr.isSimple : Expr → Bool
  | .apply _ args _ => Expr.allSimple args
  | .call _ args => Expr.allSimple args
  | .scalar _ _ | .hasRows _ _ | .among _ _ _ _ => false
  | _ => true

def Expr.allSimple : List Expr → Bool
  | [] => true
  | e :: rest => e.isSimple && Expr.allSimple rest

end

mutual

/-- Without subqueries, the columns that are seen from outside are all that is read. -/
theorem Expr.readsOnly_leftOf {width : Nat} : ∀ e : Expr, e.isSimple → (∀ c ∈ e.columns, c < width) →
    e.ReadsOnly (.leftOf width)
  | .column index _, _, inside => fun _ => inside index List.mem_cons_self
  | .outer _ _ _, _, _ => or_iff_not_imp_left.mpr fun farther same => absurd same farther
  | .apply _ args _, simple, inside => Expr.allReadOnly_leftOf args simple inside
  | .call _ args, simple, inside => Expr.allReadOnly_leftOf args simple inside
  | .constant _ _, _, _ => trivial
  | .aggregate _ _, _, _ => trivial

theorem Expr.allReadOnly_leftOf {width : Nat} : ∀ es : List Expr, Expr.allSimple es →
    (∀ c ∈ Expr.allColumns es, c < width) → Expr.AllReadOnly (.leftOf width) es
  | [], _, _ => trivial
  | e :: rest, simple, inside => by
      obtain ⟨first, others⟩ := Bool.and_eq_true_iff.mp simple
      rw [Expr.allColumns, List.forall_mem_append] at inside
      exact ⟨e.readsOnly_leftOf first inside.1, Expr.allReadOnly_leftOf rest others inside.2⟩

end

theorem Op.strictTwo_run {f : Value → Value → Except SqlError Value} {m n : Eval Value}
    {s : EvalState} {x y : Except SqlError Value} (first : m.run s = (x, s))
    (second : n.run s = (y, s)) :
    (strictTwo f [m, n]).run s = (do f (← x) (← y), s) := by
  have listed : [m, n].mapM id = do return [← m, ← n] := by
    simp only [List.mapM_cons, List.mapM_nil, id, bind_assoc, pure_bind]
  rw [strictTwo, strict, listed]
  cases x with
  | error e => simp only [Run.bind_run, first]; rfl
  | ok v =>
      cases y with
      | error e => simp only [Run.bind_run, first, second]; rfl
      | ok w => simp only [Run.bind_run, first, second, Run.pure_run]; rfl

theorem Expr.compare_holds {op : Comparison} {type result : SqlType} {a b : Expr} {env : Env}
    {outer : List Row} {row : Row} {s : EvalState} {x y : Except SqlError Value}
    (first : (a.eval env outer row).run s = (x, s)) (second : (b.eval env outer row).run s = (y, s)) :
    ((Expr.apply (.compare op type) [a, b] result).holds env outer row).run s =
      (do return (op.apply type (← x) (← y)).bool? == some true, s) := by
  have compared : ((Expr.apply (.compare op type) [a, b] result).eval env outer row).run s =
      (do .ok (op.apply type (← x) (← y)), s) := by
    rw [Expr.eval, Op.perform]
    exact Op.strictTwo_run first second
  rw [Expr.holds, Run.bind_run, compared]
  cases x <;> cases y <;> rfl

theorem Comparison.equals?_of_apply {type : SqlType} {v w : Value}
    (holds : ((Comparison.equal.apply type v w).bool? == some true) = true) :
    type.equals? v w = some true := by
  rw [apply] at holds
  rw [SqlType.equals?]
  cases compared : type.compare? v w with
  | none => simp [compared, Value.bool?] at holds
  | some o => cases o <;> simp_all [Value.bool?, Comparison.holds]

/-- The position in the right row, if the expression is a column of it. -/
def Expr.behind? (width : Nat) : Expr → Option Nat
  | .column index _ => if width ≤ index then some (index - width) else none
  | _ => none

theorem Expr.behind?_some {width c : Nat} {e : Expr} (behind : e.behind? width = some c) :
    ∃ column, e = .column (width + c) column := by
  unfold behind? at behind
  split at behind
  · rename_i index column
    split at behind
    · cases behind
      exact ⟨column, by rw [Nat.add_sub_of_le ‹_›]⟩
    · cases behind
  · cases behind

namespace TypedPlan

/-- The condition compares a column of the right row with the key, which reads no right column
itself. -/
theorem equalKey?_some {width position : Nat} {condition key : Expr} {type : SqlType}
    (found : equalKey? width condition = some (position, key, type)) :
    (∀ c ∈ key.columns, c < width) ∧ ∃ column result,
      condition = .apply (.compare .equal type) [.column (width + position) column, key] result ∨
        condition = .apply (.compare .equal type) [key, .column (width + position) column] result := by
  unfold equalKey? at found
  split at found
  · rename_i a b result
    dsimp only at found
    split at found
    · rename_i read _
      obtain ⟨column, rfl⟩ := Expr.behind?_some (e := a) read
      split at found <;> cases found
      rename_i left
      exact ⟨by simpa using left, column, result, Or.inl rfl⟩
    · rename_i read
      obtain ⟨column, rfl⟩ := Expr.behind?_some (e := b) read
      split at found <;> cases found
      rename_i left
      exact ⟨by simpa using left, column, result, Or.inr rfl⟩
    · cases found
  · cases found

theorem equalKey?_leftOnly {width position : Nat} {condition key : Expr} {type : SqlType}
    (found : equalKey? width condition = some (position, key, type)) (simple : key.isSimple) :
    key.ReadsOnly (.leftOf width) :=
  key.readsOnly_leftOf simple (equalKey?_some found).1

/-- The condition fails as its key does, and it only holds where the key equals the column. -/
theorem test_run {width position : Nat} {condition key : Expr} {type : SqlType}
    (found : equalKey? width condition = some (position, key, type)) {env : Env} {outer : List Row}
    {row : Row} {u : Value} (inside : row[width + position]? = some u) {s : EvalState}
    {x : Except SqlError Value} (evaluated : (key.eval env outer row).run s = (x, s)) :
    ∃ verdict : Value → Bool,
      (condition.holds env outer row).run s = (x.map verdict, s) ∧
        ∀ v, verdict v → type.equals? v u = some true ∨ type.equals? u v = some true := by
  obtain ⟨_, column, result, shape⟩ := equalKey?_some found
  have read : ((Expr.column (width + position) column).eval env outer row).run s = (.ok u, s) := by
    rw [Expr.eval, inside]
    rfl
  rcases shape with rfl | rfl
  · refine ⟨fun v => (Comparison.equal.apply type u v).bool? == some true, ?_,
      fun v holds => Or.inr (Comparison.equals?_of_apply holds)⟩
    rw [Expr.compare_holds read evaluated]
    cases x <;> rfl
  · refine ⟨fun v => (Comparison.equal.apply type v u).bool? == some true, ?_,
      fun v holds => Or.inl (Comparison.equals?_of_apply holds)⟩
    rw [Expr.compare_holds evaluated read]
    cases x <;> rfl

end TypedPlan

/-! ### The join -/

section Join

variable {env : Env} {outer : List Row} {s : EvalState} {d : TableDef} {i : IndexDef}
  {position width : Nat} {condition key : Expr}

theorem partners_cover
    (found : TypedPlan.equalKey? width condition = some (position, key, d.typeAt position))
    (inside : position < d.columns.length) (conforms : (s.store.table d.id).Conforms d)
    (wellFormed : d.WellFormed) (member : i ∈ d.indexes) (columns : i.columns = [position])
    (total : (d.typeAt position).hasTotalOrder) (reads : key.within .reader)
    (leftOnly : key.ReadsOnly (.leftOf width)) {row : Row} (wide : row.length = width)
    (admitted : (key.eval env outer row).Meets (· = s) (d.typeAt position).Admits)
    (answers : (s.store.table d.id).rows = [] → ∃ v, ((key.eval env outer row).run s).1 = .ok v) :
    Cursor.Covers s (condition.holds env outer)
      (fun row => do
        let v ← key.eval env outer row
        return d.partners i.id v (← Eval.store))
      ((s.store.table d.id).rows.map (·.2)) row := by
  have parallel := (Allowance.Agree.refl .reader s).parallel Allowance.reading_reader env
  subst wide
  obtain ⟨x, ran, _⟩ := (key.eval_alike parallel outer row reads).run_same
  -- on a combined row the key gives what it gives on the left row, and the verdict follows from it
  have verdicts : ∀ e ∈ (s.store.table d.id).rows, ∃ verdict : Value → Bool,
      (condition.holds env outer (row ++ e.2)).run s = (x.map verdict, s) ∧
        ∀ v, verdict v → (d.typeAt position).equals? v (e.2.getD position .null) = some true ∨
          (d.typeAt position).equals? (e.2.getD position .null) v = some true := by
    intro e there
    have same := Places.same_leftOf row e.2 outer
    obtain ⟨y, alone, joined⟩ := (key.eval_local parallel same reads leftOnly).run_same
    obtain rfl : y = x := (Prod.mk.inj (alone.symm.trans ran)).1
    have within : position < e.2.length := conforms.shape.width e there ▸ inside
    refine TypedPlan.test_run found ?_ joined
    rw [List.getElem?_append_right (by omega), Nat.add_sub_cancel_left, List.getD_eq_getElem?_getD,
      List.getElem?_eq_getElem within, Option.getD_some]
  cases x with
  | error e =>
      refine Or.inl ⟨e, ?_, ?_, ?_⟩
      · rw [Run.bind_run, ran]
      · intro empty
        obtain ⟨v, given⟩ := answers (List.map_eq_nil_iff.mp empty)
        rw [ran] at given
        cases given
      · intro partner there
        obtain ⟨entry, stored, rfl⟩ := List.mem_map.mp there
        obtain ⟨_, judged, _⟩ := verdicts entry stored
        exact judged
  | ok v =>
      have fits : (d.typeAt position).Admits v := (admitted s rfl).2 v (congrArg (·.1) ran)
      have looked := TableDef.partners_eq conforms wellFormed member columns total fits
      refine Or.inr ⟨_, (bind_of_run ran).trans (congrArg (fun rows => (Except.ok rows, s)) looked), ?_⟩
      intro partner there
      obtain ⟨entry, stored, rfl⟩ := List.mem_map.mp there
      obtain ⟨verdict, judged, equal⟩ := verdicts entry stored
      refine ⟨verdict v, judged, fun holds => ?_⟩
      have other := TableDef.admits_getD (conforms.fits entry stored) position
      rw [Bool.and_eq_true, Bool.not_eq_true']
      rcases equal v holds with same | same
      · exact ⟨(SqlType.present_of_equals? same).1, SqlType.sharesKey_of_equals? same⟩
      · rw [SqlType.sharesKey_comm total fits other]
        exact ⟨(SqlType.present_of_equals? same).2, SqlType.sharesKey_of_equals? same⟩

end Join

section Typed

variable {env : Env} {outer : List Row} {s : EvalState} {inv : EvalState → Prop}

/-- What a cursor gives where its state meets a condition, it gives in a state that nothing changes. -/
theorem Cursor.Meets.only {c : Cursor} {held : Row → Prop} (meets : c.Meets inv held) (hs : inv s)
    (alike : Cursor.Alike (Only s) c c) : c.Meets (· = s) held := by
  have stays : ∀ rows others : Rows, Rows.Alike (Only s) rows others → rows.Meets inv held →
      rows.Meets (· = s) held := by
    intro rows others same
    induction same with
    | done linked => exact fun _ => linked.1
    | fail e linked => exact fun _ => linked.1
    | next row linked _ ih =>
        rintro ⟨_, fits, later⟩
        refine ⟨linked.1, fits, ?_⟩
        rintro t rfl
        exact ih t t ⟨rfl, rfl⟩ (later t hs)
  rintro _ rfl
  exact stays _ _ (alike _ _ ⟨rfl, rfl⟩) (meets _ hs)

theorem Eval.Meets.only {α : Type} {m : Eval α} {result : α → Prop} (meets : m.Meets inv result)
    (hs : inv s) (alike : Run.Alike (Only s) m m) : m.Meets (· = s) result := by
  rintro _ rfl
  exact ⟨(alike _ _ ⟨rfl, rfl⟩).2.1, (meets _ hs).2⟩

namespace TypedPlan

variable {left : TypedPlan} {d : TableDef} {kind : JoinKind} {condition key : Expr} {type : SqlType}
  {position width : Nat}

theorem equalKey?_within {a : Allowance}
    (found : equalKey? width condition = some (position, key, type)) (allowed : condition.within a) :
    key.within a := by
  obtain ⟨_, column, result, rfl | rfl⟩ := equalKey?_some found <;>
    simpa [Expr.within, Expr.allWithin] using allowed

/-- A key for which an index of the table may be asked in the place of the condition. -/
structure Serves (env : Env) (outer : List Row) (s : EvalState) (d : TableDef) (width : Nat)
    (key : Expr) (type : SqlType) : Prop where
  ordered : type.hasTotalOrder
  typed : key.type = type
  leftOnly : key.ReadsOnly (.leftOf width)
  answers : (s.store.table d.id).rows = [] → ∀ row, row.length = width →
    ∃ v, ((key.eval env outer row).run s).1 = .ok v

/-- An index may be asked for the rows of a table that has any, if the key has no subquery and no
other type than the column. -/
theorem Serves.of_simple {condition key : Expr} {width position : Nat} {type : SqlType}
    (found : equalKey? width condition = some (position, key, type)) (simple : key.isSimple)
    (ordered : type.hasTotalOrder) (typed : key.type = type)
    (filled : (s.store.table d.id).rows ≠ []) : Serves env outer s d width key type where
  ordered := ordered
  typed := typed
  leftOnly := equalKey?_leftOnly found simple
  answers empty := absurd empty filled

/-- Where the data agree with the catalog, a join with a table gives what trying each of its rows
gives, also where it asks an index. -/
theorem join_alike {c : Catalog} {base : List (Level DataKey DataValue)} {seen : List Seen}
    (sound : c.Sound) (agrees : s.Agrees c base) (held : c.Table d) (now : Timestamp)
    (holds : List.Forall₂ Seen.Holds seen outer) (leftTyped : left.Typed c.Table seen)
    (typed : condition.Typed c.Table (.upon seen (left.types ++ d.types)))
    (leftReads : left.plan.within .reader) (reads : condition.within .reader)
    (serves : ∀ position key type, equalKey? left.columns.length condition = some (position, key, type) →
      Serves ⟨c, now⟩ outer s d left.columns.length key type) (knownAs : Option String) :
    Cursor.Alike (Only s)
      ((Plan.join left.plan (.scan d) kind left.columns.length d.columns.length condition).cursor
        ⟨c, now⟩ outer)
      ((left.join (.scan d knownAs) kind (some condition)).plan.cursor ⟨c, now⟩ outer) := by
  have stable := EvalState.Agrees.stable sound base now
  have tables := EvalState.Agrees.typed c base
  have conforms := agrees.content held
  have wellFormed := sound.wellFormed held
  let env : Env := ⟨c, now⟩
  have parallel := (Allowance.Agree.refl .reader s).parallel Allowance.reading_reader env
  have nested : (left.join (.scan d knownAs) kind (some condition)).plan =
      (left.lookup? (.scan d knownAs) kind condition).getD
        (.join left.plan (.scan d) kind left.columns.length d.columns.length condition) := by
    simp [TypedPlan.join, TypedPlan.scan]
  rw [nested]
  cases found : left.lookup? (.scan d knownAs) kind condition with
  | none =>
      -- no index is asked, and both plans are the same
      refine Plan.cursor_alike parallel outer _ ?_
      simp only [Plan.within, leftReads, reads, Bool.and_true]
      rfl
  | some plan =>
      obtain ⟨either, table, position, key, type, i, member, bare, equal, column, columns, rfl⟩ :=
        lookup?_some found
      obtain rfl : d = table := Option.some.inj bare
      obtain ⟨c, there, rfl⟩ := Option.map_eq_some_iff.mp column
      have inside : position < d.columns.length := (List.getElem?_eq_some_iff.mp there).1
      have typeAt : d.typeAt position = c.type := by rw [TableDef.typeAt, there]
      have served := serves position key c.type equal
      have keyReads := equalKey?_within equal reads
      have keyTyped := (equalKey?_typed equal typed).narrow (narrows_left _ _)
      have lefts := left.plan.cursor_alike parallel outer leftReads
      have rows := ((leftTyped.1.cursor stable tables holds).only agrees lefts)
      have width : left.types.length = left.columns.length := by simp [TypedPlan.types]
      have scanned : ((Plan.scan d).cursor env outer).collect.run s =
          (.ok ((s.store.table d.id).rows.map (·.2)), s) := Cursor.collect_ofList _ s
      refine Cursor.join_alike_lookupJoin either lefts rows scanned ?_ _ _
      intro row fits
      have wide : row.length = left.columns.length := fits.length_eq.symm.trans width
      have admitted := (keyTyped.eval stable tables (.upon holds fits)).only agrees
        (key.eval_alike parallel outer row keyReads)
      rw [served.typed, ← typeAt] at admitted
      exact partners_cover (typeAt ▸ equal) inside conforms wellFormed member columns
        (typeAt ▸ served.ordered) keyReads served.leftOnly wide admitted
        fun empty => served.answers empty row wide

end TypedPlan

end Typed

end SqlEngine
