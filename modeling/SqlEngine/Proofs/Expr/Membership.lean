import SqlEngine.Proofs.Run
import SqlEngine.Expr.Eval

/-!
What `IN` answers.

Whether a value is among candidates is the disjunction of its equalities with them, in the logic of
three values: it holds if the value equals a candidate, is unknown if it equals none but cannot be
compared with one, and fails otherwise. The search ends at the first candidate that is equal, so it
asks for fewer candidates than there are, and what it found by then is all that the rest can change
to unknown. A missing value is answered before any candidate is looked at. That is the disjunction
as well if there is a candidate, and it is not if a subquery has no rows.
-/

namespace SqlEngine

open Run (bind_of_run bind_run_ok)

/-! ### The logic of three values -/

/-- The disjunction of two answers, of which `none` is unknown. -/
def either : Option Bool → Option Bool → Option Bool
  | some true, _ => some true
  | _, some true => some true
  | some false, some false => some false
  | _, _ => none

theorem either_false (b : Option Bool) : either (some false) b = b := by
  rcases b with _ | _ | _ <;> rfl

theorem either_comm (a b : Option Bool) : either a b = either b a := by
  rcases a with _ | _ | _ <;> rcases b with _ | _ | _ <;> rfl

/-- It is what OR answers. -/
theorem logic_either (v w : Value) :
    Op.logic true [pure v, pure w] = pure (Op.truth false (either v.bool? w.bool?)) := by
  rw [Op.logic, pure_bind]
  dsimp only
  rw [pure_bind]
  rcases v.bool? with _ | _ | _ <;> rcases w.bool? with _ | _ | _ <;> rfl

/-- A negated answer is the answer negated: what is unknown stays so. -/
theorem truth_negated (b : Option Bool) : Op.truth true b = Op.truth false (b.map (!·)) := by
  rcases b with _ | _ | _ <;> rfl

/-! ### The disjunction of equalities -/

namespace SqlType

variable {type : SqlType} {v : Value}

theorem equals?_eq_none_iff (type : SqlType) (v w : Value) :
    type.equals? v w = none ↔ v.isNull ∨ w.isNull := by
  rw [equals?, compare?]
  split <;> simp_all

/-- It is what `=` answers. -/
theorem equal_apply (type : SqlType) (v w : Value) :
    Comparison.equal.apply type v w = Op.truth false (type.equals? v w) := by
  rw [Comparison.apply, equals?]
  cases type.compare? v w with
  | none => rfl
  | some o => cases o <;> rfl

/-- Is a value equal to one of the candidates? -/
def equalsAny? (type : SqlType) (v : Value) (candidates : List Value) : Option Bool :=
  candidates.foldr (fun w rest => either (type.equals? v w) rest) (some false)

theorem equalsAny?_cons (w : Value) (rest : List Value) :
    type.equalsAny? v (w :: rest) = either (type.equals? v w) (type.equalsAny? v rest) := rfl

/-- Without more candidates it stays with what was found. -/
theorem either_equalsAny?_nil (found : Option Bool) :
    either found (type.equalsAny? v []) = found := by
  rw [equalsAny?, List.foldr_nil, either_comm, either_false]

theorem equalsAny?_eq_true_iff (candidates : List Value) :
    type.equalsAny? v candidates = some true ↔ ∃ w ∈ candidates, type.equals? v w = some true := by
  induction candidates with
  | nil => simp [equalsAny?]
  | cons w rest ih =>
      simp only [equalsAny?_cons, List.mem_cons, exists_eq_or_imp, ← ih]
      rcases type.equals? v w with _ | _ | _ <;> rcases type.equalsAny? v rest with _ | _ | _ <;>
        simp [either]

theorem equalsAny?_eq_false_iff (candidates : List Value) :
    type.equalsAny? v candidates = some false ↔
      ∀ w ∈ candidates, type.equals? v w = some false := by
  induction candidates with
  | nil => simp [equalsAny?]
  | cons w rest ih =>
      rw [equalsAny?_cons, List.forall_mem_cons, ← ih]
      rcases type.equals? v w with _ | _ | _ <;> rcases type.equalsAny? v rest with _ | _ | _ <;>
        simp [either]

theorem equalsAny?_eq_none_iff (candidates : List Value) :
    type.equalsAny? v candidates = none ↔
      (∀ w ∈ candidates, type.equals? v w ≠ some true) ∧
        ∃ w ∈ candidates, type.equals? v w = none := by
  have holds : type.equalsAny? v candidates = some true ↔ _ := equalsAny?_eq_true_iff candidates
  have fails : type.equalsAny? v candidates = some false ↔ _ := equalsAny?_eq_false_iff candidates
  constructor
  · intro unknown
    rw [unknown] at holds fails
    have unequal : ∀ w ∈ candidates, type.equals? v w ≠ some true := by simpa using holds
    obtain ⟨w, member, notFalse⟩ : ∃ w ∈ candidates, type.equals? v w ≠ some false := by
      simpa using fails
    refine ⟨unequal, w, member, ?_⟩
    cases answer : type.equals? v w with
    | none => rfl
    | some equal =>
        cases equal with
        | true => exact absurd answer (unequal w member)
        | false => exact absurd answer notFalse
  · rintro ⟨unequal, w, member, unknown⟩
    cases answer : type.equalsAny? v candidates with
    | none => rfl
    | some holding =>
        cases holding with
        | true =>
            obtain ⟨other, listed, equal⟩ := holds.mp answer
            exact absurd equal (unequal other listed)
        | false =>
            have known := fails.mp answer w member
            exact absurd (unknown.symm.trans known) (by simp)

/-- A missing value cannot be compared with any candidate. -/
theorem equalsAny?_missing (missing : v.isNull) {candidates : List Value}
    (filled : candidates ≠ []) : type.equalsAny? v candidates = none := by
  have unknown : ∀ w, type.equals? v w = none := fun w =>
    (equals?_eq_none_iff type v w).mpr (Or.inl missing)
  obtain ⟨w, member⟩ := List.exists_mem_of_ne_nil candidates filled
  exact (equalsAny?_eq_none_iff candidates).mpr
    ⟨fun w _ => by simp [unknown w], w, member, unknown w⟩

end SqlType

/-! ### Lists of candidates -/

section Search

variable {type : SqlType} {v : Value} {s t : EvalState} {found : Option Bool}

/-- What one candidate does to a search that found no equal one so far, and to the disjunction. -/
theorem either_found (notYet : found ≠ some true) (b rest : Option Bool) :
    either found (either b rest) = match b with
      | some true => some true
      | some false => either found rest
      | none => either none rest := by
  rcases found with _ | _ | _ <;> rcases b with _ | _ | _ <;> rcases rest with _ | _ | _ <;>
    first | rfl | exact absurd rfl notYet

theorem Op.searchList_run (type : SqlType) (v : Value) {candidates : List (Eval Value)}
    {values : List Value} (notYet : found ≠ some true)
    (evaluated : (candidates.mapM id).run s = (.ok values, t)) :
    ∃ u, (searchList type v found candidates).run s =
      (.ok (either found (type.equalsAny? v values)), u) := by
  induction candidates generalizing values s found with
  | nil =>
      cases evaluated
      exact ⟨t, congrArg (Except.ok ·, t) (SqlType.either_equalsAny?_nil found).symm⟩
  | cons candidate rest ih =>
      rw [List.mapM_cons] at evaluated
      obtain ⟨w, next, first, evaluated⟩ := bind_run_ok evaluated
      obtain ⟨others, last, later, evaluated⟩ := bind_run_ok evaluated
      cases evaluated
      have given : candidate.run s = (.ok w, next) := first
      rw [searchList, bind_of_run given, SqlType.equalsAny?_cons, either_found notYet]
      cases type.equals? v w with
      | none => exact ih (by simp) later
      | some equal =>
          cases equal with
          | true => exact ⟨next, rfl⟩
          | false => exact ih notYet later

/-- What is remembered of the rows of a subquery after one more of them, or the answer. -/
def Cursor.look (type : SqlType) (v : Value) (found : Option Bool) (row : Row) :
    Option Bool ⊕ Option Bool :=
  match type.equals? v (row.headD .null) with
  | some true => .inr (some true)
  | some false => .inl found
  | none => .inl none

/-- The value of a row of a subquery. -/
def Row.first (row : Row) : Value := row.headD .null

/-- All rows that a subquery has behind those that were asked for. The search may end before. -/
theorem Rows.search_run (type : SqlType) (v : Value) {r : Rows} {earlier all : List Row}
    (notYet : found ≠ some true)
    (collected : r.fold (fun rows row => pure (row :: rows)) earlier = (.ok all, t)) :
    ∃ (rows : List Row) (u : EvalState), all = rows.reverse ++ earlier ∧
      r.search (Cursor.look type v) found =
        (.ok (either found (type.equalsAny? v (rows.map Row.first))), u) := by
  induction r generalizing earlier found with
  | done s =>
      cases collected
      exact ⟨[], t, rfl, congrArg (Except.ok ·, t) (SqlType.either_equalsAny?_nil found).symm⟩
  | fail e s => cases collected
  | next row s rest ih =>
      have later : (rest s).fold (fun rows row => pure (row :: rows)) (row :: earlier) =
        (.ok all, t) := collected
      have behind : ∀ next, next ≠ some true → ∃ (rows : List Row) (u : EvalState),
          all = (row :: rows).reverse ++ earlier ∧ (rest s).search (Cursor.look type v) next =
            (.ok (either next (type.equalsAny? v (rows.map Row.first))), u) := by
        intro next open_
        obtain ⟨rows, u, shown, searched⟩ := ih s open_ later
        exact ⟨rows, u, by simp [shown], searched⟩
      have answer : ∀ rows : List Row,
          either found (type.equalsAny? v ((row :: rows).map Row.first)) =
            match type.equals? v row.first with
            | some true => some true
            | some false => either found (type.equalsAny? v (rows.map Row.first))
            | none => either none (type.equalsAny? v (rows.map Row.first)) :=
        fun rows => either_found notYet _ _
      have looked : (Rows.next row s rest).search (Cursor.look type v) found =
          match type.equals? v row.first with
          | some true => (.ok (some true), s)
          | some false => (rest s).search (Cursor.look type v) found
          | none => (rest s).search (Cursor.look type v) none := by
        rw [Rows.search, Cursor.look, Row.first]
        rcases type.equals? v (row.headD .null) with _ | _ | _ <;> rfl
      simp only [looked]
      cases compared : type.equals? v row.first with
      | none =>
          obtain ⟨rows, u, shown, searched⟩ := behind none (by simp)
          exact ⟨row :: rows, u, shown, by rw [answer, compared]; exact searched⟩
      | some equal =>
          obtain ⟨rows, u, shown, searched⟩ := behind found notYet
          cases equal with
          | true => exact ⟨row :: rows, s, shown, by rw [answer, compared]⟩
          | false => exact ⟨row :: rows, u, shown, by rw [answer, compared]; exact searched⟩

theorem Cursor.among_run (type : SqlType) (v : Value) {c : Cursor} {rows : List Row}
    (collected : c.collect.run s = (.ok rows, t)) :
    ∃ u, (c.among type v).run s = (.ok (type.equalsAny? v (rows.map Row.first)), u) := by
  obtain ⟨reversed, u, folded, collected⟩ := bind_run_ok collected
  cases collected
  have notYet : some false ≠ some true := by simp
  obtain ⟨listed, u, shown, searched⟩ := Rows.search_run type v notYet folded
  refine ⟨u, ?_⟩
  rw [shown, List.append_nil, List.reverse_reverse]
  rw [either_false] at searched
  exact searched

/-! ### Expressions -/

/-- The answer about a value and candidates: for a missing value it is not asked for. -/
def Op.membership (negated : Bool) (type : SqlType) (v : Value) (candidates : List Value) : Value :=
  if v.isNull then .null else truth negated (type.equalsAny? v candidates)

theorem Op.membership_eq {candidates : List Value} (negated : Bool)
    (asked : v.isNull = false ∨ candidates ≠ []) :
    membership negated type v candidates = truth negated (type.equalsAny? v candidates) := by
  unfold membership
  split
  · rename_i missing
    have filled : candidates ≠ [] := by simpa [missing] using asked
    rw [SqlType.equalsAny?_missing missing filled, truth]
  · rfl

theorem Op.member_run (negated : Bool) (type : SqlType) {candidates : List (Eval Value)}
    {arg : Eval Value} {values : List Value}
    (evaluated : ((arg :: candidates).mapM id).run s = (.ok (v :: values), t)) :
    ∃ u, (member negated type (arg :: candidates)).run s =
      (.ok (membership negated type v values), u) := by
  rw [List.mapM_cons] at evaluated
  obtain ⟨w, next, first, evaluated⟩ := bind_run_ok evaluated
  obtain ⟨others, last, later, evaluated⟩ := bind_run_ok evaluated
  cases evaluated
  have given : arg.run s = (.ok v, next) := first
  rw [member, bind_of_run given, membership]
  split
  · exact ⟨next, rfl⟩
  · have notYet : some false ≠ some true := by simp
    obtain ⟨u, searched⟩ := searchList_run type v notYet later
    rw [either_false] at searched
    exact ⟨u, bind_of_run searched⟩

variable {env : Env} {outer : List Row} {row : Row} {arg : Expr} {negated : Bool}

/-- **`IN` with a list.** If the argument and the candidates can be evaluated one after the other,
the answer is the disjunction of the equalities, or its negation. -/
theorem Expr.inList_run {list : List Expr} {values : List Value} (result : SqlType)
    (filled : list ≠ [])
    (evaluated : ((Expr.actions env outer row (arg :: list)).mapM id).run s =
      (.ok (v :: values), t)) :
    ∃ u, ((Expr.apply (.inList negated type) (arg :: list) result).eval env outer row).run s =
      (.ok (Op.truth negated (type.equalsAny? v values)), u) := by
  have given : values ≠ [] := by
    rintro rfl
    obtain ⟨candidate, rest, rfl⟩ := List.exists_cons_of_ne_nil filled
    simp only [Expr.actions, List.mapM_cons] at evaluated
    obtain ⟨_, _, _, evaluated⟩ := bind_run_ok evaluated
    obtain ⟨_, _, others, evaluated⟩ := bind_run_ok evaluated
    obtain ⟨_, _, _, others⟩ := bind_run_ok others
    obtain ⟨_, _, _, others⟩ := bind_run_ok others
    cases others
    cases evaluated
  rw [Expr.actions] at evaluated
  obtain ⟨u, answered⟩ := Op.member_run negated type evaluated
  rw [Op.membership_eq negated (Or.inr given)] at answered
  refine ⟨u, ?_⟩
  rw [Expr.eval, Op.perform, Expr.actions]
  exact answered

/-- **`IN` with a subquery.** If the argument can be evaluated, and then all rows of the subquery,
the answer is the disjunction of the equalities with the values of the rows, or its negation, unless
the argument is missing and there are no rows. -/
theorem Expr.among_run {query : Plan} {rows : List Row} {t' : EvalState}
    (evaluated : (arg.eval env outer row).run s = (.ok v, t))
    (collected : (query.cursor env (row :: outer)).collect.run t = (.ok rows, t'))
    (asked : v.isNull = false ∨ rows ≠ []) :
    ∃ u, ((Expr.among arg query negated type).eval env outer row).run s =
      (.ok (Op.truth negated (type.equalsAny? v (rows.map Row.first))), u) := by
  rw [← Op.membership_eq negated (by simpa using asked), Op.membership, Expr.eval,
    bind_of_run evaluated]
  split
  · exact ⟨t, rfl⟩
  · obtain ⟨u, searched⟩ := Cursor.among_run type v collected
    exact ⟨u, bind_of_run searched⟩

/-- A missing value is answered with NULL, whatever the subquery has: where it has no rows, that is
not the disjunction, which fails. -/
theorem Expr.among_missing {query : Plan} (evaluated : (arg.eval env outer row).run s = (.ok v, t))
    (missing : v.isNull) :
    ((Expr.among arg query negated type).eval env outer row).run s = (.ok .null, t) ∧
      Op.truth negated (type.equalsAny? v []) = .bool negated := by
  rw [Expr.eval, bind_of_run evaluated, if_pos missing]
  exact ⟨rfl, by cases negated <;> rfl⟩

end Search

end SqlEngine
