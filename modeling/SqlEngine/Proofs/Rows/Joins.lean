import SqlEngine.Proofs.Evaluation.Frame
import SqlEngine.Proofs.Rows.Listing
import SqlEngine.Proofs.Typing.Combines
import SqlEngine.Proofs.Typing.Renaming

/-!
Joins give the rows of the relational join.

What a join of two lists of rows is, is said here without cursors: which rows of the other side pass
with a row, and which rows stand alone. The cursor of a join goes through the driving side row by row
and notes which partners were found; it gives these rows in this order, for every kind of join.

A join on columns of the same names shows the left one of each two columns. It has the value of both
wherever a left row is there; a right row that stands alone shows nothing in it.
-/

namespace SqlEngine

open Cursor (nulls)

/-! ### The relational join -/

namespace JoinKind

variable (leftWidth rightWidth : Nat) (pass : Row → Bool) (lefts rights : List Row)

/-- The combinations of a left row that pass, in the order of the right rows. -/
def withRights (left : Row) : List Row := (rights.map (left ++ ·)).filter pass

/-- The combinations of a right row that pass, in the order of the left rows. -/
def withLefts (right : Row) : List Row := (lefts.map (· ++ right)).filter pass

/-- The rows that were found, or the row that stands in where there are none. -/
def orAlone (found : List Row) (alone : Row) : List Row := if found.isEmpty then [alone] else found

/-- The rows of a left join. -/
def leftRows : List Row :=
  lefts.flatMap fun left => orAlone (withRights pass rights left) (left ++ nulls rightWidth)

/-- The right rows that pass with no left row. -/
def unmatchedRights : List Row :=
  rights.filter fun right => !lefts.any fun left => pass (left ++ right)

/-- The rows of a join, in their order. -/
def rows : JoinKind → List Row
  | inner | cross => lefts.flatMap (withRights pass rights)
  | left => leftRows rightWidth pass lefts rights
  | right => rights.flatMap fun right =>
    orAlone (withLefts pass lefts right) (nulls leftWidth ++ right)
  | full => leftRows rightWidth pass lefts rights ++
    (unmatchedRights pass lefts rights).map (nulls leftWidth ++ ·)

/-! ### The parts of a row -/

variable {leftWidth rightWidth : Nat} {pass : Row → Bool} {lefts rights : List Row} {row : Row}

theorem mem_withRights {left : Row} (member : row ∈ withRights pass rights left) :
    ∃ right ∈ rights, row = left ++ right := by
  obtain ⟨right, there, rfl⟩ := List.mem_map.mp (List.mem_filter.mp member).1
  exact ⟨right, there, rfl⟩

theorem mem_withLefts {right : Row} (member : row ∈ withLefts pass lefts right) :
    ∃ left ∈ lefts, row = left ++ right := by
  obtain ⟨left, there, rfl⟩ := List.mem_map.mp (List.mem_filter.mp member).1
  exact ⟨left, there, rfl⟩

theorem mem_orAlone {found : List Row} {alone : Row} (member : row ∈ orAlone found alone) :
    row ∈ found ∨ row = alone := by
  unfold orAlone at member
  split at member
  · exact .inr (List.mem_singleton.mp member)
  · exact .inl member

theorem mem_leftRows (member : row ∈ leftRows rightWidth pass lefts rights) :
    ∃ left ∈ lefts, ∃ right, row = left ++ right ∧ (right ∈ rights ∨ right = nulls rightWidth) := by
  obtain ⟨left, there, given⟩ := List.mem_flatMap.mp member
  rcases mem_orAlone given with found | rfl
  · obtain ⟨right, among, rfl⟩ := mem_withRights found
    exact ⟨left, there, right, rfl, .inl among⟩
  · exact ⟨left, there, nulls rightWidth, rfl, .inr rfl⟩

/-- Every row of a join is a left part and a right part, each of them a row of its side or missing
values in all columns of its side. -/
theorem mem_rows {kind : JoinKind} (member : row ∈ kind.rows leftWidth rightWidth pass lefts rights) :
    ∃ left right, row = left ++ right ∧ (left ∈ lefts ∨ left = nulls leftWidth) ∧
      (right ∈ rights ∨ right = nulls rightWidth) := by
  cases kind with
  | inner | cross =>
      obtain ⟨left, there, given⟩ := List.mem_flatMap.mp member
      obtain ⟨right, among, rfl⟩ := mem_withRights given
      exact ⟨left, right, rfl, .inl there, .inl among⟩
  | left =>
      obtain ⟨left, there, right, rfl, among⟩ := mem_leftRows member
      exact ⟨left, right, rfl, .inl there, among⟩
  | right =>
      obtain ⟨right, there, given⟩ := List.mem_flatMap.mp member
      rcases mem_orAlone given with found | rfl
      · obtain ⟨left, among, rfl⟩ := mem_withLefts found
        exact ⟨left, right, rfl, .inl among, .inl there⟩
      · exact ⟨nulls leftWidth, right, rfl, .inr rfl, .inl there⟩
  | full =>
      rcases List.mem_append.mp member with found | alone
      · obtain ⟨left, there, right, rfl, among⟩ := mem_leftRows found
        exact ⟨left, right, rfl, .inl there, among⟩
      · obtain ⟨right, unmatched, rfl⟩ := List.mem_map.mp alone
        exact ⟨nulls leftWidth, right, rfl, .inr rfl, .inl (List.mem_filter.mp unmatched).1⟩

end JoinKind

/-! ### The partners that were found -/

section

variable (combine : Row → Row → Row) (p : Row → Bool) (partners : List Row)

/-- The combinations with a driving row, with the numbers of the partners. -/
def candidates (row : Row) : List (Row × Nat) := partners.zipIdx.map fun e => (combine row e.1, e.2)

/-- The combinations that pass. -/
def found (row : Row) : List (Row × Nat) := (candidates combine partners row).filter (p ·.1)

/-- The numbers that are noted after driving rows, the last one first. -/
def noted (matched : List Nat) (rows : List Row) : List Nat :=
  rows.foldl (fun matched row => ((found combine p partners row).map (·.2)).reverse ++ matched)
    matched

theorem rows_found (row : Row) :
    (found combine p partners row).map (·.1) = (partners.map (combine row)).filter p := by
  have rows : (candidates combine partners row).map (·.1) =
      (partners.zipIdx.map Prod.fst).map (combine row) := by
    rw [candidates, List.map_map, List.map_map]
    rfl
  rw [List.zipIdx_map_fst] at rows
  rw [← rows, List.filter_map]
  rfl

variable {combine p partners} {partner row : Row} {place : Nat}

theorem number_mem_found (there : (partner, place) ∈ partners.zipIdx) :
    place ∈ (found combine p partners row).map (·.2) ↔ p (combine row partner) := by
  simp only [found, candidates, List.mem_map, List.mem_filter]
  constructor
  · rintro ⟨_, ⟨⟨⟨other, _⟩, among, rfl⟩, passes⟩, rfl⟩
    rw [List.mem_zipIdx_iff_getElem?] at there among
    obtain rfl := Option.some.inj (among.symm.trans there)
    exact passes
  · exact fun passes => ⟨_, ⟨⟨_, there, rfl⟩, passes⟩, rfl⟩

theorem mem_noted (there : (partner, place) ∈ partners.zipIdx) (rows : List Row)
    (matched : List Nat) : place ∈ noted combine p partners matched rows ↔
      place ∈ matched ∨ rows.any fun row => p (combine row partner) := by
  induction rows generalizing matched with
  | nil => simp [noted]
  | cons row rest ih =>
      have later := ih (((found combine p partners row).map (·.2)).reverse ++ matched)
      rw [noted] at later ⊢
      rw [List.foldl_cons, later, List.mem_append, List.mem_reverse, number_mem_found there,
        List.any_cons, Bool.or_eq_true, or_assoc, or_left_comm]

/-- The partners whose numbers were not noted are those with which no driving row passes. -/
theorem unnoted_partners (rows : List Row) :
    (partners.zipIdx.filter fun e => !(noted combine p partners [] rows).contains e.2).map (·.1) =
      partners.filter fun partner => !rows.any fun row => p (combine row partner) := by
  have same : ∀ e ∈ partners.zipIdx, (!(noted combine p partners [] rows).contains e.2) =
      !rows.any fun row => p (combine row e.1) := by
    rintro ⟨partner, place⟩ there
    have known : place ∈ noted combine p partners [] rows ↔ _ := mem_noted there rows []
    simp only [List.not_mem_nil, false_or] at known
    rw [Bool.not_inj_iff, Bool.eq_iff_iff, List.contains_iff_mem]
    exact known
  rw [List.filter_congr same]
  have first := List.filter_map (f := (·.1)) (l := partners.zipIdx)
    (p := fun partner => !rows.any fun row => p (combine row partner))
  rw [List.zipIdx_map_fst] at first
  exact first.symm

end

/-! ### The cursor -/

namespace Cursor.Gives

variable {calm : EvalState → Prop} {pass : Row → Eval Bool} {p : Row → Bool} {c : Cursor}
  {rows : List Row}

/-- The candidates that pass come out, and their numbers are handed on, the last one first. -/
theorem combined {k : List Nat → Cursor} : ∀ {candidates kept : List (Row × Nat)} {found : List Nat},
    (∀ e ∈ candidates, (pass e.1).Gives calm (p e.1)) → candidates.filter (p ·.1) = kept →
      (k ((kept.map (·.2)).reverse ++ found)).Gives calm rows →
        (combined pass k found candidates).Gives calm (kept.map (·.1) ++ rows) := by
  intro candidates
  induction candidates with
  | nil =>
      rintro _ found _ rfl later
      exact later
  | cons e rest ih =>
      obtain ⟨row, partner⟩ := e
      rintro _ found tested rfl later
      obtain ⟨first, others⟩ := List.forall_mem_cons.mp tested
      refine after first ?_
      cases passed : p row with
      | false =>
          simp only [List.filter_cons, passed, Bool.false_eq_true, if_false] at later ⊢
          exact ih others rfl later
      | true =>
          simp only [List.filter_cons, passed, List.map_cons, if_true, List.reverse_cons,
            List.append_assoc] at later ⊢
          exact cons (ih others rfl later)

/-- What a driving row gives: the combinations that pass, or the row alone where it is kept. -/
def driven (combine : Row → Row → Row) (p : Row → Bool) (partners : List Row) (keeps : Bool)
    (partnerNulls row : Row) : List Row :=
  let found := (partners.map (combine row)).filter p
  if keeps then JoinKind.orAlone found (combine row partnerNulls) else found

/-- The driving sides that no row of the other side passed with. -/
def leftOver (combine : Row → Row → Row) (partners : List Row) (drivingNulls : Row)
    (matched : List Nat) : List Row :=
  (partners.zipIdx.filter fun e => !matched.contains e.2).map fun e => combine drivingNulls e.1

variable {combine : Row → Row → Row} {partners : List Row}

/-- One driving row: what it gives, and what is noted of its partners. -/
theorem drivingRow {row : Row} (tested : ∀ partner ∈ partners,
      (pass (combine row partner)).Gives calm (p (combine row partner)))
    (keeps : Bool) (partnerNulls : Row) {k : List Nat → Cursor} {out : List Nat → List Row}
    (later : ∀ matched, (k matched).Gives calm (out matched)) (matched : List Nat) :
    Cursor.Gives calm (Cursor.combined pass (fun found =>
        if found.isEmpty && keeps then Cursor.cons (combine row partnerNulls) (k matched)
        else k (found ++ matched)) [] (candidates combine partners row))
      (driven combine p partners keeps partnerNulls row ++
        out (((found combine p partners row).map (·.2)).reverse ++ matched)) := by
  have each : ∀ e ∈ candidates combine partners row, (pass e.1).Gives calm (p e.1) := by
    intro e member
    obtain ⟨⟨partner, _⟩, there, rfl⟩ := List.mem_map.mp member
    exact tested partner (List.fst_mem_of_mem_zipIdx there)
  rw [driven, ← rows_found]
  cases passed : found combine p partners row with
  | nil =>
      cases keeps with
      | false => exact combined each passed (later _)
      | true => exact combined each passed (cons (later _))
  | cons e rest =>
      have alone : (if keeps then JoinKind.orAlone ((e :: rest).map (·.1)) (combine row partnerNulls)
          else (e :: rest).map (·.1)) = (e :: rest).map (·.1) := by
        cases keeps <;> rfl
      rw [alone]
      refine combined each passed ?_
      have some : (((e :: rest).map Prod.snd).reverse ++ []).isEmpty = false := by simp
      rw [some, List.append_nil]
      exact later _

theorem driving (driving : c.Gives calm rows) (combine : Row → Row → Row)
    (tested : ∀ row ∈ rows, ∀ partner ∈ partners,
      (pass (combine row partner)).Gives calm (p (combine row partner)))
    (keeps keepsOther : Bool) (partnerNulls drivingNulls : Row) :
    Cursor.Gives calm (c.drive (fun matched row k => Cursor.combined pass (fun found =>
        if found.isEmpty && keeps then Cursor.cons (combine row partnerNulls) (k matched)
        else k (found ++ matched)) [] (candidates combine partners row))
      (fun matched => if keepsOther then
        Cursor.ofList (leftOver combine partners drivingNulls matched) else Cursor.empty) [])
      (rows.flatMap (driven combine p partners keeps partnerNulls) ++
        if keepsOther then (partners.filter fun partner =>
          !rows.any fun row => p (combine row partner)).map (combine drivingNulls) else []) := by
  let out (matched : List Nat) (rest : List Row) : List Row :=
    rest.flatMap (driven combine p partners keeps partnerNulls) ++ if keepsOther then
      leftOver combine partners drivingNulls (noted combine p partners matched rest) else []
  have whole : out [] rows = rows.flatMap (driven combine p partners keeps partnerNulls) ++
      if keepsOther then (partners.filter fun partner =>
        !rows.any fun row => p (combine row partner)).map (combine drivingNulls) else [] := by
    rw [← unnoted_partners rows, List.map_map]
    rfl
  rw [← whole]
  refine driving.drive out (fun matched => ?_) (fun row member matched rest k later => ?_) []
  · cases keepsOther with
    | false => exact empty
    | true => exact ofList _
  · simp only [out, List.flatMap_cons, List.append_assoc]
    exact drivingRow (tested row member) keeps partnerNulls later matched

/-- A join of two sides that are lists of rows is their relational join. -/
theorem join {left right : Cursor} {lefts rights : List Row} (givenLeft : left.Gives calm lefts)
    (givenRight : right.Gives calm rights) (kind : JoinKind) (leftWidth rightWidth : Nat)
    (tested : ∀ l ∈ lefts, ∀ r ∈ rights, (pass (l ++ r)).Gives calm (p (l ++ r))) :
    Cursor.Gives calm (Cursor.join kind leftWidth rightWidth pass left right)
      (kind.rows leftWidth rightWidth p lefts rights) := by
  have flipped : ∀ r ∈ rights, ∀ l ∈ lefts, (pass (l ++ r)).Gives calm (p (l ++ r)) :=
    fun r memberR l memberL => tested l memberL r memberR
  cases kind with
  | inner | cross =>
      have rows := driving givenLeft (· ++ ·) tested false false (nulls rightWidth) (nulls leftWidth)
      rw [if_neg Bool.false_ne_true, List.append_nil] at rows
      exact after givenRight.collect rows
  | left =>
      have rows := driving givenLeft (· ++ ·) tested true false (nulls rightWidth) (nulls leftWidth)
      rw [if_neg Bool.false_ne_true, List.append_nil] at rows
      exact after givenRight.collect rows
  | right =>
      have rows := driving givenRight (fun row partner => partner ++ row) flipped true false
        (nulls leftWidth) (nulls rightWidth)
      rw [if_neg Bool.false_ne_true, List.append_nil] at rows
      exact after givenLeft.collect rows
  | full =>
      have rows := driving givenLeft (· ++ ·) tested true true (nulls rightWidth) (nulls leftWidth)
      exact after givenRight.collect rows

end Cursor.Gives

/-- A join of sides whose rows are as wide as their columns gives the rows of the relational join, in
its order, and then nothing more. Every row has the left columns first and then the right ones: a row
of each side, or missing values in its place. -/
theorem Plan.join_gives_relational (env : Env) (outer : List Row) {calm : EvalState → Prop}
    {left right : Plan} {lefts rights : List Row} {leftWidth rightWidth : Nat}
    (givenLeft : (left.cursor env outer).Gives calm lefts)
    (givenRight : (right.cursor env outer).Gives calm rights)
    (leftWide : ∀ l ∈ lefts, l.length = leftWidth) (rightWide : ∀ r ∈ rights, r.length = rightWidth)
    (kind : JoinKind) (condition : Expr) (value : Row → Value)
    (tested : ∀ l ∈ lefts, ∀ r ∈ rights,
      (condition.eval env outer (l ++ r)).Gives calm (value (l ++ r))) :
    let cursor := (Plan.join left right kind leftWidth rightWidth condition).cursor env outer
    let rows := kind.rows leftWidth rightWidth (fun row => (value row).bool? == some true) lefts rights
    cursor.Gives calm rows ∧
      (∀ row ∈ rows, ∃ l r, row = l ++ r ∧ l.length = leftWidth ∧ r.length = rightWidth ∧
        (l ∈ lefts ∨ l = nulls leftWidth) ∧ (r ∈ rights ∨ r = nulls rightWidth)) ∧
      ∀ s, calm s → ∀ n, (cursor s).answers n =
        (rows.map some).take n ++ List.replicate (n - rows.length) none := by
  intro cursor rows
  have passed : ∀ l ∈ lefts, ∀ r ∈ rights, Eval.Gives calm
      (do return (← condition.eval env outer (l ++ r)).bool? == some true)
      ((value (l ++ r)).bool? == some true) :=
    fun l memberL r memberR => (tested l memberL r memberR).bind (Eval.Gives.pure _)
  have given : cursor.Gives calm rows :=
    givenLeft.join (p := fun row => (value row).bool? == some true) givenRight kind leftWidth
      rightWidth passed
  refine ⟨given, ?_, fun s hs n => (given s hs).answers hs n⟩
  intro row member
  obtain ⟨l, r, rfl, ofLeft, ofRight⟩ := JoinKind.mem_rows member
  have wideL : l.length = leftWidth := by
    rcases ofLeft with there | rfl
    · exact leftWide l there
    · exact List.length_replicate
  have wideR : r.length = rightWidth := by
    rcases ofRight with there | rfl
    · exact rightWide r there
    · exact List.length_replicate
  exact ⟨l, r, rfl, wideL, wideR, ofLeft, ofRight⟩

namespace Plan

/-- The rows of the sides of an example: on the left, a repeated number and a missing one. -/
def exampleLefts : List Row := [[.int 1, .text "a"], [.int 2, .text "b"], [.null, .text "c"]]

def exampleRights : List Row := [[.int 2], [.int 3], [.int 2]]

/-- The first column equals the third one. -/
def exampleCondition : Expr :=
  .apply (.compare .equal .integer) [.column 0 .integer, .column 2 .integer] .bool

/-- A full join of sides with repeated and with missing numbers. -/
theorem exampleJoin_gives :
    ((Plan.join (.fixed exampleLefts) (.fixed exampleRights) .full 2 1 exampleCondition).cursor
      .fresh []).Gives (fun _ => True)
        [[.int 1, .text "a", .null], [.int 2, .text "b", .int 2], [.int 2, .text "b", .int 2],
          [.null, .text "c", .null], [.null, .null, .int 3]] := by
  have lefts : ((Plan.fixed exampleLefts).cursor .fresh []).Gives (fun _ => True) exampleLefts :=
    Cursor.Gives.ofList exampleLefts
  have rights : ((Plan.fixed exampleRights).cursor .fresh []).Gives (fun _ => True) exampleRights :=
    Cursor.Gives.ofList exampleRights
  have leftWide : ∀ l ∈ exampleLefts, l.length = 2 := by decide
  have rightWide : ∀ r ∈ exampleRights, r.length = 1 := by decide
  refine (join_gives_relational .fresh [] lefts rights leftWide rightWide .full exampleCondition
    (fun row => Comparison.equal.apply .integer (row.getD 0 .null) (row.getD 2 .null)) ?_).1
  intro l memberL r memberR s _
  simp only [exampleLefts, List.mem_cons, List.not_mem_nil, or_false] at memberL
  simp only [exampleRights, List.mem_cons, List.not_mem_nil, or_false] at memberR
  rcases memberL with rfl | rfl | rfl <;> rcases memberR with rfl | rfl | rfl <;> rfl

end Plan

/-! ### Joins on columns of the same names -/

open Run (bind_ok)

theorem Scope.mem_star_iff {s : Scope} {position : Nat} {c : Column} :
    (position, c) ∈ s.star none ↔ s.columns[position]? = some c ∧ c.hidden = false := by
  simp [star, List.mem_zipIdx_iff_getElem?]

namespace TypedPlan

variable {left right joined : TypedPlan} {kind : JoinKind} {names : List String} {name : String}

/-- Each row of a join begins with a row of the left side or, in right and full joins only, with
missing values in its place. -/
theorem join_begins {env : Env} {outer : List Row} {inv : EvalState → Prop} {leftRow : Row → Prop}
    (stable : Eval.Stable env inv) (lefts : (left.plan.cursor env outer).Meets inv leftRow)
    (condition : Option Expr) :
    ((left.join right kind condition).plan.cursor env outer).Meets inv fun row =>
      ∃ l r, row = l ++ r ∧
        (leftRow l ∨ (kind = .right ∨ kind = .full) ∧ l = nulls left.columns.length) := by
  have begins : (left.plan.cursor env outer).Meets inv fun l =>
      leftRow l ∨ (kind = .right ∨ kind = .full) ∧ l = nulls left.columns.length :=
    lefts.mono fun _ => Or.inl
  have tested : ∀ (e : Expr) (row : Row), Eval.Keeps inv
      (do return (← e.eval env outer row).bool? == some true) :=
    fun e row => (e.eval_keeps stable outer row).bind fun _ => Eval.Keeps.pure _
  have nested : ∀ e : Expr, ((Plan.join left.plan right.plan kind left.columns.length
      right.columns.length e).cursor env outer).Meets inv fun row => ∃ l r, row = l ++ r ∧
        (leftRow l ∨ (kind = .right ∨ kind = .full) ∧ l = nulls left.columns.length) := by
    intro e
    exact begins.join (right.plan.cursor_keeps stable outer) kind _ _
      (fun either => .inr ⟨either, rfl⟩) trivial (fun l r start _ => ⟨l, r, rfl, start⟩)
      fun row _ => tested e row
  cases condition with
  | none => exact nested _
  | some e =>
      simp only [TypedPlan.join, Option.bind_some, Option.getD_some]
      cases found : left.lookup? right kind e with
      | none => exact nested e
      | some plan =>
          obtain ⟨_, table, _, key, _, i, _, _, _, _, _, rfl⟩ := lookup?_some found
          refine begins.lookupJoin (fun _ => True) (kind == .left) _ trivial
            (fun l r start _ => ⟨l, r, rfl, start⟩) (fun row _ => tested e row) fun row _ => ?_
          exact Eval.Meets.bind (key.eval_keeps stable outer row) fun _ _ =>
            Eval.Meets.store.bind fun _ _ => Eval.Meets.pure fun _ _ => trivial

theorem usingColumn_answers {columns : List Column} {side : String} {position : Nat} {c : Column}
    (found : usingColumn columns name side = .ok (position, c)) : c.answersTo none name := by
  unfold usingColumn at found
  split at found
  · rename_i there
    cases found
    simpa using List.find?_some there
  · cases found

theorem exists_usingColumn {n : Names} (given : joinUsing n left right kind names = .ok joined)
    (merged : name ∈ names) :
    ∃ position : Nat, ∃ c : Column, left.columns[position]? = some c ∧ c.answersTo none name := by
  obtain ⟨conditions, mapped, _⟩ := bind_ok given
  obtain ⟨_, compared, _⟩ := Run.mapM_mem_ok mapped name merged
  obtain ⟨⟨position, c⟩, found, _⟩ := bind_ok compared
  exact ⟨position, c, usingColumn_ok found, usingColumn_answers found⟩

/-- Without a table in front, a name of the join reads left columns only. -/
theorem joinUsing_answers {n : Names} (given : joinUsing n left right kind names = .ok joined)
    (merged : name ∈ names) {position : Nat} {c : Column}
    (there : joined.columns[position]? = some c) (answers : c.answersTo none name) :
    left.columns[position]? = some c := by
  obtain ⟨conditions, _, given⟩ := bind_ok given
  cases given
  by_cases inside : position < left.columns.length
  · rwa [List.getElem?_append_left inside] at there
  · rw [List.getElem?_append_right (by omega), List.getElem?_map] at there
    obtain ⟨old, _, rfl⟩ := Option.map_eq_some_iff.mp there
    -- a right column of the name is hidden
    split at answers
    · simp [Column.answersTo] at answers
    · rename_i other
      have same : old.name = name := by simp_all [Column.answersTo]
      exact absurd (List.contains_iff_mem.mpr (same ▸ merged)) other

/-- The join shows the left columns of its names and no others: a name without a table in front
reads a left column, unless it is ambiguous, and `*` lists left columns for it. In each row these
have the values of a row of the left side; only in a right or full join they may be missing instead,
whatever the right row has. -/
theorem joinUsing_shows_left {n : Names} {env : Env} {outer : List Row} {inv : EvalState → Prop}
    {leftRow : Row → Prop} (given : joinUsing n left right kind names = .ok joined)
    (merged : name ∈ names) (stable : Eval.Stable env inv)
    (lefts : (left.plan.cursor env outer).Meets inv leftRow)
    (wide : ∀ l, leftRow l → l.length = left.columns.length) :
    let scope := Scope.ofColumns joined.columns
    (∃ e ∈ scope.star none, e.2.name = name) ∧
    (∀ position c, scope.find? none name = .ok (some (position, c)) →
      left.columns[position]? = some c) ∧
    (∀ e ∈ scope.star none, e.2.name = name → left.columns[e.1]? = some e.2) ∧
    (joined.plan.cursor env outer).Meets inv fun row =>
      ∃ l, (∀ position < left.columns.length, row[position]? = l[position]?) ∧
        (leftRow l ∨ (kind = .right ∨ kind = .full) ∧ l = nulls left.columns.length) := by
  intro scope
  refine ⟨?_, ?_, ?_, ?_⟩
  · obtain ⟨position, c, there, answers⟩ := exists_usingColumn given merged
    obtain ⟨sameName, visible⟩ := Bool.and_eq_true_iff.mp answers
    obtain ⟨conditions, _, given⟩ := bind_ok given
    cases given
    have inside : position < left.columns.length := (List.getElem?_eq_some_iff.mp there).1
    refine ⟨(position, c), Scope.mem_star_iff.mpr ⟨?_, by simpa using visible⟩,
      by simpa using sameName⟩
    exact (List.getElem?_append_left inside).trans there
  · intro position c found
    have among : (c, position) ∈ scope.answers none name :=
      Scope.answers_of_find? found ▸ List.mem_singleton_self _
    obtain ⟨there, answers⟩ := Scope.mem_answers.mp among
    exact joinUsing_answers given merged there answers
  · intro e listed sameName
    obtain ⟨there, visible⟩ := Scope.mem_star_iff.mp listed
    exact joinUsing_answers given merged there (by simp [Column.answersTo, sameName, visible])
  · obtain ⟨conditions, _, given⟩ := bind_ok given
    cases given
    refine (join_begins stable lefts (allOf conditions)).mono ?_
    rintro _ ⟨l, r, rfl, start⟩
    have width : l.length = left.columns.length := by
      rcases start with ofLeft | ⟨_, rfl⟩
      · exact wide l ofLeft
      · exact List.length_replicate
    exact ⟨l, fun position inside => List.getElem?_append_left (width ▸ inside), start⟩

/-- In a right or full join a row of the right side alone shows no value in the column of the name,
also where it has one. -/
theorem exampleUsing_missing :
    ∀ kind, kind = .right ∨ kind = .full → ∃ joined,
      joinUsing (.ofCatalog (.create {})) (.fixed ["a"] [.integer] [])
        (.fixed ["a"] [.integer] [[.int 1]]) kind ["a"] = .ok joined ∧
      (Scope.ofColumns joined.columns).find? none "a" =
        .ok (some (0, .visible none "a" .integer)) ∧
      (joined.plan.cursor .fresh [] .fresh).course pure = ⟨[[.null, .int 1]], none, .fresh⟩ := by
  rintro kind (rfl | rfl) <;> exact ⟨_, rfl, rfl, rfl⟩

end TypedPlan

end SqlEngine
