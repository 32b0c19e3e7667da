import Mathlib.Tactic.Ring
import SqlEngine.Expr.Builtin
import SqlEngine.Proofs.Storage.Sequence
import SqlEngine.Proofs.Transaction.MapStack

/-!
What the calls of a sequence give one after the other.

A counter that goes on from a number within the bounds hands out the progression from there, as long
as it stays within the bounds, which is for a number of calls that is known beforehand. Then calls
fail for good, or the progression from the other bound follows, over and over. Sums are made in 64
bits; where the bounds have 64 bits, a sum that has more is out of bounds anyway.
-/

namespace SqlEngine

open Run (bind_ok foldlM_ok)

/-- The numbers that a clause holds. -/
def SequenceClause.numbers : SequenceClause → List Int
  | increment n | start n | cache n => [n]
  | minValue v | maxValue v | restart v => v.toList
  | as _ | cycle _ | ownedBy _ => []

namespace SequenceOptions

variable {o : SequenceOptions} {clauses : List SequenceClause} {first : Int}

/-! ### Bounds of 64 bits -/

def Fits (o : SequenceOptions) : Prop := Numeral.fitsInt64 o.min ∧ Numeral.fitsInt64 o.max

theorem Fits.of_within (fits : o.Fits) {v : Int} (within : o.Within v) : Numeral.fitsInt64 v := by
  unfold Fits Numeral.fitsInt64 at fits
  unfold Within at within
  simp only [Numeral.fitsInt64, Bool.and_eq_true, decide_eq_true_eq] at fits ⊢
  omega

theorem typeBound_fits {type : String} {limit : Int} (bounded : typeBound type = .ok limit) :
    0 ≤ limit ∧ limit ≤ Numeral.maxInt64 := by
  unfold typeBound typeBound? at bounded
  split at bounded
  · rename_i bound found
    cases bounded
    obtain ⟨bits, listed, rfl⟩ := Option.map_eq_some_iff.mp found
    obtain ⟨before, after, entries, -⟩ := List.lookup_eq_some_iff.mp listed
    have member : (type, bits) ∈ [("smallint", 15), ("int2", 15), ("integer", 31), ("int", 31),
        ("int4", 31), ("bigint", 63), ("int8", 63)] := by
      rw [entries]
      simp
    have few : bits = 15 ∨ bits = 31 ∨ bits = 63 := by
      simp only [List.mem_cons, Prod.mk.injEq, List.not_mem_nil, or_false] at member
      omega
    rcases few with rfl | rfl | rfl <;> decide
  · cases bounded

namespace Request

def Fits (r : Request) : Prop :=
  (∀ v, r.min = some (some v) → Numeral.fitsInt64 v) ∧
    ∀ v, r.max = some (some v) → Numeral.fitsInt64 v

theorem add_fits {r next : Request} {clause : SequenceClause} (fits : r.Fits)
    (small : ∀ n ∈ clause.numbers, Numeral.fitsInt64 n) (added : r.add clause = .ok next) :
    next.Fits := by
  cases clause with
  | as type =>
      obtain ⟨-, -, added⟩ := bind_ok added
      cases added
      exact fits
  | minValue v =>
      cases added
      refine ⟨fun n asked => ?_, fits.2⟩
      cases asked
      exact small n (by simp [SequenceClause.numbers])
  | maxValue v =>
      cases added
      refine ⟨fits.1, fun n asked => ?_⟩
      cases asked
      exact small n (by simp [SequenceClause.numbers])
  | _ =>
      cases added
      exact fits

theorem bound_fits {asked : Option (Option Int)} {default : Int}
    (small : ∀ v, asked = some (some v) → Numeral.fitsInt64 v) (other : Numeral.fitsInt64 default) :
    Numeral.fitsInt64 (bound asked none default) := by
  unfold bound
  split
  · rename_i v
    exact small v rfl
  · exact other
  · exact other

end Request

/-- New options have bounds of 64 bits if the clauses hold no larger numbers. -/
theorem create_fits (small : ∀ clause ∈ clauses, ∀ n ∈ clause.numbers, Numeral.fitsInt64 n)
    (given : create clauses = .ok o) : o.Fits := by
  obtain ⟨⟨settled, restart⟩, changed, given⟩ := bind_ok given
  cases given
  obtain ⟨r, limit, folded, bounded, rfl, -, -⟩ := change_ok changed
  have none_asked : Request.Fits { options := {} } := by
    constructor <;> intro v absent <;> cases absent
  have keeps : ∀ r : Request, r.Fits → ∀ clause ∈ clauses, ∀ next, r.add clause = .ok next →
      next.Fits :=
    fun r fits clause member next added => Request.add_fits fits (small clause member) added
  have asked : r.Fits := foldlM_ok keeps none_asked folded
  obtain ⟨positive, fitting⟩ := typeBound_fits bounded
  have low : -limit ≤ Numeral.maxInt64 ∧ Numeral.minInt64 ≤ -limit := by
    unfold Numeral.maxInt64 Numeral.minInt64 at *
    omega
  constructor
  · refine Request.bound_fits asked.1 ?_
    unfold defaultMin
    split
    · decide
    · simpa [Numeral.fitsInt64] using low.symm
  · refine Request.bound_fits asked.2 ?_
    unfold defaultMax
    split
    · have above : Numeral.minInt64 ≤ limit := by
        unfold Numeral.minInt64
        omega
      simpa [Numeral.fitsInt64] using ⟨above, fitting⟩
    · decide

/-! ### How long a progression stays within the bounds -/

theorem value_succ (o : SequenceOptions) (first : Int) (k : Nat) :
    first + k * o.increment + o.increment = first + (k + 1 : Nat) * o.increment := by
  push_cast
  ring

/-- How many numbers of the progression from a number within the bounds are within them, too. -/
def count (o : SequenceOptions) (first : Int) : Nat :=
  ((if 0 < o.increment then (o.max - first) / o.increment else (first - o.min) / -o.increment)
    + 1).toNat

theorem within_iff_lt_count (step : o.increment ≠ 0) (inside : o.Within first) (k : Nat) :
    o.Within (first + k * o.increment) ↔ k < o.count first := by
  -- the quotient counts whole steps, whether or not the last one meets the bound
  obtain ⟨above, below⟩ := inside
  unfold Within count
  by_cases up : 0 < o.increment
  · have steps : (k : Int) ≤ (o.max - first) / o.increment ↔ k * o.increment ≤ o.max - first :=
      Int.le_ediv_iff_mul_le up
    have grows : 0 ≤ k * o.increment := Int.mul_nonneg (Int.natCast_nonneg k) (by omega)
    rw [if_pos up]
    omega
  · have down : 0 < -o.increment := by omega
    have steps : (k : Int) ≤ (first - o.min) / -o.increment ↔ k * -o.increment ≤ first - o.min :=
      Int.le_ediv_iff_mul_le down
    have falls : 0 ≤ k * -o.increment := Int.mul_nonneg (Int.natCast_nonneg k) (by omega)
    rw [if_neg up]
    rw [Int.mul_neg] at steps falls
    omega

theorem count_pos (step : o.increment ≠ 0) (inside : o.Within first) : 0 < o.count first := by
  have start := within_iff_lt_count step inside 0
  simpa [inside] using start

/-- The number with which a sequence that cycles begins again. -/
def restartValue (o : SequenceOptions) : Int := if 0 < o.increment then o.min else o.max

theorem Valid.within_restartValue (valid : o.Valid) : o.Within o.restartValue := by
  have range := valid.range
  unfold Within restartValue
  split <;> omega

end SequenceOptions

/-! ### Calls -/

/-- A counter that handed out a number. -/
def SequenceState.drawn (v : Int) : SequenceState := ⟨v, true, some v⟩

namespace SequenceDef

variable {d : SequenceDef} {s : SequenceState} {first : Int}

/-- The error of a call behind the bound. -/
def exhausted (d : SequenceDef) : SqlError :=
  .query (if 0 < d.options.increment then .sequenceExhausted "maximum" d.name d.options.max
    else .sequenceExhausted "minimum" d.name d.options.min)

/-- A call gives a number or fails; a call that fails leaves the counter as it is. -/
def call (d : SequenceDef) (s : SequenceState) : Except SqlError Int × SequenceState :=
  match d.next s with
  | .ok (v, t) => (.ok v, t)
  | .error e => (.error e, s)

/-- A use of `nextval` is a call of the counter in the store. -/
theorem draw_eq_call (d : SequenceDef) (s : EvalState) :
    ∃ t, (Builtin.draw d).run s = ((d.call (s.store.sequence d)).1.map .int, t) ∧
      t.store.sequence d = (d.call (s.store.sequence d)).2 := by
  simp only [Builtin.draw, Run.bind_run, Eval.store, Run.get_run, Run.pure_run, Run.lift_run, call]
  cases d.next (s.store.sequence d) with
  | error e => exact ⟨s, rfl, rfl⟩
  | ok drawn =>
      refine ⟨{ s with store := s.store.putSequence d.id drawn.2 }, rfl, ?_⟩
      simp [Store.sequence, Store.sequence?, Store.putSequence, Transaction.get?_set]

/-- The counter after some calls. -/
def after (d : SequenceDef) (s : SequenceState) : Nat → SequenceState
  | 0 => s
  | k + 1 => (d.call (d.after s k)).2

/-- What a call gives that comes after `k` others. -/
def answer (d : SequenceDef) (s : SequenceState) (k : Nat) : Except SqlError Int :=
  (d.call (d.after s k)).1

theorem after_add (d : SequenceDef) (s : SequenceState) (m n : Nat) :
    d.after s (m + n) = d.after (d.after s m) n := by
  induction n with
  | zero => rfl
  | succ n ih => rw [← Nat.add_assoc, after, after, ih]

theorem answer_add (d : SequenceDef) (s : SequenceState) (m n : Nat) :
    d.answer s (m + n) = d.answer (d.after s m) n := by
  rw [answer, answer, after_add]

theorem next_fresh (d : SequenceDef) :
    d.next (.fresh d.options) = .ok (d.options.start, .drawn d.options.start) := rfl

theorem next_drawn (d : SequenceDef) (v : Int) :
    d.next (.drawn v) = (d.following v).map fun w => (w, .drawn w) := by
  unfold next SequenceState.drawn
  dsimp only
  cases d.following v <;> rfl

theorem call_of_next {v : Int} (draws : d.next s = .ok (v, .drawn v)) :
    d.call s = (.ok v, .drawn v) := by
  rw [call, draws]

theorem following_of_within (fits : d.options.Fits) {last : Int}
    (within : d.options.Within (last + d.options.increment)) :
    d.following last = .ok (last + d.options.increment) := by
  have small := fits.of_within within
  unfold following
  dsimp only
  rw [if_pos]
  simp [small, within.1, within.2]

theorem following_of_not_within {last : Int}
    (beyond : ¬d.options.Within (last + d.options.increment)) :
    d.following last =
      if d.options.cycle then .ok d.options.restartValue else .error d.exhausted := by
  unfold following
  dsimp only
  rw [if_neg]
  · unfold exhausted SequenceOptions.restartValue
    split <;> split <;> rfl
  · simp only [Bool.and_eq_true, decide_eq_true_eq]
    exact fun inside => beyond ⟨inside.1.2, inside.2⟩

theorem next_of_not_within {last : Int} (again : d.options.cycle)
    (beyond : ¬d.options.Within (last + d.options.increment)) :
    d.next (.drawn last) = .ok (d.options.restartValue, .drawn d.options.restartValue) := by
  rw [next_drawn, following_of_not_within beyond, if_pos again]
  rfl

/-- A counter that is about to hand out a number within the bounds hands out the progression from
there while it stays within the bounds. -/
theorem answer_of_next (step : d.options.increment ≠ 0) (fits : d.options.Fits)
    (inside : d.options.Within first) (draws : d.next s = .ok (first, .drawn first)) (k : Nat)
    (within : k < d.options.count first) :
    d.answer s k = .ok (first + k * d.options.increment) ∧
      d.after s (k + 1) = .drawn (first + k * d.options.increment) := by
  induction k with
  | zero => simp [answer, after, call_of_next draws]
  | succ k ih =>
      obtain ⟨-, here⟩ := ih (by omega)
      have value := d.options.value_succ first k
      have bounded := (SequenceOptions.within_iff_lt_count step inside (k + 1)).mpr within
      rw [← value] at bounded
      have draws : d.next (d.after s (k + 1)) =
          .ok (first + (k + 1 : Nat) * d.options.increment,
            .drawn (first + (k + 1 : Nat) * d.options.increment)) := by
        rw [here, next_drawn, following_of_within fits bounded, value]
        rfl
      have called := call_of_next draws
      exact ⟨congrArg Prod.fst called, congrArg Prod.snd called⟩

/-- At the end of the progression the counter stands at its last number. -/
theorem after_count (step : d.options.increment ≠ 0) (fits : d.options.Fits)
    (inside : d.options.Within first) (draws : d.next s = .ok (first, .drawn first)) :
    ∃ last, d.after s (d.options.count first) = .drawn last ∧
      ¬d.options.Within (last + d.options.increment) := by
  obtain ⟨k, size⟩ : ∃ k, d.options.count first = k + 1 :=
    Nat.exists_eq_succ_of_ne_zero (SequenceOptions.count_pos step inside).ne'
  refine ⟨first + k * d.options.increment, ?_, ?_⟩
  · rw [size]
    exact (answer_of_next step fits inside draws k (by omega)).2
  · intro within
    rw [d.options.value_succ, SequenceOptions.within_iff_lt_count step inside, size] at within
    exact absurd within (Nat.lt_irrefl _)

/-- Without a cycle the counter stays at the last number, and calls fail. -/
theorem answer_exhausted {last : Int} (ends : d.options.cycle = false)
    (beyond : ¬d.options.Within (last + d.options.increment)) (k : Nat) :
    d.answer (.drawn last) k = .error d.exhausted ∧ d.after (.drawn last) k = .drawn last := by
  have fails : d.call (.drawn last) = (.error d.exhausted, .drawn last) := by
    rw [call, next_drawn, following_of_not_within beyond, ends]
    rfl
  have stays : d.after (.drawn last) k = .drawn last := by
    induction k with
    | zero => rfl
    | succ k ih => rw [after, ih, fails]
  rw [answer, stays, fails]
  exact ⟨rfl, rfl⟩

/-- With a cycle the progression from the other bound follows, over and over. -/
theorem answer_cycle (valid : d.options.Valid) (fits : d.options.Fits) (again : d.options.cycle)
    (draws : d.next s = .ok (d.options.restartValue, .drawn d.options.restartValue)) (k : Nat) :
    d.answer s k = .ok (d.options.restartValue +
      (k % d.options.count d.options.restartValue : Nat) * d.options.increment) := by
  have inside := valid.within_restartValue
  induction k using Nat.strongRecOn generalizing s with
  | ind k ih =>
      by_cases early : k < d.options.count d.options.restartValue
      · rw [Nat.mod_eq_of_lt early]
        exact (answer_of_next valid.step fits inside draws k early).1
      · obtain ⟨rest, rfl⟩ := Nat.exists_eq_add_of_le (Nat.le_of_not_lt early)
        -- after a whole progression the counter begins again with the same number
        have period := SequenceOptions.count_pos valid.step inside
        obtain ⟨last, here, beyond⟩ := after_count valid.step fits inside draws
        have restarts := next_of_not_within again beyond
        rw [← here] at restarts
        rw [answer_add, ih rest (by omega) restarts, Nat.add_mod_left]

/-- The calls of a new sequence give the progression from its start while that stays within the
bounds. Behind the bound all calls fail and leave the counter as it is, or if the sequence cycles,
the progression from the other bound comes over and over. -/
theorem answer_fresh {clauses : List SequenceClause}
    (given : SequenceOptions.create clauses = .ok d.options)
    (small : ∀ clause ∈ clauses, ∀ n ∈ clause.numbers, Numeral.fitsInt64 n) :
    (∀ k : Nat, d.options.Within (d.options.start + k * d.options.increment) →
      d.answer (.fresh d.options) k = .ok (d.options.start + k * d.options.increment)) ∧
    (d.options.cycle = false → ∀ k : Nat,
      ¬d.options.Within (d.options.start + k * d.options.increment) →
        d.answer (.fresh d.options) k = .error d.exhausted ∧
          d.after (.fresh d.options) (k + 1) = d.after (.fresh d.options) k) ∧
    (d.options.cycle = true → ∃ drawn period : Nat, 0 < period ∧
      (∀ k : Nat, d.options.Within (d.options.start + k * d.options.increment) ↔ k < drawn) ∧
      (∀ k : Nat,
        d.options.Within (d.options.restartValue + k * d.options.increment) ↔ k < period) ∧
      ∀ k : Nat, d.answer (.fresh d.options) (drawn + k) =
        .ok (d.options.restartValue + (k % period : Nat) * d.options.increment)) := by
  have valid := SequenceOptions.create_valid given
  have fits := SequenceOptions.create_fits small given
  have bound := SequenceOptions.within_iff_lt_count valid.step valid.start
  obtain ⟨last, here, beyond⟩ := after_count valid.step fits valid.start (next_fresh d)
  refine ⟨fun k within => ?_, fun ends k outside => ?_, fun again => ?_⟩
  · exact (answer_of_next valid.step fits valid.start (next_fresh d) k ((bound k).mp within)).1
  · rw [bound, Nat.not_lt] at outside
    obtain ⟨rest, rfl⟩ := Nat.exists_eq_add_of_le outside
    have stays (n : Nat) : d.after (.fresh d.options) (d.options.count d.options.start + n) =
        .drawn last := by
      rw [after_add, here, (answer_exhausted ends beyond n).2]
    rw [answer_add, here, (answer_exhausted ends beyond rest).1, Nat.add_assoc, stays, stays]
    exact ⟨rfl, rfl⟩
  · have inside := valid.within_restartValue
    refine ⟨d.options.count d.options.start, d.options.count d.options.restartValue,
      SequenceOptions.count_pos valid.step inside, bound,
      SequenceOptions.within_iff_lt_count valid.step inside, fun k => ?_⟩
    rw [answer_add, here]
    exact answer_cycle valid fits again (next_of_not_within again beyond) k

/-- A sequence that meets the largest number of 64 bits at its second call. -/
def exampleCounter : SequenceDef :=
  ⟨1, "public", "s", { increment := 2, start := 9223372036854775805, cycle := true }⟩

/-- The sum that the third call makes has more than 64 bits. -/
theorem exampleCounter_cycles :
    ∃ clauses, SequenceOptions.create clauses = .ok exampleCounter.options ∧
      exampleCounter.answer (.fresh exampleCounter.options) 1 = .ok 9223372036854775807 ∧
      exampleCounter.answer (.fresh exampleCounter.options) 2 = .ok 1 := by
  have given : SequenceOptions.create
      [.increment 2, .start 9223372036854775805, .cycle true] = .ok exampleCounter.options := rfl
  obtain ⟨climbs, -, cycles⟩ := answer_fresh given (by decide)
  obtain ⟨drawn, period, -, bound, -, again⟩ := cycles rfl
  have two : drawn = 2 := by
    have inside := (bound 1).mp (by decide)
    have outside := mt (bound 2).mpr (by decide)
    omega
  subst two
  have third := again 0
  rw [Nat.zero_mod] at third
  exact ⟨_, given, climbs 1 (by decide), third⟩

end SequenceDef

end SqlEngine
