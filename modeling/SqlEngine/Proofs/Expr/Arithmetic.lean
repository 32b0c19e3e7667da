import SqlEngine.Proofs.Rows.Aggregates
import SqlEngine.Proofs.Typing.Exactness

/-!
Arithmetic over integers of 64 bits.

Sums, differences, products and quotients are those of mathematics, or an error exactly where these
do not fit into 64 bits. So are remainders, with one exception: the remainder of the least integer
by minus one is zero, but it is refused, since the quotient that goes with it does not fit.
-/

namespace SqlEngine

open Numeral (fitsInt64 fitsInt64_iff minInt64 maxInt64)

namespace Arithmetic

variable {op : Arithmetic} {a b q r : Int}

/-! ### Results by mathematics -/

/-- The quotient of two integers, cut off toward zero: what it leaves is smaller than the divisor
and does not have the other sign than the dividend. -/
structure IsQuotient (a b q : Int) : Prop where
  divisor : b ≠ 0
  less : (a - b * q).natAbs < b.natAbs
  sign : 0 ≤ a ∧ 0 ≤ a - b * q ∨ a ≤ 0 ∧ a - b * q ≤ 0

/-- The results that operators have, whatever their size. There is none by a divisor of zero. -/
inductive Exact : Arithmetic → Int → Int → Int → Prop
  | add (a b : Int) : Exact add a b (a + b)
  | subtract (a b : Int) : Exact subtract a b (a - b)
  | multiply (a b : Int) : Exact multiply a b (a * b)
  | divide {a b q : Int} : IsQuotient a b q → Exact divide a b q
  | modulo {a b q : Int} : IsQuotient a b q → Exact modulo a b (a - b * q)

/-- Does the operator divide by its second operand? -/
def divides (op : Arithmetic) : Bool := op == divide || op == modulo

/-- The remainder that is refused for the size of its quotient. -/
def refuses (op : Arithmetic) (a b : Int) : Bool := op == modulo && a == minInt64 && b == -1

/-- The result as it is computed. -/
def result (op : Arithmetic) (a b : Int) : Int :=
  match op with
  | add => a + b
  | subtract => a - b
  | multiply => a * b
  | divide => a.tdiv b
  | modulo => a.tmod b

theorem isQuotient_iff : IsQuotient a b q ↔ b ≠ 0 ∧ q = a.tdiv b := by
  constructor
  · rintro ⟨divisor, less, ⟨positive, above⟩ | ⟨negative, below⟩⟩
    · have whole : a - b * q + b * q = a := Int.sub_add_cancel a (b * q)
      have unique := (Int.tdiv_tmod_unique positive divisor).mpr ⟨whole, above, by omega⟩
      exact ⟨divisor, unique.1.symm⟩
    · have whole : a - b * q + b * q = a := Int.sub_add_cancel a (b * q)
      have unique := (Int.tdiv_tmod_unique' negative divisor).mpr ⟨whole, by omega, below⟩
      exact ⟨divisor, unique.1.symm⟩
  · rintro ⟨divisor, rfl⟩
    have left : a - b * a.tdiv b = a.tmod b := (Int.tmod_def a b).symm
    refine ⟨divisor, ?_, ?_⟩
    · rw [left, Int.natAbs_tmod]
      exact Nat.mod_lt _ (Int.natAbs_pos.mpr divisor)
    · rw [left]
      rcases Int.le_total 0 a with positive | negative
      · exact .inl ⟨positive, Int.tmod_nonneg b positive⟩
      · have opposite := Int.tmod_nonneg b (Int.neg_nonneg_of_nonpos negative)
        rw [Int.neg_tmod] at opposite
        exact .inr ⟨negative, by omega⟩

/-- There is one result, except by a divisor of zero. -/
theorem exact_iff : Exact op a b r ↔ (op.divides → b ≠ 0) ∧ r = op.result a b := by
  constructor
  · intro exact
    cases exact with
    | add | subtract | multiply => exact ⟨nofun, rfl⟩
    | divide quotient =>
        obtain ⟨divisor, rfl⟩ := isQuotient_iff.mp quotient
        exact ⟨fun _ => divisor, rfl⟩
    | modulo quotient =>
        obtain ⟨divisor, rfl⟩ := isQuotient_iff.mp quotient
        exact ⟨fun _ => divisor, (Int.tmod_def a b).symm⟩
  · rintro ⟨divisor, rfl⟩
    cases op with
    | add => exact .add a b
    | subtract => exact .subtract a b
    | multiply => exact .multiply a b
    | divide => exact .divide (isQuotient_iff.mpr ⟨divisor rfl, rfl⟩)
    | modulo =>
        rw [result, Int.tmod_def]
        exact .modulo (isQuotient_iff.mpr ⟨divisor rfl, rfl⟩)

/-! ### Sizes -/

/-- Of the quotients of integers of 64 bits only one does not fit into them. -/
theorem quotient_fits_iff (fits : fitsInt64 a) (divisor : b ≠ 0) :
    fitsInt64 (a.tdiv b) ↔ ¬(a = minInt64 ∧ b = -1) := by
  rw [fitsInt64_iff] at fits ⊢
  have positive : 0 < Nat.pow 2 63 := by decide
  unfold minInt64 maxInt64 at *
  generalize Nat.pow 2 63 = bound at *
  by_cases inverse : b = -1
  · subst inverse
    rw [Int.tdiv_neg, Int.tdiv_one]
    omega
  · refine iff_of_true ?_ fun ⟨_, same⟩ => inverse same
    by_cases one : b = 1
    · subst one
      rwa [Int.tdiv_one]
    · -- any other divisor halves the dividend at least
      have size : (a.tdiv b).natAbs ≤ a.natAbs / 2 := by
        rw [Int.natAbs_tdiv]
        exact Nat.div_le_div_left (by omega) (by decide)
      omega

/-! ### Outcomes -/

theorem int64_ok_iff : int64 a = .ok r ↔ r = a ∧ fitsInt64 r := by
  unfold int64
  split
  · rename_i fits
    constructor
    · rintro ⟨⟩
      exact ⟨rfl, fits⟩
    · rintro ⟨rfl, -⟩
      rfl
  · rename_i large
    refine iff_of_false nofun ?_
    rintro ⟨rfl, fits⟩
    exact large fits

theorem int64_error_iff {e : SqlError} :
    int64 a = .error e ↔ e = .query .integerOutOfRange ∧ ¬fitsInt64 a := by
  unfold int64
  split
  · rename_i fits
    exact iff_of_false nofun fun ⟨_, large⟩ => large fits
  · rename_i large
    constructor
    · rintro ⟨⟩
      exact ⟨rfl, large⟩
    · rintro ⟨rfl, -⟩
      rfl

/-- What an operator looks at, one after the other. -/
theorem ofInts_eq (op : Arithmetic) (fitsA : fitsInt64 a) (fitsB : fitsInt64 b) : op.ofInts a b =
    if op.divides ∧ b = 0 then .error (.query .divisionByZero)
    else if op.refuses a b then .error (.query .integerOutOfRange)
    else int64 (op.result a b) := by
  cases op with
  | add | subtract | multiply => rfl
  | divide => simp [ofInts, divides, refuses, result]
  | modulo =>
      by_cases zero : b = 0
      · simp [ofInts, divides, zero]
      · have quotient := quotient_fits_iff fitsA zero
        have remainder := tmod_fits (a := a) fitsB zero
        by_cases refused : a = minInt64 ∧ b = -1
        · obtain ⟨rfl, rfl⟩ := refused
          rfl
        · have small : int64 (a.tdiv b) = .ok (a.tdiv b) :=
            int64_ok_iff.mpr ⟨rfl, quotient.mpr refused⟩
          have taken : refuses modulo a b = false := by simpa [refuses] using refused
          have given : int64 (a.tmod b) = .ok (a.tmod b) := int64_ok_iff.mpr ⟨rfl, remainder⟩
          simp [ofInts, divides, zero, small, taken, result, given, Except.map]

variable (fitsA : fitsInt64 a) (fitsB : fitsInt64 b)
include fitsA fitsB

/-- An operator gives the result by mathematics if that fits into 64 bits, and it gives no other.
One remainder is refused. -/
theorem ofInts_ok_iff : op.ofInts a b = .ok r ↔
    Exact op a b r ∧ fitsInt64 r ∧ op.refuses a b = false := by
  rw [ofInts_eq op fitsA fitsB, exact_iff]
  split
  · rename_i zero
    exact iff_of_false nofun fun given => given.1.1 zero.1 zero.2
  · rename_i divisor
    have divides : op.divides → b ≠ 0 := fun divides zero => divisor ⟨divides, zero⟩
    split
    · rename_i refused
      exact iff_of_false nofun fun given => absurd (refused.symm.trans given.2.2) (by decide)
    · rename_i taken
      rw [Bool.not_eq_true] at taken
      rw [int64_ok_iff, and_iff_right divides, and_iff_left taken]

/-- By zero, and by nothing else, there is nothing to divide. -/
theorem ofInts_divisionByZero_iff :
    op.ofInts a b = .error (.query .divisionByZero) ↔ op.divides ∧ b = 0 := by
  rw [ofInts_eq op fitsA fitsB]
  split
  · rename_i zero
    exact iff_of_true rfl zero
  · rename_i divisor
    refine iff_of_false ?_ divisor
    split
    · nofun
    · simp [int64_error_iff]

/-- A result by mathematics that does not fit into 64 bits is out of range, and so is the remainder
that is refused; nothing else is. -/
theorem ofInts_outOfRange_iff : op.ofInts a b = .error (.query .integerOutOfRange) ↔
    (∃ r, Exact op a b r ∧ ¬fitsInt64 r) ∨ op.refuses a b := by
  have large : (∃ r, Exact op a b r ∧ ¬fitsInt64 r) ↔
      (op.divides → b ≠ 0) ∧ ¬fitsInt64 (op.result a b) := by
    simp only [exact_iff, and_assoc, exists_and_left, exists_eq_left]
  rw [ofInts_eq op fitsA fitsB, large]
  split
  · rename_i zero
    refine iff_of_false nofun ?_
    rintro (⟨divisor, -⟩ | refused)
    · exact divisor zero.1 zero.2
    · simp [refuses, zero.2] at refused
  · rename_i divisor
    have divides : op.divides → b ≠ 0 := fun divides zero => divisor ⟨divides, zero⟩
    split
    · rename_i refused
      exact iff_of_true rfl (.inr refused)
    · rename_i taken
      rw [int64_error_iff, or_iff_left taken, and_iff_right divides, and_iff_right rfl]

/-- Operators fail in no other way. -/
theorem ofInts_error {e : SqlError} (failed : op.ofInts a b = .error e) :
    e = .query .divisionByZero ∨ e = .query .integerOutOfRange := by
  rw [ofInts_eq op fitsA fitsB] at failed
  split at failed
  · exact .inl (Except.error.inj failed).symm
  · split at failed
    · exact .inr (Except.error.inj failed).symm
    · exact .inr (int64_error_iff.mp failed).1

end Arithmetic

/-! ### Expressions -/

namespace Op

variable {f : Value → Value → Except SqlError Value} {m n : Eval Value} {s t u : EvalState}
  {v w : Value}

theorem strictTwo_ran (first : m.run s = (.ok v, t)) (second : n.run t = (.ok w, u)) :
    (strictTwo f [m, n]).run s = (f v w, u) := by
  have listed : ([m, n].mapM id).run s = (.ok [v, w], u) := by
    simp only [List.mapM_cons, List.mapM_nil, id, Run.bind_run, first, second, Run.pure_run]
  exact Run.bind_of_run listed

end Op

namespace Expr

variable {env : Env} {outer : List Row} {row : Row} {l r : Expr} {s t u : EvalState} {a b : Int}
  {v w : Value} {op : Arithmetic}

theorem eval_arithmetic (type : SqlType) (left : (l.eval env outer row).run s = (.ok v, t))
    (right : (r.eval env outer row).run t = (.ok w, u)) :
    ((apply (.arithmetic op) [l, r] type).eval env outer row).run s = (op.apply type v w, u) := by
  rw [eval, actions, actions, actions, Op.perform]
  exact Op.strictTwo_ran left right

/-- An expression over integers of 64 bits gives the result by mathematics where that is one of
them. It fails for a divisor of zero and for a result that does not fit, and besides for one
remainder that would fit. -/
theorem eval_integers (fitsA : fitsInt64 a) (fitsB : fitsInt64 b)
    (left : (l.eval env outer row).run s = (.ok (.int a), t))
    (right : (r.eval env outer row).run t = (.ok (.int b), u)) :
    ∃ outcome, ((apply (.arithmetic op) [l, r] .integer).eval env outer row).run s = (outcome, u) ∧
      (∀ v, outcome = .ok v ↔
        ∃ i, v = .int i ∧ op.Exact a b i ∧ fitsInt64 i ∧ op.refuses a b = false) ∧
      (outcome = .error (.query .divisionByZero) ↔ op.divides ∧ b = 0) ∧
      (outcome = .error (.query .integerOutOfRange) ↔
        (∃ i, op.Exact a b i ∧ ¬fitsInt64 i) ∨ op.refuses a b) := by
  refine ⟨(op.ofInts a b).map .int, eval_arithmetic .integer left right, fun v => ?_, ?_, ?_⟩
  · simp only [← Arithmetic.ofInts_ok_iff fitsA fitsB]
    cases op.ofInts a b with
    | error e => exact iff_of_false nofun nofun
    | ok i => simp [Except.map, eq_comm]
  · rw [← Arithmetic.ofInts_divisionByZero_iff fitsA fitsB]
    cases op.ofInts a b <;> simp [Except.map]
  · rw [← Arithmetic.ofInts_outOfRange_iff fitsA fitsB]
    cases op.ofInts a b <;> simp [Except.map]

end Expr

namespace Arithmetic

/-- The remainder of the least integer by minus one is zero, but the operator refuses it. -/
theorem exampleRemainder_refused : Exact modulo minInt64 (-1) 0 ∧ fitsInt64 0 ∧
    modulo.apply .integer (.int minInt64) (.int (-1)) = .error (.query .integerOutOfRange) :=
  ⟨exact_iff.mpr ⟨fun _ => by decide, rfl⟩, rfl, rfl⟩

/-- A remainder has the sign of the dividend. -/
example : modulo.apply .integer (.int (-7)) (.int 2) = .ok (.int (-1)) := rfl

end Arithmetic

end SqlEngine
