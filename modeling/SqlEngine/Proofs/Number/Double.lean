import Mathlib.Tactic.Ring
import SqlEngine.Number.Double

/-!
Differences of numbers.

How large a difference is does not depend on which number is taken from which. Two different whole
numbers that are held exactly are at least one apart.
-/

namespace SqlEngine

namespace Double

variable {x y : Double} {m numerator denominator : Nat}

/-- One, on the scale of `scaledValue`. -/
def unit : Nat := Nat.pow 2 1074

theorem unit_eq : ∃ k, k = 1074 ∧ unit = 2 ^ k := ⟨1074, rfl, by decide +kernel⟩

/-! ### Signs and magnitudes -/

theorem toNat_ofMagnitude (small : m < 2 ^ 63) (negative : Bool) :
    (ofMagnitude negative m).bits.toNat = m + if negative then 2 ^ 63 else 0 := by
  have fits : (m + if negative then Nat.pow 2 63 else 0) < 2 ^ 64 := by
    cases negative <;> simp <;> omega
  exact UInt64.toNat_ofNat'.trans (Nat.mod_eq_of_lt fits)

theorem magnitude_ofMagnitude (small : m < 2 ^ 63) (negative : Bool) :
    (ofMagnitude negative m).magnitude = m := by
  rw [magnitude, toNat_ofMagnitude small]
  cases negative <;> simp <;> omega

theorem isNegative_ofMagnitude (small : m < 2 ^ 63) (negative : Bool) :
    (ofMagnitude negative m).isNegative = negative := by
  rw [isNegative, toNat_ofMagnitude small]
  cases negative
  · simpa using small
  · simp

theorem magnitude_lt (x : Double) : x.magnitude < 2 ^ 63 := Nat.mod_lt _ (by decide)

@[simp]
theorem magnitude_neg (x : Double) : x.neg.magnitude = x.magnitude :=
  magnitude_ofMagnitude x.magnitude_lt _

@[simp]
theorem isNegative_neg (x : Double) : x.neg.isNegative = !x.isNegative :=
  isNegative_ofMagnitude x.magnitude_lt _

@[simp]
theorem magnitude_abs (x : Double) : x.abs.magnitude = x.magnitude :=
  magnitude_ofMagnitude x.magnitude_lt _

theorem place_abs (x : Double) : x.abs.place = x.magnitude := by
  have positive : x.abs.isNegative = false := isNegative_ofMagnitude x.magnitude_lt false
  rw [place, positive, magnitude_abs]
  rfl

@[simp]
theorem isNaN_neg (x : Double) : x.neg.isNaN = x.isNaN := by rw [isNaN, isNaN, magnitude_neg]

@[simp]
theorem isInfinite_neg (x : Double) : x.neg.isInfinite = x.isInfinite := by
  rw [isInfinite, isInfinite, magnitude_neg]

@[simp]
theorem scaledValue_neg (x : Double) : x.neg.scaledValue = -x.scaledValue := by
  simp only [scaledValue, mantissa, exponent, magnitude_neg, isNegative_neg]
  cases x.isNegative <;> simp

theorem magnitude_le_quiet (x : Double) : x.magnitude ≤ x.quiet.magnitude := by
  have bits : x.quiet.magnitude = (x.bits.toNat ||| 0x8000000000000) % 2 ^ 63 := by
    rw [magnitude, quiet, UInt64.toNat_or]
    rfl
  rw [bits, Nat.or_mod_two_pow]
  exact Nat.left_le_or

/-! ### Rounding -/

/-- The sign of a quotient has no part in its magnitude. -/
theorem ofRatio_eq (numerator denominator : Nat) :
    ∃ m ≤ infinityMagnitude, ∀ negative,
      ofRatio negative numerator denominator = ofMagnitude negative m := by
  by_cases zero : (numerator == 0 || denominator == 0) = true
  · exact ⟨0, Nat.zero_le _, fun negative => if_pos zero⟩
  · exact ⟨_, Nat.min_le_right _ _, fun negative => if_neg zero⟩

theorem magnitude_ofRatio (numerator denominator : Nat) (negative other : Bool) :
    (ofRatio negative numerator denominator).magnitude =
      (ofRatio other numerator denominator).magnitude := by
  obtain ⟨m, bound, same⟩ := ofRatio_eq numerator denominator
  have small : m < 2 ^ 63 := Nat.lt_of_le_of_lt bound (by decide)
  rw [same, same, magnitude_ofMagnitude small, magnitude_ofMagnitude small]

/-! ### Differences -/

theorem isNaN_sub (missing : x.isNaN ∨ y.isNaN) : (x.sub y).isNaN := by
  have quiet : ∀ z : Double, z.isNaN → z.quiet.isNaN := by
    intro z missing
    simp only [isNaN, decide_eq_true_eq] at missing ⊢
    exact Nat.lt_of_lt_of_le missing z.magnitude_le_quiet
  rw [sub, nanOperand?]
  cases first : x.isNaN with
  | true => exact quiet x first
  | false =>
      have second : y.isNaN := missing.resolve_left (by simp [first])
      rw [second]
      exact quiet y second

theorem sub_eq (presentX : x.isNaN = false) (presentY : y.isNaN = false) :
    x.sub y =
      if x.isInfinite then
        if y.isInfinite && x.isNegative == y.isNegative then undefined else x
      else if y.isInfinite then y.neg
      else
        let difference := x.scaledValue - y.scaledValue
        let negative := if difference == 0 then x.isNegative && !y.isNegative else difference < 0
        ofRatio negative difference.natAbs unit := by
  unfold unit
  simp only [sub, add, nanOperand?, presentX, presentY, isNaN_neg, isInfinite_neg, isNegative_neg,
    scaledValue_neg, Bool.false_eq_true, ↓reduceIte, Option.getD_none, Int.sub_eq_add_neg,
    Bool.bne_not]
  cases x.isNegative <;> cases y.isNegative <;> rfl

theorem magnitude_sub_comm (presentX : x.isNaN = false) (presentY : y.isNaN = false) :
    (y.sub x).magnitude = (x.sub y).magnitude := by
  have turned : (y.scaledValue - x.scaledValue).natAbs = (x.scaledValue - y.scaledValue).natAbs := by
    omega
  rw [sub_eq presentX presentY, sub_eq presentY presentX]
  cases first : x.isInfinite with
  | false =>
      cases second : y.isInfinite with
      | false =>
          simp only [Bool.false_eq_true, ↓reduceIte, turned]
          exact magnitude_ofRatio _ _ _ _
      | true => simp
  | true =>
      cases second : y.isInfinite with
      | false => simp
      | true =>
          have equal : y.magnitude = x.magnitude :=
            (beq_iff_eq.mp second).trans (beq_iff_eq.mp first).symm
          by_cases alike : x.isNegative = y.isNegative
          · simp [alike]
          · simp [alike, Ne.symm alike, equal]

/-- Whether two numbers are close does not depend on their order. -/
theorem numLe_abs_sub_comm (x y bound : Double) :
    (y.sub x).abs.numLe bound = (x.sub y).abs.numLe bound := by
  by_cases missing : x.isNaN ∨ y.isNaN
  · have first : (x.sub y).abs.isNaN := by
      rw [isNaN, magnitude_abs]
      exact isNaN_sub missing
    have second : (y.sub x).abs.isNaN := by
      rw [isNaN, magnitude_abs]
      exact isNaN_sub missing.symm
    simp [numLe, first, second]
  · obtain ⟨presentX, presentY⟩ : x.isNaN = false ∧ y.isNaN = false := by simpa using missing
    rw [abs, abs, magnitude_sub_comm presentX presentY]

theorem numEq_comm (x y : Double) : y.numEq x = x.numEq y := by
  rw [numEq, numEq, Bool.beq_comm, Bool.and_comm (!y.isNaN)]

/-- Only zeros are equal and differ. -/
theorem rank_eq_of_numEq (nonzero : x.isZero = false) (equal : x.numEq y) : x.rank = y.rank := by
  simp only [isZero, beq_eq_false_iff_ne] at nonzero
  simp only [numEq, Bool.and_eq_true, beq_iff_eq, place] at equal
  obtain ⟨-, equal⟩ := equal
  rw [rank, rank]
  cases signX : x.isNegative <;> cases signY : y.isNegative
  all_goals
    simp only [signX, signY, Bool.false_eq_true, ↓reduceIte] at equal ⊢
    omega

/-! ### Whole numbers -/

theorem le_roundQuotient (numerator denominator : Nat) :
    numerator / denominator ≤ roundQuotient numerator denominator := by
  rw [roundQuotient]
  split
  · exact Nat.le_refl _
  · exact Nat.le_succ _
  · split
    · exact Nat.le_refl _
    · exact Nat.le_succ _

theorem log2_mul_pow {n : Nat} (positive : n ≠ 0) (k : Nat) : (n * 2 ^ k).log2 = n.log2 + k := by
  have power : 0 < 2 ^ k := Nat.two_pow_pos k
  refine (Nat.log2_eq_iff (Nat.mul_ne_zero positive power.ne')).mpr ⟨?_, ?_⟩
  · rw [Nat.pow_add]
    exact Nat.mul_le_mul_right _ (Nat.log2_self_le positive)
  · rw [Nat.add_right_comm, Nat.pow_add]
    exact Nat.mul_lt_mul_of_pos_right Nat.lt_log2_self power

/-- A whole number over a power of two, as it is rounded: all digits of the mantissa are in use. -/
theorem ofRatio_whole {n : Nat} (positive : n ≠ 0) (k : Nat) (negative : Bool) :
    ∃ digits, 2 ^ 52 ≤ digits ∧
      digits = scaledQuotient (n * 2 ^ k) (2 ^ k) (n.log2 - 52) ∧
      ofRatio negative (n * 2 ^ k) (2 ^ k) =
        ofMagnitude negative (min ((n.log2 + 1022) * 2 ^ 52 + digits) infinityMagnitude) := by
  have power : 0 < 2 ^ k := Nat.two_pow_pos k
  -- so the first guess of the exponent is right, and the mantissa is full
  have leading : 2 ^ k * 2 ^ ((n.log2 : Int) - 52).toNat * 2 ^ 52 ≤
      n * 2 ^ k * 2 ^ (-((n.log2 : Int) - 52)).toNat := by
    generalize upward : ((n.log2 : Int) - 52).toNat = up
    generalize downward : (-((n.log2 : Int) - 52)).toNat = down
    have shifts : up + 52 = n.log2 + down := by omega
    calc 2 ^ k * 2 ^ up * 2 ^ 52 = 2 ^ n.log2 * (2 ^ k * 2 ^ down) := by
          rw [Nat.mul_assoc, ← Nat.pow_add, shifts, Nat.pow_add, Nat.mul_left_comm]
      _ ≤ n * (2 ^ k * 2 ^ down) := Nat.mul_le_mul_right _ (Nat.log2_self_le positive)
      _ = n * 2 ^ k * 2 ^ down := (Nat.mul_assoc _ _ _).symm
  have filled : 2 ^ 52 ≤ scaledQuotient (n * 2 ^ k) (2 ^ k) (n.log2 - 52) := by
    refine Nat.le_trans ?_ (le_roundQuotient _ _)
    refine (Nat.le_div_iff_mul_le (Nat.mul_pos power (Nat.two_pow_pos _))).mpr ?_
    rw [Nat.mul_comm]
    exact leading
  refine ⟨_, filled, rfl, ?_⟩
  have nonzero : (n * 2 ^ k == 0 || 2 ^ k == 0) = false := by simp [positive]
  have guess : ((n * 2 ^ k).log2 : Int) - (2 ^ k).log2 - 52 = n.log2 - 52 := by
    rw [log2_mul_pow positive, Nat.log2_two_pow]
    omega
  have high : ¬n * 2 ^ k * Nat.pow 2 (-((n.log2 : Int) - 52)).toNat <
      2 ^ k * Nat.pow 2 ((n.log2 : Int) - 52).toNat * Nat.pow 2 52 := Nat.not_lt.mpr leading
  have fitted : max ((n.log2 : Int) - 52) (-1074) = n.log2 - 52 := by omega
  have place : ((n.log2 : Int) - 52 + 1074).toNat = n.log2 + 1022 := by omega
  have full : ¬scaledQuotient (n * 2 ^ k) (2 ^ k) (n.log2 - 52) < Nat.pow 2 52 :=
    Nat.not_lt.mpr filled
  simp only [ofRatio, nonzero, guess, Bool.false_eq_true, if_neg high, ↓reduceIte, fitted, place,
    if_neg full]
  rfl

/-- What is a whole number and not zero has at least the magnitude of one. -/
theorem one_le_magnitude_ofRatio {n : Nat} (positive : n ≠ 0) (negative : Bool) :
    1023 * 2 ^ 52 ≤ (ofRatio negative (n * unit) unit).magnitude := by
  obtain ⟨k, -, power⟩ := unit_eq
  obtain ⟨digits, filled, -, rounded⟩ := ofRatio_whole positive k negative
  rw [← power] at rounded
  have bound : min ((n.log2 + 1022) * 2 ^ 52 + digits) infinityMagnitude < 2 ^ 63 :=
    Nat.lt_of_le_of_lt (Nat.min_le_right _ _) (by decide)
  rw [rounded, magnitude_ofMagnitude bound]
  refine Nat.le_min.mpr ⟨?_, by decide⟩
  omega

theorem roundQuotient_one (n : Nat) : roundQuotient n 1 = n := by
  rw [roundQuotient, Nat.mod_one, Nat.div_one]
  rfl

theorem scaledValue_ofMagnitude {place digits : Nat} (filled : 2 ^ 52 ≤ digits)
    (fits : digits < 2 ^ 53) (bound : place * 2 ^ 52 + digits < 2 ^ 63) (negative : Bool) :
    (ofMagnitude negative (place * 2 ^ 52 + digits)).scaledValue =
      if negative then -(digits * 2 ^ place : Int) else digits * 2 ^ place := by
  have size := magnitude_ofMagnitude bound negative
  have normal : ¬(ofMagnitude negative (place * 2 ^ 52 + digits)).magnitude < Nat.pow 2 52 := by
    rw [size]
    exact Nat.not_lt.mpr (Nat.le_trans filled (Nat.le_add_left _ _))
  have mantissa : (ofMagnitude negative (place * 2 ^ 52 + digits)).mantissa = digits := by
    rw [Double.mantissa, if_neg normal, size]
    show (place * 2 ^ 52 + digits) % 2 ^ 52 + 2 ^ 52 = digits
    omega
  have exponent : ((ofMagnitude negative (place * 2 ^ 52 + digits)).exponent + 1074).toNat = place := by
    rw [Double.exponent, if_neg normal, size]
    show (((place * 2 ^ 52 + digits) / 2 ^ 52 : Nat) - 1075 + 1074 : Int).toNat = place
    omega
  rw [scaledValue, mantissa, exponent, isNegative_ofMagnitude bound]
  have power : (Nat.pow 2 place : Int) = 2 ^ place := Int.natCast_pow 2 place
  rw [power]

/-- All digits of a whole number of up to 53 binary digits fit in. -/
theorem ofInt_eq {i : Int} (nonzero : i ≠ 0) (small : i.natAbs < 2 ^ 53) :
    ∃ place digits, place ≤ 1074 ∧ 2 ^ 52 ≤ digits ∧ digits < 2 ^ 53 ∧
      digits * 2 ^ place = i.natAbs * unit ∧
      ofInt i = ofMagnitude (i < 0) (place * 2 ^ 52 + digits) := by
  have positive : i.natAbs ≠ 0 := Int.natAbs_ne_zero.mpr nonzero
  have bits : i.natAbs.log2 ≤ 52 := Nat.le_of_lt_succ ((Nat.log2_lt positive).mpr small)
  obtain ⟨digits, filled, exact, rounded⟩ := ofRatio_whole positive 0 (i < 0)
  have shifted : digits = i.natAbs * 2 ^ (52 - i.natAbs.log2) := by
    have down : (-((i.natAbs.log2 : Int) - 52)).toNat = 52 - i.natAbs.log2 := by omega
    have up : ((i.natAbs.log2 : Int) - 52).toNat = 0 := by omega
    rw [exact, scaledQuotient, down, up]
    simpa using roundQuotient_one _
  have fits : digits < 2 ^ 53 := by
    have above : i.natAbs < 2 ^ (i.natAbs.log2 + 1) := Nat.lt_log2_self
    have whole : i.natAbs.log2 + 1 + (52 - i.natAbs.log2) = 53 := by omega
    calc digits < 2 ^ (i.natAbs.log2 + 1) * 2 ^ (52 - i.natAbs.log2) := by
          rw [shifted]
          exact Nat.mul_lt_mul_of_pos_right above (Nat.two_pow_pos _)
      _ = 2 ^ 53 := by rw [← Nat.pow_add, whole]
  have finite : min ((i.natAbs.log2 + 1022) * 2 ^ 52 + digits) infinityMagnitude =
      (i.natAbs.log2 + 1022) * 2 ^ 52 + digits := by
    refine Nat.min_eq_left ?_
    show (i.natAbs.log2 + 1022) * 2 ^ 52 + digits ≤ 0x7FF * 2 ^ 52
    omega
  obtain ⟨k, scale, power⟩ := unit_eq
  have exponents : 52 - i.natAbs.log2 + (i.natAbs.log2 + 1022) = k := by omega
  refine ⟨i.natAbs.log2 + 1022, digits, by omega, filled, fits, ?_, ?_⟩
  · rw [shifted, Nat.mul_assoc, ← Nat.pow_add, exponents, power]
  · rw [← finite, ← rounded, ofInt, Nat.pow_zero, Nat.mul_one]

/-- Whole numbers of up to 53 binary digits are held exactly. -/
theorem scaledValue_ofInt {i : Int} (small : i.natAbs < 2 ^ 53) :
    (ofInt i).scaledValue = i * unit := by
  by_cases zero : i = 0
  · subst zero
    decide +kernel
  obtain ⟨place, digits, low, filled, fits, value, held⟩ := ofInt_eq zero small
  have value : (digits * 2 ^ place : Int) = i.natAbs * unit := by
    have image := congrArg (Nat.cast : Nat → Int) value
    rwa [Nat.cast_mul, Nat.cast_mul, Nat.cast_pow, Nat.cast_ofNat] at image
  rw [held, scaledValue_ofMagnitude filled fits (by omega), value]
  by_cases below : i < 0
  · rw [decide_eq_true below, if_pos rfl, Int.ofNat_natAbs_of_nonpos (Int.le_of_lt below), neg_mul,
      neg_neg]
  · rw [decide_eq_false below, if_neg Bool.false_ne_true,
      Int.natAbs_of_nonneg (Int.not_lt.mp below)]

theorem isFinite_ofInt {i : Int} (small : i.natAbs < 2 ^ 53) : (ofInt i).isFinite := by
  by_cases zero : i = 0
  · subst zero
    decide +kernel
  obtain ⟨place, digits, low, -, fits, -, held⟩ := ofInt_eq zero small
  rw [held, isFinite, magnitude_ofMagnitude (by omega), decide_eq_true_eq]
  show place * 2 ^ 52 + digits < 0x7FF * 2 ^ 52
  omega

/-- Two different whole numbers of up to 53 binary digits are at least one apart. -/
theorem one_le_sub_ofInt {i j : Int} (smallI : i.natAbs < 2 ^ 53) (smallJ : j.natAbs < 2 ^ 53)
    (different : i ≠ j) : 1023 * 2 ^ 52 ≤ ((ofInt i).sub (ofInt j)).magnitude := by
  have plain : ∀ {x : Double}, x.isFinite → x.isNaN = false ∧ x.isInfinite = false := by
    intro x finite
    simp only [isFinite, decide_eq_true_eq] at finite
    simp only [isNaN, isInfinite, decide_eq_false_iff_not, beq_eq_false_iff_ne]
    omega
  obtain ⟨presentI, boundedI⟩ := plain (isFinite_ofInt smallI)
  obtain ⟨presentJ, boundedJ⟩ := plain (isFinite_ofInt smallJ)
  have apart : (i - j).natAbs ≠ 0 := by omega
  have difference : ((ofInt i).scaledValue - (ofInt j).scaledValue).natAbs =
      (i - j).natAbs * unit := by
    rw [scaledValue_ofInt smallI, scaledValue_ofInt smallJ, ← Int.sub_mul, Int.natAbs_mul,
      Int.natAbs_natCast]
  rw [sub_eq presentI presentJ, boundedI, boundedJ]
  simp only [Bool.false_eq_true, ↓reduceIte, difference]
  exact one_le_magnitude_ofRatio apart _

end Double

end SqlEngine
