/-!
Binary floating point numbers of 64 bits, held as their bits.

Every operation is defined on integers: a finite number is `mantissa * 2 ^ exponent`, the exact
result is a quotient of naturals, and `Double.ofRatio` rounds that quotient once, to nearest with
ties to even. Nothing here depends on the machine's own arithmetic.
-/

namespace SqlEngine

/-- A binary64 number: sign bit, eleven exponent bits, fifty-two fraction bits. -/
structure Double where
  bits : UInt64
deriving DecidableEq, Repr, Inhabited

namespace Double

/-- The bits without the sign, as a natural. -/
def magnitude (x : Double) : Nat := x.bits.toNat % Nat.pow 2 63

def isNegative (x : Double) : Bool := Nat.pow 2 63 ≤ x.bits.toNat

/-- The magnitude of infinity: all exponent bits set, no fraction bit. -/
def infinityMagnitude : Nat := 0x7FF * Nat.pow 2 52

def isNaN (x : Double) : Bool := infinityMagnitude < x.magnitude

def isInfinite (x : Double) : Bool := x.magnitude == infinityMagnitude

def isFinite (x : Double) : Bool := x.magnitude < infinityMagnitude

def isZero (x : Double) : Bool := x.magnitude == 0

def ofMagnitude (negative : Bool) (magnitude : Nat) : Double :=
  ⟨UInt64.ofNat (magnitude + if negative then Nat.pow 2 63 else 0)⟩

def zero : Double := ofMagnitude false 0

def infinity (negative : Bool) : Double := ofMagnitude negative infinityMagnitude

/-- The quiet not-a-number with a clear sign, as written in text. -/
def nan : Double := ofMagnitude false (infinityMagnitude + Nat.pow 2 51)

/-- The quiet not-a-number of an undefined operation; its sign is set. -/
def undefined : Double := ofMagnitude true (infinityMagnitude + Nat.pow 2 51)

/-- The integer `mantissa` with `magnitude = mantissa * 2 ^ exponent`. -/
def mantissa (x : Double) : Nat :=
  if x.magnitude < Nat.pow 2 52 then x.magnitude else x.magnitude % Nat.pow 2 52 + Nat.pow 2 52

def exponent (x : Double) : Int :=
  if x.magnitude < Nat.pow 2 52 then -1074 else (x.magnitude / Nat.pow 2 52 : Nat) - 1075

/-- Integer quotient rounded to nearest, a half to the even neighbour. -/
def roundQuotient (numerator denominator : Nat) : Nat :=
  let quotient := numerator / denominator
  let rest := numerator % denominator
  match compare (2 * rest) denominator with
  | .lt => quotient
  | .gt => quotient + 1
  | .eq => if quotient % 2 == 0 then quotient else quotient + 1

/-- The quotient `numerator / denominator` scaled by `2 ^ (-shift)` and rounded to an integer. -/
def scaledQuotient (numerator denominator : Nat) (shift : Int) : Nat :=
  roundQuotient (numerator * Nat.pow 2 (-shift).toNat) (denominator * Nat.pow 2 shift.toNat)

/-- The number nearest to `± numerator / denominator`, ties to even, infinity on overflow. -/
def ofRatio (negative : Bool) (numerator denominator : Nat) : Double :=
  if numerator == 0 || denominator == 0 then ofMagnitude negative 0
  else
    let guess : Int := (numerator.log2 : Int) - denominator.log2 - 52
    -- `guess` is right or one too large, since the quotient of the two leading powers is.
    let low :=
      numerator * Nat.pow 2 (-guess).toNat < denominator * Nat.pow 2 guess.toNat * Nat.pow 2 52
    let fitted := max (if low then guess - 1 else guess) (-1074)
    let digits := scaledQuotient numerator denominator fitted
    let magnitude :=
      if digits < Nat.pow 2 52 then digits else (fitted + 1074).toNat * Nat.pow 2 52 + digits
    ofMagnitude negative (min magnitude infinityMagnitude)

/-- The number nearest to an integer. -/
def ofInt (i : Int) : Double := ofRatio (i < 0) i.natAbs 1

/-- The number nearest to `± digits * 10 ^ scale`. -/
def ofDecimal (negative : Bool) (digits : Nat) (scale : Int) : Double :=
  if digits == 0 then ofMagnitude negative 0
  else
    let leading : Int := (digits.log2 : Int) * 30103 / 100000 + scale
    -- Far outside the range no power of ten has to be formed.
    if 400 < leading then infinity negative
    else if leading < -400 then ofMagnitude negative 0
    else ofRatio negative (digits * Nat.pow 10 scale.toNat) (Nat.pow 10 (-scale).toNat)

/-- The exact value of a finite number, times `2 ^ 1074`. -/
def scaledValue (x : Double) : Int :=
  let size : Int := x.mantissa * Nat.pow 2 (x.exponent + 1074).toNat
  if x.isNegative then -size else size

def neg (x : Double) : Double := ofMagnitude (!x.isNegative) x.magnitude

def abs (x : Double) : Double := ofMagnitude false x.magnitude

/-- Sets the quiet bit of a not-a-number. -/
def quiet (x : Double) : Double := ⟨x.bits ||| 0x8000000000000⟩

/-- The not-a-number among two operands, the first one first. -/
def nanOperand? (x y : Double) : Option Double :=
  if x.isNaN then some x.quiet else if y.isNaN then some y.quiet else none

def add (x y : Double) : Double :=
  (nanOperand? x y).getD <|
    if x.isInfinite then
      if y.isInfinite && x.isNegative != y.isNegative then undefined else x
    else if y.isInfinite then y
    else
      let sum := x.scaledValue + y.scaledValue
      let negative := if sum == 0 then x.isNegative && y.isNegative else sum < 0
      ofRatio negative sum.natAbs (Nat.pow 2 1074)

def sub (x y : Double) : Double :=
  (nanOperand? x y).getD (add x y.neg)

def mul (x y : Double) : Double :=
  (nanOperand? x y).getD <|
    let negative := x.isNegative != y.isNegative
    if x.isInfinite || y.isInfinite then
      if x.isZero || y.isZero then undefined else infinity negative
    else
      let scale := x.exponent + y.exponent
      ofRatio negative (x.mantissa * y.mantissa * Nat.pow 2 scale.toNat) (Nat.pow 2 (-scale).toNat)

def div (x y : Double) : Double :=
  (nanOperand? x y).getD <|
    let negative := x.isNegative != y.isNegative
    if x.isInfinite then
      if y.isInfinite then undefined else infinity negative
    else if y.isInfinite then ofMagnitude negative 0
    else if y.isZero then
      if x.isZero then undefined else infinity negative
    else
      let scale := x.exponent - y.exponent
      ofRatio negative (x.mantissa * Nat.pow 2 scale.toNat) (y.mantissa * Nat.pow 2 (-scale).toNat)

/-- Remainder of the quotient truncated toward zero; it has the sign of the dividend. -/
def rem (x y : Double) : Double :=
  (nanOperand? x y).getD <|
    if x.isInfinite || y.isZero then undefined
    else if y.isInfinite then x
    else ofRatio x.isNegative (x.scaledValue.natAbs % y.scaledValue.natAbs) (Nat.pow 2 1074)

/-- The nearest integer, halves away from zero; `none` unless the number is finite. -/
def roundToInt? (x : Double) : Option Int :=
  if x.isFinite then
    let size : Int := (2 * x.scaledValue.natAbs + Nat.pow 2 1074) / Nat.pow 2 1075
    some (if x.isNegative then -size else size)
  else none

/-- Position in the total order of all numbers: `-NaN < -∞ < … < -0 < 0 < … < ∞ < NaN`. -/
def rank (x : Double) : Int :=
  if x.isNegative then -(x.magnitude : Int) - 1 else x.magnitude

/-- The total order, which tells the two zeros apart. -/
def totalCompare (x y : Double) : Ordering := compare x.rank y.rank

/-- Position on the number line; both zeros are at zero. Only meaningful when not a NaN. -/
def place (x : Double) : Int :=
  if x.isNegative then -(x.magnitude : Int) else x.magnitude

/-- Numeric equality: a NaN differs from everything, the two zeros are equal. -/
def numEq (x y : Double) : Bool := !x.isNaN && !y.isNaN && x.place == y.place

def numLe (x y : Double) : Bool := !x.isNaN && !y.isNaN && x.place ≤ y.place

def numLt (x y : Double) : Bool := !x.isNaN && !y.isNaN && x.place < y.place

/-- The larger number, the second of two equal ones; a NaN gives way to the other operand. -/
def larger (x y : Double) : Double :=
  if x.isNaN then y else if y.isNaN then x else if y.numLt x then x else y

/-- The smaller number, the second of two equal ones; a NaN gives way to the other operand. -/
def smaller (x y : Double) : Double :=
  if x.isNaN then y else if y.isNaN then x else if x.numLt y then x else y

end Double

end SqlEngine
