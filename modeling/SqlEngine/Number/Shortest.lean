import SqlEngine.Number.Double

/-!
The shortest decimal that reads back to a given number, and its two written forms.

A decimal reads back to `x` when it lies between the midpoints to the neighbours of `x`; the
midpoints themselves count exactly when the mantissa is even, since ties go to even. The search
tries one digit, then two, and so on; of two candidates with the same length the nearer one wins.
Texts differ in which one they take when both are equally near.
-/

namespace SqlEngine

/-- The number `digits * 10 ^ scale`. -/
structure Decimal where
  digits : Nat
  scale : Int
deriving DecidableEq, Repr, Inhabited

/-- Drops trailing zeros of the digits into the scale, as many as `most`. -/
def Decimal.strip (d : Decimal) : Nat → Decimal
  | 0 => d
  | most + 1 =>
    if d.digits != 0 && d.digits % 10 == 0 then strip ⟨d.digits / 10, d.scale + 1⟩ most else d

namespace Double

/-- Compares `a * 10 ^ i` with `n * 2 ^ j`. -/
def compareScaled (a : Nat) (i : Int) (n : Nat) (j : Int) : Ordering :=
  compare (a * Nat.pow 10 i.toNat * Nat.pow 2 (-j).toNat)
    (n * Nat.pow 2 j.toNat * Nat.pow 10 (-i).toNat)

/-- The neighbour below is only half as far away as the one above. -/
def narrowBelow (x : Double) : Bool := x.mantissa == Nat.pow 2 52 && -1074 < x.exponent

/-- Does the decimal lie among the reals that round to the magnitude of `x`? -/
def readsBack (x : Double) (d : Decimal) : Bool :=
  let low := 4 * x.mantissa - if x.narrowBelow then 1 else 2
  let high := 4 * x.mantissa + 2
  let closed := x.mantissa % 2 == 0
  let atLow := compareScaled d.digits d.scale low (x.exponent - 2)
  let atHigh := compareScaled d.digits d.scale high (x.exponent - 2)
  (atLow == .gt || (closed && atLow == .eq)) && (atHigh == .lt || (closed && atHigh == .eq))

/-- The quotient of the magnitude of `x` by `10 ^ scale`, rounded down. -/
def floorAt (x : Double) (scale : Int) : Nat :=
  (x.mantissa * Nat.pow 2 x.exponent.toNat * Nat.pow 10 (-scale).toNat)
    / (Nat.pow 2 (-x.exponent).toNat * Nat.pow 10 scale.toNat)

/-- Which of two equally near decimals is taken: the greater one, or the one whose last digit is
even. -/
inductive Tie where
  | up
  | toEven
deriving DecidableEq, Repr

def Tie.takesAbove (tie : Tie) (below : Nat) : Bool :=
  match tie with
  | up => true
  | toEven => below % 2 == 1

/-- Is the magnitude of `x` nearer to `below + 1` than to `below`, in units of `10 ^ scale`? -/
def nearerAbove (x : Double) (tie : Tie) (below : Nat) (scale : Int) : Bool :=
  match compareScaled (2 * below + 1) scale (2 * x.mantissa) x.exponent with
  | .lt => true
  | .eq => tie.takesAbove below
  | .gt => false

/-- The best decimal with the given scale, if one reads back. -/
def candidate? (x : Double) (tie : Tie) (scale : Int) : Option Decimal :=
  let below := x.floorAt scale
  let lower : Decimal := ⟨below, scale⟩
  let upper : Decimal := ⟨below + 1, scale⟩
  match below != 0 && x.readsBack lower, x.readsBack upper with
  | true, true => some (if x.nearerAbove tie below scale then upper else lower)
  | true, false => some lower
  | false, true => some upper
  | false, false => none

/-- The power of ten just above the magnitude of `x`, or one more. -/
def decimalTop (x : Double) : Int :=
  ((x.mantissa.log2 : Int) + x.exponent + 1) * 30103 / 100000 + 1

/-- The shortest decimal that reads back; the exact value should none be found. -/
def shortest (x : Double) (tie : Tie) : Decimal :=
  if x.isZero then ⟨0, 0⟩
  else
    let top := x.decimalTop
    let found := (List.range 20).findSome? fun i : Nat => x.candidate? tie (top - i)
    let exact : Decimal :=
      ⟨x.mantissa * Nat.pow 2 x.exponent.toNat * Nat.pow 5 (-x.exponent).toNat, min x.exponent 0⟩
    (found.getD exact).strip 400

end Double

namespace Decimal

def digitText (d : Decimal) : List Char := Nat.toDigits 10 d.digits

/-- The exponent of the leading digit. -/
def leadingExponent (d : Decimal) : Int := d.digitText.length + d.scale - 1

def zeros (n : Nat) : List Char := List.replicate n '0'

/-- Positional notation without a trailing point. -/
def positional (d : Decimal) : List Char :=
  let digits := d.digitText
  let point : Int := digits.length + d.scale
  if 0 ≤ d.scale then digits ++ zeros d.scale.toNat
  else if 0 < point then digits.take point.toNat ++ '.' :: digits.drop point.toNat
  else '0' :: '.' :: zeros (-point).toNat ++ digits

/-- Scientific notation: one digit, the others behind a point, the exponent behind `mark`. -/
def scientific (d : Decimal) (mark : List Char) : List Char :=
  let fraction := d.digitText.drop 1
  d.digitText.take 1 ++ (if fraction.isEmpty then [] else '.' :: fraction) ++ mark
    ++ (toString d.leadingExponent).toList

end Decimal

namespace Double

def signed (x : Double) (text : List Char) : String :=
  String.ofList (if x.isNegative then '-' :: text else text)

/-- Text of a SQL float: positional whatever its size, whole numbers without a point. -/
def text (x : Double) : String :=
  if x.isNaN then "NaN"
  else if x.isInfinite then x.signed "inf".toList
  else x.signed (x.shortest .up).positional

/-- Positional text that shows a point even for whole numbers. -/
def pointed (d : Decimal) : List Char :=
  if 0 ≤ d.scale then d.positional ++ ['.', '0'] else d.positional

/-- Text of a JSON float: positional from `1e-5` below `1e16`, with a point in either case. Of two
equally near decimals the even one is taken. -/
def jsonText (x : Double) : String :=
  let d := x.shortest .toEven
  let e := d.leadingExponent
  if -5 ≤ e && e < 16 then x.signed (pointed d)
  else x.signed (d.scientific (if 0 ≤ e then ['e', '+'] else ['e']))

/-- Text of a float in diagnostics: positional from `1e-4` below `1e16`. -/
def diagnosticText (x : Double) : String :=
  if x.isNaN then "NaN"
  else if x.isInfinite then x.signed "inf".toList
  else
    let d := x.shortest .up
    let e := d.leadingExponent
    if x.isZero || (-4 ≤ e && e < 16) then x.signed (pointed d) else x.signed (d.scientific ['e'])

end Double

end SqlEngine
