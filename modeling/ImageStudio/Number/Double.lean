/-!
# Number · Double: finite binary64 values in exact arithmetic

A `Double` is a finite IEEE binary64 number kept as its sign, an integer significand and a
power of two, so that every operation the service performs on one (reading a number,
widening an integer, scaling by a power of ten, comparing two bounds) is computed in `Nat`
arithmetic and can be reasoned about.

**Canonical form.** Every value is built by `Double.ofRatio`, which rounds a ratio of
naturals to the nearest representable number, a tie going to the even significand. Its
results are canonical: either the significand lies in `[2^52, 2^53)` and the exponent in
`[-1074, 971]`, or the exponent is `-1074` and the significand is below `2^52` (zero and the
subnormals). Two canonical values with the same sign are equal exactly when their fields
are. A ratio whose rounding reaches `2^1024` has no finite value, and `ofRatio` answers
`none` there, which is where an overflow becomes an error of the caller.
-/

namespace ImageStudio

/-- `⌊(2·a + b) / (2·b)⌋`: the quotient `a / b` rounded half away from zero. -/
def roundedQuotient (a b : Nat) : Nat := (2 * a + b) / (2 * b)

/-- A finite binary64 number `(-1)^neg · man · 2^exp`. -/
structure Double where
  /-- The sign bit; a zero may carry it too. -/
  neg : Bool
  /-- The integer significand. -/
  man : Nat
  /-- The power of two that scales the significand. -/
  exp : Int
  deriving DecidableEq, Repr, Inhabited

namespace Double

/-- The least exponent: the scale of the smallest subnormal. -/
def minExp : Int := -1074

/-- The greatest exponent of a finite value. -/
def maxExp : Int := 971

/-- Positive zero. -/
def zero : Double := ⟨false, 0, minExp⟩

/-- The floor quotient, the remainder and the divisor of `num / (den · 2^e)`. -/
def scaledQuot (num den : Nat) (e : Int) : Nat × Nat × Nat :=
  if 0 ≤ e then
    let d := den * Nat.pow 2 e.toNat
    (num / d, num % d, d)
  else
    let n := num * Nat.pow 2 (-e).toNat
    (n / den, n % den, den)

/-- Rounds `num / den` to the nearest binary64 value, a tie going to the even significand.
The answer is `none` when the rounded value is too large to be finite. -/
def ofRatio (neg : Bool) (num den : Nat) : Option Double :=
  if num = 0 ∨ den = 0 then some ⟨neg, 0, minExp⟩ else
  let e0 : Int := (Nat.log2 num : Int) - (Nat.log2 den : Int) - 52
  let e1 := if (scaledQuot num den e0).1 < Nat.pow 2 52 then e0 - 1 else e0
  let e := max e1 minExp
  let (q, r, d) := scaledQuot num den e
  let q := if 2 * r > d ∨ (2 * r = d ∧ q % 2 = 1) then q + 1 else q
  let (q, e) := if q = Nat.pow 2 53 then (Nat.pow 2 52, e + 1) else (q, e)
  if e > maxExp then none else some ⟨neg, q, e⟩

/-- The value as a ratio of naturals, sign apart. -/
def ratio (x : Double) : Nat × Nat :=
  if 0 ≤ x.exp then (x.man * Nat.pow 2 x.exp.toNat, 1) else (x.man, Nat.pow 2 (-x.exp).toNat)

/-- Whether the value is zero (of either sign). -/
def isZero (x : Double) : Bool := x.man == 0

/-- The nearest binary64 value to an integer. -/
def ofInt (i : Int) : Option Double := ofRatio (decide (i < 0)) i.natAbs 1

/-- The nearest binary64 value to a natural number. -/
def ofNat (n : Nat) : Option Double := ofRatio false n 1

/-- The same magnitude with the other sign. -/
def negate (x : Double) : Double := { x with neg := !x.neg }

/-- The correctly rounded product. -/
def mul (x y : Double) : Option Double :=
  let (a, b) := x.ratio
  let (c, d) := y.ratio
  ofRatio (x.neg != y.neg) (a * c) (b * d)

/-- The correctly rounded quotient; `y` must not be zero. -/
def div (x y : Double) : Option Double :=
  let (a, b) := x.ratio
  let (c, d) := y.ratio
  ofRatio (x.neg != y.neg) (a * d) (b * c)

/-- Compares two magnitudes. -/
def compareMagnitude (x y : Double) : Ordering :=
  let m := min x.exp y.exp
  compare (x.man * Nat.pow 2 (x.exp - m).toNat) (y.man * Nat.pow 2 (y.exp - m).toNat)

/-- The sign of the value: `-1`, `0` or `1`; both zeros have sign `0`. -/
def signum (x : Double) : Int := if x.man = 0 then 0 else if x.neg then -1 else 1

/-- Compares two values as real numbers, so that the two zeros are equal. -/
def compareValue (x y : Double) : Ordering :=
  if x.signum < y.signum then .lt
  else if y.signum < x.signum then .gt
  else if x.signum = 0 then .eq
  else if x.neg then (compareMagnitude y x) else compareMagnitude x y

/-- Strictly below, as real numbers. -/
def lt (x y : Double) : Bool := compareValue x y == .lt

/-- Equal as real numbers (the two zeros are equal). -/
def valueEq (x y : Double) : Bool := compareValue x y == .eq

/-- `10^k`, rounded, for the exponents a decimal literal can name directly. -/
def powTen (k : Nat) : Double := (ofRatio false (Nat.pow 10 k) 1).getD zero

/-- The value of an integer-valued double, when it has one. -/
def toInt? (x : Double) : Option Int :=
  let (a, b) := x.ratio
  if a % b = 0 then some (if x.neg then -((a / b : Nat) : Int) else ((a / b : Nat) : Int)) else none

/-- `f64::round` followed by `as u32`: the value rounded to an integer, a half away from zero,
then saturated to the range of `u32`; a negative value gives zero. -/
def roundToU32 (x : Double) : Nat :=
  if x.neg then 0 else min (roundedQuotient x.ratio.1 x.ratio.2) (Nat.pow 2 32 - 1)

example : ofRatio false 1 10 = some ⟨false, 7205759403792794, -56⟩ := by decide
example : ofNat (Nat.pow 2 53 + 1) = some ⟨false, Nat.pow 2 52, 1⟩ := by decide

end Double

end ImageStudio
