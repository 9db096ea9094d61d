import ImageStudio.Number.Double

/-!
# Number · Shortest: the fewest decimal digits that read back

Every nonzero `Double` has a shortest decimal `c · 10^p` that rounds back to it; of two such
decimals with the same number of digits the one nearer the value wins. This is the digit
string that both number printers of the service start from.

**The rounding interval.** With the value `v = man · 2^e`, the reals that round to `v` lie
between the midpoints to its two neighbours. Measured in quarter units `2^(e-2)`, `v` is
`4·man`, the upper midpoint is `4·man + 2` and the lower one `4·man - 2`, or `4·man - 1` when
`man = 2^52` starts a binade (the lower neighbour is then twice as close). The ends belong to
the interval exactly when `man` is even, since a tie rounds to the even significand.

**The search.** For `n = 1, 2, …, 17` digits the grid is `10^(k - n + 1)`, where `10^k ≤ v <
10^(k+1)`. If any grid point lies in the interval, so does one of the two that enclose `v`,
so the search tests only those two and stops at the first `n` with a hit. Seventeen digits
always suffice for binary64.
-/

namespace ImageStudio.Double

/-- Compares `c · 10^p` with `b · 2^q`, both nonnegative. -/
def compareDecBin (c : Nat) (p : Int) (b : Nat) (q : Int) : Ordering :=
  let ln := c * Nat.pow 10 p.toNat
  let ld := Nat.pow 10 (-p).toNat
  let rn := b * Nat.pow 2 q.toNat
  let rd := Nat.pow 2 (-q).toNat
  compare (ln * rd) (rn * ld)

/-- `floor (b · 2^q / 10^p)`. -/
def floorDecQuot (b : Nat) (q : Int) (p : Int) : Nat :=
  (b * Nat.pow 2 q.toNat * Nat.pow 10 (-p).toNat) / (Nat.pow 2 (-q).toNat * Nat.pow 10 p.toNat)

/-- The decimal exponent `k` with `10^k ≤ v < 10^(k+1)`, for `v = man · 2^e` and `man > 0`. -/
def decimalExponent (man : Nat) (e : Int) : Int :=
  let bits : Int := (Nat.log2 man : Int) + e
  let k0 : Int := Int.fdiv (bits * 30103) 100000
  -- the estimate is off by at most one in either direction
  let k1 := if compareDecBin 1 k0 man e == .gt then k0 - 1 else k0
  let k2 := if compareDecBin 1 (k1 + 1) man e != .gt then k1 + 1 else k1
  if compareDecBin 1 (k2 + 1) man e != .gt then k2 + 1 else k2

/-- Whether `c · 10^p` lies in the rounding interval of `man · 2^e`. -/
def inInterval (man : Nat) (e : Int) (c : Nat) (p : Int) : Bool :=
  let lowGap : Nat := if man = Nat.pow 2 52 ∧ e > minExp then 1 else 2
  let inclusive := man % 2 = 0
  -- quarter units: the value is 4·man · 2^(e-2)
  let lo := compareDecBin c p (4 * man - lowGap) (e - 2)
  let hi := compareDecBin c p (4 * man + 2) (e - 2)
  let aboveLo := lo == .gt || (inclusive && lo == .eq)
  let belowHi := hi == .lt || (inclusive && hi == .eq)
  aboveLo && belowHi

/-- Removes trailing zero digits, raising the exponent to match. -/
def stripZeros : Nat → Nat → Int → Nat × Int
  | 0, c, p => (c, p)
  | fuel + 1, c, p => if c ≠ 0 ∧ c % 10 = 0 then stripZeros fuel (c / 10) (p + 1) else (c, p)

/-- The nearer of the two grid points that enclose the value, when either is in the
interval; a tie goes to the even one. -/
def gridPick (man : Nat) (e : Int) (p : Int) : Option Nat :=
  let c := floorDecQuot man e p
  let okLo := c ≠ 0 && inInterval man e c p
  let okHi := inInterval man e (c + 1) p
  if okLo && okHi then
    -- compare the value with the midpoint (2c+1)/2 · 10^p
    match compareDecBin (2 * c + 1) p (2 * man) e with
    | .gt => some c
    | .lt => some (c + 1)
    | .eq => some (if c % 2 = 0 then c else c + 1)
  else if okLo then some c
  else if okHi then some (c + 1)
  else none

/-- Searches digit counts `n, n+1, …` for the first grid that hits the interval. -/
def searchDigits (man : Nat) (e : Int) (k : Int) : Nat → Nat → Nat × Int
  | 0, _ => (floorDecQuot man e (k - 16), k - 16)
  | fuel + 1, n =>
    let p := k - (n : Int) + 1
    match gridPick man e p with
    | some c => (c, p)
    | none => searchDigits man e k fuel (n + 1)

/-- The shortest digits `c` and exponent `p` with `c · 10^p` reading back as `|x|`, without
trailing zeros in `c`. Zero gives `(0, 0)`. -/
def shortest (x : Double) : Nat × Int :=
  if x.man = 0 then (0, 0) else
  let k := decimalExponent x.man x.exp
  let (c, p) := searchDigits x.man x.exp k 17 1
  stripZeros 20 c p

example : shortest ⟨false, 7205759403792794, -56⟩ = (1, -1) := by decide
example : shortest ⟨false, 7, 0⟩ = (7, 0) := by decide

end ImageStudio.Double
