import Mathlib
import ImageStudio.Number.Double

/-!
# Proofs · Number · Rounding: what rounding to binary64 keeps

`Double.ofRatio` rounds `num / den` at the exponent `e` that gives the integer part of
`num / (den · 2^e)` exactly 53 bits, unless that exponent is below the subnormal floor. The
facts below carry the arithmetic that the service does in doubles on image dimensions.

* **The exponent.** The 53-bit exponent exists and is unique (`Double.normal_normExp`,
  `Double.Normal.unique`); so the rounding sees the ratio's value only, not how it is
  written (`Double.ofRatio_mul_mul`).
* **Integers are exact.** An integer below `2^53` is its own double (`Double.ofNat_exact`);
  so is the product of two, while it stays below `2^53` (`Double.mul_ofNat`), and the quotient
  of two is `ofRatio` of the two (`Double.div_ofNat`).
* **Rounding twice is rounding once.** A quotient `num / den` of at most `512` with
  `den < 2^32`, rounded to a double and then to an integer half away from zero, is
  `num / den` rounded half away from zero (`Double.roundedQuotient_ofRatio`). The double
  is within half a unit in its last place of `num / den`, that is within `2^-44`, while
  `num / den` is either a half-integer or at least `1 / (2·den) > 2^-33` away from every
  half-integer; and a half-integer is itself a double.
-/

namespace ImageStudio

namespace Double

/-! ## The quotient at an exponent -/

/-- The quotient, remainder and divisor of `num / (den · 2^e)` as one fraction
`(num · 2^(-e)) / (den · 2^e)`, each power being `1` on the side where the exponent is not
of its sign. -/
theorem scaledQuot_eq (num den : Nat) (e : Int) :
    scaledQuot num den e =
      (num * 2 ^ (-e).toNat / (den * 2 ^ e.toNat), num * 2 ^ (-e).toNat % (den * 2 ^ e.toNat),
        den * 2 ^ e.toNat) := by
  unfold scaledQuot
  split_ifs with he
  · simp [Int.toNat_eq_zero.2 (by omega : -e ≤ 0)]
  · simp [Int.toNat_eq_zero.2 (by omega : e ≤ 0)]

/-- At a negative exponent `-a` the divisor is `den` itself. -/
theorem scaledQuot_neg (num den a : Nat) :
    scaledQuot num den (-(a : Int)) = (num * 2 ^ a / den, num * 2 ^ a % den, den) := by
  simp [scaledQuot_eq]

/-- One exponent lower, the quotient has one more bit: the quotient at `e` is the one at
`e - 1`, halved. -/
theorem scaledQuot_fst_sub_one (num den : Nat) (e : Int) :
    (scaledQuot num den e).1 = (scaledQuot num den (e - 1)).1 / 2 := by
  simp only [scaledQuot_eq, Nat.div_div_eq_div_mul]
  by_cases he : 0 < e
  · -- the divisor halves
    have hpos : (e - 1).toNat + 1 = e.toNat := by omega
    have hneg : (-(e - 1)).toNat = (-e).toNat := by omega
    rw [hneg, ← hpos, pow_succ, mul_assoc]
  · -- the dividend doubles
    have hpos : (e - 1).toNat = e.toNat := by omega
    have hneg : (-(e - 1)).toNat = (-e).toNat + 1 := by omega
    rw [hpos, hneg, pow_succ, ← mul_assoc, Nat.mul_div_mul_right _ _ (by norm_num : 0 < 2)]

/-- The quotient grows as the exponent falls. -/
theorem scaledQuot_fst_le_sub (num den : Nat) (e : Int) (n : Nat) :
    (scaledQuot num den e).1 ≤ (scaledQuot num den (e - n)).1 := by
  induction n with
  | zero => simp
  | succ n ih =>
    have hstep := scaledQuot_fst_sub_one num den (e - n)
    rw [show e - ((n + 1 : Nat) : Int) = e - n - 1 by push_cast; ring]
    omega

/-- Below a lower exponent the quotient is at least twice as large. -/
theorem two_mul_scaledQuot_fst_le {num den : Nat} {e e' : Int} (h : e' < e) :
    2 * (scaledQuot num den e).1 ≤ (scaledQuot num den e').1 := by
  have hhalf := scaledQuot_fst_sub_one num den e
  have hmono := scaledQuot_fst_le_sub num den (e - 1) (e - 1 - e').toNat
  rw [show e - 1 - ((e - 1 - e').toNat : Int) = e' by omega] at hmono
  omega

/-- Scaling numerator and denominator together keeps the quotient and scales the
remainder and the divisor. -/
theorem scaledQuot_mul_mul {k : Nat} (hk : 0 < k) (num den : Nat) (e : Int) :
    scaledQuot (k * num) (k * den) e =
      ((scaledQuot num den e).1, k * (scaledQuot num den e).2.1, k * (scaledQuot num den e).2.2) := by
  simp only [scaledQuot_eq, mul_assoc, Nat.mul_div_mul_left _ _ hk, Nat.mul_mod_mul_left]

/-! ## The 53-bit exponent -/

/-- At exponent `e` the quotient of `num / (den · 2^e)` has exactly 53 bits. -/
def Normal (num den : Nat) (e : Int) : Prop :=
  2 ^ 52 ≤ (scaledQuot num den e).1 ∧ (scaledQuot num den e).1 < 2 ^ 53

/-- A ratio has at most one 53-bit exponent: one exponent lower doubles the quotient. -/
theorem Normal.unique {num den : Nat} {e e' : Int} (h : Normal num den e)
    (h' : Normal num den e') : e = e' := by
  unfold Normal at h h'
  rcases lt_trichotomy e e' with hlt | heq | hgt
  · have hdouble : 2 * (scaledQuot num den e').1 ≤ (scaledQuot num den e).1 :=
      two_mul_scaledQuot_fst_le hlt
    omega
  · exact heq
  · have hdouble : 2 * (scaledQuot num den e).1 ≤ (scaledQuot num den e').1 :=
      two_mul_scaledQuot_fst_le hgt
    omega

theorem normal_mul_mul_iff {k : Nat} (hk : 0 < k) (num den : Nat) (e : Int) :
    Normal (k * num) (k * den) e ↔ Normal num den e := by
  simp only [Normal, scaledQuot_mul_mul hk]

/-- The exponent `ofRatio` rounds at before the subnormal floor: the estimate from the two
bit lengths, lowered by one when it leaves the quotient a bit short. -/
def normExp (num den : Nat) : Int :=
  let e0 : Int := (Nat.log2 num : Int) - (Nat.log2 den : Int) - 52
  if (scaledQuot num den e0).1 < Nat.pow 2 52 then e0 - 1 else e0

/-- `ofRatio`'s rounding once its exponent is chosen. -/
def roundHalfEven (q r d : Nat) : Nat :=
  if 2 * r > d ∨ (2 * r = d ∧ q % 2 = 1) then q + 1 else q

/-- `ofRatio` at the exponent it has chosen: round the quotient, and carry into the next
exponent when the rounding reaches `2^53`. -/
def roundAt (neg : Bool) (num den : Nat) (e : Int) : Option Double :=
  let (q, r, d) := scaledQuot num den e
  let q := roundHalfEven q r d
  let (q, e) := if q = Nat.pow 2 53 then (Nat.pow 2 52, e + 1) else (q, e)
  if e > maxExp then none else some ⟨neg, q, e⟩

theorem ofRatio_eq_roundAt (neg : Bool) (num den : Nat) :
    ofRatio neg num den =
      if num = 0 ∨ den = 0 then some ⟨neg, 0, minExp⟩
      else roundAt neg num den (max (normExp num den) minExp) := by
  rw [ofRatio]
  rfl

/-- The estimate from the bit lengths leaves the quotient between `2^51` and `2^53`. -/
theorem scaledQuot_fst_log2_bounds {num den : Nat} (hnum : 0 < num) (hden : 0 < den) :
    2 ^ 51 ≤ (scaledQuot num den ((Nat.log2 num : Int) - (Nat.log2 den : Int) - 52)).1 ∧
      (scaledQuot num den ((Nat.log2 num : Int) - (Nat.log2 den : Int) - 52)).1 < 2 ^ 53 := by
  have hn1 := Nat.log2_self_le (n := num) (by omega)
  have hn2 := Nat.lt_log2_self (n := num)
  have hd1 := Nat.log2_self_le (n := den) (by omega)
  have hd2 := Nat.lt_log2_self (n := den)
  set a := Nat.log2 num
  set b := Nat.log2 den
  rw [scaledQuot_eq]
  by_cases hab : b + 52 ≤ a
  · -- a positive exponent `s`: the quotient is `num / (den · 2^s)`
    set s := a - b - 52 with hs
    have hpos : ((a : Int) - b - 52).toNat = s := by omega
    have hneg : (-((a : Int) - b - 52)).toNat = 0 := by omega
    simp only [hpos, hneg, pow_zero, mul_one]
    constructor
    · rw [Nat.le_div_iff_mul_le (by positivity)]
      calc 2 ^ 51 * (den * 2 ^ s) ≤ 2 ^ 51 * (2 ^ (b + 1) * 2 ^ s) := by gcongr
        _ = 2 ^ a := by rw [← pow_add, ← pow_add]; congr 1; omega
        _ ≤ num := hn1
    · rw [Nat.div_lt_iff_lt_mul (by positivity)]
      calc num < 2 ^ (a + 1) := hn2
        _ = 2 ^ 53 * (2 ^ b * 2 ^ s) := by rw [← pow_add, ← pow_add]; congr 1; omega
        _ ≤ 2 ^ 53 * (den * 2 ^ s) := by gcongr
  · -- a negative exponent `-s`: the quotient is `num · 2^s / den`
    set s := b + 52 - a with hs
    have hpos : ((a : Int) - b - 52).toNat = 0 := by omega
    have hneg : (-((a : Int) - b - 52)).toNat = s := by omega
    simp only [hpos, hneg, pow_zero, mul_one]
    constructor
    · rw [Nat.le_div_iff_mul_le (by positivity)]
      calc 2 ^ 51 * den ≤ 2 ^ 51 * 2 ^ (b + 1) := by gcongr
        _ = 2 ^ a * 2 ^ s := by rw [← pow_add, ← pow_add]; congr 1; omega
        _ ≤ num * 2 ^ s := by gcongr
    · rw [Nat.div_lt_iff_lt_mul (by positivity)]
      calc num * 2 ^ s < 2 ^ (a + 1) * 2 ^ s := by gcongr
        _ = 2 ^ 53 * 2 ^ b := by rw [← pow_add, ← pow_add]; congr 1; omega
        _ ≤ 2 ^ 53 * den := by gcongr

/-- `normExp` is the 53-bit exponent. -/
theorem normal_normExp {num den : Nat} (hnum : 0 < num) (hden : 0 < den) :
    Normal num den (normExp num den) := by
  obtain ⟨hlo, hhi⟩ := scaledQuot_fst_log2_bounds hnum hden
  unfold normExp Normal
  simp only [Nat.pow_eq]
  split_ifs with hshort
  · -- one exponent lower the quotient doubles, give or take one
    have hhalf := scaledQuot_fst_sub_one num den ((Nat.log2 num : Int) - (Nat.log2 den : Int) - 52)
    omega
  · omega

/-- The exponent depends on the ratio's value only. -/
theorem normExp_mul_mul {k : Nat} (hk : 0 < k) {num den : Nat} (hnum : 0 < num)
    (hden : 0 < den) : normExp (k * num) (k * den) = normExp num den := by
  have hscaled := normal_normExp (Nat.mul_pos hk hnum) (Nat.mul_pos hk hden)
  rw [normal_mul_mul_iff hk] at hscaled
  exact hscaled.unique (normal_normExp hnum hden)

theorem roundHalfEven_mul_mul {k : Nat} (hk : 0 < k) (q r d : Nat) :
    roundHalfEven q (k * r) (k * d) = roundHalfEven q r d := by
  unfold roundHalfEven
  have hlt : 2 * (k * r) > k * d ↔ 2 * r > d := by
    rw [mul_left_comm]; exact Nat.mul_lt_mul_left hk
  have heq : 2 * (k * r) = k * d ↔ 2 * r = d := by
    rw [mul_left_comm]; exact Nat.mul_right_inj (by omega)
  simp only [hlt, heq]

/-- Rounding to binary64 sees the ratio's value only, not how it is written. -/
theorem ofRatio_mul_mul {k : Nat} (hk : 0 < k) (neg : Bool) (num den : Nat) :
    ofRatio neg (k * num) (k * den) = ofRatio neg num den := by
  rw [ofRatio_eq_roundAt, ofRatio_eq_roundAt]
  by_cases hzero : num = 0 ∨ den = 0
  · have hkzero : k * num = 0 ∨ k * den = 0 := by
      rcases hzero with h | h <;> simp [h]
    simp only [hkzero, hzero, if_true]
  · have hkzero : ¬(k * num = 0 ∨ k * den = 0) := by
      simpa [Nat.mul_eq_zero, hk.ne'] using hzero
    simp only [hkzero, hzero, if_false]
    rw [normExp_mul_mul hk (by omega) (by omega)]
    unfold roundAt
    rw [scaledQuot_mul_mul hk]
    dsimp only
    rw [roundHalfEven_mul_mul hk]

/-! ## Rounding at a non-positive exponent -/

/-- The value of a double whose exponent is `-a`, for `a ≥ 0`. -/
theorem ratio_neg_exp (neg : Bool) (m a : Nat) : ratio ⟨neg, m, -(a : Int)⟩ = (m, 2 ^ a) := by
  unfold ratio
  dsimp only
  split_ifs with ha
  · have ha0 : a = 0 := by omega
    simp [ha0]
  · simp [Nat.pow_eq]

theorem ratio_snd_pos (x : Double) : 0 < x.ratio.2 := by
  unfold ratio
  split_ifs <;> simp [Nat.pow_eq]

/-- At an exponent `-a ≤ 0` `ofRatio`'s rounding always has a finite answer, and its value,
`2^-a` times the rounded quotient, is the rounded quotient over `2^a` up to a common factor
(two when the rounding carried into the next exponent). -/
theorem roundAt_neg_exp (neg : Bool) (num den a : Nat) :
    ∃ x, roundAt neg num den (-(a : Int)) = some x ∧ x.neg = neg ∧
      ∃ k, 0 < k ∧ k * x.ratio.1 = roundHalfEven (num * 2 ^ a / den) (num * 2 ^ a % den) den ∧
        k * x.ratio.2 = 2 ^ a := by
  unfold roundAt
  rw [scaledQuot_neg]
  dsimp only
  set q := roundHalfEven (num * 2 ^ a / den) (num * 2 ^ a % den) den
  by_cases hcarry : q = Nat.pow 2 53
  · -- a carry: `2^53 · 2^-a` is written `2^52 · 2^(1-a)`
    rw [if_pos hcarry, if_neg (by unfold maxExp; omega)]
    refine ⟨_, rfl, rfl, ?_⟩
    simp only [hcarry, Nat.pow_eq]
    cases a with
    | zero => exact ⟨1, one_pos, by simp [ratio, Nat.pow_eq], by simp [ratio]⟩
    | succ a =>
      have hexp : -((a + 1 : Nat) : Int) + 1 = -(a : Int) := by omega
      rw [hexp, ratio_neg_exp]
      exact ⟨2, two_pos, by ring, by ring⟩
  · rw [if_neg hcarry, if_neg (by unfold maxExp; omega)]
    exact ⟨_, rfl, rfl, 1, one_pos, by rw [ratio_neg_exp, one_mul], by rw [ratio_neg_exp, one_mul]⟩

theorem roundHalfEven_zero (q : Nat) : roundHalfEven q 0 1 = q := by
  simp [roundHalfEven]

/-- The rounded quotient is within half a divisor of the dividend:
`|(q·d + r) - q'·d| ≤ d / 2`. -/
theorem roundHalfEven_near (q r d : Nat) (hr : r < d) :
    2 * (q * d + r) ≤ 2 * (roundHalfEven q r d * d) + d ∧
      2 * (roundHalfEven q r d * d) ≤ 2 * (q * d + r) + d := by
  unfold roundHalfEven
  split_ifs with hup
  · rw [Nat.add_mul, one_mul]
    omega
  · omega

/-- A quotient below `2^53` is rounded at an exponent `-a ≤ 0`, the one that puts
`num · 2^a / den` in `[2^52, 2^53)`. -/
theorem normExp_eq_neg {num den : Nat} (hnum : 0 < num) (hden : 0 < den)
    (hsmall : num < 2 ^ 53 * den) :
    ∃ a : Nat, normExp num den = -(a : Int) ∧ 2 ^ 52 * den ≤ num * 2 ^ a ∧
      num * 2 ^ a < 2 ^ 53 * den := by
  obtain ⟨hlo, hhi⟩ := normal_normExp hnum hden
  -- at a positive exponent the quotient would be at most half of `num / den < 2^53`
  have hnonpos : normExp num den ≤ 0 := by
    by_contra hexp
    have hdouble : 2 * (scaledQuot num den (normExp num den)).1 ≤ (scaledQuot num den 0).1 :=
      two_mul_scaledQuot_fst_le (by omega)
    have hwhole : (scaledQuot num den 0).1 < 2 ^ 53 := by
      simpa [scaledQuot_eq] using (Nat.div_lt_iff_lt_mul hden).2 hsmall
    omega
  obtain ⟨a, ha⟩ : ∃ a : Nat, normExp num den = -(a : Int) := ⟨(-normExp num den).toNat, by omega⟩
  rw [ha, scaledQuot_neg] at hlo hhi
  exact ⟨a, ha, (Nat.le_div_iff_mul_le hden).1 hlo, (Nat.div_lt_iff_lt_mul hden).1 hhi⟩

/-! ## Integers -/

/-- An integer below `2^53` is exactly representable. -/
theorem ofNat_exact {n : Nat} (hpos : 0 < n) (hlt : n < 2 ^ 53) :
    ∃ x, ofNat n = some x ∧ x.neg = false ∧ x.ratio.1 = n * x.ratio.2 := by
  -- the exponent is `-a` with `n · 2^a < 2^53`
  obtain ⟨a, ha, -, hhi⟩ := normExp_eq_neg hpos one_pos (by omega)
  have hpow : 2 ^ a ≤ n * 2 ^ a := Nat.le_mul_of_pos_left _ hpos
  have ha53 : a < 53 := (Nat.pow_lt_pow_iff_right (by norm_num : 1 < 2)).1 (by omega)
  have hmax : max (normExp n 1) minExp = -(a : Int) := by rw [ha]; unfold minExp; omega
  obtain ⟨x, hx, hneg, k, hk, hk1, hk2⟩ := roundAt_neg_exp false n 1 a
  refine ⟨x, ?_, hneg, ?_⟩
  · rw [ofNat, ofRatio_eq_roundAt, if_neg (by omega), hmax, hx]
  · rw [Nat.div_one, Nat.mod_one, roundHalfEven_zero, ← hk2] at hk1
    exact Nat.eq_of_mul_eq_mul_left hk (by rw [hk1]; ring)

/-- The double of an integer below `2^53` is the integer. -/
theorem ratio_of_ofNat {n : Nat} {x : Double} (hx : ofNat n = some x) (hpos : 0 < n)
    (hlt : n < 2 ^ 53) : x.neg = false ∧ x.ratio.1 = n * x.ratio.2 := by
  obtain ⟨x', hx', hneg, hexact⟩ := ofNat_exact hpos hlt
  rw [hx, Option.some_inj] at hx'
  subst hx'
  exact ⟨hneg, hexact⟩

theorem mul_eq (x y : Double) :
    x.mul y = ofRatio (x.neg != y.neg) (x.ratio.1 * y.ratio.1) (x.ratio.2 * y.ratio.2) := rfl

theorem div_eq (x y : Double) :
    x.div y = ofRatio (x.neg != y.neg) (x.ratio.1 * y.ratio.2) (x.ratio.2 * y.ratio.1) := rfl

/-- The product of two integers is exact while it stays below `2^53`. -/
theorem mul_ofNat {m n : Nat} {x y : Double} (hm : 0 < m) (hn : 0 < n) (hmn : m * n < 2 ^ 53)
    (hx : ofNat m = some x) (hy : ofNat n = some y) : x.mul y = ofNat (m * n) := by
  obtain ⟨hxneg, hxexact⟩ := ratio_of_ofNat hx hm (by nlinarith)
  obtain ⟨hyneg, hyexact⟩ := ratio_of_ofNat hy hn (by nlinarith)
  have hk : 0 < x.ratio.2 * y.ratio.2 := Nat.mul_pos (ratio_snd_pos x) (ratio_snd_pos y)
  calc x.mul y = ofRatio false (x.ratio.2 * y.ratio.2 * (m * n)) (x.ratio.2 * y.ratio.2 * 1) := by
        rw [mul_eq, hxneg, hyneg, hxexact, hyexact]
        congr 1 <;> ring
    _ = ofNat (m * n) := ofRatio_mul_mul hk false (m * n) 1

/-- The quotient of two integers below `2^53` is the rounded ratio of the two. -/
theorem div_ofNat {m n : Nat} {x y : Double} (hm : 0 < m) (hm' : m < 2 ^ 53) (hn : 0 < n)
    (hn' : n < 2 ^ 53) (hx : ofNat m = some x) (hy : ofNat n = some y) :
    x.div y = ofRatio false m n := by
  obtain ⟨hxneg, hxexact⟩ := ratio_of_ofNat hx hm hm'
  obtain ⟨hyneg, hyexact⟩ := ratio_of_ofNat hy hn hn'
  have hk : 0 < x.ratio.2 * y.ratio.2 := Nat.mul_pos (ratio_snd_pos x) (ratio_snd_pos y)
  calc x.div y = ofRatio false (x.ratio.2 * y.ratio.2 * m) (x.ratio.2 * y.ratio.2 * n) := by
        rw [div_eq, hxneg, hyneg, hxexact, hyexact]
        congr 1 <;> ring
    _ = ofRatio false m n := ofRatio_mul_mul hk false m n

/-! ## Rounding twice -/

theorem roundedQuotient_mul_mul {k : Nat} (hk : 0 < k) (a b : Nat) :
    roundedQuotient (k * a) (k * b) = roundedQuotient a b := by
  unfold roundedQuotient
  rw [show 2 * (k * a) + k * b = k * (2 * a + b) by ring, show 2 * (k * b) = k * (2 * b) by ring,
    Nat.mul_div_mul_left _ _ hk]

/-- A quotient of at most `c` rounds to at most `c`. -/
theorem roundedQuotient_le {a b c : Nat} (hb : 0 < b) (h : a ≤ c * b) : roundedQuotient a b ≤ c := by
  unfold roundedQuotient
  rw [Nat.div_le_iff_le_mul_add_pred (by omega)]
  have hc : 2 * b * c = 2 * (c * b) := by ring
  omega

/-- Rounding `q / D` half away from zero gives what rounding `num / den` does when `q / D`
is within `1 / (2·D)` of `num / den` and `D > den` is even: `num / den` is a half-integer
or at least `1 / (2·den)` away from each, and `q / D` cannot cross one. -/
theorem roundedQuotient_eq_of_near {num den q D : Nat} (hden : 0 < den) (hD : den < D)
    (heven : Even D) (hlo : 2 * (num * D) ≤ 2 * (q * den) + den)
    (hhi : 2 * (q * den) ≤ 2 * (num * D) + den) :
    roundedQuotient q D = roundedQuotient num den := by
  unfold roundedQuotient
  set N := (2 * num + den) / (2 * den) with hN
  have hfloor : N * (2 * den) ≤ 2 * num + den := Nat.div_mul_le_self _ _
  have hceil : 2 * num + den + 1 ≤ (N + 1) * (2 * den) := by
    have hlt := Nat.lt_div_mul_add (a := 2 * num + den) (b := 2 * den) (by omega)
    rw [← hN] at hlt
    rw [Nat.add_mul, one_mul]
    omega
  apply Nat.div_eq_of_lt_le
  · -- below `N` would need `2·q + D + 1 = N · 2·D`, odd against even
    refine Nat.not_lt.1 fun hbelow => ?_
    have hle : den * (N * (2 * D)) ≤ den * (2 * q + D + 1) := by
      have := Nat.mul_le_mul_right D hfloor
      nlinarith
    have hge : den * (2 * q + D + 1) ≤ den * (N * (2 * D)) := Nat.mul_le_mul_left _ (by omega)
    have heq := Nat.eq_of_mul_eq_mul_left hden (le_antisymm hge hle)
    have hodd : ¬ Even (2 * q + D + 1) := by
      rw [Nat.even_add_one, not_not]
      exact (even_two_mul q).add heven
    exact hodd (heq ▸ ⟨N * D, by ring⟩)
  · refine Nat.lt_of_mul_lt_mul_left (a := den) ?_
    have := Nat.mul_le_mul_right D hceil
    nlinarith

/-- A quotient of at most `512` over a 32-bit denominator is rounded at an exponent between
`-84` and `-43`. -/
theorem normExp_of_le {num den : Nat} (hnum : 0 < num) (hle : num ≤ 512 * den)
    (hden : den < 2 ^ 32) : ∃ a : Nat, normExp num den = -(a : Int) ∧ 43 ≤ a ∧ a < 85 := by
  have hden0 : 0 < den := by omega
  obtain ⟨a, ha, hlo, hhi⟩ := normExp_eq_neg hnum hden0 (by omega)
  refine ⟨a, ha, ?_, ?_⟩
  · -- `2^52 · den ≤ num · 2^a ≤ 2^9 · den · 2^a`
    have hpow : den * 2 ^ 52 ≤ den * 2 ^ (9 + a) := by
      calc den * 2 ^ 52 = 2 ^ 52 * den := mul_comm _ _
        _ ≤ num * 2 ^ a := hlo
        _ ≤ 512 * den * 2 ^ a := Nat.mul_le_mul_right _ hle
        _ = den * 2 ^ (9 + a) := by ring
    have hbits := (Nat.pow_le_pow_iff_right (by norm_num : 1 < 2)).1
      (Nat.le_of_mul_le_mul_left hpow hden0)
    omega
  · -- `2^a ≤ num · 2^a < 2^53 · den < 2^85`
    have hpow : 2 ^ a < 2 ^ 85 := by
      calc 2 ^ a ≤ num * 2 ^ a := Nat.le_mul_of_pos_left _ hnum
        _ < 2 ^ 53 * den := hhi
        _ ≤ 2 ^ 53 * 2 ^ 32 := Nat.mul_le_mul_left _ hden.le
        _ = 2 ^ 85 := by norm_num
    exact (Nat.pow_lt_pow_iff_right (by norm_num : 1 < 2)).1 hpow

/-- A quotient of at most `512` over a 32-bit denominator, rounded to a double and then to an
integer half away from zero, is the quotient rounded half away from zero. -/
theorem roundedQuotient_ofRatio {num den : Nat} (hnum : 0 < num) (hle : num ≤ 512 * den)
    (hden : den < 2 ^ 32) :
    ∃ x, ofRatio false num den = some x ∧ x.neg = false ∧
      roundedQuotient x.ratio.1 x.ratio.2 = roundedQuotient num den := by
  have hden0 : 0 < den := by omega
  obtain ⟨a, ha, ha43, ha85⟩ := normExp_of_le hnum hle hden
  have hmax : max (normExp num den) minExp = -(a : Int) := by rw [ha]; unfold minExp; omega
  obtain ⟨x, hx, hneg, k, hk, hk1, hk2⟩ := roundAt_neg_exp false num den a
  refine ⟨x, ?_, hneg, ?_⟩
  · rw [ofRatio_eq_roundAt, if_neg (by omega), hmax, hx]
  · -- the double is within half a unit `2^-a` of `num / den`, and `2^a > den` is even
    have hnear := roundHalfEven_near (num * 2 ^ a / den) (num * 2 ^ a % den) den
      (Nat.mod_lt _ hden0)
    rw [Nat.div_add_mod'] at hnear
    have hD : den < 2 ^ a :=
      calc den < 2 ^ 32 := hden
        _ < 2 ^ a := Nat.pow_lt_pow_right (by norm_num) (by omega)
    have heven : Even (2 ^ a) := (Nat.even_pow' (by omega)).2 even_two
    calc roundedQuotient x.ratio.1 x.ratio.2
        = roundedQuotient (k * x.ratio.1) (k * x.ratio.2) := (roundedQuotient_mul_mul hk _ _).symm
      _ = roundedQuotient (roundHalfEven (num * 2 ^ a / den) (num * 2 ^ a % den) den) (2 ^ a) := by
        rw [hk1, hk2]
      _ = roundedQuotient num den := roundedQuotient_eq_of_near hden0 hD heven hnear.1 hnear.2

end Double

end ImageStudio
