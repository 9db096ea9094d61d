/-!
# Net · Punycode: domain labels in ASCII (RFC 3492)

Punycode writes a label of any characters in letters, digits and hyphens. The ASCII
characters of the label come first as they are, then a hyphen when there were any, then the
other characters as a sequence of variable-length numbers in base 36. Each number says how
far to move, through the positions of the label and up through the code points, to the
next insertion; the numbers are read and written from the smallest code point up.

The thresholds between digits adapt to the numbers seen (`adapt`), so that a label in one
script stays short.

Decoding follows the same steps backwards and refuses what no encoding produces: a digit
that is no letter or digit, a number that ends early, a value past 32 bits, or a code point
that is no character.
-/

namespace ImageStudio.Punycode

/-- The base of the numbers. -/
def base : Nat := 36

/-- The smallest and largest threshold. -/
def tMin : Nat := 1
def tMax : Nat := 26

/-- The first bias and the first code point past ASCII. -/
def initialBias : Nat := 72
def initialN : Nat := 128

/-- The limit of the 32-bit arithmetic of decoding. -/
def wordLimit : Nat := Nat.pow 2 32

/-- The character of a digit: `a` to `z` for 0 to 25, `0` to `9` for 26 to 35. -/
def digitChar (d : Nat) : Char :=
  if d < 26 then Char.ofNat (0x61 + d) else Char.ofNat (0x30 + d - 26)

/-- The value of a digit character, in either case. -/
def digitValue (c : Char) : Option Nat :=
  let n := c.toNat
  if 0x61 ≤ n ∧ n ≤ 0x7A then some (n - 0x61)
  else if 0x41 ≤ n ∧ n ≤ 0x5A then some (n - 0x41)
  else if 0x30 ≤ n ∧ n ≤ 0x39 then some (n - 0x30 + 26)
  else none

/-- The threshold of the digit at `k` (a multiple of the base) under a bias. -/
def threshold (k bias : Nat) : Nat :=
  if k ≤ bias then tMin else if k ≥ bias + tMax then tMax else k - bias

/-- Divides `delta` by 35 until it is at most 455, counting the divisions in steps of 36. -/
def adaptLoop : Nat → Nat → Nat → Nat × Nat
  | 0, delta, k => (delta, k)
  | fuel + 1, delta, k =>
    if delta > 455 then adaptLoop fuel (delta / 35) (k + base) else (delta, k)

/-- The next bias, after a number `delta` when the label has `count` characters. -/
def adapt (delta count : Nat) (first : Bool) : Nat :=
  let delta := if first then delta / 700 else delta / 2
  let delta := delta + delta / count
  let (delta, k) := adaptLoop (delta + 1) delta 0
  k + (base * delta) / (delta + 38)

/-! ## Encoding -/

/-- The digits of a number `q`, the first at `k`. -/
def encodeNumber (bias : Nat) : Nat → Nat → Nat → List Char
  | 0, _, q => [digitChar q]
  | fuel + 1, k, q =>
    let t := threshold k bias
    if q < t then [digitChar q]
    else digitChar (t + (q - t) % (base - t)) :: encodeNumber bias fuel (k + base) ((q - t) / (base - t))

/-- The state of encoding: the digits so far, `delta`, the bias and how many characters
are placed. -/
structure EncodeState where
  out : List Char
  delta : Nat
  bias : Nat
  placed : Nat

/-- Passes one character of the label while placing the code point `m`. -/
def passChar (basicCount m : Nat) (st : EncodeState) (c : Char) : EncodeState :=
  if c.toNat < m then { st with delta := st.delta + 1 }
  else if c.toNat == m then
    { out := st.out ++ encodeNumber st.bias (st.delta + 1) base st.delta, delta := 0,
      bias := adapt st.delta (st.placed + 1) (st.placed == basicCount), placed := st.placed + 1 }
  else st

/-- Places the code points `ms` (sorted, distinct), the last placed being below `n`. -/
def placeAll (label : List Char) (basicCount : Nat) : List Nat → Nat → EncodeState → EncodeState
  | [], _, st => st
  | m :: rest, n, st =>
    let st := { st with delta := st.delta + (m - n) * (st.placed + 1) }
    let st := label.foldl (passChar basicCount m) st
    placeAll label basicCount rest (m + 1) { st with delta := st.delta + 1 }

/-- Encodes a label. -/
def encode (label : List Char) : List Char :=
  let basic := label.filter fun c => c.toNat < 0x80
  let others := ((label.filter fun c => c.toNat ≥ 0x80).map Char.toNat).mergeSort (· ≤ ·)
  let others := others.eraseDups
  let start : EncodeState := { out := [], delta := 0, bias := initialBias, placed := basic.length }
  let st := placeAll label basic.length others initialN start
  basic ++ (if basic.isEmpty then [] else ['-']) ++ st.out

/-! ## Decoding -/

/-- Reads one number onto `i` with weight `w`, the digit at `k`: the new `i` and the rest. -/
def decodeNumber (bias : Nat) : List Char → Nat → Nat → Nat → Option (Nat × List Char)
  | [], _, _, _ => none
  | c :: rest, k, w, i => do
    let d ← digitValue c
    if d * w ≥ wordLimit - i then none
    let i := i + d * w
    let t := threshold k bias
    if d < t then pure (i, rest)
    else
      if w * (base - t) ≥ wordLimit then none
      decodeNumber bias rest (k + base) (w * (base - t)) i

/-- Decodes the numbers after the basic characters, inserting into `out`. -/
def decodeAll : Nat → List Char → List Char → Nat → Nat → Nat → Option (List Char)
  | 0, _, _, _, _, _ => none
  | fuel + 1, input, out, n, i, bias =>
    match input with
    | [] => some out
    | _ => do
      let (i', rest) ← decodeNumber bias input base 1 i
      let count := out.length + 1
      let bias := adapt (i' - i) count (i == 0)
      if i' / count ≥ wordLimit - n then none
      let n := n + i' / count
      let pos := i' % count
      if n > 0x10FFFF ∨ (0xD800 ≤ n ∧ n ≤ 0xDFFF) then none
      let out := out.take pos ++ [Char.ofNat n] ++ out.drop pos
      decodeAll fuel rest out n (pos + 1) bias

/-- Decodes a label; the basic characters are those before the last hyphen. -/
def decode (input : List Char) : Option (List Char) :=
  let (basic, rest) := match input.reverse.findIdx? (· == '-') with
    | some j => (input.take (input.length - 1 - j), input.drop (input.length - j))
    | none => ([], input)
  if basic.any (fun c => c.toNat ≥ 0x80) then none
  else decodeAll (rest.length + 1) rest basic initialN 0 initialBias

end ImageStudio.Punycode
