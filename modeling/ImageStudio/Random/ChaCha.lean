/-!
# Random · ChaCha: a seedable stream of random words

Seeds for a batch are drawn from a ChaCha12 keystream. The stream is a function of a 256-bit
key, so a generator built from a fixed 64-bit seed gives the same draws every time.

## The stream

The key is eight 32-bit words. Block `n` of the stream starts from sixteen words: four
constants, the key, the two words of the 64-bit counter `n` (low word first), and two zero
words. Six double rounds mix them. Each double round is four quarter rounds on the columns,
then four on the diagonals. The block is the mixed words added to the words it started from.
The stream is the blocks' words in order, and `position` is the index of the next word.

A 64-bit draw takes two words in turn, the first as the low half. A draw whose words straddle
two blocks takes the last word of one and the first of the next.

## Seeding from 64 bits

A 64-bit seed is spread over the key by a PCG32 generator: each key word is the next output
of an LCG step, xor-shifted and rotated right by the state's top five bits.

## Drawing below a bound

A number below `range` is the high half of the product of a 64-bit draw and `range`. The draw
is rejected when the low half is past the zone: `range` shifted up until its top bit is
bit 63, less one. For `range = 2³¹` the zone is `2⁶³ - 1`, so a draw is kept exactly when its
bit 32 is clear, and the number is the draw's top 31 bits.

Rejection can in principle go on forever. The draw is cut off after a given number of
attempts, and the last draw is then kept as it is.
-/

namespace ImageStudio

/-- A ChaCha12 stream: its key and the position of the next word. -/
structure ChaCha where
  /-- The eight key words. -/
  key : Vector UInt32 8
  /-- The index of the next word of the stream. -/
  position : Nat := 0
  deriving Repr, DecidableEq, Inhabited

namespace ChaCha

/-- The number of 64-bit values. -/
def twoPow64 : Nat := Nat.pow 2 64

/-- A word rotated left by `n` bits, for `0 < n < 32`. -/
def rotl (x : UInt32) (n : UInt32) : UInt32 := (x <<< n) ||| (x >>> (32 - n))

/-- A word rotated right by `n` bits, for `n < 32`; rotating by zero keeps the word, since a
shift by 32 is a shift by 0. -/
def rotr (x : UInt32) (n : UInt32) : UInt32 := (x >>> n) ||| (x <<< (32 - n))

/-- The quarter round on the words at `a`, `b`, `c` and `d`. -/
def quarterRound (v : Vector UInt32 16) (a b c d : Fin 16) : Vector UInt32 16 :=
  let xa := v[a] + v[b]
  let xd := rotl (v[d] ^^^ xa) 16
  let xc := v[c] + xd
  let xb := rotl (v[b] ^^^ xc) 12
  let xa := xa + xb
  let xd := rotl (xd ^^^ xa) 8
  let xc := xc + xd
  let xb := rotl (xb ^^^ xc) 7
  (((v.set a.val xa a.isLt).set b.val xb b.isLt).set c.val xc c.isLt).set d.val xd d.isLt

/-- Four quarter rounds on the columns, then four on the diagonals. -/
def doubleRound (v : Vector UInt32 16) : Vector UInt32 16 :=
  let v := quarterRound v 0 4 8 12
  let v := quarterRound v 1 5 9 13
  let v := quarterRound v 2 6 10 14
  let v := quarterRound v 3 7 11 15
  let v := quarterRound v 0 5 10 15
  let v := quarterRound v 1 6 11 12
  let v := quarterRound v 2 7 8 13
  quarterRound v 3 4 9 14

/-- The words a block starts from: the constants, the key, the counter and two zero words. -/
def initial (key : Vector UInt32 8) (counter : Nat) : Vector UInt32 16 :=
  #v[0x61707865, 0x3320646e, 0x79622d32, 0x6b206574,
    key[0], key[1], key[2], key[3], key[4], key[5], key[6], key[7],
    counter.toUInt32, (counter / Nat.pow 2 32).toUInt32, 0, 0]

/-- Block `counter` of the stream of a key: six double rounds, added to the start. -/
def block (key : Vector UInt32 8) (counter : Nat) : Vector UInt32 16 :=
  let start := initial key counter
  Vector.zipWith (· + ·) (Nat.repeat doubleRound 6 start) start

/-- Word `p` of the stream of a key. -/
def word (key : Vector UInt32 8) (p : Nat) : UInt32 :=
  (block key (p / 16)).get ⟨p % 16, Nat.mod_lt p (by decide)⟩

/-- The next word of the stream. -/
def nextU32 (g : ChaCha) : UInt32 × ChaCha :=
  (word g.key g.position, { g with position := g.position + 1 })

/-- The next 64-bit value of the stream: two words, the first as the low half. -/
def nextU64 (g : ChaCha) : Nat × ChaCha :=
  ((word g.key g.position).toNat + (word g.key (g.position + 1)).toNat * Nat.pow 2 32,
    { g with position := g.position + 2 })

/-- One step of the seeding LCG. -/
def pcgStep (state : UInt64) : UInt64 := state * 6364136223846793005 + 11634580027462260723

/-- The output of the seeding generator at a state: the xor-shifted state, rotated right by
its top five bits. -/
def pcgOutput (state : UInt64) : UInt32 :=
  rotr (((state >>> 18) ^^^ state) >>> 27).toUInt32 (state >>> 59).toUInt32

/-- The stream whose key is spread from a 64-bit seed: key word `i` is the output after
`i + 1` steps. -/
def seedFromU64 (seed : UInt64) : ChaCha :=
  { key := Vector.ofFn fun i : Fin 8 => pcgOutput (Nat.repeat pcgStep (i.val + 1) seed) }

/-- The zone of a bound: the bound shifted up until its top bit is bit 63, less one. Draws
whose low product half is past it are rejected. -/
def zone (range : Nat) : Nat := range * Nat.pow 2 (63 - Nat.log2 range) - 1

/-- A number below `range`, for `0 < range < 2⁶⁴`, drawing at most `attempts + 1` times. -/
def uniformBelow (range : Nat) : Nat → ChaCha → Nat × ChaCha
  | 0, g =>
    let d := g.nextU64
    (d.1 * range / twoPow64, d.2)
  | attempts + 1, g =>
    let d := g.nextU64
    if d.1 * range % twoPow64 ≤ zone range then (d.1 * range / twoPow64, d.2)
    else uniformBelow range attempts d.2

/-! ### Equations -/

theorem nextU32_position (g : ChaCha) : g.nextU32.2.position = g.position + 1 := rfl

theorem nextU64_position (g : ChaCha) : g.nextU64.2.position = g.position + 2 := rfl

/-- A draw keeps the key. -/
theorem nextU64_key (g : ChaCha) : g.nextU64.2.key = g.key := rfl

end ChaCha

end ImageStudio
