/-!
# Random · SplitMix: a 64-bit sequence for fresh identifiers

Identifiers are made from 64-bit words of a SplitMix64 sequence. The state of the sequence
is a 64-bit counter that starts at a seed and moves on by a fixed odd step before each
output. Each output is the new state, mixed by two rounds of xor-shift and multiplication
and a last xor-shift.

A source is kept as its seed and the number of outputs taken so far, so the `n`-th state
is the seed moved on `n` times, and the outputs are a function of the seed and a position,
with nothing else to keep in step.
-/

namespace ImageStudio

/-- A SplitMix64 sequence: its seed and how many outputs were taken. -/
structure Entropy where
  seed : Nat
  position : Nat := 0
  deriving DecidableEq, Repr, Inhabited

namespace Entropy

/-- Arithmetic modulo 2⁶⁴. -/
def wrap (n : Nat) : Nat := n % 18446744073709551616

/-- The state after `n` moves: the seed moved on `n` times by the step, modulo 2⁶⁴. -/
def stateAt (e : Entropy) (n : Nat) : Nat := wrap (e.seed + n * 0x9E3779B97F4A7C15)

/-- The next 64-bit output and the source after it. -/
def next (e : Entropy) : Nat × Entropy :=
  let s := e.stateAt (e.position + 1)
  let z := wrap ((s ^^^ (s >>> 30)) * 0xBF58476D1CE4E5B9)
  let z := wrap ((z ^^^ (z >>> 27)) * 0x94D049BB133111EB)
  (z ^^^ (z >>> 31), { e with position := e.position + 1 })

/-! ### Equations -/

/-- An output moves the position on by one and keeps the seed. -/
@[simp] theorem next_snd (e : Entropy) : e.next.2 = { e with position := e.position + 1 } := rfl

end Entropy

end ImageStudio
