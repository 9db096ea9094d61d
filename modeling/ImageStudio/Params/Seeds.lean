import ImageStudio.Params.Check
import ImageStudio.Random.ChaCha

/-!
# Params · Seeds: distinct seeds for the images of one batch

A batch of `n` images gets `n` distinct seeds. When the request names a seed, the first
image keeps it. The other seeds are drawn uniformly from `[0, maxSeed]`: the draw loop draws
while fewer than `n` seeds are kept, and keeps a draw unless it is taken already.

The loop reads any source of draws, a state and the draw it gives (`drawUniqueSeeds`), and a
run of it is given a number of draws (`fuel`): it answers `none` when the draws run out
before the batch has its seeds. The service draws from an explicit `ChaCha` stream, so the
whole computation is a function of its inputs, and gives the loop `drawsPerSeed` draws per
seed. A stream that gives fewer new seeds than that leaves the batch to be completed with
the smallest free values (`spareSeeds`), so the seeds stay distinct whatever the stream
holds. A draw below the bound likewise takes at most `drawAttempts` tries.
-/

namespace ImageStudio

/-- The number of possible seeds. -/
def seedRange : Nat := maxSeed.toNat + 1

/-- The tries a draw below the seed range may take past the first. Each try is kept with
probability one half. -/
def drawAttempts : Nat := 128

/-- The draws the loop of a batch may make per seed. -/
def drawsPerSeed : Nat := 64

/-- A seed in `[0, maxSeed]` and the stream after it (`Rng::gen_range`). -/
def drawSeed (g : ChaCha) : Int × ChaCha :=
  let d := ChaCha.uniformBelow seedRange drawAttempts g
  ((d.1 : Int), d.2)

/-- One turn of the draw loop: a drawn seed is kept unless it is taken already. -/
def keepFresh (seeds : List Int) (d : Int) : List Int :=
  if seeds.contains d then seeds else seeds ++ [d]

/-- The draw loop, for at most `fuel` draws (`generate_unique_seeds`): while fewer than `count`
seeds are kept, it draws one and keeps it unless it is taken already. `none` when the draws run
out first. -/
def fillSeeds {σ : Type} (draw : σ → Int × σ) (count : Nat) :
    Nat → List Int → σ → Option (List Int × σ)
  | 0, seeds, g => if seeds.length < count then none else some (seeds, g)
  | fuel + 1, seeds, g =>
    if seeds.length < count then
      let d := draw g
      fillSeeds draw count fuel (keepFresh seeds d.1) d.2
    else some (seeds, g)

/-- The seeds a batch starts from: the requested seed, when one is requested and the batch
is not empty. -/
def firstSeeds (count : Nat) (first : Option Int) : List Int :=
  match first, count with
  | some s, _ + 1 => [s]
  | _, _ => []

/-- `count` distinct seeds from the draws of `draw`, the first being `first` when given, and
the source after them; `none` when `fuel` draws do not give them (`generate_unique_seeds`). -/
def drawUniqueSeeds {σ : Type} (draw : σ → Int × σ) (count : Nat) (first : Option Int)
    (fuel : Nat) (g : σ) : Option (List Int × σ) :=
  fillSeeds draw count fuel (firstSeeds count first) g

/-- The first value from `c` on (cycling through the seed range) that is not in `seen`,
trying at most `fuel + 1` values. -/
def freshSeed (seen : List Int) (c : Int) : Nat → Int
  | 0 => c
  | fuel + 1 =>
    if seen.contains c then freshSeed seen ((c + 1) % seedRange) fuel else c

/-- Tops `seen` up by `k` seeds, each the first value from zero on that is not taken yet. -/
def spareSeeds (seen : List Int) : Nat → List Int
  | 0 => seen
  | k + 1 => spareSeeds (seen ++ [freshSeed seen 0 seen.length]) k

/-- `count` seeds, the first being `first` when given, the others drawn from the stream `g`,
and the stream after them (`generate_unique_seeds`). -/
def uniqueSeeds (count : Nat) (first : Option Int) (g : ChaCha) : List Int × ChaCha :=
  match drawUniqueSeeds drawSeed count first (drawsPerSeed * count) g with
  | some r => r
  | none =>
    let seen := firstSeeds count first
    (spareSeeds seen (count - seen.length), g)

/-! ### Equations -/

theorem uniqueSeeds_zero (first : Option Int) (g : ChaCha) :
    uniqueSeeds 0 first g = ([], g) := by
  cases first <;> rfl

/-- The seeds a batch starts from are at most as many as it needs. -/
theorem length_firstSeeds_le (count : Nat) (first : Option Int) :
    (firstSeeds count first).length ≤ count := by
  unfold firstSeeds
  split
  · simp
  · exact Nat.zero_le _

/-- The seeds topped up after `seen` keep `seen` in front. -/
theorem spareSeeds_keeps (seen : List Int) (k : Nat) : seen <+: spareSeeds seen k := by
  induction k generalizing seen with
  | zero => exact ⟨[], List.append_nil seen⟩
  | succ k ih =>
    rw [spareSeeds]
    exact List.IsPrefix.trans ⟨_, rfl⟩ (ih _)

/-- Topping up by `k` seeds appends exactly `k`. -/
theorem spareSeeds_length (seen : List Int) (k : Nat) :
    (spareSeeds seen k).length = seen.length + k := by
  induction k generalizing seen with
  | zero => rfl
  | succ k ih =>
    rw [spareSeeds, ih, List.length_append, List.length_singleton]
    omega

end ImageStudio
