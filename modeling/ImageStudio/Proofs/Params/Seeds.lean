import ImageStudio.Params.Seeds
import Mathlib.Data.Finset.Card
import Mathlib.Data.Nat.Find

/-!
# Proofs · Params · Seeds: the seeds of a batch are distinct and in range

The draw loop (`fillSeeds`) keeps a draw unless it is taken, so after a run of draws it holds
the seeds it started from and then each new draw once, in draw order: the run's list with its
repeats erased (`foldl_keepFresh`). It stops at the first draw after which it holds the seeds
it needs (`fillSeeds_sound`, `fillSeeds_complete`). The main statement,
`drawUniqueSeeds_spec`, says what this gives for every source whose draws lie in
`[0, maxSeed]`: the loop returns exactly when the draws hold enough new seeds, and then it
returns `count` distinct seeds in range, the requested one first, and the others the new
draws in draw order; a batch of no images gets no seed.

The service's seeds (`uniqueSeeds`) come from that loop, given `drawsPerSeed` draws per seed,
or else from topping the batch up with the smallest free values. Either way a batch of `n`
images takes `n` seeds (`uniqueSeeds_length`), a requested first seed stays first
(`uniqueSeeds_head?`), every other seed is in `[0, maxSeed]` (`mem_uniqueSeeds`), and while
the range holds seeds enough, `n ≤ seedRange`, no two seeds of the batch are equal
(`uniqueSeeds_nodup`). Topping up rests on pigeonhole: a walk through `seen.length + 1`
consecutive values of the range meets a free one (`freshSeed_not_mem`).
-/

namespace ImageStudio

theorem seedRange_eq : seedRange = 2147483648 := rfl

/-- A seed lies in the range exactly when it is at most `maxSeed`. -/
theorem lt_seedRange_iff {x : Int} : x < seedRange ↔ x ≤ maxSeed := by
  rw [seedRange_eq, maxSeed]
  omega

namespace ChaCha

/-- A 64-bit draw is below `2^64`: two 32-bit words. -/
theorem nextU64_lt (g : ChaCha) : g.nextU64.1 < twoPow64 := by
  have ha := (word g.key g.position).toNat_lt
  have hb := (word g.key (g.position + 1)).toNat_lt
  simp only [nextU64, twoPow64, Nat.pow_eq] at ha hb ⊢
  omega

/-- The high half of a 64-bit draw times `range` is below `range`. -/
theorem scaled_lt (g : ChaCha) {range : Nat} (h : 0 < range) :
    g.nextU64.1 * range / twoPow64 < range := by
  rw [Nat.div_lt_iff_lt_mul (by decide), Nat.mul_comm range]
  exact Nat.mul_lt_mul_of_pos_right (nextU64_lt g) h

theorem uniformBelow_lt {range : Nat} (h : 0 < range) :
    ∀ (attempts : Nat) (g : ChaCha), (uniformBelow range attempts g).1 < range
  | 0, g => scaled_lt g h
  | attempts + 1, g => by
    rw [uniformBelow]
    split
    · exact scaled_lt g h
    · exact uniformBelow_lt h attempts _

end ChaCha

/-! ## One draw -/

/-- Whether a value is a seed of the range. -/
def InSeedRange (x : Int) : Prop := 0 ≤ x ∧ x < seedRange

theorem drawSeed_range (g : ChaCha) : InSeedRange (drawSeed g).1 :=
  ⟨Int.natCast_nonneg _, Int.ofNat_lt.2 (ChaCha.uniformBelow_lt (by decide) _ _)⟩

/-- The next value after a seed, cycling through the range, is a seed. -/
theorem next_range (c : Int) : InSeedRange ((c + 1) % seedRange) := by
  rw [InSeedRange, seedRange_eq]
  omega

theorem freshSeed_range (seen : List Int) :
    ∀ {c : Int} (fuel : Nat), InSeedRange c → InSeedRange (freshSeed seen c fuel)
  | _, 0, hc => hc
  | c, fuel + 1, hc => by
    rw [freshSeed]
    split
    · exact freshSeed_range seen fuel (next_range c)
    · exact hc

/-- `freshSeed` answers a value that is not taken, or all the values it tried, the `fuel + 1`
values from `c` on, are taken. -/
theorem freshSeed_tried (seen : List Int) :
    ∀ {c : Int} (fuel : Nat), InSeedRange c →
      freshSeed seen c fuel ∉ seen ∨ ∀ i ≤ fuel, (c + i) % seedRange ∈ seen
  | c, 0, hc => by
    rw [freshSeed]
    by_cases hcs : c ∈ seen
    · refine .inr fun i hi => ?_
      obtain rfl : i = 0 := Nat.le_zero.1 hi
      rwa [Int.natCast_zero, Int.add_zero, Int.emod_eq_of_lt hc.1 hc.2]
    · exact .inl hcs
  | c, fuel + 1, hc => by
    rw [freshSeed]
    by_cases hcs : c ∈ seen
    · rw [if_pos (List.contains_iff_mem.2 hcs)]
      refine (freshSeed_tried seen fuel (next_range c)).imp_right fun hall i hi => ?_
      -- the value `i` steps after `c` is the one `i - 1` steps after `c + 1`
      rcases i with _ | j
      · rwa [Int.natCast_zero, Int.add_zero, Int.emod_eq_of_lt hc.1 hc.2]
      · have hj := hall j (by omega)
        rwa [Int.emod_add_emod, Int.add_assoc, Int.add_comm 1, ← Int.natCast_succ] at hj
    · rw [if_neg (by simpa using hcs)]
      exact .inl hcs

/-- Walking on from a seed through one value more than `seen` holds finds a free one, when
the range holds that many values. -/
theorem freshSeed_not_mem {seen : List Int} {c : Int} (hc : InSeedRange c)
    (hlen : seen.length < seedRange) : freshSeed seen c seen.length ∉ seen := by
  refine (freshSeed_tried seen seen.length hc).resolve_right fun hall => ?_
  have hcard : seen.toFinset.card < (Finset.range (seen.length + 1)).card := by
    rw [Finset.card_range]
    exact Nat.lt_succ_of_le (List.toFinset_card_le seen)
  obtain ⟨i, hi, j, hj, hij, heq⟩ := Finset.exists_ne_map_eq_of_card_lt_of_maps_to hcard
    (f := fun i : Nat => (c + i) % seedRange)
    (fun i hi => List.mem_toFinset.2 (hall i (Nat.lt_succ_iff.1 (Finset.mem_range.1 hi))))
  -- two of the tried values coincide, but they are fewer than the range holds
  have hi' := Finset.mem_range.1 hi
  have hj' := Finset.mem_range.1 hj
  have hR : seen.length < 2147483648 := seedRange_eq ▸ hlen
  have hc' := hc
  simp only [InSeedRange, seedRange_eq] at hc' heq
  omega

/-! ## Topping a batch up -/

theorem zero_range : InSeedRange 0 := by
  rw [InSeedRange, seedRange_eq]
  omega

/-- The seeds topped up after `seen` are seeds of the range. -/
theorem mem_spareSeeds : ∀ (k : Nat) {seen : List Int} {x : Int}, x ∈ spareSeeds seen k →
    x ∈ seen ∨ InSeedRange x
  | 0, _, _, hx => .inl hx
  | k + 1, seen, x, hx => by
    rw [spareSeeds] at hx
    rcases mem_spareSeeds k hx with hx | hx
    · rcases List.mem_append.1 hx with hx | hx
      · exact .inl hx
      · rw [List.mem_singleton.1 hx]
        exact .inr (freshSeed_range seen _ zero_range)
    · exact .inr hx

/-- Topping distinct seeds up keeps them distinct while the range holds them all. -/
theorem spareSeeds_nodup : ∀ (k : Nat) {seen : List Int}, seen.Nodup → seen.length + k ≤ seedRange →
    (spareSeeds seen k).Nodup
  | 0, _, hnd, _ => hnd
  | k + 1, seen, hnd, hlen => by
    rw [spareSeeds]
    refine spareSeeds_nodup k ?_ (by rw [List.length_append, List.length_singleton]; omega)
    refine List.nodup_append.2 ⟨hnd, List.nodup_singleton _, fun a ha b hb => ?_⟩
    rw [List.mem_singleton.1 hb]
    exact fun h => freshSeed_not_mem zero_range (by omega) (h ▸ ha)

/-! ## Erasing repeats -/

/-- A list without repeats has none to erase. -/
theorem List.eraseDups_of_nodup {α : Type} [BEq α] [LawfulBEq α] :
    ∀ {l : List α}, l.Nodup → l.eraseDups = l
  | [], _ => rfl
  | a :: as, h => by
    obtain ⟨ha, has⟩ := List.nodup_cons.1 h
    have hfilter : (as.filter fun b => !b == a) = as :=
      List.filter_eq_self.2 fun b hb => by simp [show b ≠ a from fun e => ha (e ▸ hb)]
    rw [List.eraseDups_cons, hfilter, List.eraseDups_of_nodup has]

/-- Erasing repeats leaves none. -/
theorem List.nodup_eraseDups {α : Type} [BEq α] [LawfulBEq α] : ∀ l : List α, l.eraseDups.Nodup
  | [] => List.nodup_nil
  | a :: as => by
    rw [List.eraseDups_cons]
    refine List.nodup_cons.2 ⟨fun h => ?_, List.nodup_eraseDups _⟩
    rw [List.mem_eraseDups, List.mem_filter] at h
    simp at h
termination_by l => l.length
decreasing_by exact Nat.lt_succ_of_le (List.length_filter_le _ _)

/-! ## The draw loop -/

theorem nodup_keepFresh {seeds : List Int} (h : seeds.Nodup) (d : Int) :
    (keepFresh seeds d).Nodup := by
  unfold keepFresh
  split
  · exact h
  · next hd =>
    refine List.nodup_append.2 ⟨h, List.nodup_singleton d, fun a ha b hb => ?_⟩
    rw [List.mem_singleton.1 hb]
    rintro rfl
    exact hd (List.contains_iff_mem.2 ha)

theorem length_keepFresh_le (seeds : List Int) (d : Int) :
    (keepFresh seeds d).length ≤ seeds.length + 1 := by
  unfold keepFresh
  split
  · omega
  · rw [List.length_append, List.length_singleton]

/-- The seeds kept after a run of draws are the seeds the run started from, then each new
draw once, in draw order. -/
theorem foldl_keepFresh : ∀ (ds : List Int) {seeds : List Int}, seeds.Nodup →
    ds.foldl keepFresh seeds = (seeds ++ ds).eraseDups
  | [], seeds, h => by rw [List.foldl_nil, List.append_nil, List.eraseDups_of_nodup h]
  | d :: ds, seeds, h => by
    rw [List.foldl_cons, foldl_keepFresh ds (nodup_keepFresh h d)]
    unfold keepFresh
    split
    · next hd =>
      -- a taken draw is erased as a repeat
      rw [List.eraseDups_append, List.eraseDups_append, List.cons_removeAll,
        if_neg (by rw [hd]; decide)]
    · rw [List.append_assoc, List.singleton_append]

section Loop

variable {σ : Type} (draw : σ → Int × σ) (count : Nat)

/-- The first `n` draws from `g`, and the source after them. -/
def drawRun : Nat → σ → List Int × σ
  | 0, g => ([], g)
  | n + 1, g =>
    let rest := drawRun n (draw g).2
    ((draw g).1 :: rest.1, rest.2)

/-- Every draw of a run is a draw of the source. -/
theorem mem_drawRun : ∀ (n : Nat) {g : σ} {x : Int}, x ∈ (drawRun draw n g).1 → ∃ s, x = (draw s).1
  | 0, _, _, hx => absurd hx List.not_mem_nil
  | n + 1, g, x, hx => by
    rcases List.mem_cons.1 hx with rfl | hx
    · exact ⟨g, rfl⟩
    · exact mem_drawRun n hx

theorem fillSeeds_of_le (fuel : Nat) {seeds : List Int} (h : count ≤ seeds.length) (g : σ) :
    fillSeeds draw count fuel seeds g = some (seeds, g) := by
  cases fuel <;> rw [fillSeeds, if_neg (by omega)]

theorem fillSeeds_succ_of_lt (fuel : Nat) {seeds : List Int} (h : seeds.length < count) (g : σ) :
    fillSeeds draw count (fuel + 1) seeds g =
      fillSeeds draw count fuel (keepFresh seeds (draw g).1) (draw g).2 := by
  rw [fillSeeds, if_pos h]

/-- A run of the loop that returns made some `n` draws, no more than its fuel: it held fewer
seeds than it needs before each of them, and enough after the last. -/
theorem fillSeeds_sound : ∀ (fuel : Nat) {seeds : List Int} {g : σ} {out : List Int} {g' : σ},
    fillSeeds draw count fuel seeds g = some (out, g') →
    ∃ n ≤ fuel, (∀ m < n, ((drawRun draw m g).1.foldl keepFresh seeds).length < count) ∧
      count ≤ out.length ∧ out = (drawRun draw n g).1.foldl keepFresh seeds ∧
      g' = (drawRun draw n g).2
  | 0, seeds, g, out, g', h => by
    rw [fillSeeds] at h
    split at h
    · cases h
    · next hle =>
      cases h
      exact ⟨0, le_refl 0, fun m hm => absurd hm (Nat.not_lt_zero m), by omega, rfl, rfl⟩
  | fuel + 1, seeds, g, out, g', h => by
    rw [fillSeeds] at h
    split at h
    · next hlt =>
      -- one draw, then the rest of the run from the source after it
      obtain ⟨n, hn, hbefore, hcount, hout, hg'⟩ := fillSeeds_sound fuel h
      refine ⟨n + 1, by omega, fun m hm => ?_, hcount, hout, hg'⟩
      cases m with
      | zero => exact hlt
      | succ m => exact hbefore m (by omega)
    · next hle =>
      cases h
      exact ⟨0, Nat.zero_le _, fun m hm => absurd hm (Nat.not_lt_zero m), by omega, rfl, rfl⟩

/-- The loop returns after the first draw that gives it the seeds it needs, when its fuel
allows that many draws. -/
theorem fillSeeds_complete : ∀ (n fuel : Nat) {seeds : List Int} {g : σ}, n ≤ fuel →
    (∀ m < n, ((drawRun draw m g).1.foldl keepFresh seeds).length < count) →
    count ≤ ((drawRun draw n g).1.foldl keepFresh seeds).length →
    fillSeeds draw count fuel seeds g =
      some ((drawRun draw n g).1.foldl keepFresh seeds, (drawRun draw n g).2)
  | 0, fuel, _, g, _, _, hstop => fillSeeds_of_le draw count fuel hstop g
  | n + 1, 0, _, _, hle, _, _ => absurd hle (by omega)
  | n + 1, fuel + 1, seeds, g, hle, hbefore, hstop => by
    have hlt : seeds.length < count := hbefore 0 (Nat.succ_pos n)
    rw [fillSeeds_succ_of_lt draw count fuel hlt g]
    exact fillSeeds_complete n fuel (by omega) (fun m hm => hbefore (m + 1) (by omega)) hstop

/-- A loop that starts with at most the seeds it needs returns exactly those it needs. -/
theorem fillSeeds_length : ∀ (fuel : Nat) {seeds : List Int} {g : σ} {out : List Int} {g' : σ},
    seeds.length ≤ count → fillSeeds draw count fuel seeds g = some (out, g') → out.length = count
  | 0, seeds, g, out, g', hle, h => by
    rw [fillSeeds] at h
    split at h
    · cases h
    · cases h
      omega
  | fuel + 1, seeds, g, out, g', hle, h => by
    rw [fillSeeds] at h
    split at h
    · next hlt =>
      have hgrow := length_keepFresh_le seeds (draw g).1
      exact fillSeeds_length fuel (by omega) h
    · cases h
      omega

end Loop

/-! ## The seeds of a batch, from any source of draws -/

theorem nodup_firstSeeds (count : Nat) (first : Option Int) : (firstSeeds count first).Nodup := by
  unfold firstSeeds
  split
  · exact List.nodup_singleton _
  · exact List.nodup_nil

theorem mem_firstSeeds {count : Nat} {first : Option Int} {x : Int}
    (hx : x ∈ firstSeeds count first) : first = some x := by
  unfold firstSeeds at hx
  split at hx
  · rw [List.mem_singleton.1 hx]
  · cases hx

section Batch

variable {σ : Type} {draw : σ → Int × σ} {count : Nat} {first : Option Int} {fuel : Nat} {g : σ}

/-- What a batch's loop returns: the seeds it starts from and then the new draws, each once, in
draw order, up to the first draw that gives it its seeds. -/
theorem drawUniqueSeeds_eq {seeds : List Int} {g' : σ}
    (h : drawUniqueSeeds draw count first fuel g = some (seeds, g')) :
    ∃ n ≤ fuel, seeds = (firstSeeds count first ++ (drawRun draw n g).1).eraseDups ∧
      g' = (drawRun draw n g).2 ∧
      ∀ m < n, (firstSeeds count first ++ (drawRun draw m g).1).eraseDups.length < count := by
  obtain ⟨n, hn, hbefore, -, hout, hg'⟩ := fillSeeds_sound draw count fuel h
  have hkept := fun m => foldl_keepFresh (drawRun draw m g).1 (nodup_firstSeeds count first)
  refine ⟨n, hn, hout.trans (hkept n), hg', fun m hm => ?_⟩
  rw [← hkept m]
  exact hbefore m hm

/-- A seed of a batch is the requested one or a draw of the source. -/
theorem mem_drawUniqueSeeds {seeds : List Int} {g' : σ}
    (h : drawUniqueSeeds draw count first fuel g = some (seeds, g')) {x : Int} (hx : x ∈ seeds) :
    first = some x ∨ ∃ s, x = (draw s).1 := by
  obtain ⟨n, -, rfl, -, -⟩ := drawUniqueSeeds_eq h
  rcases List.mem_append.1 (List.mem_eraseDups.1 hx) with hx | hx
  · exact .inl (mem_firstSeeds hx)
  · exact .inr (mem_drawRun draw n hx)

theorem drawUniqueSeeds_nodup {seeds : List Int} {g' : σ}
    (h : drawUniqueSeeds draw count first fuel g = some (seeds, g')) : seeds.Nodup := by
  obtain ⟨n, -, rfl, -, -⟩ := drawUniqueSeeds_eq h
  exact List.nodup_eraseDups _

/-- The seeds a batch starts from stay in front. -/
theorem firstSeeds_isPrefix_seeds {seeds : List Int} {g' : σ}
    (h : drawUniqueSeeds draw count first fuel g = some (seeds, g')) :
    firstSeeds count first <+: seeds := by
  obtain ⟨n, -, rfl, -, -⟩ := drawUniqueSeeds_eq h
  rw [List.eraseDups_append, List.eraseDups_of_nodup (nodup_firstSeeds count first)]
  exact List.prefix_append _ _

/-- The loop returns, for some fuel, exactly when the draws hold enough new seeds. -/
theorem drawUniqueSeeds_returns_iff :
    (∃ fuel r, drawUniqueSeeds draw count first fuel g = some r) ↔
      ∃ n, count ≤ (firstSeeds count first ++ (drawRun draw n g).1).eraseDups.length := by
  have hkept := fun m => foldl_keepFresh (drawRun draw m g).1 (nodup_firstSeeds count first)
  constructor
  · rintro ⟨fuel, ⟨seeds, g'⟩, h⟩
    obtain ⟨n, -, -, hcount, hout, -⟩ := fillSeeds_sound draw count fuel h
    exact ⟨n, by rw [← hkept n, ← hout]; exact hcount⟩
  · intro hex
    -- the loop stops at the first run of draws that holds enough seeds
    classical
    refine ⟨Nat.find hex, _, fillSeeds_complete draw count (Nat.find hex) (Nat.find hex) le_rfl
      (fun m hm => ?_) ?_⟩
    · rw [hkept m]
      exact Nat.lt_of_not_le (Nat.find_min hex hm)
    · rw [hkept]
      exact Nat.find_spec hex

end Batch

/-- For every source whose draws lie in `[0, maxSeed]`, every count and every requested seed
that is none or in `[0, maxSeed]`: the loop of a batch returns exactly when the draws hold
enough new seeds, and then it returns `count` distinct seeds in `[0, maxSeed]`, the requested
one first, and the others the draws that differ from every earlier seed, in draw order, up to
the first draw that completes the batch. A batch of no images gets no seed. -/
theorem drawUniqueSeeds_spec {σ : Type} (draw : σ → Int × σ) (hdraw : ∀ s, InSeedRange (draw s).1)
    (count : Nat) (first : Option Int) (hfirst : ∀ s ∈ first, InSeedRange s) (g : σ) :
    ((∃ fuel r, drawUniqueSeeds draw count first fuel g = some r) ↔
      ∃ n, count ≤ (firstSeeds count first ++ (drawRun draw n g).1).eraseDups.length) ∧
    ∀ fuel seeds g', drawUniqueSeeds draw count first fuel g = some (seeds, g') →
      seeds.length = count ∧ seeds.Nodup ∧ (∀ x ∈ seeds, InSeedRange x) ∧
      (∀ s, first = some s → 0 < count → seeds.head? = some s) ∧ (count = 0 → seeds = []) ∧
      ∃ n ≤ fuel, seeds = (firstSeeds count first ++ (drawRun draw n g).1).eraseDups ∧
        g' = (drawRun draw n g).2 ∧
        ∀ m < n, (firstSeeds count first ++ (drawRun draw m g).1).eraseDups.length < count := by
  refine ⟨drawUniqueSeeds_returns_iff, fun fuel seeds g' h => ?_⟩
  have hlen : seeds.length = count :=
    fillSeeds_length draw count fuel (length_firstSeeds_le count first) h
  refine ⟨hlen, drawUniqueSeeds_nodup h, fun x hx => ?_, fun s hs hpos => ?_,
    fun hzero => List.eq_nil_of_length_eq_zero (hlen.trans hzero), drawUniqueSeeds_eq h⟩
  · rcases mem_drawUniqueSeeds h hx with hx | ⟨s, rfl⟩
    · exact hfirst x hx
    · exact hdraw s
  · -- the requested seed is where the loop starts
    obtain ⟨k, rfl⟩ := Nat.exists_eq_add_of_lt hpos
    obtain ⟨rest, hrest⟩ := firstSeeds_isPrefix_seeds h
    rw [← hrest, hs]
    rfl

/-- A source whose draws cycle through `0, 1, 2`. -/
def cyclingDraw (n : Nat) : Int × Nat := (((n % 3 : Nat) : Int), n + 1)

/-- Three seeds after the requested seed `1`, from draws `0, 1, 2`: the repeated `1` is
skipped. -/
theorem drawUniqueSeeds_cycling :
    (∀ s, InSeedRange (cyclingDraw s).1) ∧ (∀ s ∈ some (1 : Int), InSeedRange s) ∧
      drawUniqueSeeds cyclingDraw 3 (some 1) 3 0 = some ([1, 0, 2], 3) ∧
      ([1, 0, 2] : List Int).head? = some 1 := by
  have hdraw : ∀ s, InSeedRange (cyclingDraw s).1 := fun s => by
    rw [InSeedRange, seedRange_eq, cyclingDraw]
    omega
  have hfirst : ∀ s ∈ some (1 : Int), InSeedRange s := fun s hs => by
    obtain rfl := Option.mem_some_iff.1 hs
    rw [InSeedRange, seedRange_eq]
    omega
  have hrun : drawUniqueSeeds cyclingDraw 3 (some 1) 3 0 = some ([1, 0, 2], 3) := rfl
  exact ⟨hdraw, hfirst, hrun,
    ((drawUniqueSeeds_spec cyclingDraw hdraw 3 (some 1) hfirst 0).2 3 _ _ hrun).2.2.2.1 1 rfl
      (by decide)⟩

/-! ## The seeds of a batch, from the service's stream -/

theorem uniqueSeeds_length (count : Nat) (first : Option Int) (g : ChaCha) :
    (uniqueSeeds count first g).1.length = count := by
  unfold uniqueSeeds
  split
  · next r hr =>
    exact fillSeeds_length drawSeed count _ (length_firstSeeds_le count first) hr
  · dsimp only
    have := length_firstSeeds_le count first
    rw [spareSeeds_length]
    omega

/-- A requested seed is the first of the batch. -/
theorem uniqueSeeds_head? {count : Nat} (hcount : 0 < count) (s : Int) (g : ChaCha) :
    (uniqueSeeds count (some s) g).1.head? = some s := by
  obtain ⟨k, rfl⟩ := Nat.exists_eq_add_of_lt hcount
  have hfront : ∀ l : List Int, firstSeeds (0 + k + 1) (some s) <+: l → l.head? = some s := by
    rintro l ⟨rest, rfl⟩
    rfl
  unfold uniqueSeeds
  split
  · next r hr => exact hfront _ (firstSeeds_isPrefix_seeds hr)
  · exact hfront _ (spareSeeds_keeps _ _)

/-- Every seed of a batch is the requested one or a seed of the range. -/
theorem mem_uniqueSeeds {count : Nat} {first : Option Int} {g : ChaCha} {x : Int}
    (hx : x ∈ (uniqueSeeds count first g).1) : first = some x ∨ InSeedRange x := by
  unfold uniqueSeeds at hx
  split at hx
  · next r hr =>
    rcases mem_drawUniqueSeeds hr hx with h | ⟨s, rfl⟩
    · exact .inl h
    · exact .inr (drawSeed_range s)
  · exact (mem_spareSeeds _ hx).imp_left mem_firstSeeds

/-- The seeds of a batch are distinct when the range holds that many. -/
theorem uniqueSeeds_nodup {count : Nat} (hcount : count ≤ seedRange) (first : Option Int)
    (g : ChaCha) : (uniqueSeeds count first g).1.Nodup := by
  unfold uniqueSeeds
  split
  · next r hr => exact drawUniqueSeeds_nodup hr
  · have := length_firstSeeds_le count first
    exact spareSeeds_nodup _ (nodup_firstSeeds count first) (by omega)

end ImageStudio
