import ImageStudio.Studio.Jobs
import ImageStudio.Proofs.Ids

/-!
# Proofs · Storage · Keys: the object keys an upload chooses

An upload names its objects after an identifier it draws: both keys start with the folder
of generated images, the identifier's simple text and an underscore (`Uuid.Names`). The
simple text is made of hexadecimal digits and reads back to its identifier
(`Uuid.hexNumber_simple`), so a key is named by one identifier at most (`Uuid.Names.unique`):
the keys of uploads that drew different identifiers never collide. Of one upload, the raw
image's key and a separate thumbnail's key differ in their suffix
(`Studio.uploadKeys_image_ne_thumbnail`).
-/

namespace ImageStudio

namespace Uuid

/-- The step of reading hexadecimal digits. -/
private def hexStep (acc : Nat) (c : Char) : Option Nat := (hexValue c).map (acc * 16 + ·)

theorem hexNumber_eq (cs : List Char) : hexNumber cs = cs.foldlM hexStep 0 := rfl

theorem hexValue_digitChar {d : Nat} (hd : d < 16) : hexValue d.digitChar = some d := by
  have h : ∀ d < 16, hexValue d.digitChar = some d := by decide
  exact h d hd

/-- The digits of `n` in base 16 read back to `n`. -/
theorem hexNumber_toDigits (n : Nat) : hexNumber (Nat.toDigits 16 n) = some n := by
  induction n using Nat.strongRecOn with
  | ind n ih =>
    rw [Nat.toDigits_eq_if (by decide)]
    split
    · simp [hexNumber_eq, hexStep, hexValue_digitChar ‹n < 16›]
    · -- the last digit is the remainder, the others the quotient
      have hq : n / 16 < n := Nat.div_lt_self (by omega) (by decide)
      have hprefix := ih (n / 16) hq
      rw [hexNumber_eq] at hprefix ⊢
      rw [List.foldlM_append, hprefix]
      simp [hexStep, hexValue_digitChar (Nat.mod_lt n (by decide : 16 > 0))]
      omega

/-- Leading zeros read as nothing. -/
theorem foldlM_hexStep_zeros (k : Nat) (cs : List Char) :
    (List.replicate k '0' ++ cs).foldlM hexStep 0 = cs.foldlM hexStep 0 := by
  induction k with
  | zero => rfl
  | succ k ih =>
    rw [List.replicate_succ, List.cons_append, List.foldlM_cons]
    exact ih

/-- The simple text of an identifier reads back to it. -/
theorem hexNumber_simple (u : Uuid) : hexNumber u.simple.toList = some u.value := by
  rw [simple, hexPadded, String.toList_ofList, hexNumber_eq, foldlM_hexStep_zeros,
    ← hexNumber_eq, hexNumber_toDigits]

theorem simple_injective : Function.Injective simple := by
  intro u u' h
  have hv : some u.value = some u'.value := by
    rw [← hexNumber_simple, ← hexNumber_simple, h]
  cases u
  cases u'
  cases hv
  rfl

/-- Every character that a successful reading went through is a hexadecimal digit. -/
theorem isSome_hexValue_of_foldlM {cs : List Char} {acc v : Nat}
    (h : cs.foldlM hexStep acc = some v) : ∀ c ∈ cs, (hexValue c).isSome := by
  induction cs generalizing acc with
  | nil => exact fun c hc => absurd hc List.not_mem_nil
  | cons c cs ih =>
    rw [List.foldlM_cons] at h
    intro c' hc'
    rcases hstep : hexStep acc c with _ | acc'
    · rw [hstep] at h
      cases h
    · rw [hstep] at h
      rcases List.mem_cons.1 hc' with rfl | hc'
      · unfold hexStep at hstep
        rcases hv : hexValue c' with _ | d
        · rw [hv] at hstep
          cases hstep
        · rfl
      · exact ih h c' hc'

theorem underscore_not_mem_simple (u : Uuid) : '_' ∉ u.simple.toList := by
  intro hmem
  have h := isSome_hexValue_of_foldlM (hexNumber_simple u) '_' hmem
  revert h
  decide

/-- The identifier `u` names the key `k`: the key is in the folder of generated images and
starts with the simple text of `u` and an underscore. -/
def Names (u : Uuid) (k : String) : Prop :=
  ∃ rest, k = imagesFolder ++ "/" ++ u.simple ++ "_" ++ rest

/-- Text that holds no `c` ends where `c` first stands. -/
theorem eq_of_append_cons {c : Char} {s s' r r' : List Char} (hs : c ∉ s) (hs' : c ∉ s')
    (h : s ++ c :: r = s' ++ c :: r') : s = s' := by
  induction s generalizing s' with
  | nil =>
    cases s' with
    | nil => rfl
    | cons x s' =>
      cases h
      exact absurd (List.mem_cons_self ..) hs'
  | cons x s ih =>
    cases s' with
    | nil =>
      cases h
      exact absurd (List.mem_cons_self ..) hs
    | cons x' s' =>
      rw [List.cons_append, List.cons_append, List.cons.injEq] at h
      rw [h.1, ih (fun hc => hs (List.mem_cons_of_mem _ hc))
        (fun hc => hs' (List.mem_cons_of_mem _ hc)) h.2]

/-- A key is named by one identifier at most. -/
theorem Names.unique {u u' : Uuid} {k : String} (h : Names u k) (h' : Names u' k) : u = u' := by
  obtain ⟨r, rfl⟩ := h
  obtain ⟨r', hk⟩ := h'
  have hl := congrArg String.toList hk
  simp only [String.toList_append, List.append_assoc, List.append_cancel_left_eq] at hl
  have hsimple : u.simple.toList = u'.simple.toList :=
    eq_of_append_cons (underscore_not_mem_simple u) (underscore_not_mem_simple u')
      (by simpa using hl)
  exact simple_injective (String.toList_injective hsimple)

end Uuid

namespace Studio

/-- Choosing the keys of an upload draws one identifier and reads the clock. -/
theorem uploadKeys_state (p : Processed) (s : Studio) :
    ((uploadKeys p).run s).2 = { s with repo := { s.repo with
      entropy := s.repo.entropy.skip 1, clock := s.repo.clock.addMillis 1 } } := by
  unfold uploadKeys
  cases p.thumbnail <;> rfl

/-- Both keys of an upload are named by the identifier it draws. -/
theorem uploadKeys_names (p : Processed) (s : Studio) :
    Uuid.Names (Uuid.draw s.repo.entropy).1 ((uploadKeys p).run s).1.image ∧
      Uuid.Names (Uuid.draw s.repo.entropy).1 ((uploadKeys p).run s).1.thumbnail := by
  unfold uploadKeys
  cases p.thumbnail with
  | same => exact ⟨⟨_, by simp only [String.append_assoc]; rfl⟩, ⟨_, by simp only [String.append_assoc]; rfl⟩⟩
  | encoded w h => exact ⟨⟨_, by simp only [String.append_assoc]; rfl⟩, ⟨_, by simp only [String.append_assoc]; rfl⟩⟩

/-- A raw image that is its own thumbnail is stored under one key. -/
theorem uploadKeys_same {p : Processed} (hp : p.thumbnail = .same) (s : Studio) :
    ((uploadKeys p).run s).1.thumbnail = ((uploadKeys p).run s).1.image := by
  unfold uploadKeys
  rw [hp]
  rfl

/-- A re-encoded thumbnail's key shares the raw image's stem. -/
theorem uploadKeys_encoded {p : Processed} {w h : Nat} (hp : p.thumbnail = .encoded w h)
    (s : Studio) : ∃ stem, ((uploadKeys p).run s).1 =
      { image := stem ++ "_raw." ++ p.raw.extension,
        thumbnail := stem ++ "_thumb." ++ thumbnailExtension } := by
  unfold uploadKeys
  rw [hp]
  exact ⟨_, rfl⟩

/-- A re-encoded thumbnail is stored under a key of its own. -/
theorem uploadKeys_image_ne_thumbnail {p : Processed} {w h : Nat} (hp : p.thumbnail = .encoded w h)
    (s : Studio) : ((uploadKeys p).run s).1.image ≠ ((uploadKeys p).run s).1.thumbnail := by
  -- the two keys share a stem and differ in the suffix after it
  obtain ⟨stem, hkeys⟩ := uploadKeys_encoded hp s
  rw [hkeys]
  intro heq
  have hl := congrArg String.toList heq
  have hraw : "_raw.".toList = ['_', 'r', 'a', 'w', '.'] := by decide
  have hthumb : "_thumb.".toList = ['_', 't', 'h', 'u', 'm', 'b', '.'] := by decide
  simp only [String.toList_append, List.append_assoc, List.append_cancel_left_eq, hraw, hthumb,
    List.cons_append, List.cons.injEq] at hl
  exact absurd hl.2.1 (by decide)

end Studio

end ImageStudio
