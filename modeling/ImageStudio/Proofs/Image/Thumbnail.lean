import ImageStudio.Proofs.Number.Rounding
import ImageStudio.Proofs.Studio.JobSteps
import ImageStudio.Proofs.Studio.Stored

/-!
# Proofs · Image · Thumbnail: the stored pair of an image, and its upload

An image of `w × h` is stored as its raw bytes and a thumbnail. The results:

* **The thumbnail's side** (`thumbnailSide_eq`, `thumbnailDimensions_eq`). The service computes
  the side across the larger one in doubles, `other · 512.0 / larger` rounded half away from
  zero; for sides below `2^32` this is exactly `512 · S / L` rounded half up
  (`thumbnailOtherSide`), ties included. Both integers and their product are exact
  doubles, and the one rounding of the quotient cannot move it across a half-integer
  (`Double.roundedQuotient_ofRatio`).
* **The pair** (`processBytes_eq`). An image whose format and dimensions are read and that
  decodes when it must is kept as it came, and is its own thumbnail exactly when it is a WebP
  image of at most 512 on each side.
* **The upload** (`Studio.uploadRun_objects`, `Studio.uploadKeys_keys`). The job's upload puts
  the raw image and, for a re-encoded thumbnail, the thumbnail: one new object under one key
  for an image that is its own thumbnail, two under two keys of one stem otherwise.

`processBytes_stores_pair` puts the three together.
-/

namespace ImageStudio

/-! ## The thumbnail's dimensions -/

/-- The side of the thumbnail of a `w × h` image across its larger side: with `L` the larger
side and `S` the smaller, `512 · S / L` rounded half up, and at least one. -/
def thumbnailOtherSide (w h : Nat) : Nat :=
  max 1 ((1024 * min w h + max w h) / (2 * max w h))

/-- The side the service computes in doubles is the exact quotient `other · 512 / larger`,
rounded half away from zero. -/
theorem thumbnailSide_eq {other larger : Nat} (hpos : 0 < other) (hle : other ≤ larger)
    (hlarger : larger < 2 ^ 32) :
    thumbnailSide other larger = roundedQuotient (other * 512) larger := by
  -- every integer on the way is exact, and so is the product
  obtain ⟨x, hx, -⟩ := Double.ofNat_exact hpos (by omega)
  obtain ⟨y, hy, -⟩ := Double.ofNat_exact (n := 512) (by norm_num) (by norm_num)
  obtain ⟨z, hz, -⟩ := Double.ofNat_exact (n := larger) (by omega) (by omega)
  obtain ⟨p, hp, -⟩ := Double.ofNat_exact (n := other * 512) (by omega) (by omega)
  have hprod : x.mul y = some p := by
    rw [Double.mul_ofNat hpos (by norm_num) (by omega) hx hy, hp]
  have hquot : p.div z = Double.ofRatio false (other * 512) larger :=
    Double.div_ofNat (by omega) (by omega) (by omega) (by omega) hp hz
  -- the quotient is rounded once, and rounding it again to an integer is rounding it once
  obtain ⟨d, hd, hdneg, hdround⟩ := Double.roundedQuotient_ofRatio
    (by omega : 0 < other * 512) (by omega : other * 512 ≤ 512 * larger) hlarger
  have hbound : roundedQuotient (other * 512) larger ≤ 512 :=
    Double.roundedQuotient_le (by omega) (by omega)
  have hround : d.roundToU32 = roundedQuotient (other * 512) larger := by
    rw [Double.roundToU32, hdneg, hdround, if_neg Bool.false_ne_true, Nat.pow_eq]
    exact min_eq_left (by omega)
  simp only [thumbnailSide, thumbnailMaxSide, hx, hy, hz, Option.bind_eq_bind, Option.bind_some,
    hprod, hquot, hd, Option.map_some, Option.getD_some, hround]

/-- The thumbnail's dimensions: 512 on the larger side, `thumbnailOtherSide` on the other. -/
theorem thumbnailDimensions_eq {w h : Nat} (hw : 0 < w) (hh : 0 < h) (hw32 : w < 2 ^ 32)
    (hh32 : h < 2 ^ 32) :
    thumbnailDimensions w h =
      if h ≤ w then (512, thumbnailOtherSide w h) else (thumbnailOtherSide w h, 512) := by
  -- in either orientation the side computed in doubles is the half-up quotient
  have hside : ∀ {s l : Nat}, 0 < s → s ≤ l → l < 2 ^ 32 →
      thumbnailSide s l = (1024 * s + l) / (2 * l) := by
    intro s l hs hsl hl
    rw [thumbnailSide_eq hs hsl hl, roundedQuotient, show 2 * (s * 512) = 1024 * s by ring]
  unfold thumbnailDimensions thumbnailOtherSide thumbnailMaxSide
  by_cases hwh : h ≤ w
  · rw [if_pos hwh, if_pos hwh, hside hh hwh hw32, min_eq_right hwh, max_eq_left hwh]
  · have hwh' : w ≤ h := by omega
    rw [if_neg hwh, if_neg hwh, hside hw hwh' hh32, min_eq_left hwh', max_eq_right hwh']

-- a tie: `512 · 3 / 1024 = 1.5` goes up
example : thumbnailDimensions 1024 3 = (512, 2) := by decide +kernel

/-! ## The pair -/

/-- The stored pair of an image whose format and dimensions are read, with both sides
positive, and that decodes unless it is its own thumbnail. -/
theorem processBytes_eq {source : SourceImage} {format : ImageFormat} {w h : Nat}
    (hformat : ImageFormat.guess source.bytes = some format)
    (hdims : imageDimensions format source.bytes = .ok (w, h)) (hw : 0 < w) (hh : 0 < h)
    (hdecode : ¬(format = .webP ∧ w ≤ 512 ∧ h ≤ 512) → decodeImage format source.bytes = .ok ()) :
    processBytes source = .ok
      { raw := { bytes := source.bytes, width := w, height := h, extension := source.extension,
                 mime := source.mime },
        thumbnail := if format = .webP ∧ w ≤ 512 ∧ h ≤ 512 then .same
          else .encoded (thumbnailDimensions w h).1 (thumbnailDimensions w h).2 } := by
  have hsides : ¬(w = 0 ∨ h = 0) := by omega
  unfold processBytes
  simp only [hformat, hdims, Except.mapError, bind, Except.bind, hsides, if_false]
  by_cases hreuse : format = .webP ∧ w ≤ 512 ∧ h ≤ 512
  · have hreuse' : format = .webP ∧ w ≤ thumbnailMaxSide ∧ h ≤ thumbnailMaxSide := hreuse
    rw [if_pos hreuse, if_pos hreuse']
    rfl
  · have hreuse' : ¬(format = .webP ∧ w ≤ thumbnailMaxSide ∧ h ≤ thumbnailMaxSide) := hreuse
    rw [if_neg hreuse, if_neg hreuse', hdecode hreuse]
    rfl

/-! ## The upload -/

namespace Studio

variable (job : Job) (image : ProviderImage)

/-- The upload of a processed image: the step that puts the raw image, and then, for a
re-encoded thumbnail, the step that puts the thumbnail. -/
def uploadRun (p : Processed) (s : Studio) : JobStage × Studio :=
  let first := (jobStep job (.upload image p)).run s
  if p.thumbnail = .same then first else (jobStep job first.1).run first.2

/-- From a serving store, the step of an upload puts the raw image under its key and goes on
as the thumbnail says. -/
theorem jobStep_upload_run {s : Studio} (hs : s.Serving) (p : Processed) :
    ∃ s' : Studio, s'.Serving ∧
      s'.bucket.objects = s.bucket.objects.filter (·.key != ((uploadKeys p).run s).1.image) ++
        [{ key := ((uploadKeys p).run s).1.image, blob := .bytes p.raw.bytes,
           contentType := p.raw.mime }] ∧
      ((p.thumbnail = .same → (jobStep job (.upload image p)).run s =
        (.complete image p ((uploadKeys p).run s).1.image ((uploadKeys p).run s).1.thumbnail
          (some ((uploadKeys p).run s).1), s')) ∧
      ∀ w h, p.thumbnail = .encoded w h → (jobStep job (.upload image p)).run s =
        (.putThumb image p ((uploadKeys p).run s).1 w h (.ok ()), s')) := by
  have hserving : ((uploadKeys p).run s).2.Serving := by
    unfold Serving
    rw [uploadKeys_bucket]
    exact hs
  obtain ⟨s₁, ⟨-, hbucket, -⟩, hput⟩ := putObject_run hserving ((uploadKeys p).run s).1.image
    (.bytes p.raw.bytes) p.raw.mime
  refine ⟨((putObject ((uploadKeys p).run s).1.image (.bytes p.raw.bytes) p.raw.mime).run
    ((uploadKeys p).run s).2).2, ?_, ?_, ?_, ?_⟩
  · unfold Serving
    rw [hput]
    dsimp only
    rw [hbucket, uploadKeys_bucket]
    exact hs
  · rw [hput]
    dsimp only
    rw [hbucket, uploadKeys_bucket]
  · intro hp
    simp only [jobStep, Studio.run_bind, hput, hp]
    rfl
  · intro w h hp
    simp only [jobStep, Studio.run_bind, hput, hp]
    rfl

/-- From a serving store, the step that puts a re-encoded thumbnail puts it under its key and
goes on to complete the generation. -/
theorem jobStep_putThumb_run {s : Studio} (hs : s.Serving) (p : Processed) (keys : UploadedKeys)
    (w h : Nat) :
    ∃ s' : Studio, (jobStep job (.putThumb image p keys w h (.ok ()))).run s =
        (.complete image p keys.image keys.thumbnail (some keys), s') ∧
      s'.bucket.objects = s.bucket.objects.filter (·.key != keys.thumbnail) ++
        [{ key := keys.thumbnail, blob := .rendered w h, contentType := thumbnailMediaType }] := by
  obtain ⟨s₁, ⟨-, hbucket, -⟩, hput⟩ := putObject_run hs keys.thumbnail (.rendered w h)
    thumbnailMediaType
  refine ⟨((putObject keys.thumbnail (.rendered w h) thumbnailMediaType).run s).2, ?_, ?_⟩
  · simp only [jobStep, Studio.run_bind, hput]
    rfl
  · rw [hput]
    dsimp only
    rw [hbucket]

/-- From a serving store, an upload ends ready to complete the generation under its keys, and
the store then holds one new object under each of the upload's distinct keys, in order, and
what it held under other keys. -/
theorem uploadRun_objects {s : Studio} (hs : s.Serving) (p : Processed) :
    (uploadRun job image p s).1 = .complete image p ((uploadKeys p).run s).1.image
        ((uploadKeys p).run s).1.thumbnail (some ((uploadKeys p).run s).1) ∧
      ∃ written : List StoredObject, (uploadRun job image p s).2.bucket.objects =
          s.bucket.objects.filter (fun o => o.key ∉ ((uploadKeys p).run s).1.keys) ++ written ∧
        written.map (·.key) = ((uploadKeys p).run s).1.keys := by
  obtain ⟨s₁, hs₁, hobjects₁, hsame, hencoded⟩ := jobStep_upload_run job image hs p
  cases hp : p.thumbnail with
  | same =>
    -- one put, under the one key
    have hone := UploadedKeys.keys_of_eq (uploadKeys_same hp s)
    unfold uploadRun
    rw [if_pos hp, hsame hp, hone]
    refine ⟨rfl, [⟨((uploadKeys p).run s).1.image, .bytes p.raw.bytes, p.raw.mime⟩], ?_, rfl⟩
    rw [hobjects₁]
    congr 1
    exact List.filter_congr fun o _ => by simp [bne, beq_eq_decide]
  | encoded w h =>
    -- two puts, under two distinct keys
    have hne := uploadKeys_image_ne_thumbnail hp s
    have htwo := UploadedKeys.keys_of_ne hne
    obtain ⟨s₂, hrun₂, hobjects₂⟩ := jobStep_putThumb_run job image hs₁ p
      ((uploadKeys p).run s).1 w h
    unfold uploadRun
    rw [if_neg (show ¬p.thumbnail = .same by simp [hp]), hencoded w h hp]
    dsimp only
    rw [hrun₂, htwo]
    refine ⟨rfl, [⟨((uploadKeys p).run s).1.image, .bytes p.raw.bytes, p.raw.mime⟩,
      ⟨((uploadKeys p).run s).1.thumbnail, .rendered w h, thumbnailMediaType⟩], ?_, rfl⟩
    -- the thumbnail's put keeps the raw image, whose key differs
    have hkept : (((uploadKeys p).run s).1.image != ((uploadKeys p).run s).1.thumbnail) = true :=
      bne_iff_ne.2 hne
    rw [hobjects₂, hobjects₁, List.filter_append, List.filter_filter]
    simp only [List.filter_singleton, hkept, cond_true, List.append_assoc, List.singleton_append]
    congr 1
    exact List.filter_congr fun o _ => by simp [bne, beq_eq_decide, Bool.and_comm]

/-- The distinct keys of an upload: one, naming both, for a raw image that is its own
thumbnail; otherwise two of one stem. -/
theorem uploadKeys_keys (p : Processed) (s : Studio) :
    (p.thumbnail = .same → ((uploadKeys p).run s).1.thumbnail = ((uploadKeys p).run s).1.image ∧
        ((uploadKeys p).run s).1.keys = [((uploadKeys p).run s).1.image]) ∧
      (p.thumbnail ≠ .same → ∃ stem, ((uploadKeys p).run s).1.keys =
        [stem ++ "_raw." ++ p.raw.extension, stem ++ "_thumb." ++ thumbnailExtension]) := by
  refine ⟨fun hp => ?_, fun hp => ?_⟩
  · have hsame := uploadKeys_same hp s
    exact ⟨hsame, UploadedKeys.keys_of_eq hsame⟩
  · obtain ⟨w, h, hencoded⟩ : ∃ w h, p.thumbnail = .encoded w h := by
      cases hthumb : p.thumbnail with
      | same => exact absurd hthumb hp
      | encoded w h => exact ⟨w, h, rfl⟩
    have hne := uploadKeys_image_ne_thumbnail hencoded s
    obtain ⟨stem, hkeys⟩ := uploadKeys_encoded hencoded s
    refine ⟨stem, ?_⟩
    rw [hkeys] at hne ⊢
    exact UploadedKeys.keys_of_ne hne

end Studio

/-! ## The stored pair -/

/-- The stored pair of an image whose format and dimensions `w × h` are known, both sides
positive 32-bit numbers, that decodes when it must: the raw artifact is the source's bytes
with their size and hash; the thumbnail is the raw artifact itself exactly for a WebP image
of at most 512 on each side, and otherwise a re-encoding whose larger side is 512 and whose
other side is `thumbnailOtherSide w h`. Uploading the pair to a serving store writes one
object, under a key that names both, for a raw image that is its own thumbnail, and otherwise
two objects under two keys of one stem. -/
theorem processBytes_stores_pair {source : SourceImage} {format : ImageFormat} {w h : Nat}
    (hformat : ImageFormat.guess source.bytes = some format)
    (hdims : imageDimensions format source.bytes = .ok (w, h))
    (hw : 0 < w) (hh : 0 < h) (hw32 : w < 2 ^ 32) (hh32 : h < 2 ^ 32)
    (hdecode : ¬(format = .webP ∧ w ≤ 512 ∧ h ≤ 512) → decodeImage format source.bytes = .ok ()) :
    ∃ p : Processed, processBytes source = .ok p ∧
      p.raw = { bytes := source.bytes, width := w, height := h, extension := source.extension,
                mime := source.mime } ∧
      p.raw.size = source.bytes.size ∧ p.raw.hash = Sha256.hex source.bytes ∧
      p.thumbnail = (if format = .webP ∧ w ≤ 512 ∧ h ≤ 512 then .same
        else if h ≤ w then .encoded 512 (thumbnailOtherSide w h)
        else .encoded (thumbnailOtherSide w h) 512) ∧
      ∀ (job : Job) (image : ProviderImage) (s : Studio), s.Serving →
        (Studio.uploadRun job image p s).1 = .complete image p
          ((Studio.uploadKeys p).run s).1.image ((Studio.uploadKeys p).run s).1.thumbnail
          (some ((Studio.uploadKeys p).run s).1) ∧
        (∃ written : List StoredObject, (Studio.uploadRun job image p s).2.bucket.objects =
            s.bucket.objects.filter (fun o => o.key ∉ ((Studio.uploadKeys p).run s).1.keys) ++
              written ∧
          written.map (·.key) = ((Studio.uploadKeys p).run s).1.keys) ∧
        (format = .webP ∧ w ≤ 512 ∧ h ≤ 512 →
          ((Studio.uploadKeys p).run s).1.thumbnail = ((Studio.uploadKeys p).run s).1.image ∧
            ((Studio.uploadKeys p).run s).1.keys = [((Studio.uploadKeys p).run s).1.image]) ∧
        (¬(format = .webP ∧ w ≤ 512 ∧ h ≤ 512) → ∃ stem, ((Studio.uploadKeys p).run s).1.keys =
          [stem ++ "_raw." ++ source.extension, stem ++ "_thumb." ++ thumbnailExtension]) := by
  refine ⟨_, processBytes_eq hformat hdims hw hh hdecode, rfl, rfl, rfl, ?_, ?_⟩
  · dsimp only
    split_ifs with hreuse hwide
    · rfl
    · rw [thumbnailDimensions_eq hw hh hw32 hh32, if_pos hwide]
    · rw [thumbnailDimensions_eq hw hh hw32 hh32, if_neg hwide]
  · intro job image s hs
    obtain ⟨hrun, hobjects⟩ := Studio.uploadRun_objects job image hs _
    obtain ⟨hone, htwo⟩ := Studio.uploadKeys_keys _ s
    exact ⟨hrun, hobjects, fun hreuse => hone (if_pos hreuse),
      fun hreuse => htwo (by rw [if_neg hreuse]; exact Thumbnail.noConfusion)⟩

/-- A lossless WebP file of `3 × 2` pixels, its header only. -/
def tinyWebP : SourceImage :=
  { bytes := ⟨#[82, 73, 70, 70, 17, 0, 0, 0, 87, 69, 66, 80, 86, 80, 56, 76, 5, 0, 0, 0, 47, 2, 64,
      0, 0]⟩,
    mime := "image/webp", extension := "webp" }

/-- A PNG file of `2 × 2` pixels that decodes in full. -/
def smallPng : SourceImage :=
  { bytes := ⟨#[137, 80, 78, 71, 13, 10, 26, 10, 0, 0, 0, 13, 73, 72, 68, 82, 0, 0, 0, 2, 0, 0, 0,
      2, 8, 2, 0, 0, 0, 253, 212, 154, 115, 0, 0, 0, 22, 73, 68, 65, 84, 120, 218, 99, 16, 151,
      146, 85, 80, 86, 99, 144, 83, 84, 81, 215, 210, 5, 0, 10, 58, 1, 153, 17, 126, 42, 91, 0,
      0, 0, 0, 73, 69, 78, 68, 174, 66, 96, 130]⟩,
    mime := "image/png", extension := "png" }

/-- Both paths: the small WebP file is its own thumbnail, and the PNG file, decoded in full,
gets a thumbnail re-encoded at `512 × 512`, stored under two keys of one stem. -/
theorem processBytes_stores_pair_samples :
    (ImageFormat.guess tinyWebP.bytes = some .webP ∧
      imageDimensions .webP tinyWebP.bytes = .ok (3, 2) ∧
      ∃ p : Processed, processBytes tinyWebP = .ok p ∧ p.thumbnail = .same ∧ p.raw.size = 25) ∧
    (ImageFormat.guess smallPng.bytes = some .png ∧
      imageDimensions .png smallPng.bytes = .ok (2, 2) ∧
      decodeImage .png smallPng.bytes = .ok () ∧
      ∃ p : Processed, processBytes smallPng = .ok p ∧ p.thumbnail = .encoded 512 512 ∧
        ∀ s : Studio, s.Serving → ∃ stem, ((Studio.uploadKeys p).run s).1.keys =
            [stem ++ "_raw." ++ smallPng.extension, stem ++ "_thumb." ++ thumbnailExtension]) := by
  constructor
  · -- the reused thumbnail
    have hguess : ImageFormat.guess tinyWebP.bytes = some .webP := by decide +kernel
    have hdims : imageDimensions .webP tinyWebP.bytes = .ok (3, 2) := by decide +kernel
    have hsmall : ImageFormat.webP = .webP ∧ 3 ≤ 512 ∧ 2 ≤ 512 := ⟨rfl, by norm_num, by norm_num⟩
    obtain ⟨p, hp, -, hsize, -, hthumb, -⟩ := processBytes_stores_pair hguess hdims (by norm_num)
      (by norm_num) (by norm_num) (by norm_num) fun hbig => absurd hsmall hbig
    exact ⟨hguess, hdims, p, hp, by rw [hthumb, if_pos hsmall], by rw [hsize]; rfl⟩
  · -- the re-encoded thumbnail
    have hguess : ImageFormat.guess smallPng.bytes = some .png := by decide +kernel
    have hdims : imageDimensions .png smallPng.bytes = .ok (2, 2) := by decide +kernel
    -- the whole image decodes, which the resize needs
    have hdecode : decodeImage .png smallPng.bytes = .ok () := by decide +kernel
    have hbig : ¬(ImageFormat.png = .webP ∧ 2 ≤ 512 ∧ 2 ≤ 512) := fun h => nomatch h.1
    obtain ⟨p, hp, -, -, -, hthumb, hstore⟩ := processBytes_stores_pair hguess hdims
      (by norm_num) (by norm_num) (by norm_num) (by norm_num) fun _ => hdecode
    refine ⟨hguess, hdims, hdecode, p, hp, ?_, fun s hs =>
      (hstore default default s hs).2.2.2 hbig⟩
    -- the larger side is 512, and so is the other: `thumbnailOtherSide 2 2 = 512`
    rw [hthumb, if_neg hbig, if_pos (Nat.le_refl 2)]
    rfl

end ImageStudio
