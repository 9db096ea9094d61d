import ImageStudio.Proofs.Bytes.Base64
import ImageStudio.Image.Source
import Mathlib.Tactic.SplitIfs

/-!
# Data URLs: what the encoder writes, the parser gives back

A source written as a data URL with a canonical media type (one that `typeOfMediaType` maps
to itself) is read back as the same bytes and type, with the format's preferred extension;
and a data URL with a canonical type and a payload without surrounding blanks is written
again, character for character, by the source it decodes to (`decodeDataUrl_toDataUrl`).

The parser is described once for all well-formed URLs: `decodeDataUrl_of_type` gives its
result on `"data:" ++ declared ++ ";base64," ++ payload` when `declared` has no comma, and
`decodeDataUrl_eq_ok` shows that every accepted text has that form. The rest is the Base64
round trip of `Proofs.Bytes.Base64`, and two facts about the texts involved: an encoding has
no blank to trim (`Base64.trimChars_encode`), and a canonical media type has no comma
(`comma_not_mem_of_canonical`).
-/

namespace ImageStudio

/-! ### Splitting at the first comma -/

/-- Splitting at the first `c` finds it after a prefix without `c`. -/
theorem splitAtFirst_append (c : Char) (b : List Char) :
    ∀ a : List Char, c ∉ a → splitAtFirst c (a ++ c :: b) = some (a, b)
  | [], _ => by simp [splitAtFirst]
  | x :: a, h => by
    have hx : x ≠ c := fun e => h (e ▸ List.mem_cons_self)
    rw [List.cons_append, splitAtFirst, if_neg hx,
      splitAtFirst_append c b a (fun h' => h (List.mem_cons_of_mem x h'))]
    rfl

/-- What splitting at the first `c` found: a prefix without `c`, then the rest. -/
theorem eq_of_splitAtFirst {c : Char} : ∀ {cs a b : List Char}, splitAtFirst c cs = some (a, b) →
    cs = a ++ c :: b ∧ c ∉ a
  | [], _, _, h => by simp [splitAtFirst] at h
  | x :: cs, a, b, h => by
    rw [splitAtFirst] at h
    by_cases hx : x = c
    · rw [if_pos hx] at h
      cases h
      exact ⟨by rw [hx]; rfl, List.not_mem_nil⟩
    · rw [if_neg hx] at h
      obtain ⟨⟨a', b'⟩, h', e⟩ := Option.map_eq_some_iff.1 h
      cases e
      obtain ⟨rfl, hc⟩ := eq_of_splitAtFirst h'
      exact ⟨rfl, by simp [Ne.symm hx, hc]⟩

/-! ### Trimming -/

namespace Text

theorem dropBlanks_of_forall {cs : List Char} (h : ∀ c ∈ cs, isBlank c = false) :
    dropBlanks cs = cs := by
  cases cs with
  | nil => rfl
  | cons c cs => exact List.dropWhile_cons_of_neg (by simp [h c List.mem_cons_self])

/-- A text with no blank character is its own trimming. -/
theorem trimChars_of_forall {cs : List Char} (h : ∀ c ∈ cs, isBlank c = false) :
    trimChars cs = cs := by
  rw [trimChars, dropBlanks_of_forall h, dropBlanks_of_forall (by simpa using h),
    List.reverse_reverse]

end Text

namespace Base64

/-- No symbol of the alphabet is blank. -/
theorem isBlank_symbol (v : Nat) : Text.isBlank (symbol v) = false := by
  by_cases h : v < 64
  · revert v
    decide
  · -- past the alphabet, every value falls through to the last symbol
    have : symbol v = '/' := by
      simp only [symbol]
      split_ifs <;> first | rfl | omega
    rw [this]
    decide

theorem isBlank_encodeGroup (g : List UInt8) : ∀ c ∈ encodeGroup g, Text.isBlank c = false := by
  intro c hc
  unfold encodeGroup at hc
  -- every character written is a symbol or the padding
  have hpad : Text.isBlank '=' = false := by decide
  split at hc <;> simp only [List.mem_cons, List.not_mem_nil, or_false] at hc
  · rcases hc with rfl | rfl | rfl | rfl <;> exact isBlank_symbol _
  · rcases hc with rfl | rfl | rfl | rfl <;> first | exact isBlank_symbol _ | exact hpad
  · rcases hc with rfl | rfl | rfl | rfl <;> first | exact isBlank_symbol _ | exact hpad

theorem isBlank_encodeChars : ∀ (l : List UInt8), ∀ c ∈ encodeChars l, Text.isBlank c = false
  | a :: b :: c :: rest => by
    rw [encodeChars]
    intro x hx
    rcases List.mem_append.1 hx with hx | hx
    · exact isBlank_encodeGroup _ x hx
    · exact isBlank_encodeChars rest x hx
  | [] => isBlank_encodeGroup []
  | [a] => isBlank_encodeGroup [a]
  | [a, b] => isBlank_encodeGroup [a, b]

/-- An encoding has no blank to trim. -/
theorem trimChars_encode (bytes : ByteArray) :
    Text.trimChars (encode bytes).toList = (encode bytes).toList := by
  rw [Text.trimChars_of_forall]
  rw [toList_encode]
  exact isBlank_encodeChars _

end Base64

/-! ### Canonical media types -/

/-- No media type of a format has a comma. -/
theorem ImageFormat.comma_not_mem_mediaType (f : ImageFormat) : ',' ∉ f.mediaType.toList := by
  cases f <;> decide

/-- A declared media type is typed through the format it names. -/
theorem typeOfMediaType_eq_some {declared extension mime : String}
    (h : typeOfMediaType declared = some (extension, mime)) :
    ∃ f, ImageFormat.ofMediaType declared = some f ∧ f.extensions.head? = some extension ∧
      f.mediaType = mime := by
  simp only [typeOfMediaType, Option.bind_eq_bind, Option.bind_eq_some_iff, Option.pure_def,
    Option.some.injEq, Prod.mk.injEq] at h
  obtain ⟨f, hf, e, he, rfl, rfl⟩ := h
  exact ⟨f, hf, he, rfl⟩

/-- A media type that is its own canonical form has no comma. -/
theorem comma_not_mem_of_canonical {mime extension : String}
    (h : typeOfMediaType mime = some (extension, mime)) : ',' ∉ mime.toList := by
  obtain ⟨f, -, -, hf⟩ := typeOfMediaType_eq_some h
  rw [← hf]
  exact f.comma_not_mem_mediaType

/-! ### Parsing a data URL -/

/-- The characters of a data URL: the scheme, the header ending in `;base64`, a comma and the
payload. -/
theorem toList_dataUrl (declared payload : String) :
    ("data:" ++ declared ++ ";base64," ++ payload).toList =
      "data:".toList ++ ((declared.toList ++ ";base64".toList) ++ ',' :: payload.toList) := by
  simp only [String.toList_append]
  have : ";base64,".toList = ";base64".toList ++ [','] := by decide
  rw [this]
  simp

theorem eq_dataUrl {url declared payload : String}
    (h : url.toList = "data:".toList ++ ((declared.toList ++ ";base64".toList) ++ ',' :: payload.toList)) :
    url = "data:" ++ declared ++ ";base64," ++ payload := by
  rw [← String.toList_inj, h, toList_dataUrl]

/-- A data URL whose declared type has no comma and names a format decodes as its trimmed
payload does, with the type that format gives. -/
theorem decodeDataUrl_of_type (declared payload : String) {extension mime : String}
    (hc : ',' ∉ declared.toList) (ht : typeOfMediaType declared = some (extension, mime)) :
    decodeDataUrl ("data:" ++ declared ++ ";base64," ++ payload) =
      ((Base64.decode (String.ofList (Text.trimChars payload.toList))).mapError
        fun e => .invalidDataUrl e.message).map fun bytes => { bytes, mime, extension } := by
  have h5 : "data:".toList.length = 5 := by decide
  have h7 : ";base64".toList.length = 7 := by decide
  -- the first comma is the one after the header, since the declared type has none
  have hsplit : splitAtFirst ',' ((declared.toList ++ ";base64".toList) ++ ',' :: payload.toList) =
      some (declared.toList ++ ";base64".toList, payload.toList) :=
    splitAtFirst_append ',' _ _ (by simp [hc])
  unfold decodeDataUrl
  dsimp only
  rw [toList_dataUrl, List.take_left' h5, List.drop_left' h5, hsplit]
  dsimp only
  rw [List.length_append, h7, Nat.add_sub_cancel, List.drop_left, List.take_left, String.ofList_toList,
    ht, if_pos rfl, if_pos ⟨by omega, rfl⟩]
  cases Base64.decode (String.ofList (Text.trimChars payload.toList)) <;> rfl

/-- An accepted text is a data URL: a declared type without a comma that names a format, and a
payload whose trimming decodes; the source has the bytes of the payload and the type of the
format. -/
theorem decodeDataUrl_eq_ok {url : String} {s : SourceImage} (h : decodeDataUrl url = .ok s) :
    ∃ declared payload, url = "data:" ++ declared ++ ";base64," ++ payload ∧ ',' ∉ declared.toList ∧
      typeOfMediaType declared = some (s.extension, s.mime) ∧
      Base64.decode (String.ofList (Text.trimChars payload.toList)) = .ok s.bytes := by
  unfold decodeDataUrl at h
  dsimp only at h
  by_cases h5 : url.toList.take 5 = "data:".toList
  · rw [if_pos h5] at h
    cases hs : splitAtFirst ',' (url.toList.drop 5) with
    | none =>
      rw [hs] at h
      cases h
    | some hp =>
      obtain ⟨header, payload⟩ := hp
      rw [hs] at h
      dsimp only at h
      have h7 : ";base64".toList.length = 7 := by decide
      rw [h7] at h
      by_cases hsuf : header.length ≥ 7 ∧ header.drop (header.length - 7) = ";base64".toList
      · rw [if_pos hsuf] at h
        cases ht : typeOfMediaType (String.ofList (header.take (header.length - 7))) with
        | none =>
          rw [ht] at h
          cases h
        | some em =>
          obtain ⟨e, m⟩ := em
          rw [ht] at h
          dsimp only at h
          cases hd : Base64.decode (String.ofList (Text.trimChars payload)) with
          | error err =>
            rw [hd] at h
            cases h
          | ok bytes =>
            rw [hd] at h
            cases h
            obtain ⟨hsplit, hc⟩ := eq_of_splitAtFirst hs
            refine ⟨String.ofList (header.take (header.length - 7)), String.ofList payload,
              eq_dataUrl ?_, ?_, ht, ?_⟩
            · have e1 : (String.ofList (header.take (header.length - 7))).toList =
                  header.take (header.length - 7) := String.toList_ofList
              have e2 : (String.ofList payload).toList = payload := String.toList_ofList
              rw [e1, e2, ← hsuf.2, List.take_append_drop, ← hsplit, ← h5, List.take_append_drop]
            · rw [String.toList_ofList]
              exact fun hm => hc (List.mem_of_mem_take hm)
            · rw [String.toList_ofList]
              exact hd
      · rw [if_neg hsuf] at h
        cases h
  · rw [if_neg h5] at h
    cases h

/-! ### The round trip -/

/-- A source with a canonical media type is read back from its data URL, with the preferred
extension of its format; and a data URL with a canonical media type and a payload without
surrounding blanks is written again by the source it decodes to. -/
theorem decodeDataUrl_toDataUrl :
    (∀ (bytes : ByteArray) (mime extension e : String), typeOfMediaType mime = some (e, mime) →
      decodeDataUrl ({ bytes, mime, extension } : SourceImage).toDataUrl =
        .ok { bytes, mime, extension := e }) ∧
    (∀ (mime e payload : String) (s : SourceImage), typeOfMediaType mime = some (e, mime) →
      Text.trimChars payload.toList = payload.toList →
      decodeDataUrl ("data:" ++ mime ++ ";base64," ++ payload) = .ok s →
      s.toDataUrl = "data:" ++ mime ++ ";base64," ++ payload) := by
  refine ⟨fun bytes mime extension e hm => ?_, fun mime e payload s hm htrim h => ?_⟩
  · rw [SourceImage.toDataUrl, decodeDataUrl_of_type _ _ (comma_not_mem_of_canonical hm) hm,
      Base64.trimChars_encode, String.ofList_toList, Base64.decode_encode]
    rfl
  · rw [decodeDataUrl_of_type _ _ (comma_not_mem_of_canonical hm) hm, htrim,
      String.ofList_toList] at h
    cases hd : Base64.decode payload with
    | error err =>
      rw [hd] at h
      cases h
    | ok bytes =>
      rw [hd] at h
      cases h
      -- the payload is the only encoding of the bytes it decodes to
      rw [SourceImage.toDataUrl, Base64.encode_of_decode hd]

/-- The first bytes of a PNG file, sent as a data URL with an upper-case extension, come back
with the extension `png`, and that source writes the same URL again. -/
theorem decodeDataUrl_toDataUrl_png :
    decodeDataUrl ({ bytes := ⟨#[137, 80, 78, 71]⟩, mime := "image/png", extension := "PNG" } :
        SourceImage).toDataUrl =
      .ok { bytes := ⟨#[137, 80, 78, 71]⟩, mime := "image/png", extension := "png" } ∧
    ({ bytes := ⟨#[137, 80, 78, 71]⟩, mime := "image/png", extension := "png" } :
        SourceImage).toDataUrl =
      "data:" ++ "image/png" ++ ";base64," ++ Base64.encode ⟨#[137, 80, 78, 71]⟩ :=
  have h := decodeDataUrl_toDataUrl.1 ⟨#[137, 80, 78, 71]⟩ "image/png" "PNG" "png" rfl
  ⟨h, decodeDataUrl_toDataUrl.2 "image/png" "png" (Base64.encode ⟨#[137, 80, 78, 71]⟩) _ rfl
    (Base64.trimChars_encode _) h⟩

end ImageStudio
