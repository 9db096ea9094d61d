import ImageStudio.Bytes.Base64
import Mathlib.Tactic.SplitIfs

/-!
# Base64 decoding inverts encoding, and accepts only encodings

For every byte array, `decode (encode b) = .ok b` (`decode_encode`); and a text that decodes
is the encoding of what it decodes to (`encode_of_decode`), so the decoder accepts exactly
the canonical padded encodings.

Both go through lists. `encode` writes the symbol list `encodeChars` of its bytes
(`toList_encode`), and a text is decoded through its UTF-8 bytes, where each symbol and the
padding take one byte (`encodeBytes`). Decoding reads the groups before the last one, whose
loop is the recursion `readBody` (`decodeBody_eq`), and then the last group (`readTail`).
Each part is read back in both directions: three bytes from their four symbols
(`readBody_group`, `readBody_group_inv`), and a last group of one to three bytes from its
symbols and padding (`decodeTail_encode`, `decodeTail_inv`). The arithmetic of a group is
left to `omega` once the group is written as the number its bytes make up.
-/

namespace ImageStudio.Base64

/-! ### The alphabet -/

/-- The byte of the symbol of a six-bit value. -/
def symbolByte (v : Nat) : UInt8 := (symbol v).toNat.toUInt8

/-- Every symbol byte reads back as its value. -/
theorem value_symbolByte : ∀ v < 64, value (symbolByte v) = some v := by decide

set_option maxRecDepth 4000 in
/-- Checked over all bytes: a byte that has a value is the symbol byte of that value. -/
theorem value_table : ∀ n < 256,
    (value n.toUInt8).all (fun v => symbolByte v == n.toUInt8 && decide (v < 64)) = true := by
  decide

/-- A byte with a value is the symbol byte of that value, and the value has six bits. -/
theorem symbolByte_of_value {b : UInt8} {v : Nat} (h : value b = some v) :
    symbolByte v = b ∧ v < 64 := by
  have := value_table b.toNat b.toNat_lt
  rw [Nat.toUInt8, UInt8.ofNat_toNat, h] at this
  simpa using this

theorem symbolByte_ne_pad : ∀ v < 64, symbolByte v ≠ pad := by decide

theorem utf8EncodeChar_symbol : ∀ v < 64, String.utf8EncodeChar (symbol v) = [symbolByte v] := by decide

theorem utf8EncodeChar_pad : String.utf8EncodeChar '=' = [pad] := rfl

theorem toUInt8_eq {x : Nat} {a : UInt8} (h : x % 256 = a.toNat) : x.toUInt8 = a :=
  UInt8.toNat_inj.1 (by simpa using h)

/-! ### Byte arrays as lists -/

theorem byteArray_toList_loop (bs : ByteArray) (i : Nat) (r : List UInt8) :
    ByteArray.toList.loop bs i r = r.reverse ++ bs.data.toList.drop i := by
  induction i, r using ByteArray.toList.loop.induct bs with
  | case1 i r hi ih =>
    rw [ByteArray.toList.loop.eq_1, if_pos hi, ih, List.reverse_cons, List.append_assoc,
      List.singleton_append]
    conv => rhs; rw [List.drop_eq_getElem_cons (by simpa using hi)]
    simp [ByteArray.get!, getElem!_pos bs.data i hi]
  | case2 i r hi =>
    rw [ByteArray.toList.loop.eq_1, if_neg hi, List.drop_of_length_le (by simp; omega),
      List.append_nil]

/-- The counting loop of `ByteArray.toList` lists the underlying array. -/
theorem byteArray_toList_eq (bs : ByteArray) : bs.toList = bs.data.toList := by
  rw [ByteArray.toList, byteArray_toList_loop]
  rfl

theorem getElem?_byteArray (bytes : ByteArray) (i : Nat) : bytes[i]? = bytes.data.toList[i]? := by
  simp [getElem?_def, ByteArray.getElem_eq_getElem_data]

theorem data_foldl_push (l : List UInt8) (out : ByteArray) :
    (l.foldl ByteArray.push out).data.toList = out.data.toList ++ l := by
  induction l generalizing out with
  | nil => simp
  | cons b l ih => rw [List.foldl_cons, ih, ByteArray.data_push, Array.toList_push, List.append_assoc,
      List.singleton_append]

theorem data_emptyWithCapacity (c : Nat) : (ByteArray.emptyWithCapacity c).data.toList = [] := rfl

/-- The last group is what follows the groups before it. -/
theorem tail_toList (input : ByteArray) (start : Nat) :
    (input.extract start input.size).toList = input.data.toList.drop start := by
  rw [byteArray_toList_eq, ByteArray.data_extract, Array.toList_extract, List.extract_eq_take_drop,
    List.take_of_length_le (by simp)]

/-- The UTF-8 bytes of a text, character by character. -/
theorem toUTF8_toList (s : String) : s.toUTF8.data.toList = s.toList.flatMap String.utf8EncodeChar := by
  rw [String.toUTF8_eq_toByteArray]
  conv => lhs; rw [← String.ofList_toList (s := s)]
  rw [String.toByteArray_ofList]
  simp [List.utf8Encode]

/-! ### Encoding as a list of groups -/

/-- The symbols of a byte list, group by group: the list form of `encode`. -/
def encodeChars : List UInt8 → List Char
  | a :: b :: c :: rest => encodeGroup [a, b, c] ++ encodeChars rest
  | rest => encodeGroup rest

theorem group_eq (bytes : ByteArray) (i : Nat) :
    (List.range 3).filterMap (fun k => bytes[i + k]?) = (bytes.data.toList.drop i).take 3 := by
  simp only [getElem?_byteArray, ← List.getElem?_drop]
  rcases bytes.data.toList.drop i with _ | ⟨a, _ | ⟨b, _ | ⟨c, rest⟩⟩⟩ <;> rfl

theorem toList_foldl_push (cs : List Char) (out : String) :
    (cs.foldl String.push out).toList = out.toList ++ cs := by
  induction cs generalizing out with
  | nil => simp
  | cons c cs ih => rw [List.foldl_cons, ih, String.toList_push, List.append_assoc, List.singleton_append]

theorem foldl_encodeGroup (L : List UInt8) : ∀ (l : List UInt8) (s i : Nat) (out : String),
    L.drop i = l →
      ((List.range' s ((l.length + 2) / 3)).foldl
        (fun b _ => (List.foldl String.push b.1 (encodeGroup ((L.drop b.2).take 3)), b.2 + 3))
        (out, i)).1.toList = out.toList ++ encodeChars l
  | a :: b :: c :: rest, s, i, out, h => by
    have hlen : ((a :: b :: c :: rest).length + 2) / 3 = (rest.length + 2) / 3 + 1 := by
      simp only [List.length_cons]
      omega
    have hrest : L.drop (i + 3) = rest := by
      rw [← List.drop_drop, h]
      rfl
    rw [hlen, List.range'_succ, List.foldl_cons, h, foldl_encodeGroup L rest (s + 1) (i + 3) _ hrest,
      toList_foldl_push]
    simp [encodeChars]
  | [], s, i, out, _ => by simp [encodeChars, encodeGroup]
  | [a], s, i, out, h => by
    simp [h, toList_foldl_push, encodeChars]
  | [a, b], s, i, out, h => by
    simp [h, toList_foldl_push, encodeChars]

/-- The symbols `encode` writes, as a list. -/
theorem toList_encode (bytes : ByteArray) : (encode bytes).toList = encodeChars bytes.data.toList := by
  simp only [encode, Std.Legacy.Range.forIn_eq_forIn_range', List.forIn_pure_yield_eq_foldl, group_eq]
  show (List.foldl _ ("", 0) _).1.toList = _
  rw [show [:(bytes.size + 2) / 3].size = (bytes.data.toList.length + 2) / 3 by simp [Std.Legacy.Range.size]]
  exact foldl_encodeGroup _ _ 0 0 "" rfl

/-- The bytes of the encoding of a byte list. -/
def encodeBytes (l : List UInt8) : List UInt8 := (encodeChars l).flatMap String.utf8EncodeChar

/-- The UTF-8 bytes of an encoding are the encoded bytes as a list. -/
theorem encode_toUTF8 (bytes : ByteArray) :
    (encode bytes).toUTF8.data.toList = encodeBytes bytes.data.toList := by
  rw [toUTF8_toList, toList_encode]
  rfl

/-- Encoding splits at a group boundary. -/
theorem encodeChars_append : ∀ (l₁ l₂ : List UInt8), l₁.length % 3 = 0 →
    encodeChars (l₁ ++ l₂) = encodeChars l₁ ++ encodeChars l₂
  | [], _, _ => rfl
  | a :: b :: c :: rest, l₂, h => by
    rw [List.cons_append, List.cons_append, List.cons_append, encodeChars, encodeChars,
      encodeChars_append rest l₂ (by simp at h; omega), List.append_assoc]
  | [_], _, h => by simp at h
  | [_, _], _, h => by simp at h

theorem encodeBytes_append {l₁ : List UInt8} (l₂ : List UInt8) (h : l₁.length % 3 = 0) :
    encodeBytes (l₁ ++ l₂) = encodeBytes l₁ ++ encodeBytes l₂ := by
  rw [encodeBytes, encodeChars_append l₁ l₂ h, List.flatMap_append]
  rfl

/-- The bytes of the symbols of three bytes, through the number they make up. -/
theorem bytes_encodeGroup_three (a b c : UInt8) {n : Nat}
    (hn : a.toNat * 65536 + b.toNat * 256 + c.toNat = n) :
    (encodeGroup [a, b, c]).flatMap String.utf8EncodeChar =
      [symbolByte (n / 262144), symbolByte (n / 4096 % 64), symbolByte (n / 64 % 64),
        symbolByte (n % 64)] := by
  have ha := a.toNat_lt
  have hb := b.toNat_lt
  have hc := c.toNat_lt
  simp only [encodeGroup, hn, List.flatMap_cons, List.flatMap_nil, List.append_nil]
  rw [utf8EncodeChar_symbol _ (by omega), utf8EncodeChar_symbol _ (by omega),
    utf8EncodeChar_symbol _ (by omega), utf8EncodeChar_symbol _ (by omega)]
  rfl

theorem bytes_encodeGroup_two (a b : UInt8) {n : Nat} (hn : a.toNat * 65536 + b.toNat * 256 = n) :
    (encodeGroup [a, b]).flatMap String.utf8EncodeChar =
      [symbolByte (n / 262144), symbolByte (n / 4096 % 64), symbolByte (n / 64 % 64), pad] := by
  have ha := a.toNat_lt
  have hb := b.toNat_lt
  simp only [encodeGroup, hn, List.flatMap_cons, List.flatMap_nil, List.append_nil]
  rw [utf8EncodeChar_symbol _ (by omega), utf8EncodeChar_symbol _ (by omega),
    utf8EncodeChar_symbol _ (by omega), utf8EncodeChar_pad]
  rfl

theorem bytes_encodeGroup_one (a : UInt8) {n : Nat} (hn : a.toNat * 65536 = n) :
    (encodeGroup [a]).flatMap String.utf8EncodeChar =
      [symbolByte (n / 262144), symbolByte (n / 4096 % 64), pad, pad] := by
  have ha := a.toNat_lt
  simp only [encodeGroup, hn, List.flatMap_cons, List.flatMap_nil, List.append_nil]
  rw [utf8EncodeChar_symbol _ (by omega), utf8EncodeChar_symbol _ (by omega), utf8EncodeChar_pad]
  rfl

theorem encodeBytes_short {l : List UInt8} (h : l.length < 3) :
    encodeBytes l = (encodeGroup l).flatMap String.utf8EncodeChar := by
  rcases l with _ | ⟨a, _ | ⟨b, _ | ⟨c, rest⟩⟩⟩ <;> first | rfl | (simp at h; omega)

/-! ### The groups before the last -/

/-- Three bytes from the value of a group of four symbols. -/
def push3 (out : ByteArray) (acc : Nat) : ByteArray :=
  ((out.push (acc / 65536).toUInt8).push (acc / 256 % 256).toUInt8).push (acc % 256).toUInt8

/-- One step of the loop of `decodeBody`. -/
def bodyStep (input : ByteArray) (i : Nat) (s : Option (Except DecodeError ByteArray) × ByteArray × Nat) :
    Id (ForInStep (Option (Except DecodeError ByteArray) × ByteArray × Nat)) :=
  match value input[i]! with
  | none => pure (.done (some (.error (.invalidByte i input[i]!)), s.2.1, s.2.2))
  | some v =>
    if i % 4 = 3 then pure (.yield (none, push3 s.2.1 (s.2.2 * 64 + v), 0))
    else pure (.yield (none, s.2.1, s.2.2 * 64 + v))

/-- The result of the loop of `decodeBody`. -/
def bodyResult (s : Option (Except DecodeError ByteArray) × ByteArray × Nat) : Except DecodeError ByteArray :=
  s.1.getD (.ok s.2.1)

theorem decodeBody_eq_forIn (input : ByteArray) (stop : Nat) :
    decodeBody input stop = bodyResult (Id.run (forIn (List.range' 0 stop) (none, ByteArray.emptyWithCapacity (stop / 4 * 3), 0) (bodyStep input))) := by
  unfold decodeBody
  simp only [Std.Legacy.Range.forIn_eq_forIn_range', Std.Legacy.Range.size, Nat.sub_zero,
    Nat.add_sub_cancel, Nat.div_one]
  rfl

/-- Reading the groups before the last one from position `i`, with `acc` the value of the
symbols of the current group read so far. -/
def readBody (i acc : Nat) : List UInt8 → ByteArray → Except DecodeError ByteArray
  | [], out => .ok out
  | b :: bs, out =>
    match value b with
    | none => .error (.invalidByte i b)
    | some v =>
      if i % 4 = 3 then readBody (i + 1) 0 bs (push3 out (acc * 64 + v))
      else readBody (i + 1) (acc * 64 + v) bs out

theorem bodyResult_forIn (input : ByteArray) : ∀ (k j : Nat) (out : ByteArray) (acc : Nat),
    j + k ≤ input.size →
      bodyResult (Id.run (forIn (List.range' j k) (none, out, acc) (bodyStep input))) =
        readBody j acc ((input.data.toList.drop j).take k) out
  | 0, j, out, acc, _ => by simp [bodyResult, readBody]
  | k + 1, j, out, acc, h => by
    have hj : j < input.data.toList.length := by simp; omega
    rw [List.range'_succ, List.forIn_cons, List.drop_eq_getElem_cons hj, List.take_succ_cons]
    have hget : input[j]! = input.data.toList[j] := by
      rw [getElem!_pos input j (by omega), ByteArray.getElem_eq_getElem_data]
      simp
    simp only [bodyStep, readBody, hget]
    cases value input.data.toList[j] with
    | none => rfl
    | some v =>
      simp only
      split
      · exact bodyResult_forIn input k (j + 1) _ _ (by omega)
      · exact bodyResult_forIn input k (j + 1) _ _ (by omega)

/-- `decodeBody` reads the first `stop` bytes as whole groups. -/
theorem decodeBody_eq (input : ByteArray) {stop : Nat} (h : stop ≤ input.size) :
    decodeBody input stop =
      readBody 0 0 (input.data.toList.take stop) (ByteArray.emptyWithCapacity (stop / 4 * 3)) := by
  rw [decodeBody_eq_forIn, bodyResult_forIn input stop 0 _ _ (by omega), List.drop_zero]

theorem readBody_cons_some {i acc : Nat} {b : UInt8} {v : Nat} (bs : List UInt8) (out : ByteArray)
    (h : value b = some v) :
    readBody i acc (b :: bs) out =
      if i % 4 = 3 then readBody (i + 1) 0 bs (push3 out (acc * 64 + v))
      else readBody (i + 1) (acc * 64 + v) bs out := by
  simp [readBody, h]

theorem value_of_readBody_ok {i acc : Nat} {b : UInt8} {bs : List UInt8} {out out' : ByteArray}
    (h : readBody i acc (b :: bs) out = .ok out') : ∃ v, value b = some v := by
  cases hv : value b with
  | none => simp [readBody, hv] at h
  | some v => exact ⟨v, rfl⟩

/-- A group of three bytes is read back from its four symbols. -/
theorem readBody_group (a b c : UInt8) (rest : List UInt8) {i : Nat} (hi : i % 4 = 0) (out : ByteArray) :
    readBody i 0 ((encodeGroup [a, b, c]).flatMap String.utf8EncodeChar ++ rest) out =
      readBody (i + 4) 0 rest (((out.push a).push b).push c) := by
  have ha := a.toNat_lt
  have hb := b.toNat_lt
  have hc := c.toNat_lt
  generalize hn : a.toNat * 65536 + b.toNat * 256 + c.toNat = n
  rw [bytes_encodeGroup_three a b c hn]
  simp only [List.cons_append, List.nil_append]
  rw [readBody_cons_some _ _ (value_symbolByte _ (by omega)), if_neg (by omega),
    readBody_cons_some _ _ (value_symbolByte _ (by omega)), if_neg (by omega),
    readBody_cons_some _ _ (value_symbolByte _ (by omega)), if_neg (by omega),
    readBody_cons_some _ _ (value_symbolByte _ (by omega)), if_pos (by omega)]
  -- the four values make up the number the three bytes make up
  have hsum : (((0 * 64 + n / 262144) * 64 + n / 4096 % 64) * 64 + n / 64 % 64) * 64 + n % 64 = n := by
    omega
  have h1 : (n / 65536).toUInt8 = a := toUInt8_eq (by omega)
  have h2 : (n / 256 % 256).toUInt8 = b := toUInt8_eq (by omega)
  have h3 : (n % 256).toUInt8 = c := toUInt8_eq (by omega)
  rw [hsum, push3, h1, h2, h3]

/-- Four symbols read as a group are the symbols of the three bytes the group gives. -/
theorem readBody_group_inv {s0 s1 s2 s3 : UInt8} {rest : List UInt8} {i : Nat} (hi : i % 4 = 0)
    {out out' : ByteArray} (h : readBody i 0 (s0 :: s1 :: s2 :: s3 :: rest) out = .ok out') :
    ∃ a b c, [s0, s1, s2, s3] = (encodeGroup [a, b, c]).flatMap String.utf8EncodeChar ∧
      readBody (i + 4) 0 rest (((out.push a).push b).push c) = .ok out' := by
  obtain ⟨v0, hv0⟩ := value_of_readBody_ok h
  rw [readBody_cons_some _ _ hv0, if_neg (by omega)] at h
  obtain ⟨v1, hv1⟩ := value_of_readBody_ok h
  rw [readBody_cons_some _ _ hv1, if_neg (by omega)] at h
  obtain ⟨v2, hv2⟩ := value_of_readBody_ok h
  rw [readBody_cons_some _ _ hv2, if_neg (by omega)] at h
  obtain ⟨v3, hv3⟩ := value_of_readBody_ok h
  rw [readBody_cons_some _ _ hv3, if_pos (by omega)] at h
  obtain ⟨rfl, h0⟩ := symbolByte_of_value hv0
  obtain ⟨rfl, h1⟩ := symbolByte_of_value hv1
  obtain ⟨rfl, h2⟩ := symbolByte_of_value hv2
  obtain ⟨rfl, h3⟩ := symbolByte_of_value hv3
  generalize hn : (((0 * 64 + v0) * 64 + v1) * 64 + v2) * 64 + v3 = n at h
  refine ⟨(n / 65536).toUInt8, (n / 256 % 256).toUInt8, (n % 256).toUInt8, ?_, h⟩
  rw [bytes_encodeGroup_three _ _ _ (show _ = n by simp; omega)]
  have e0 : n / 262144 = v0 := by omega
  have e1 : n / 4096 % 64 = v1 := by omega
  have e2 : n / 64 % 64 = v2 := by omega
  have e3 : n % 64 = v3 := by omega
  rw [e0, e1, e2, e3]

/-- Every group of three bytes is read back from its symbols. -/
theorem readBody_encode : ∀ (l : List UInt8), l.length % 3 = 0 → ∀ (i : Nat) (out : ByteArray),
    i % 4 = 0 → readBody i 0 (encodeBytes l) out = .ok (l.foldl ByteArray.push out)
  | [], _, _, _, _ => rfl
  | a :: b :: c :: rest, hl, i, out, hi => by
    rw [encodeBytes, encodeChars, List.flatMap_append, readBody_group a b c _ hi]
    exact readBody_encode rest (by simp at hl; omega) (i + 4) _ (by omega)
  | [_], hl, _, _, _ => by simp at hl
  | [_, _], hl, _, _, _ => by simp at hl

/-- Symbols read as whole groups are the symbols of the bytes they give. -/
theorem readBody_inv : ∀ (L : List UInt8) (i : Nat) (out out' : ByteArray), i % 4 = 0 →
    L.length % 4 = 0 → readBody i 0 L out = .ok out' →
      ∃ l, l.length % 3 = 0 ∧ L = encodeBytes l ∧ out' = l.foldl ByteArray.push out
  | [], _, _, _, _, _, h => ⟨[], rfl, rfl, by cases h; rfl⟩
  | s0 :: s1 :: s2 :: s3 :: rest, i, out, out', hi, hL, h => by
    obtain ⟨a, b, c, hs, hr⟩ := readBody_group_inv hi h
    obtain ⟨l, hl, rfl, rfl⟩ := readBody_inv rest (i + 4) _ out' (by omega) (by simp at hL; omega) hr
    refine ⟨a :: b :: c :: l, by simp; omega, ?_, rfl⟩
    show _ = (encodeGroup [a, b, c] ++ encodeChars l).flatMap String.utf8EncodeChar
    rw [List.flatMap_append, ← hs]
    rfl
  | [_], _, _, _, _, hL, _ => by simp at hL
  | [_, _], _, _, _, _, hL, _ => by simp at hL
  | [_, _, _], _, _, _, _, hL, _ => by simp at hL

/-! ### The last group -/

/-- What reading the last group found: the values of its symbols, then its padding. -/
theorem readTail_inv {start : Nat} : ∀ (L : List UInt8) (t t' : Tail), readTail start t L = .ok t' →
    (0 < t.pads → 2 ≤ t.values.length) → (∀ v ∈ t.values, v < 64) →
    t'.values.map symbolByte ++ List.replicate t'.pads pad =
        t.values.map symbolByte ++ List.replicate t.pads pad ++ L ∧
      (0 < t'.pads → 2 ≤ t'.values.length) ∧ ∀ v ∈ t'.values, v < 64
  | [], t, t', h, h1, h2 => by
    cases h
    exact ⟨by simp, h1, h2⟩
  | b :: rest, t, t', h, h1, h2 => by
    simp only [readTail] at h
    by_cases hpad : b = pad
    · -- padding may only follow two symbols
      rw [if_pos hpad] at h
      by_cases hidx : t.values.length + t.pads < 2
      · rw [if_pos hidx] at h
        cases h
      · rw [if_neg hidx] at h
        obtain ⟨e, i1, i2⟩ := readTail_inv rest _ t' h (fun _ => by dsimp only; omega) h2
        refine ⟨?_, i1, i2⟩
        rw [e, hpad]
        simp [List.replicate_succ', List.append_assoc]
    · -- a symbol, before any padding
      rw [if_neg hpad] at h
      by_cases hpads : t.pads > 0
      · rw [if_pos hpads] at h
        cases h
      · rw [if_neg hpads] at h
        cases hv : value b with
        | none =>
          rw [hv] at h
          cases h
        | some v =>
          rw [hv] at h
          obtain ⟨rfl, hv64⟩ := symbolByte_of_value hv
          have hp : t.pads = 0 := by omega
          obtain ⟨e, i1, i2⟩ := readTail_inv rest _ t' h (fun h => by dsimp only at h; omega)
            (fun w hw => by
              rcases List.mem_append.1 hw with hw | hw
              · exact h2 w hw
              · simp at hw; omega)
          refine ⟨?_, i1, i2⟩
          rw [e, hp]
          simp

theorem readTail_symbols (start : Nat) : ∀ (vs : List Nat) (t : Tail) (rest : List UInt8),
    t.pads = 0 → (∀ v ∈ vs, v < 64) → ∃ t', t'.values = t.values ++ vs ∧ t'.pads = 0 ∧
      readTail start t (vs.map symbolByte ++ rest) = readTail start t' rest
  | [], t, rest, hp, _ => ⟨t, by simp, hp, rfl⟩
  | v :: vs, t, rest, hp, hv => by
    have hv' := hv v List.mem_cons_self
    obtain ⟨t', h1, h2, h3⟩ := readTail_symbols start vs { t with values := t.values ++ [v], last := symbolByte v }
      rest hp (fun w hw => hv w (List.mem_cons_of_mem _ hw))
    refine ⟨t', by simp [h1], h2, ?_⟩
    rw [← h3]
    simp only [List.map_cons, List.cons_append, readTail]
    rw [if_neg (symbolByte_ne_pad v hv'), if_neg (by omega), value_symbolByte v hv']

theorem readTail_pads (start : Nat) : ∀ (p : Nat) (t : Tail), 2 ≤ t.values.length →
    ∃ t', t'.values = t.values ∧ t'.pads = t.pads + p ∧
      readTail start t (List.replicate p pad) = .ok t'
  | 0, t, _ => ⟨t, rfl, rfl, rfl⟩
  | p + 1, t, h => by
    obtain ⟨t', h1, h2, h3⟩ := readTail_pads start p
      { t with
        pads := t.pads + 1
        firstPad := if t.pads = 0 then t.values.length + t.pads else t.firstPad } h
    refine ⟨t', h1, by dsimp only at h2; omega, ?_⟩
    rw [List.replicate_succ]
    simp only [readTail, if_true]
    rw [if_neg (by omega)]
    exact h3

/-- The last group is read as the values of its symbols and its padding. -/
theorem readTail_group (start : Nat) (vs : List Nat) (p : Nat) (hv : ∀ v ∈ vs, v < 64)
    (hp : 0 < p → 2 ≤ vs.length) :
    ∃ t, t.values = vs ∧ t.pads = p ∧
      readTail start {} (vs.map symbolByte ++ List.replicate p pad) = .ok t := by
  obtain ⟨t₁, h1, h2, h3⟩ := readTail_symbols start vs ({} : Tail) (List.replicate p pad) rfl hv
  rw [h3]
  by_cases hp0 : p = 0
  · subst hp0
    exact ⟨t₁, by simpa using h1, h2, rfl⟩
  · obtain ⟨t, e1, e2, e3⟩ := readTail_pads start p t₁ (by rw [h1]; simp; omega)
    exact ⟨t, by rw [e1, h1]; simp, by rw [e2, h2]; simp, e3⟩

/-- The number the values of the last group make up, padded with zero values to a group. -/
def packed (vs : List Nat) : Nat := (vs ++ List.replicate (4 - vs.length) 0).foldl (fun acc v => acc * 64 + v) 0

/-- The bytes `decodeTail` takes from the values of the last group. -/
def tailBytes (vs : List Nat) : List UInt8 :=
  (List.range (vs.length * 6 / 8)).map fun j => (packed vs / Nat.pow 2 (16 - 8 * j) % 256).toUInt8

/-- When `decodeTail` succeeds: the last group reads, has at least two symbols, is completed by its padding, and leaves no bits in its last symbol. -/
theorem decodeTail_eq_ok {input : ByteArray} {start : Nat} {out out' : ByteArray} :
    decodeTail input start out = .ok out' ↔
      ∃ t, readTail start {} (input.extract start input.size).toList = .ok t ∧
        (0 < input.size → 2 ≤ t.values.length) ∧ (t.pads + t.values.length) % 4 = 0 ∧
        packed t.values % Nat.pow 2 (24 - 8 * (t.values.length * 6 / 8)) = 0 ∧
        out' = (tailBytes t.values).foldl ByteArray.push out := by
  unfold decodeTail
  cases h : readTail start {} (input.extract start input.size).toList with
  | error e => simp [bind, Except.bind]
  | ok t =>
    have hp : (t.values ++ List.replicate (4 - t.values.length) 0).foldl (fun acc v => acc * 64 + v) 0 =
      packed t.values := rfl
    have hb : ((List.range (t.values.length * 6 / 8)).map fun j =>
      (packed t.values / Nat.pow 2 (16 - 8 * j) % 256).toUInt8) = tailBytes t.values := rfl
    simp only [bind, Except.bind, hp, hb, Except.ok.injEq, exists_eq_left']
    split_ifs with h1 h2 h3
    · -- fewer than two symbols
      simp only [false_iff]
      rintro ⟨ha, -⟩
      exact absurd (ha h1.1) (by omega)
    · -- padding that does not complete the group
      simp only [false_iff]
      rintro ⟨-, hm, -⟩
      exact h2 hm
    · -- bits left over in the last symbol
      simp only [false_iff]
      rintro ⟨-, -, hu, -⟩
      exact h3 hu
    · simp only [pure, Except.pure, Except.ok.injEq]
      constructor
      · rintro rfl
        exact ⟨fun hs => by omega, by omega, by omega, rfl⟩
      · rintro ⟨-, -, -, rfl⟩
        rfl

theorem packed_four (v0 v1 v2 v3 : Nat) : packed [v0, v1, v2, v3] = ((v0 * 64 + v1) * 64 + v2) * 64 + v3 := by
  simp [packed]

theorem packed_three (v0 v1 v2 : Nat) : packed [v0, v1, v2] = ((v0 * 64 + v1) * 64 + v2) * 64 := by
  simp [packed]

theorem packed_two (v0 v1 : Nat) : packed [v0, v1] = (v0 * 64 + v1) * 64 * 64 := by
  simp [packed]

theorem tailBytes_four (v0 v1 v2 v3 : Nat) : tailBytes [v0, v1, v2, v3] =
    [(packed [v0, v1, v2, v3] / 65536 % 256).toUInt8, (packed [v0, v1, v2, v3] / 256 % 256).toUInt8,
      (packed [v0, v1, v2, v3] % 256).toUInt8] := by
  simp [tailBytes, List.range_succ]

theorem tailBytes_three (v0 v1 v2 : Nat) : tailBytes [v0, v1, v2] =
    [(packed [v0, v1, v2] / 65536 % 256).toUInt8, (packed [v0, v1, v2] / 256 % 256).toUInt8] := by
  simp [tailBytes, List.range_succ]

theorem tailBytes_two (v0 v1 : Nat) : tailBytes [v0, v1] = [(packed [v0, v1] / 65536 % 256).toUInt8] := by
  simp [tailBytes, List.range_succ]

/-- The symbols of a last group of one to three bytes: their values, then the padding. -/
theorem encodeBytes_last (last : List UInt8) (h1 : 0 < last.length) (h3 : last.length ≤ 3) :
    ∃ vs : List Nat, (∀ v ∈ vs, v < 64) ∧ vs.length = last.length + 1 ∧
      packed vs % Nat.pow 2 (24 - 8 * (vs.length * 6 / 8)) = 0 ∧ tailBytes vs = last ∧
      encodeBytes last = vs.map symbolByte ++ List.replicate (3 - last.length) pad := by
  match last, h1, h3 with
  | [a, b, c], _, _ =>
    have ha := a.toNat_lt
    have hb := b.toNat_lt
    have hc := c.toNat_lt
    generalize hn : a.toNat * 65536 + b.toNat * 256 + c.toNat = n
    refine ⟨[n / 262144, n / 4096 % 64, n / 64 % 64, n % 64], by simp; omega, rfl, ?_, ?_, ?_⟩
    · simp only [List.length_cons, List.length_nil]
      exact Nat.mod_one _
    · have hp : packed [n / 262144, n / 4096 % 64, n / 64 % 64, n % 64] = n := by
        rw [packed_four]
        omega
      rw [tailBytes_four, hp, toUInt8_eq (a := a) (by omega), toUInt8_eq (a := b) (by omega),
        toUInt8_eq (a := c) (by omega)]
    · show (encodeGroup [a, b, c] ++ []).flatMap _ = _
      rw [List.append_nil, bytes_encodeGroup_three a b c hn]
      rfl
  | [a, b], _, _ =>
    have ha := a.toNat_lt
    have hb := b.toNat_lt
    generalize hn : a.toNat * 65536 + b.toNat * 256 = n
    have hp : packed [n / 262144, n / 4096 % 64, n / 64 % 64] = n := by
      rw [packed_three]
      omega
    refine ⟨[n / 262144, n / 4096 % 64, n / 64 % 64], by simp; omega, rfl, ?_, ?_, ?_⟩
    · rw [hp]
      simp
      omega
    · rw [tailBytes_three, hp, toUInt8_eq (a := a) (by omega), toUInt8_eq (a := b) (by omega)]
    · rw [encodeBytes_short (by simp), bytes_encodeGroup_two a b hn]
      rfl
  | [a], _, _ =>
    have ha := a.toNat_lt
    generalize hn : a.toNat * 65536 = n
    have hp : packed [n / 262144, n / 4096 % 64] = n := by
      rw [packed_two]
      omega
    refine ⟨[n / 262144, n / 4096 % 64], by simp; omega, rfl, ?_, ?_, ?_⟩
    · rw [hp]
      simp
      omega
    · rw [tailBytes_two, hp, toUInt8_eq (a := a) (by omega)]
    · rw [encodeBytes_short (by simp), bytes_encodeGroup_one a hn]
      rfl

/-- Every group of up to three bytes takes four symbols. -/
theorem length_encodeBytes : ∀ l : List UInt8, (encodeBytes l).length = 4 * ((l.length + 2) / 3)
  | [] => rfl
  | a :: b :: c :: rest => by
    rw [show a :: b :: c :: rest = [a, b, c] ++ rest from rfl, encodeBytes_append rest (show [a, b, c].length % 3 = 0 by simp),
      List.length_append, length_encodeBytes rest]
    obtain ⟨_, _, hlen, _, _, he⟩ := encodeBytes_last [a, b, c] (by simp) (by simp)
    simp [he, hlen]
    omega
  | [a] => by
    obtain ⟨_, _, hlen, _, _, he⟩ := encodeBytes_last [a] (by simp) (by simp)
    simp [he, hlen]
  | [a, b] => by
    obtain ⟨_, _, hlen, _, _, he⟩ := encodeBytes_last [a, b] (by simp) (by simp)
    simp [he, hlen]

/-- The values of a last group that decodes are the symbols of the bytes it gives. -/
theorem tailBytes_encode (vs : List Nat) (hv : ∀ v ∈ vs, v < 64) (h2 : 2 ≤ vs.length)
    (h4 : vs.length ≤ 4) (hu : packed vs % Nat.pow 2 (24 - 8 * (vs.length * 6 / 8)) = 0) :
    encodeBytes (tailBytes vs) = vs.map symbolByte ++ List.replicate (4 - vs.length) pad := by
  match vs, hv, h2, h4, hu with
  | [v0, v1, v2, v3], hv, _, _, _ =>
    simp only [List.mem_cons, List.not_mem_nil, or_false, forall_eq_or_imp, forall_eq] at hv
    rw [tailBytes_four, packed_four]
    generalize hn : ((v0 * 64 + v1) * 64 + v2) * 64 + v3 = n
    show (encodeGroup _ ++ []).flatMap _ = _
    rw [List.append_nil, bytes_encodeGroup_three _ _ _ (show _ = n by simp; omega)]
    have e0 : n / 262144 = v0 := by omega
    have e1 : n / 4096 % 64 = v1 := by omega
    have e2 : n / 64 % 64 = v2 := by omega
    have e3 : n % 64 = v3 := by omega
    rw [e0, e1, e2, e3]
    rfl
  | [v0, v1, v2], hv, _, _, hu =>
    simp only [List.mem_cons, List.not_mem_nil, or_false, forall_eq_or_imp, forall_eq] at hv
    rw [packed_three] at hu
    simp at hu
    rw [tailBytes_three, packed_three, encodeBytes_short (by simp)]
    generalize hn : ((v0 * 64 + v1) * 64 + v2) * 64 = n at hu
    rw [bytes_encodeGroup_two _ _ (show _ = n by simp; omega)]
    have e0 : n / 262144 = v0 := by omega
    have e1 : n / 4096 % 64 = v1 := by omega
    have e2 : n / 64 % 64 = v2 := by omega
    rw [e0, e1, e2]
    rfl
  | [v0, v1], hv, _, _, hu =>
    simp only [List.mem_cons, List.not_mem_nil, or_false, forall_eq_or_imp, forall_eq] at hv
    rw [packed_two] at hu
    simp at hu
    rw [tailBytes_two, packed_two, encodeBytes_short (by simp)]
    generalize hn : (v0 * 64 + v1) * 64 * 64 = n at hu
    rw [bytes_encodeGroup_one _ (show _ = n by simp; omega)]
    have e0 : n / 262144 = v0 := by omega
    have e1 : n / 4096 % 64 = v1 := by omega
    rw [e0, e1]
    rfl

/-- A last group of one to three bytes is read back from its symbols. -/
theorem decodeTail_encode (input : ByteArray) (start : Nat) (out : ByteArray) (last : List UInt8)
    (h1 : 0 < last.length) (h3 : last.length ≤ 3)
    (hT : input.data.toList.drop start = encodeBytes last) :
    decodeTail input start out = .ok (last.foldl ByteArray.push out) := by
  obtain ⟨vs, hv, hlen, hu, hb, he⟩ := encodeBytes_last last h1 h3
  obtain ⟨t, tv, tp, ht⟩ := readTail_group start vs (3 - last.length) hv (fun _ => by omega)
  refine decodeTail_eq_ok.2 ⟨t, ?_, fun _ => by rw [tv]; omega, by rw [tv, tp]; omega, by rw [tv]; exact hu,
    by rw [tv, hb]⟩
  rw [tail_toList, hT, he]
  exact ht

/-- A last group of at most four symbols that decodes is the encoding of the bytes it gives. -/
theorem decodeTail_inv {input : ByteArray} {start : Nat} {out out' : ByteArray}
    (h : decodeTail input start out = .ok out') (hlen : (input.data.toList.drop start).length ≤ 4) :
    ∃ last, input.data.toList.drop start = encodeBytes last ∧ out' = last.foldl ByteArray.push out := by
  obtain ⟨t, ht, hm, hpad, hu, rfl⟩ := decodeTail_eq_ok.1 h
  rw [tail_toList] at ht
  obtain ⟨e, -, hv⟩ := readTail_inv _ {} t ht (by simp) (by simp)
  simp only [List.map_nil, List.replicate_zero, List.append_nil, List.nil_append] at e
  have hsum : t.values.length + t.pads = (input.data.toList.drop start).length := by
    simpa using congrArg List.length e
  by_cases hsize : 0 < input.size
  · refine ⟨tailBytes t.values, ?_, rfl⟩
    rw [← e, tailBytes_encode t.values hv (hm hsize) (by omega) hu,
      show t.pads = 4 - t.values.length by omega]
  · -- nothing to read: the last group is empty
    have hnil : input.data.toList.drop start = [] := by
      have h0 : input.data.toList.length = 0 := by
        rw [Array.length_toList]
        exact Nat.eq_zero_of_not_pos hsize
      exact List.drop_eq_nil_of_le (by omega)
    rw [hnil, List.length_nil] at hsum
    have hv0 : t.values = [] := List.eq_nil_of_length_eq_zero (by omega)
    refine ⟨[], by rw [hnil]; rfl, ?_⟩
    rw [hv0]
    rfl

/-! ### The whole text -/

/-- A successful decoding reads the groups before the last one, then the last one. -/
theorem decodeBytes_parts {input out' : ByteArray} (h : decodeBytes input = .ok out') :
    ∃ out, decodeBody input (input.size - input.size % 4 - if input.size % 4 = 0 then 4 else 0) = .ok out ∧
      decodeTail input (input.size - input.size % 4 - if input.size % 4 = 0 then 4 else 0) out = .ok out' := by
  unfold decodeBytes at h
  simp only [bind, Except.bind] at h
  generalize (input.size - input.size % 4 - if input.size % 4 = 0 then 4 else 0) = body at h ⊢
  cases hb : decodeBody input body with
  | error e =>
    rw [hb] at h
    split_ifs at h
  | ok out =>
    rw [hb] at h
    refine ⟨out, rfl, ?_⟩
    -- a lone stray symbol is refused before anything is read
    split_ifs at h <;> exact h

/-- A text of whole groups decodes when its groups before the last one and its last group do. -/
theorem decodeBytes_of_parts {input out out' : ByteArray} (h0 : input.size % 4 = 0)
    (hb : decodeBody input (input.size - 4) = .ok out) (ht : decodeTail input (input.size - 4) out = .ok out') :
    decodeBytes input = .ok out' := by
  unfold decodeBytes
  simp only [bind, Except.bind, h0, if_pos, Nat.sub_zero]
  simp [hb, ht]

/-- Decoding the encoding of bytes gives the bytes back. -/
theorem decodeBytes_encodeBytes (l : List UInt8) {input : ByteArray}
    (h : input.data.toList = encodeBytes l) : decodeBytes input = .ok l.toByteArray := by
  have hsize : input.size = 4 * ((l.length + 2) / 3) := by
    rw [← length_encodeBytes, ← h, Array.length_toList]
    rfl
  by_cases hl : l = []
  · -- the empty text: no group before the last, and an empty last group
    subst hl
    have hnil : input.data.toList = [] := h
    have h0 : input.size = 0 := hsize
    have hb : decodeBody input (input.size - 4) =
        .ok (ByteArray.emptyWithCapacity ((input.size - 4) / 4 * 3)) := by
      rw [decodeBody_eq input (by omega), hnil, List.take_nil]
      rfl
    have ht : decodeTail input (input.size - 4) (ByteArray.emptyWithCapacity ((input.size - 4) / 4 * 3)) =
        .ok (ByteArray.emptyWithCapacity ((input.size - 4) / 4 * 3)) :=
      decodeTail_eq_ok.2 ⟨{}, by rw [tail_toList, hnil, List.drop_nil]; rfl, fun hpos => absurd h0 (by omega), rfl, rfl, rfl⟩
    rw [decodeBytes_of_parts (by omega) hb ht]
    rfl
  -- the whole groups, then a last group of one to three bytes
  have hlen : 0 < l.length := List.length_pos_iff.2 hl
  generalize hk : 3 * ((l.length - 1) / 3) = k
  have hk₁ : (l.take k).length = k := List.length_take_of_le (by omega)
  have hk₂ : (l.drop k).length = l.length - k := List.length_drop
  have hl₁ : (l.take k).length % 3 = 0 := by omega
  have e : input.data.toList = encodeBytes (l.take k) ++ encodeBytes (l.drop k) := by
    rw [h, ← encodeBytes_append _ hl₁, List.take_append_drop]
  have hB : (encodeBytes (l.take k)).length = input.size - 4 := by
    rw [length_encodeBytes, hk₁, hsize]
    omega
  have hb : decodeBody input (input.size - 4) =
      .ok ((l.take k).foldl ByteArray.push (ByteArray.emptyWithCapacity ((input.size - 4) / 4 * 3))) := by
    rw [decodeBody_eq input (by omega), e, ← hB, List.take_left, readBody_encode _ hl₁ 0 _ rfl]
  have ht := decodeTail_encode input (input.size - 4)
    ((l.take k).foldl ByteArray.push (ByteArray.emptyWithCapacity ((input.size - 4) / 4 * 3)))
    (l.drop k) (by omega) (by omega) (by rw [e, ← hB, List.drop_left])
  rw [decodeBytes_of_parts (by omega) hb ht]
  congr 1
  apply ByteArray.ext
  apply Array.ext'
  rw [data_foldl_push, data_foldl_push, data_emptyWithCapacity, List.nil_append, List.take_append_drop,
    List.data_toByteArray, List.toList_toArray]

/-- A text that decodes is the encoding of what it decodes to. -/
theorem decodeBytes_inv {input out : ByteArray} (h : decodeBytes input = .ok out) :
    input.data.toList = encodeBytes out.data.toList := by
  obtain ⟨mid, hb, ht⟩ := decodeBytes_parts h
  generalize hB : (input.size - input.size % 4 - if input.size % 4 = 0 then 4 else 0) = B at hb ht
  -- the groups before the last end on a group boundary, at most four symbols before the end
  have hB : B ≤ input.size ∧ B % 4 = 0 ∧ input.size - B ≤ 4 := by
    split at hB <;> omega
  rw [decodeBody_eq input hB.1] at hb
  obtain ⟨l₁, hl₁, e₁, rfl⟩ := readBody_inv _ 0 _ mid rfl (by simp; omega) hb
  obtain ⟨last, e₂, rfl⟩ := decodeTail_inv ht (by simp; omega)
  rw [data_foldl_push, data_foldl_push, data_emptyWithCapacity, List.nil_append,
    encodeBytes_append last hl₁, ← e₁, ← e₂, List.take_append_drop]

/-- Decoding undoes encoding. -/
theorem decode_encode (bytes : ByteArray) : decode (encode bytes) = .ok bytes := by
  rw [decode, decodeBytes_encodeBytes _ (encode_toUTF8 bytes)]
  congr 1
  apply ByteArray.ext
  rw [List.data_toByteArray, Array.toArray_toList]

/-- A text that decodes is the encoding of its bytes: the decoder accepts only canonical
encodings. -/
theorem encode_of_decode {s : String} {bytes : ByteArray} (h : decode s = .ok bytes) :
    encode bytes = s := by
  have e := decodeBytes_inv h
  rw [← encode_toUTF8] at e
  rw [← String.toByteArray_inj, ← String.toUTF8_eq_toByteArray, ← String.toUTF8_eq_toByteArray]
  exact ByteArray.ext (Array.ext' e.symm)

end ImageStudio.Base64
