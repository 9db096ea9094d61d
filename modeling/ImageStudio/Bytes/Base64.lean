/-!
# Bytes · Base64: the standard alphabet, padded, strictly decoded

Encoding maps each group of three bytes to four symbols of `A–Z a–z 0–9 + /` and pads the
last group with `=`. Decoding accepts exactly the canonical encodings: every symbol must be
in the alphabet, padding may only end the text and only complete its last group, and the
unused low bits of the last symbol must be zero.

A refused text names its first fault. The text is split into the groups before its last
one, which are read first, and the last group (one to four symbols), which is read after;
a lone stray symbol at the very end is reported before anything else.
-/

namespace ImageStudio

namespace Base64

/-- The symbol of a six-bit value. -/
def symbol (v : Nat) : Char :=
  if v < 26 then Char.ofNat (65 + v)
  else if v < 52 then Char.ofNat (97 + v - 26)
  else if v < 62 then Char.ofNat (48 + v - 52)
  else if v = 62 then '+' else '/'

/-- The six-bit value of a symbol byte, if it is one. -/
def value (b : UInt8) : Option Nat :=
  let n := b.toNat
  if 65 ≤ n ∧ n ≤ 90 then some (n - 65)
  else if 97 ≤ n ∧ n ≤ 122 then some (n - 97 + 26)
  else if 48 ≤ n ∧ n ≤ 57 then some (n - 48 + 52)
  else if n = 43 then some 62
  else if n = 47 then some 63
  else none

/-- The padding byte `=`. -/
def pad : UInt8 := 61

/-- The symbols of one group of up to three bytes. -/
def encodeGroup : List UInt8 → List Char
  | [a, b, c] =>
    let n := a.toNat * 65536 + b.toNat * 256 + c.toNat
    [symbol (n / 262144), symbol (n / 4096 % 64), symbol (n / 64 % 64), symbol (n % 64)]
  | [a, b] =>
    let n := a.toNat * 65536 + b.toNat * 256
    [symbol (n / 262144), symbol (n / 4096 % 64), symbol (n / 64 % 64), '=']
  | [a] =>
    let n := a.toNat * 65536
    [symbol (n / 262144), symbol (n / 4096 % 64), '=', '=']
  | _ => []

/-- Encodes bytes, padded. -/
def encode (bytes : ByteArray) : String := Id.run do
  let mut out : String := ""
  let n := bytes.size
  let mut i := 0
  for _ in [0:(n + 2) / 3] do
    let group := (List.range 3).filterMap fun k => bytes[i + k]?
    out := (encodeGroup group).foldl String.push out
    i := i + 3
  return out

/-- Why a text is not a canonical encoding. -/
inductive DecodeError where
  /-- A byte outside the alphabet, or padding where none may stand, at an offset. -/
  | invalidByte (offset : Nat) (byte : UInt8)
  /-- The last group has a single symbol; the length is where the symbols stop. -/
  | invalidLength (length : Nat)
  /-- The last symbol carries bits that no byte uses. -/
  | invalidLastSymbol (offset : Nat) (byte : UInt8)
  /-- Padding that does not complete the last group. -/
  | invalidPadding
  deriving DecidableEq, Repr, Inhabited

/-- The message of a refusal. -/
def DecodeError.message : DecodeError → String
  | .invalidByte i b => "Invalid symbol " ++ toString b.toNat ++ ", offset " ++ toString i ++ "."
  | .invalidLength n => "Invalid input length: " ++ toString n
  | .invalidLastSymbol i b =>
    "Invalid last symbol " ++ toString b.toNat ++ ", offset " ++ toString i ++ "."
  | .invalidPadding => "Invalid padding"

/-- Reads the groups before the last one: `stop` symbols from the start, each group of four
giving three bytes. -/
def decodeBody (input : ByteArray) (stop : Nat) : Except DecodeError ByteArray := Id.run do
  let mut out := ByteArray.emptyWithCapacity (stop / 4 * 3)
  let mut acc := 0
  for i in [0:stop] do
    let b := input[i]!
    match value b with
    | none => return .error (.invalidByte i b)
    | some v =>
      acc := acc * 64 + v
      if i % 4 = 3 then
        out := out.push (acc / 65536).toUInt8
        out := out.push (acc / 256 % 256).toUInt8
        out := out.push (acc % 256).toUInt8
        acc := 0
  return .ok out

/-- The state of reading the last group: the values read, the padding seen, and where the
first padding byte stands. -/
structure Tail where
  values : List Nat := []
  pads : Nat := 0
  firstPad : Nat := 0
  last : UInt8 := 0

/-- Reads the last group, starting at offset `start`. -/
def readTail (start : Nat) : Tail → List UInt8 → Except DecodeError Tail
  | t, [] => .ok t
  | t, b :: rest =>
    let k := start + t.values.length + t.pads
    let index := t.values.length + t.pads
    if b = pad then
      if index < 2 then .error (.invalidByte k b)
      else
        let firstPad := if t.pads = 0 then index else t.firstPad
        readTail start { t with pads := t.pads + 1, firstPad := firstPad } rest
    else if t.pads > 0 then .error (.invalidByte (start + t.firstPad) pad)
    else
      match value b with
      | none => .error (.invalidByte k b)
      | some v => readTail start { t with values := t.values ++ [v], last := b } rest

/-- Decodes the last group read from offset `start` and appends its bytes. -/
def decodeTail (input : ByteArray) (start : Nat) (out : ByteArray) :
    Except DecodeError ByteArray := do
  let t ← readTail start {} ((input.extract start input.size).toList)
  let m := t.values.length
  if input.size > 0 ∧ m < 2 then throw (.invalidLength (start + m))
  if (t.pads + m) % 4 ≠ 0 then throw .invalidPadding
  let packed := (t.values ++ List.replicate (4 - m) 0).foldl (fun acc v => acc * 64 + v) 0
  let count := m * 6 / 8
  let unused := 24 - 8 * count
  if packed % Nat.pow 2 unused ≠ 0 then throw (.invalidLastSymbol (start + m - 1) t.last)
  let bytes := (List.range count).map fun j => (packed / Nat.pow 2 (16 - 8 * j) % 256).toUInt8
  pure (bytes.foldl ByteArray.push out)

/-- Decodes a canonical padded encoding given as bytes. -/
def decodeBytes (input : ByteArray) : Except DecodeError ByteArray := do
  let n := input.size
  let rem := n % 4
  if rem = 1 then
    let b := input[n - 1]!
    if b ≠ pad ∧ (value b).isNone then throw (.invalidByte (n - 1) b)
  let body := n - rem - (if rem = 0 then 4 else 0)
  let out ← decodeBody input body
  decodeTail input body out

/-- Decodes a canonical padded encoding. -/
def decode (s : String) : Except DecodeError ByteArray := decodeBytes s.toUTF8

end Base64

end ImageStudio
