/-!
# Bytes · Inflate: zlib streams, decompressed and checked

PNG image data is one zlib stream: a two-byte header, then DEFLATE blocks (RFC 1951).
Decompression here is strict about the stream's structure, the way image decoders are:
the header must name DEFLATE with a window of at most 32 KiB and no preset dictionary;
every Huffman code read from the stream must be complete (a distance code may also be
empty or consist of one code of length one); literal/length symbols 286 and 287 and
distance symbols 30 and 31 are refused; a back-reference may not reach before the start
of the output. The Adler-32 trailer is not checked.

The faults name the table the decoder was building when it failed. A literal/length code
without the end-of-block symbol is a bad literal/length tree; one that does not fill its
code space fails while its table is built, and is reported as a bad code-length tree, the
same fault as an incomplete code-length code.

Decompression stops at the first fault, at the end of the final block, or when the input
runs out; the bytes produced so far are kept in every case, since an image decoder uses
them row by row before it learns that the stream is broken.

Bits are read least significant first. Huffman codes are read one bit at a time and
decoded canonically, which keeps every step a small total function.
-/

namespace ImageStudio

namespace Inflate

/-- Why a stream was refused. The names are the ones image decoders report. -/
inductive Fault where
  | insufficientInput
  | badZlibHeader
  | invalidBlockType
  | invalidUncompressedBlockLength
  | invalidHlit
  | invalidHdist
  | invalidCodeLengthRepeat
  | badCodeLengthHuffmanTree
  | badLiteralLengthHuffmanTree
  | badDistanceHuffmanTree
  | invalidLiteralLengthCode
  | invalidDistanceCode
  | distanceTooFarBack
  deriving DecidableEq, Repr, Inhabited

/-- The name of a fault. -/
def Fault.name : Fault → String
  | .insufficientInput => "InsufficientInput"
  | .badZlibHeader => "BadZlibHeader"
  | .invalidBlockType => "InvalidBlockType"
  | .invalidUncompressedBlockLength => "InvalidUncompressedBlockLength"
  | .invalidHlit => "InvalidHlit"
  | .invalidHdist => "InvalidHdist"
  | .invalidCodeLengthRepeat => "InvalidCodeLengthRepeat"
  | .badCodeLengthHuffmanTree => "BadCodeLengthHuffmanTree"
  | .badLiteralLengthHuffmanTree => "BadLiteralLengthHuffmanTree"
  | .badDistanceHuffmanTree => "BadDistanceHuffmanTree"
  | .invalidLiteralLengthCode => "InvalidLiteralLengthCode"
  | .invalidDistanceCode => "InvalidDistanceCode"
  | .distanceTooFarBack => "DistanceTooFarBack"

/-- How decompression ended. -/
inductive Outcome where
  /-- The final block ended. -/
  | finished
  /-- The input ran out first. -/
  | truncated
  /-- The stream is malformed. -/
  | fault (f : Fault)
  deriving DecidableEq, Repr, Inhabited

/-- A position in a byte string, counted in bits. -/
structure Bits where
  data : ByteArray
  pos : Nat

namespace Bits

/-- The number of unread bits. -/
def remaining (b : Bits) : Nat := b.data.size * 8 - b.pos

/-- Reads one bit. -/
def bit (b : Bits) : Option (Nat × Bits) :=
  if b.pos < b.data.size * 8 then
    some ((b.data[b.pos / 8]!.toNat >>> (b.pos % 8)) % 2, { b with pos := b.pos + 1 })
  else none

/-- Reads `n` bits as a number, least significant first. -/
def read (b : Bits) (n : Nat) : Option (Nat × Bits) :=
  if b.pos + n ≤ b.data.size * 8 then
    let v := (List.range n).foldr (fun k acc => acc * 2 + (b.data[(b.pos + k) / 8]!.toNat >>> ((b.pos + k) % 8)) % 2) 0
    some (v, { b with pos := b.pos + n })
  else none

/-- Skips to the next byte boundary. -/
def align (b : Bits) : Bits := { b with pos := (b.pos + 7) / 8 * 8 }

end Bits

/-- A canonical Huffman code: how many codes each length has, and the symbols in code
order. -/
structure Code where
  counts : Array Nat
  symbols : Array Nat
  deriving Inhabited

/-- Whether the lengths form a complete code, an over-subscribed one, or leave codes
unused: the number of unused codes at the longest length, negative when over-full. -/
def slack (lengths : Array Nat) : Int :=
  let counts := (List.range 16).map fun l => (lengths.toList.filter (· == l)).length
  (List.range 15).foldl (fun left i => left * 2 - counts[i + 1]!) 1

/-- The code with the given lengths (a length of zero leaves the symbol out). -/
def Code.ofLengths (lengths : Array Nat) : Code :=
  let counts := (List.range 16).toArray.map fun l =>
    if l = 0 then 0 else (lengths.toList.filter (· == l)).length
  let symbols := (List.range 16).foldl (fun acc l =>
    if l = 0 then acc
    else acc ++ ((List.range lengths.size).filter fun s => lengths[s]! = l).toArray) #[]
  { counts, symbols }

/-- Reads one symbol; `none` with the bits left unchanged when the input ends, and `some
none` when the bits read match no code. -/
def Code.decode (c : Code) (b : Bits) : Option (Option Nat × Bits) := Id.run do
  let mut code := 0
  let mut first := 0
  let mut index := 0
  let mut cur := b
  for len in [1:16] do
    match cur.bit with
    | none => return none
    | some (v, next) =>
      cur := next
      code := code ||| v
      let count := c.counts[len]!
      if code < first + count then
        return some (some c.symbols[index + (code - first)]!, cur)
      index := index + count
      first := (first + count) <<< 1
      code := code <<< 1
  return some (none, cur)

/-- Lengths of the fixed literal/length code. -/
def fixedLiteralLengths : Array Nat :=
  (List.range 288).toArray.map fun s =>
    if s < 144 then 8 else if s < 256 then 9 else if s < 280 then 7 else 8

/-- The fixed literal/length code and the fixed distance code. -/
def fixedCodes : Code × Code :=
  (Code.ofLengths fixedLiteralLengths, Code.ofLengths (Array.replicate 32 5))

/-- Base lengths of the length symbols 257–285. -/
def lengthBase : Array Nat :=
  #[3, 4, 5, 6, 7, 8, 9, 10, 11, 13, 15, 17, 19, 23, 27, 31, 35, 43, 51, 59, 67, 83, 99, 115,
    131, 163, 195, 227, 258]

/-- Extra bits of the length symbols 257–285. -/
def lengthExtra : Array Nat :=
  #[0, 0, 0, 0, 0, 0, 0, 0, 1, 1, 1, 1, 2, 2, 2, 2, 3, 3, 3, 3, 4, 4, 4, 4, 5, 5, 5, 5, 0]

/-- Base distances of the distance symbols 0–29. -/
def distBase : Array Nat :=
  #[1, 2, 3, 4, 5, 7, 9, 13, 17, 25, 33, 49, 65, 97, 129, 193, 257, 385, 513, 769, 1025, 1537,
    2049, 3073, 4097, 6145, 8193, 12289, 16385, 24577]

/-- Extra bits of the distance symbols 0–29. -/
def distExtra : Array Nat :=
  #[0, 0, 0, 0, 1, 1, 2, 2, 3, 3, 4, 4, 5, 5, 6, 6, 7, 7, 8, 8, 9, 9, 10, 10, 11, 11, 12, 12,
    13, 13]

/-- The result of decoding a block: the input position and the output, or how the stream
ended with the output produced before. -/
abbrev Step := Except (Outcome × ByteArray) (Bits × ByteArray)

/-- Copies `len` bytes from `dist` bytes back, one at a time (the ranges may overlap). -/
def copyBack (out : ByteArray) (dist len : Nat) : ByteArray := Id.run do
  let mut o := out
  for _ in [0:len] do
    o := o.push o[o.size - dist]!
  return o

/-- Decodes the symbols of one compressed block until its end-of-block symbol; `fuel`
bounds the number of symbols. -/
def codedBlock (lit dist : Code) : Nat → Bits → ByteArray → Step
  | 0, _, out => .error (.truncated, out)
  | fuel + 1, bits, out =>
    match lit.decode bits with
    | none => .error (.truncated, out)
    | some (none, _) => .error (.fault .invalidLiteralLengthCode, out)
    | some (some sym, bits) =>
      if sym < 256 then codedBlock lit dist fuel bits (out.push sym.toUInt8)
      else if sym = 256 then .ok (bits, out)
      else if sym > 285 then .error (.fault .invalidLiteralLengthCode, out)
      else
        match bits.read lengthExtra[sym - 257]! with
        | none => .error (.truncated, out)
        | some (extra, bits) =>
          let len := lengthBase[sym - 257]! + extra
          match dist.decode bits with
          | none => .error (.truncated, out)
          | some (none, _) => .error (.fault .invalidDistanceCode, out)
          | some (some dsym, bits) =>
            if dsym > 29 then .error (.fault .invalidDistanceCode, out)
            else
              match bits.read distExtra[dsym]! with
              | none => .error (.truncated, out)
              | some (dextra, bits) =>
                let d := distBase[dsym]! + dextra
                if d > out.size then .error (.fault .distanceTooFarBack, out)
                else codedBlock lit dist fuel bits (copyBack out d len)

/-- Reads `count` code lengths with the code-length code, expanding repeats. -/
def readLengths (cl : Code) (count : Nat) : Nat → Bits → Array Nat →
    Except Outcome (Array Nat × Bits)
  | 0, _, _ => .error .truncated
  | fuel + 1, bits, acc =>
    if acc.size ≥ count then .ok (acc, bits)
    else
      match cl.decode bits with
      | none => .error .truncated
      | some (none, _) => .error (.fault .badCodeLengthHuffmanTree)
      | some (some sym, bits) =>
        if sym < 16 then readLengths cl count fuel bits (acc.push sym)
        else
          let (extraBits, base) := if sym = 16 then (2, 3) else if sym = 17 then (3, 3) else (7, 11)
          match bits.read extraBits with
          | none => .error .truncated
          | some (extra, bits) =>
            let n := base + extra
            if sym = 16 ∧ acc.size = 0 then .error (.fault .invalidCodeLengthRepeat)
            else if acc.size + n > count then .error (.fault .invalidCodeLengthRepeat)
            else
              let v := if sym = 16 then acc[acc.size - 1]! else 0
              readLengths cl count fuel bits (acc ++ Array.replicate n v)

/-- The order in which code-length code lengths are stored. -/
def codeLengthOrder : List Nat := [16, 17, 18, 0, 8, 7, 9, 6, 10, 5, 11, 4, 12, 3, 13, 2, 14, 1, 15]

/-- Whether distance lengths are acceptable: complete, empty, or one code of length one. -/
def distanceLengthsOk (lengths : Array Nat) : Bool :=
  let used := lengths.toList.filter (· != 0)
  slack lengths == 0 || used.isEmpty || used == [1]

/-- Reads the header of a dynamic block and returns its two codes. -/
def dynamicCodes (bits : Bits) : Except Outcome (Code × Code × Bits) := do
  let some (hlit, bits) := bits.read 5 | throw .truncated
  let some (hdist, bits) := bits.read 5 | throw .truncated
  let some (hclen, bits) := bits.read 4 | throw .truncated
  let nlit := hlit + 257
  let ndist := hdist + 1
  if nlit > 286 then throw (.fault .invalidHlit)
  if ndist > 30 then throw (.fault .invalidHdist)
  let mut clLengths := Array.replicate 19 0
  let mut cur := bits
  for i in [0:hclen + 4] do
    let some (v, next) := cur.read 3 | throw .truncated
    cur := next
    clLengths := clLengths.set! codeLengthOrder[i]! v
  if slack clLengths ≠ 0 then throw (.fault .badCodeLengthHuffmanTree)
  let cl := Code.ofLengths clLengths
  let (lengths, rest) ← readLengths cl (nlit + ndist) (nlit + ndist + 1) cur Array.empty
  let litLengths := lengths.extract 0 nlit
  let distLengths := lengths.extract nlit (nlit + ndist)
  if litLengths[256]! = 0 then throw (.fault .badLiteralLengthHuffmanTree)
  -- a literal/length code that does not fill the code space fails as its table is built
  if slack litLengths ≠ 0 then throw (.fault .badCodeLengthHuffmanTree)
  if !distanceLengthsOk distLengths then throw (.fault .badDistanceHuffmanTree)
  pure (Code.ofLengths litLengths, Code.ofLengths distLengths, rest)

/-- Decodes one block; the flag says whether it was the final one. -/
def block (bits : Bits) (out : ByteArray) : Except (Outcome × ByteArray) (Bool × Bits × ByteArray) :=
  let fail (o : Outcome) : Except (Outcome × ByteArray) (Bool × Bits × ByteArray) := .error (o, out)
  match bits.read 1 with
  | none => fail .truncated
  | some (final, bits) =>
  match bits.read 2 with
  | none => fail .truncated
  | some (kind, bits) =>
  let fuel := bits.remaining + 1
  match kind with
  | 0 =>
    let bits := bits.align
    match bits.read 16, (bits.read 16).bind fun (_, b) => b.read 16 with
    | some (len, _), some (nlen, bits) =>
      if len + nlen ≠ 65535 then fail (.fault .invalidUncompressedBlockLength)
      else
        let start := bits.pos / 8
        let avail := bits.data.size - start
        let out := out ++ bits.data.extract start (start + min len avail)
        if avail < len then .error (.truncated, out)
        else .ok (final = 1, { bits with pos := bits.pos + 8 * len }, out)
    | _, _ => fail .truncated
  | 1 =>
    let (lit, dist) := fixedCodes
    (codedBlock lit dist fuel bits out).map fun (bits, out) => (final = 1, bits, out)
  | 2 =>
    match dynamicCodes bits with
    | .error o => fail o
    | .ok (lit, dist, bits) =>
      (codedBlock lit dist fuel bits out).map fun (bits, out) => (final = 1, bits, out)
  | _ => fail (.fault .invalidBlockType)

/-- Decodes blocks until the final one; `fuel` bounds the number of blocks. -/
def blocks : Nat → Bits → ByteArray → Outcome × ByteArray
  | 0, _, out => (.truncated, out)
  | fuel + 1, bits, out =>
    match block bits out with
    | .ok (true, _, out) => (.finished, out)
    | .ok (false, bits, out) => blocks fuel bits out
    | .error (o, out) => (o, out)

/-- Decompresses a zlib stream: how it ended, and the bytes it produced. A stream whose
header is cut short is truncated. -/
def zlib (data : ByteArray) : Outcome × ByteArray :=
  if data.size < 2 then (.truncated, ByteArray.empty)
  else
    let cmf := data[0]!.toNat
    let flg := data[1]!.toNat
    if cmf % 16 ≠ 8 ∨ cmf / 16 > 7 ∨ (cmf * 256 + flg) % 31 ≠ 0 ∨ flg &&& 0x20 ≠ 0 then
      (.fault .badZlibHeader, ByteArray.empty)
    else
      blocks (data.size * 8 + 1) { data, pos := 16 } ByteArray.empty

end Inflate

end ImageStudio
