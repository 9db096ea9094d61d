import ImageStudio.Image.WebP.Fault
import ImageStudio.Bytes.Inflate

/-!
# Image · WebP · Lossless: the lossless bitstream

A lossless image is decoded in full to learn whether its bitstream is sound: the
bitstream is read from the chunk's data only (a chunk cut short by the end of the file is
simply shorter), and any read past its end is a corrupt bitstream. Decoding follows the
lossless format: optional transforms (each at most once, with their own sub-images), an
optional colour cache, prefix codes grouped by an optional entropy image, then pixels that
are literals, back-references or colour-cache hits. The pixel values are computed because
the entropy image's values choose the codes; the final image is not kept.
-/

namespace ImageStudio

namespace WebP

/-- Reading the lossless bitstream: a bit position, or a fault. -/
abbrev Reading := StateT Inflate.Bits (Except Fault)

/-- Reads `n` bits, least significant first. -/
def bits (n : Nat) : Reading Nat := do
  match (← get).read n with
  | some (v, next) => set next; pure v
  | none => throw .bitStream

/-- A prefix code of the lossless format. -/
inductive Tree where
  /-- One symbol, read from no bits. -/
  | single (sym : Nat)
  /-- Two symbols, read from one bit. -/
  | pair (first second : Nat)
  /-- A canonical code. -/
  | canonical (code : Inflate.Code)
  deriving Inhabited

/-- Reads one symbol. -/
def Tree.read : Tree → Reading Nat
  | .single s => pure s
  | .pair a b => do pure (if (← bits 1) = 0 then a else b)
  | .canonical c => do
    match c.decode (← get) with
    | some (some s, next) => set next; pure s
    | some (none, _) => throw .huffman
    | none => throw .bitStream

/-- Whether a tree reads from no bits. -/
def Tree.isSingle : Tree → Bool
  | .single _ => true
  | _ => false

/-- The tree of a list of code lengths: at least one symbol, and a complete code when
there are two or more. -/
def Tree.ofLengths (lengths : Array Nat) : Except Fault Tree :=
  let used := (List.range lengths.size).filter fun s => lengths[s]! ≠ 0
  match used with
  | [] => .error .huffman
  | [s] => .ok (.single s)
  | _ => if Inflate.slack lengths = 0 then .ok (.canonical (Inflate.Code.ofLengths lengths))
    else .error .huffman

/-- The order in which code-length code lengths are stored. -/
def codeLengthOrder : List Nat := [17, 18, 0, 1, 2, 3, 4, 5, 16, 6, 7, 8, 9, 10, 11, 12, 13, 14, 15]

/-- Reads `count` code lengths with the code-length tree; at most `limit` codes are read.
`fuel` bounds the steps. -/
def readLengthsWith (t : Tree) (count : Nat) :
    Nat → Nat → Nat → Array Nat → Reading (Array Nat)
  | 0, _, _, acc => pure acc
  | fuel + 1, limit, prev, acc => do
    if acc.size ≥ count ∨ limit = 0 then return acc ++ Array.replicate (count - acc.size) 0
    let len ← t.read
    if len < 16 then
      readLengthsWith t count fuel (limit - 1) (if len ≠ 0 then len else prev) (acc.push len)
    else
      let (extra, offset) := if len = 16 then (2, 3) else if len = 17 then (3, 3) else (7, 11)
      let n := (← bits extra) + offset
      if acc.size + n > count then throw .bitStream
      let v := if len = 16 then prev else 0
      readLengthsWith t count fuel (limit - 1) prev (acc ++ Array.replicate n v)

/-- Reads one prefix code over an alphabet of `size` symbols. -/
def readTree (size : Nat) : Reading Tree := do
  if (← bits 1) = 1 then
    let count := (← bits 1) + 1
    let wide ← bits 1
    let first ← bits (1 + 7 * wide)
    if first ≥ size then throw .bitStream
    if count = 1 then return .single first
    let second ← bits 8
    if second ≥ size then throw .bitStream
    return .pair first second
  else
    let n := (← bits 4) + 4
    let mut clLengths := Array.replicate 19 0
    for i in [0:n] do
      clLengths := clLengths.set! codeLengthOrder[i]! (← bits 3)
    let clTree ← StateT.lift (Tree.ofLengths clLengths)
    let limit ← if (← bits 1) = 1 then do
        let width := 2 + 2 * (← bits 3)
        let m ← bits width
        if m + 2 > size then throw .bitStream
        pure (m + 2)
      else pure size
    let lengths ← readLengthsWith clTree size (size + 1) limit 8 Array.empty
    StateT.lift (Tree.ofLengths lengths)

/-- The alphabet sizes of the five codes of a group, before the colour cache. -/
def alphabetSizes : List Nat := [256 + 24, 256, 256, 256, 40]

/-- Reads one group of five codes: green (with lengths and cache indices), red, blue,
alpha and distance. -/
def readGroup (cacheSize : Nat) : Reading (Array Tree) := do
  let mut group := #[]
  for k in [0:5] do
    let size := alphabetSizes[k]! + (if k = 0 then cacheSize else 0)
    group := group.push (← readTree size)
  return group

/-- Reads `n` groups. -/
def readGroups (cacheSize : Nat) : Nat → Reading (Array (Array Tree))
  | 0 => pure #[]
  | n + 1 => do
    let g ← readGroup cacheSize
    let rest ← readGroups cacheSize n
    pure (#[g] ++ rest)

/-- The offsets of the 120 short distance codes, as (column, row). -/
def distanceMap : Array (Int × Int) := #[
  (0, 1), (1, 0), (1, 1), (-1, 1), (0, 2), (2, 0), (1, 2), (-1, 2), (2, 1), (-2, 1), (2, 2),
  (-2, 2), (0, 3), (3, 0), (1, 3), (-1, 3), (3, 1), (-3, 1), (2, 3), (-2, 3), (3, 2), (-3, 2),
  (0, 4), (4, 0), (1, 4), (-1, 4), (4, 1), (-4, 1), (3, 3), (-3, 3), (2, 4), (-2, 4), (4, 2),
  (-4, 2), (0, 5), (3, 4), (-3, 4), (4, 3), (-4, 3), (5, 0), (1, 5), (-1, 5), (5, 1), (-5, 1),
  (2, 5), (-2, 5), (5, 2), (-5, 2), (4, 4), (-4, 4), (3, 5), (-3, 5), (5, 3), (-5, 3), (0, 6),
  (6, 0), (1, 6), (-1, 6), (6, 1), (-6, 1), (2, 6), (-2, 6), (6, 2), (-6, 2), (4, 5), (-4, 5),
  (5, 4), (-5, 4), (3, 6), (-3, 6), (6, 3), (-6, 3), (0, 7), (7, 0), (1, 7), (-1, 7), (5, 5),
  (-5, 5), (7, 1), (-7, 1), (4, 6), (-4, 6), (6, 4), (-6, 4), (2, 7), (-2, 7), (7, 2), (-7, 2),
  (3, 7), (-3, 7), (7, 3), (-7, 3), (5, 6), (-5, 6), (6, 5), (-6, 5), (8, 0), (4, 7), (-4, 7),
  (7, 4), (-7, 4), (8, 1), (8, 2), (6, 6), (-6, 6), (8, 3), (5, 7), (-5, 7), (7, 5), (-7, 5),
  (8, 4), (6, 7), (-6, 7), (7, 6), (-7, 6), (8, 5), (7, 7), (-7, 7), (8, 6), (8, 7)]

/-- A length or distance from its prefix symbol and extra bits. -/
def copyAmount (sym : Nat) : Reading Nat := do
  if sym < 4 then return sym + 1
  let extra := (sym - 2) / 2
  let offset := (2 + sym % 2) * Nat.pow 2 extra
  return offset + (← bits extra) + 1

/-- The distance in pixels of a distance code in an image `width` wide. -/
def planeDistance (width code : Nat) : Nat :=
  if code > 120 then code - 120
  else
    let (dx, dy) := distanceMap[code - 1]!
    let d := dx + dy * width
    if d < 1 then 1 else d.toNat

/-- The colour cache slot of a pixel. -/
def cacheSlot (cacheBits : Nat) (argb : UInt32) : Nat :=
  ((0x1e35a7bd * argb) >>> (32 - cacheBits).toUInt32).toNat

/-- The prefix codes of an image and how they are chosen per pixel. -/
structure Codes where
  groups : Array (Array Tree)
  /-- The entropy image, its width, and its block size in bits (zero: one group). -/
  entropy : Array UInt32 := #[]
  entropyWidth : Nat := 1
  blockBits : Nat := 0
  cacheBits : Nat := 0

/-- The group index for the pixel at column `x` and row `y`. -/
def Codes.groupAt (c : Codes) (x y : Nat) : Nat :=
  if c.blockBits = 0 then 0
  else
    let v := c.entropy[(y >>> c.blockBits) * c.entropyWidth + (x >>> c.blockBits)]!
    ((v >>> 8) &&& 0xFFFF).toNat

/-- The state of decoding pixels: the pixels so far, the colour cache, the position where
the current block of codes ends, and the current group. -/
structure Pixels where
  data : Array UInt32
  cache : Array UInt32
  blockEnd : Nat := 0
  group : Nat := 0

/-- Pushes a pixel and records it in the colour cache. -/
def Pixels.emit (c : Codes) (p : Pixels) (argb : UInt32) : Pixels :=
  let cache := if c.cacheBits = 0 then p.cache else p.cache.set! (cacheSlot c.cacheBits argb) argb
  { p with data := p.data.push argb, cache }

/-- Decodes pixels until `total` are known; `fuel` bounds the steps. -/
def decodePixels (c : Codes) (width total : Nat) : Nat → Pixels → Reading (Array UInt32)
  | 0, p => pure p.data
  | fuel + 1, p => do
    let index := p.data.size
    if index ≥ total then return p.data
    let p := if index ≥ p.blockEnd then
        let x := index % width
        let y := index / width
        let mask := if c.blockBits = 0 then width else Nat.pow 2 c.blockBits - 1
        { p with blockEnd := min (x ||| mask) (width - 1) + y * width + 1, group := c.groupAt x y }
      else p
    let g := c.groups[p.group]!
    let green ← g[0]!.read
    if green < 256 then
      let red ← g[1]!.read
      let blue ← g[2]!.read
      let alpha ← g[3]!.read
      let argb : UInt32 := (alpha.toUInt32 <<< 24) ||| (red.toUInt32 <<< 16) |||
        (green.toUInt32 <<< 8) ||| blue.toUInt32
      decodePixels c width total fuel (p.emit c argb)
    else if green < 280 then
      let length ← copyAmount (green - 256)
      let distSym ← g[4]!.read
      let code ← copyAmount distSym
      let dist := planeDistance width code
      if index < dist ∨ total - index < length then throw .bitStream
      let mut q := p
      for _ in [0:length] do
        q := q.emit c q.data[q.data.size - dist]!
      decodePixels c width total fuel q
    else
      if c.cacheBits = 0 then throw .bitStream
      let argb := p.cache[green - 280]!
      decodePixels c width total fuel (p.emit c argb)

/-- Decodes one image stream of `width × height` pixels; `main` says whether it is the
main image, which alone may carry an entropy image. `depth` bounds the nesting of
sub-images. -/
def imageStream : Nat → Nat → Nat → Bool → Reading (Array UInt32)
  | 0, _, _, _ => throw .bitStream
  | depth + 1, width, height, main => do
    let cacheBits ← if (← bits 1) = 1 then do
        let n ← bits 4
        if n < 1 ∨ n > 11 then throw (.colorCacheBits n)
        pure n
      else pure 0
    let cacheSize := if cacheBits = 0 then 0 else Nat.pow 2 cacheBits
    let mut codes : Codes := { groups := #[], cacheBits }
    let mut groupCount := 1
    if main then
      if (← bits 1) = 1 then
        let blockBits := (← bits 3) + 2
        let ew := (width + Nat.pow 2 blockBits - 1) / Nat.pow 2 blockBits
        let eh := (height + Nat.pow 2 blockBits - 1) / Nat.pow 2 blockBits
        let entropy ← imageStream depth ew eh false
        groupCount := entropy.foldl (fun m (v : UInt32) => max m (((v >>> 8) &&& 0xFFFF).toNat + 1)) 1
        codes := { codes with entropy, entropyWidth := ew, blockBits }
    let groups ← readGroups cacheSize groupCount
    codes := { codes with groups }
    let total := width * height
    decodePixels codes width total (total + 1)
      { data := Array.mkEmpty total, cache := Array.replicate cacheSize 0 }

/-- The width after a colour-indexing transform packs pixels of a small palette. -/
def packedWidth (width tableSize : Nat) : Nat :=
  let bitsPerPixel := if tableSize ≤ 2 then 3 else if tableSize ≤ 4 then 2
    else if tableSize ≤ 16 then 1 else 0
  (width + Nat.pow 2 bitsPerPixel - 1) / Nat.pow 2 bitsPerPixel

/-- Reads the transforms; the result is the width of the main image stream. `fuel`
bounds the count. -/
def transforms (height : Nat) : Nat → Nat → List Nat → Reading Nat
  | 0, width, _ => pure width
  | fuel + 1, width, seen => do
    if (← bits 1) = 0 then return width
    let kind ← bits 2
    if kind ∈ seen then throw .transform
    match kind with
    | 0 | 1 =>
      let blockBits := (← bits 3) + 2
      let bw := (width + Nat.pow 2 blockBits - 1) / Nat.pow 2 blockBits
      let bh := (height + Nat.pow 2 blockBits - 1) / Nat.pow 2 blockBits
      let _ ← imageStream 8 bw bh false
      transforms height fuel width (kind :: seen)
    | 2 => transforms height fuel width (kind :: seen)
    | _ =>
      let size := (← bits 8) + 1
      let _ ← imageStream 8 size 1 false
      transforms height fuel (packedWidth width size) (kind :: seen)

/-- Reads the header of a lossless bitstream: its signature, a size that must be the given
one, and its version. -/
def losslessHeader (width height : Nat) : Reading Unit := do
  let signature ← bits 8
  if signature ≠ 0x2f then throw (.losslessSignature signature)
  let w := (← bits 14) + 1
  let h := (← bits 14) + 1
  if w ≠ width ∨ h ≠ height then throw .inconsistentSizes
  let _ ← bits 1
  let version ← bits 3
  if version ≠ 0 then throw (.version version)

/-- Decodes a lossless bitstream of the given dimensions. An alpha channel is stored as a
lossless bitstream without a header: its size is the image's (`implicit`). -/
def decodeLossless (width height : Nat) (implicit : Bool) : Reading Unit := do
  unless implicit do losslessHeader width height
  let streamWidth ← transforms height 4 width []
  let _ ← imageStream 8 streamWidth height true
  pure ()

/-- Decodes lossless bytes; a read past their end is a corrupt bitstream. -/
def decodeLosslessBytes (data : ByteArray) (width height : Nat) (implicit : Bool) :
    Except Fault Unit :=
  ((decodeLossless width height implicit).run { data, pos := 0 }).map (·.1)

end WebP

end ImageStudio
