import ImageStudio.Image.Error
import ImageStudio.Bytes.Crc32
import ImageStudio.Bytes.Inflate
import ImageStudio.Text.Quoted

/-!
# Image · Png: reading the header of a PNG file and checking its image data

A PNG file is a signature and a sequence of chunks, each a length, a four-letter type,
the data and a CRC of type and data. Reading happens in two stages, as a streaming decoder
does it.

* **Header.** Chunks are read up to the start of the first `IDAT` chunk: the first must be
  `IHDR`, whose fields are checked in order (dimensions, bit depth, colour type and its
  combination with the depth, compression, filter and interlace methods) and whose length
  must be 13; the CRC of every critical chunk is checked (a damaged ancillary chunk is
  read anyway); an unknown chunk whose type marks it critical is refused as soon as its
  type is read; a frame control chunk (`fcTL`) must describe a frame inside the image, and
  the first frame's size is the size of the rows that follow. This gives the dimensions.
* **Image data.** The consecutive `IDAT` chunks are read and their data decompressed as
  one zlib stream. The decompressed bytes must hold every row of every pass (one filter byte
  per row, then the row's packed samples), each filter byte at most 4. The header of the
  chunk after the last `IDAT` must be present.

The pixel values are never computed: what matters is whether decoding succeeds, and the
error when it does not.
-/

namespace ImageStudio

namespace Png

/-- The fields of the `IHDR` chunk that decoding needs. -/
structure Header where
  width : Nat
  height : Nat
  bitDepth : Nat
  colorType : Nat
  interlaced : Bool
  deriving DecidableEq, Repr, Inhabited

/-- The big-endian 32-bit number at offset `i`. -/
def u32 (b : ByteArray) (i : Nat) : Nat :=
  b[i]!.toNat * 16777216 + b[i + 1]!.toNat * 65536 + b[i + 2]!.toNat * 256 + b[i + 3]!.toNat

/-- A chunk type's letters as a message shows them. -/
def typeLetters (t : ByteArray) : String :=
  String.join (t.toList.map fun b =>
    let c := Char.ofNat b.toNat
    if c = '\'' then "\\'" else Text.escapeForMessage c)

/-- Whether bit 5 of the type's `k`-th letter is set (a lowercase letter). -/
def typeBit (t : ByteArray) (k : Nat) : Bool := t[k]! &&& 32 ≠ 0

/-- Whether a chunk type is critical: its first letter is uppercase. -/
def isCritical (t : ByteArray) : Bool := !typeBit t 0

/-- A chunk type as a message shows it, with its four property bits. -/
def typeDescription (t : ByteArray) : String :=
  "ChunkType \x7b type: " ++ typeLetters t ++ ", critical: " ++ toString (isCritical t) ++
    ", private: " ++ toString (typeBit t 1) ++ ", reserved: " ++ toString (typeBit t 2) ++
    ", safecopy: " ++ toString (typeBit t 3) ++ " \x7d"

/-- The type bytes of a named chunk. -/
def typeOf (name : String) : ByteArray := name.toUTF8

/-- The critical chunk types a decoder knows. -/
def knownCritical : List String := ["IHDR", "PLTE", "IDAT", "IEND"]

/-- A malformed-PNG failure. -/
def malformed (detail : String) : ImageError := .malformed .png detail

/-- The name of a colour type. -/
def colorName : Nat → String
  | 0 => "Grayscale" | 2 => "Rgb" | 3 => "Indexed" | 4 => "GrayscaleAlpha" | _ => "Rgba"

/-- The name of a bit depth. -/
def depthName : Nat → String
  | 1 => "One" | 2 => "Two" | 4 => "Four" | 8 => "Eight" | _ => "Sixteen"

/-- Whether a colour type allows a bit depth. -/
def depthAllowed : Nat → Nat → Bool
  | 0, d => d ∈ [1, 2, 4, 8, 16]
  | 3, d => d ∈ [1, 2, 4, 8]
  | _, d => d ∈ [8, 16]

/-- The byte at offset `i` of a chunk's data, or a short read. -/
def field (d : ByteArray) (i : Nat) : Except ImageError Nat :=
  match d[i]? with
  | some b => .ok b.toNat
  | none => .error ImageError.shortRead

/-- Reads the `IHDR` data, checking its fields in order. -/
def readHeader (d : ByteArray) : Except ImageError Header := do
  if d.size < 8 then throw ImageError.shortRead
  let width := u32 d 0
  let height := u32 d 4
  if width = 0 ∨ height = 0 then throw (malformed "Invalid image dimensions")
  let depth ← field d 8
  unless depth ∈ [1, 2, 4, 8, 16] do
    throw (malformed ("Invalid bit depth " ++ toString depth ++ "."))
  let color ← field d 9
  unless color ∈ [0, 2, 3, 4, 6] do
    throw (malformed ("Invalid color type " ++ toString color ++ "."))
  unless depthAllowed color depth do
    throw (malformed ("Invalid color/depth combination in header: " ++ colorName color ++
      "/" ++ depthName depth))
  let compression ← field d 10
  if compression ≠ 0 then
    throw (malformed ("Unknown compression method " ++ toString compression ++ "."))
  let filter ← field d 11
  if filter ≠ 0 then
    throw (malformed ("Unknown filter method " ++ toString filter ++ "."))
  let interlace ← field d 12
  if interlace > 1 then
    throw (malformed ("Unknown interlace method " ++ toString interlace ++ "."))
  pure { width, height, bitDepth := depth, colorType := color, interlaced := interlace = 1 }

/-- What the header stage learns: the header, whether a palette and a transparency chunk
were seen, the size of the first frame when a frame control chunk gave one, and the offset
of the first `IDAT` chunk's length field. -/
structure Prelude where
  header : Header
  hasPalette : Bool
  hasTransparency : Bool
  frame : Option (Nat × Nat)
  firstData : Nat

/-- What the header stage has seen so far. -/
structure Seen where
  header : Option Header := none
  palette : Bool := false
  transparency : Bool := false
  frame : Option (Nat × Nat) := none

/-- Checks a frame control chunk (`fcTL`) before the image data: its dispose and blend
operations, then a nonzero size that fits the image at its offset. It gives the size of
the first frame. -/
def readFrameControl (h : Header) (d : ByteArray) : Except ImageError (Nat × Nat) := do
  if d.size < 26 then throw ImageError.shortRead
  let width := u32 d 4
  let height := u32 d 8
  let x := u32 d 12
  let y := u32 d 16
  let dispose := d[24]!.toNat
  let blend := d[25]!.toNat
  if dispose > 2 then throw (malformed ("Invalid dispose operation " ++ toString dispose ++ "."))
  if blend > 1 then throw (malformed ("Invalid blend operation " ++ toString blend ++ "."))
  if width = 0 ∨ height = 0 then throw (malformed "Invalid image dimensions")
  if x + width > h.width ∨ y + height > h.height then
    throw (malformed "Sub frame is out-of-bounds.")
  pure (width, height)

/-- Whether a transparency chunk gives the image an alpha channel: grey needs two bytes,
RGB six, and an indexed image its palette first. -/
def transparencyApplies (h : Header) (palette : Bool) (len : Nat) : Bool :=
  match h.colorType with
  | 0 => len ≥ 2
  | 2 => len ≥ 6
  | 3 => palette
  | _ => false

/-- The CRC failure of a chunk whose stored and computed checksums differ. -/
def crcError (t : ByteArray) (stored computed : Nat) : ImageError :=
  malformed ("CRC error: expected 0x" ++ Text.hexDigits stored ++ " have 0x" ++
    Text.hexDigits computed ++ " while decoding " ++ typeDescription t ++ " chunk.")

/-- The stored and the computed CRC of the chunk at `pos` with data length `len`. -/
def chunkCrcs (b : ByteArray) (pos len : Nat) : Nat × Nat :=
  (u32 b (pos + 8 + len), (Crc32.checksum (b.extract (pos + 4) (pos + 8 + len))).toNat)

/-- Walks the chunks from `pos` up to the first `IDAT`; `fuel` bounds the chunk count.
A checksum is checked for critical chunks only: a damaged ancillary chunk is read as it is. -/
def walkHeader (b : ByteArray) : Nat → Nat → Seen → Except ImageError Prelude
  | 0, _, _ => throw ImageError.endOfFile
  | fuel + 1, pos, seen => do
    if b.size < pos + 8 then throw ImageError.endOfFile
    let len := u32 b pos
    let t := b.extract (pos + 4) (pos + 8)
    let name := String.fromUTF8? t
    if seen.header.isNone ∧ name ≠ some "IHDR" then
      throw (malformed (typeDescription t ++ " chunk appeared before IHDR chunk"))
    if name = some "IDAT" then
      match seen.header with
      | some h =>
        return { header := h, hasPalette := seen.palette, hasTransparency := seen.transparency,
                 frame := seen.frame, firstData := pos }
      | none => throw ImageError.endOfFile
    if isCritical t ∧ !(knownCritical.any fun k => name = some k) then
      throw (malformed ("Unrecognized critical chunk: " ++ typeDescription t))
    if b.size < pos + 12 + len then throw ImageError.endOfFile
    let (stored, computed) := chunkCrcs b pos len
    if isCritical t ∧ stored ≠ computed then throw (crcError t stored computed)
    let data := b.extract (pos + 8) (pos + 8 + len)
    let next := pos + 12 + len
    match name, seen.header with
    | some "IHDR", _ =>
      if seen.header.isSome then
        throw (malformed ("Chunk " ++ typeDescription t ++ " must appear at most once."))
      if len ≠ 13 then throw (malformed ("Chunk length wrong: " ++ typeDescription t))
      let h ← readHeader data
      walkHeader b fuel next { seen with header := some h }
    | some "PLTE", _ => walkHeader b fuel next { seen with palette := true }
    | some "tRNS", some h =>
      walkHeader b fuel next
        { seen with transparency := seen.transparency || transparencyApplies h seen.palette len }
    | some "fcTL", some h =>
      let frame ← readFrameControl h data
      walkHeader b fuel next { seen with frame := some frame }
    | some "IEND", _ => throw (malformed "IDAT or fdAT chunk is missing.")
    | _, _ => walkHeader b fuel next seen

/-- Reads a PNG file up to its image data. -/
def readPrelude (b : ByteArray) : Except ImageError Prelude :=
  if b.size < 8 then .error ImageError.endOfFile
  else walkHeader b b.size 8 {}

/-- The samples per pixel of a colour type. -/
def channels : Nat → Nat
  | 0 => 1 | 2 => 3 | 3 => 1 | 4 => 2 | _ => 4

/-- The bytes per pixel of the decoded image: low depths and palettes are widened to eight
bits per sample, a palette to three samples, and a transparency chunk adds an alpha
sample. -/
def outputBytesPerPixel (h : Header) (transparency : Bool) : Nat :=
  let samples := if h.colorType = 3 then 3 else channels h.colorType
  let samples := if transparency then samples + 1 else samples
  samples * (if h.bitDepth = 16 then 2 else 1)

/-- The passes of the image as (columns, rows): seven reduced images when interlaced. -/
def passes (h : Header) : List (Nat × Nat) :=
  if h.interlaced then
    let shape := [(0, 0, 8, 8), (4, 0, 8, 8), (0, 4, 4, 8), (2, 0, 4, 4), (0, 2, 2, 4),
      (1, 0, 2, 2), (0, 1, 1, 2)]
    let count (size start step : Nat) := if size > start then (size - start + step - 1) / step else 0
    (shape.map fun (x0, y0, dx, dy) => (count h.width x0 dx, count h.height y0 dy)).filter
      fun (w, r) => w > 0 ∧ r > 0
  else [(h.width, h.height)]

/-- The length of one stored row of `w` pixels, its filter byte included. -/
def rowLength (h : Header) (w : Nat) : Nat :=
  (w * channels h.colorType * h.bitDepth + 7) / 8 + 1

/-- Checks the filter bytes of the rows held in `data`: the first bad filter byte, or the
number of rows that are complete. -/
def checkRows (h : Header) (data : ByteArray) : Except ImageError Bool := Id.run do
  let mut pos := 0
  for (w, rows) in passes h do
    let len := rowLength h w
    for _ in [0:rows] do
      if pos + len > data.size then return .ok false
      let f := data[pos]!
      if f > 4 then return .error (malformed ("Unknown filter method " ++ toString f.toNat ++ "."))
      pos := pos + len
  return .ok true

/-- What reading the `IDAT` sequence found: its data, whether the file ended inside it,
the first CRC failure, and whether the header of the following chunk is present. -/
structure DataChunks where
  data : ByteArray := ByteArray.empty
  cutShort : Bool := false
  crcFailure : Option ImageError := none

/-- Reads consecutive `IDAT` chunks from `pos`; `fuel` bounds the chunk count. -/
def readData (b : ByteArray) : Nat → Nat → DataChunks → DataChunks
  | 0, _, acc => acc
  | fuel + 1, pos, acc =>
    if b.size < pos + 8 then { acc with cutShort := true }
    else
      let len := u32 b pos
      let t := b.extract (pos + 4) (pos + 8)
      if String.fromUTF8? t ≠ some "IDAT" then acc
      else
        let avail := min len (b.size - (pos + 8))
        let data := acc.data ++ b.extract (pos + 8) (pos + 8 + avail)
        if b.size < pos + 12 + len then { acc with data, cutShort := true }
        else
          let (stored, computed) := chunkCrcs b pos len
          let crcFailure := acc.crcFailure <|>
            (if stored ≠ computed then some (crcError t stored computed) else none)
          readData b fuel (pos + 12 + len) { acc with data, crcFailure }

/-- The dimensions of a PNG file. -/
def dimensions (b : ByteArray) : Except ImageError (Nat × Nat) := do
  let p ← readPrelude b
  pure (p.header.width, p.header.height)

/-- Decodes a PNG file far enough to know that every row is present and well formed. -/
def decode (b : ByteArray) : Except ImageError Unit := do
  let p ← readPrelude b
  let h := p.header
  if h.width * h.height * outputBytesPerPixel h p.hasTransparency > decodeMemoryLimit then
    throw ImageError.memoryLimit
  if h.colorType = 3 ∧ !p.hasPalette then throw (malformed "Missing palette of indexed image.")
  let chunks := readData b b.size p.firstData {}
  let (outcome, raw) := Inflate.zlib chunks.data
  match outcome with
  | .fault f => throw (malformed ("Corrupt deflate stream. " ++ f.name))
  | _ => pure ()
  let frameHeader := match p.frame with
    | some (width, height) => { h with width, height }
    | none => h
  let complete ← checkRows frameHeader raw
  if let some e := chunks.crcFailure then throw e
  if chunks.cutShort then throw ImageError.endOfFile
  unless complete do
    if outcome = .truncated then throw (malformed "Corrupt deflate stream. InsufficientInput")
    throw (malformed "IDAT or fDAT chunk does not have enough data for image.")

end Png

end ImageStudio
