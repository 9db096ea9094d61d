import ImageStudio.Image.WebP.Lossless
import ImageStudio.Image.WebP.Lossy

/-!
# Image · WebP: the container

A WebP file is a RIFF container whose first chunk is `VP8 ` (lossy), `VP8L` (lossless)
or `VP8X` (extended, with a canvas size). The dimensions come from that chunk's header:
a lossy frame's 14-bit sizes, a lossless header's 14-bit sizes plus one (kept to 14 bits,
so a size of 16384 reads as 0), or the extended header's canvas.

After an extended header the chunks are listed up to the end the RIFF size gives (counted,
as the decoder counts it, from the end of the extended header), and the first chunk of
each known name is kept. A frame chunk (`ANMF`) must hold its 24-byte header; the header
of its first sub-chunk is read while no lossy frame has been seen. Then the chunks the
flags promise must be there: `ANIM` and `ANMF` for an animation, `EXIF` and `XMP ` for
metadata, and exactly one of `VP8 ` and `VP8L` for a still image. An animation's `ANIM`
chunk must hold exactly six bytes, and the first sub-chunks of its first frame are kept
too.

Decoding reads the image data: the first frame of an animation (its header must fit the
canvas), else the lossless chunk, else the lossy chunk, whose frame must have the canvas
size, with its alpha chunk when the flags promise alpha. A chunk cut short by the end of
the file is simply shorter.
-/

namespace ImageStudio

namespace WebP

/-- The kind of image the first chunk holds. -/
inductive Kind where
  | lossy | lossless | extended
  deriving DecidableEq, Repr, Inhabited

/-- A chunk: its name and where its data starts and ends in the file. -/
structure Chunk where
  name : List Nat
  start : Nat
  stop : Nat
  deriving Repr, Inhabited

/-- What the container says. -/
structure Header where
  width : Nat
  height : Nat
  kind : Kind
  hasAlpha : Bool
  animated : Bool := false
  /-- The known chunks, the first of each name. -/
  chunks : List Chunk
  deriving Repr, Inhabited

/-- Whether four bytes spell a name. -/
def isNamed (f : List Nat) (name : String) : Bool := f == name.toUTF8.toList.map UInt8.toNat

/-- The chunk names the container knows. -/
def knownChunks : List String :=
  ["RIFF", "WEBP", "VP8 ", "VP8L", "VP8X", "ANIM", "ANMF", "ALPH", "ICCP", "EXIF", "XMP "]

/-- Adds a chunk unless one of its name is there already. -/
def addChunk (chunks : List Chunk) (c : Chunk) : List Chunk :=
  if chunks.any (·.name == c.name) then chunks else chunks ++ [c]

/-- The first chunk of a name. -/
def Header.find (h : Header) (name : String) : Option Chunk :=
  h.chunks.find? fun c => isNamed c.name name

/-- Lists the chunks after the extended header from `pos` while before `limit`; `lossy`
says whether a lossy frame was seen. The list ends where a chunk header no longer fits in
the file. `fuel` bounds the chunk count. -/
def walkChunks (b : ByteArray) (limit : Nat) :
    Nat → Nat → Bool → List Chunk → Except Fault (List Chunk)
  | 0, _, _, chunks => pure chunks
  | fuel + 1, pos, lossy, chunks => do
    if pos ≥ limit ∨ b.size < pos + 8 then return chunks
    let name := fourcc b pos
    let size := le b (pos + 4) 4
    let next := pos + 8 + size + size % 2
    let chunks := if knownChunks.any (isNamed name) then addChunk chunks ⟨name, pos + 8, pos + 8 + size⟩
      else chunks
    if !isNamed name "ANMF" then return ← walkChunks b limit fuel next lossy chunks
    if size < 24 then throw .chunkSize
    let _ ← readLe b (pos + 20) 4
    if lossy then return ← walkChunks b limit fuel next lossy chunks
    if b.size < pos + 32 then throw .shortRead
    let sub := fourcc b (pos + 24)
    walkChunks b limit fuel next (isNamed sub "VP8 " || isNamed sub "ALPH") chunks

/-- Adds the first sub-chunks of a frame chunk: at most two, from 16 bytes into its data,
and a second only when its header fits in the frame chunk. -/
def frameChunks (b : ByteArray) (frame : Chunk) (chunks : List Chunk) :
    Except Fault (List Chunk) := do
  let mut pos := frame.start + 16
  let mut chunks := chunks
  for _ in [0:2] do
    if b.size < pos + 8 then throw .shortRead
    let size := le b (pos + 4) 4
    chunks := addChunk chunks ⟨fourcc b pos, pos + 8, pos + 8 + size⟩
    pos := pos + 8 + size + size % 2
    if pos + 8 > frame.stop then break
  return chunks

/-- Reads the container header and the header of the first chunk, and for an extended
image its chunk list. -/
def readHeader (b : ByteArray) : Except Fault Header := do
  let _ ← readLe b 0 4
  let riffSize ← readLe b 4 4
  let _ ← readLe b 8 4
  let sig := fourcc b 8
  unless isNamed sig "WEBP" do throw (.webpSignature sig)
  let _ ← readLe b 12 4
  let name := fourcc b 12
  let size ← readLe b 16 4
  let start := 20
  let first : Chunk := ⟨name, start, start + size⟩
  if isNamed name "VP8 " then
    let tag ← readLe b start 3
    if tag % 2 ≠ 0 then throw .nonKeyframe
    let _ ← readLe b (start + 3) 3
    let magic := (List.range 3).map fun k => b[start + 3 + k]!.toNat
    unless magic == [0x9d, 0x01, 0x2a] do throw (.vp8Magic magic)
    let w ← readLe b (start + 6) 2
    let h ← readLe b (start + 8) 2
    let width := w % 16384
    let height := h % 16384
    if width = 0 ∨ height = 0 then throw .inconsistentSizes
    pure { width, height, kind := .lossy, hasAlpha := false, chunks := [first] }
  else if isNamed name "VP8L" then
    let signature ← readLe b start 1
    if signature ≠ 0x2f then throw (.losslessSignature signature)
    let header ← readLe b (start + 1) 4
    let version := header / Nat.pow 2 29
    if version ≠ 0 then throw (.version version)
    pure { width := (header + 1) % 16384, height := (header / 16384 + 1) % 16384,
           kind := .lossless, hasAlpha := header / Nat.pow 2 28 % 2 = 1, chunks := [first] }
  else if isNamed name "VP8X" then
    let flags ← readLe b start 1
    let _ ← readLe b (start + 1) 3
    let w ← readLe b (start + 4) 3
    let h ← readLe b (start + 7) 3
    if (w + 1) * (h + 1) ≥ Nat.pow 2 32 then throw .imageTooLarge
    let pos := start + size + size % 2
    let chunks ← walkChunks b (pos + (riffSize - 12)) (b.size + 1) pos false []
    let has := fun n => chunks.any fun c => isNamed c.name n
    let animated := flags / 2 % 2 = 1
    if (animated ∧ (!has "ANIM" ∨ !has "ANMF")) ∨ (flags / 8 % 2 = 1 ∧ !has "EXIF") ∨
        (flags / 4 % 2 = 1 ∧ !has "XMP ") ∨ (!animated ∧ has "VP8 " = has "VP8L") then
      throw .chunkMissing
    let header : Header := { width := w + 1, height := h + 1, kind := .extended,
                             hasAlpha := flags / 16 % 2 = 1, animated, chunks }
    if animated then
      let some anim := header.find "ANIM" | throw .chunkMissing
      if anim.stop - anim.start > 6 then throw .chunkSize
      if b.size < anim.stop ∨ anim.stop - anim.start < 6 then throw .shortRead
    match header.find "ANMF" with
    | some frame => pure { header with chunks := ← frameChunks b frame chunks }
    | none => pure header
  else throw (.chunkHeader name)

/-- The bytes of a chunk's data that the file holds. -/
def Chunk.data (c : Chunk) (b : ByteArray) : ByteArray := b.extract c.start c.stop

/-- Reads an alpha chunk for an image of the given size (each kept to 16 bits): a byte
of flags (preprocessing 0 or 1, compression 0 or 1), then the alpha values either raw or
as a headerless lossless bitstream. -/
def readAlpha (data : ByteArray) (width height : Nat) : Except Fault Unit := do
  let info ← readLe data 0 1
  if info / 16 % 4 > 1 then throw .alphaPreprocessing
  if info % 4 > 1 then throw .compressionMethod
  let width := width % 65536
  let height := height % 65536
  if info % 4 = 1 then decodeLosslessBytes (data.extract 1 data.size) width height true
  else if data.size < 1 + width * height then throw .shortRead

/-- Reads the first frame of an animation from its frame chunk at `pos`: the frame header
(a frame at most 16384 on a side, inside the canvas), then its lossy frame, its lossless
frame, or its alpha chunk followed by a lossy frame. Each sub-chunk must fit in the frame
chunk. -/
def readFirstFrame (b : ByteArray) (h : Header) (pos : Nat) : Except Fault Unit := do
  if b.size < pos + 8 then throw .shortRead
  let frameSize := le b (pos + 4) 4
  unless isNamed (fourcc b pos) "ANMF" ∧ frameSize ≥ 32 do
    throw (.chunkHeader ("ANMF".toUTF8.toList.map UInt8.toNat))
  let x := 2 * (← readLe b (pos + 8) 3)
  let y := 2 * (← readLe b (pos + 11) 3)
  let width := (← readLe b (pos + 14) 3) + 1
  let height := (← readLe b (pos + 17) 3) + 1
  if width > 16384 ∨ height > 16384 then throw .imageTooLarge
  if x + width > h.width ∨ y + height > h.height then throw .frameOutsideImage
  let _ ← readLe b (pos + 20) 4
  let sub := pos + 24
  if b.size < sub + 8 then throw .shortRead
  let name := fourcc b sub
  let size := le b (sub + 4) 4
  let rounded := size + size % 2
  if rounded + 24 > frameSize then throw (.chunkHeader name)
  let data := b.extract (sub + 8) (sub + 8 + size)
  if isNamed name "VP8 " then
    let (w, hh) ← decodeLossyFrame data
    if w ≠ width ∨ hh ≠ height then throw .inconsistentSizes
  else if isNamed name "VP8L" then
    decodeLosslessBytes data width height false
  else if isNamed name "ALPH" then
    if rounded + 32 > frameSize then throw (.chunkHeader name)
    readAlpha data width height
    let next := sub + 8 + rounded
    if b.size < next + 8 then throw .shortRead
    let nextSize := le b (next + 4) 4
    if size + nextSize + 32 > frameSize then throw (.chunkHeader (fourcc b next))
    let _ ← decodeLossyFrame (b.extract (next + 8) (next + 8 + nextSize))
  else throw (.chunkHeader name)

/-- Reads the image data a header points to. -/
def readImage (b : ByteArray) (h : Header) : Except Fault Unit := do
  if h.animated then
    match h.find "ANMF" with
    | some frame => readFirstFrame b h (frame.start - 8)
    | none => throw .chunkMissing
  else match h.find "VP8L" with
  | some c => decodeLosslessBytes (c.data b) h.width h.height false
  | none =>
    let some c := h.find "VP8 " | throw .chunkMissing
    let (w, hh) ← decodeLossyFrame (c.data b)
    if w ≠ h.width ∨ hh ≠ h.height then throw .inconsistentSizes
    if h.hasAlpha then
      let some a := h.find "ALPH" | throw .chunkMissing
      readAlpha (a.data b) h.width h.height

/-! ## Reading a file -/

/-- The dimensions of a WebP file. -/
def dimensions (b : ByteArray) : Except ImageError (Nat × Nat) := do
  let h ← (readHeader b).mapError Fault.toError
  pure (h.width, h.height)

/-- Decodes a WebP file far enough to know that it is sound. -/
def decode (b : ByteArray) : Except ImageError Unit := do
  let h ← (readHeader b).mapError Fault.toError
  if h.width * h.height * (if h.hasAlpha then 4 else 3) > decodeMemoryLimit then
    throw ImageError.memoryLimit
  (readImage b h).mapError Fault.toError

end WebP

end ImageStudio
