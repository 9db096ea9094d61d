import ImageStudio.Image.Error
import ImageStudio.Text.Quoted

/-!
# Image · Jpeg: reading the headers of a JPEG file

A JPEG file is a start-of-image marker, then marker segments up to the start of the scan.
The headers are read segment by segment, the way a lenient decoder does it:

* fill bytes `0xFF` (and stuffed zeros after them) before a marker are skipped;
* a frame header (baseline, extended or progressive) gives the precision, which must be 8,
  the height and width, which must not be zero, and the components, whose count fixes the
  segment's length;
* quantisation and Huffman tables are checked for their sizes;
* the restart interval segment must have length 4;
* the other segments are skipped by their length;
* the start-of-scan header is checked against the frame's components.

Application segments 0, 1, 2 and 14 have their own checks (a motion-JPEG mark, the Exif
length, an ICC profile within the file, the Adobe colour transform).

Running out of bytes in the middle of a field is an input error that names how many bytes
the field needed and how many were left.

Decoding checks that the tables the components use are defined, then reads the segments
after the scan. Decoding the scan data itself never fails here: a lenient decoder fills a
short scan with zeros.
-/

namespace ImageStudio

namespace Jpeg

/-- A malformed-JPEG failure with a plain detail. -/
def malformed (detail : String) : ImageError := .malformed .jpeg detail

/-- A malformed-JPEG failure whose detail is printed quoted. -/
def malformedQuoted (detail : String) : ImageError := malformed (Text.quoteForMessage detail)

/-- The failure of a read that needed `expected` bytes and found `found`. -/
def short (expected found : Nat) : ImageError :=
  malformed ("I/O errors Not enough bytes, expected " ++ toString expected ++ " but found " ++
    toString found ++ "\n")

/-- A component of the frame: its id, its name, its quantisation table and the Huffman
tables the scan chose for it. -/
structure Component where
  id : Nat
  name : String
  quant : Nat
  dc : Nat := 0
  ac : Nat := 0
  deriving Repr, Inhabited

/-- The name of a component: by its id when that is 1 to 4, else by its place. -/
def componentName (place id : Nat) : String :=
  match if 1 ≤ id ∧ id ≤ 4 then id - 1 else place with
  | 0 => "Y"
  | 1 => "Cb"
  | 2 => "Cr"
  | _ => "Q"

/-- Sets the Huffman tables of the first component with an id. -/
def chooseTables (cs : List Component) (id dc ac : Nat) : List Component :=
  match cs with
  | [] => []
  | c :: rest => if c.id = id then { c with dc, ac } :: rest else c :: chooseTables rest id dc ac

/-- What the headers have told so far. -/
structure Headers where
  pos : Nat := 0
  width : Nat := 0
  height : Nat := 0
  components : List Component := []
  seenFrame : Bool := false
  progressive : Bool := false
  /-- The places of the quantisation tables defined. -/
  quantTables : List Nat := []
  /-- The places of the DC and AC Huffman tables defined. -/
  dcTables : List Nat := []
  acTables : List Nat := []
  /-- Whether an `AVI1` application segment marks a motion-JPEG frame, whose missing
  Huffman tables are the standard ones. -/
  motion : Bool := false
  /-- The number of colour components the input colour space has. -/
  colorComponents : Nat := 3

/-- Reads `n` bytes at the current position as a big-endian number. -/
def take (b : ByteArray) (s : Headers) (n : Nat) : Except ImageError (Nat × Headers) :=
  if s.pos + n ≤ b.size then
    .ok ((List.range n).foldl (fun acc k => acc * 256 + b[s.pos + k]!.toNat) 0,
      { s with pos := s.pos + n })
  else .error (short n (b.size - min s.pos b.size))

/-- Skips `n` bytes (past the end if need be). -/
def skip (s : Headers) (n : Nat) : Headers := { s with pos := s.pos + n }

/-- Reads a frame header (the marker already read). -/
def frame (b : ByteArray) (s : Headers) (progressive : Bool) : Except ImageError Headers := do
  if s.seenFrame then throw (malformed "Error parsing SOF segment. Reason:Two Start of Frame Markers")
  let (length, s) ← take b s 2
  let (precision, s) ← take b s 1
  if precision ≠ 8 then
    throw (malformed ("Error parsing SOF segment. Reason:The library can only parse 8-bit images, the image has " ++
      toString precision ++ " bits of precision"))
  let (height, s) ← take b s 2
  let (width, s) ← take b s 2
  if width = 0 ∨ height = 0 then
    throw (malformed "Image width or height is set to zero, cannot continue")
  let (count, s) ← take b s 1
  if count = 0 then
    throw (malformed "Error parsing SOF segment. Reason:Number of components cannot be zero.")
  let expected := 8 + 3 * count
  if length ≠ expected then
    throw (malformed ("Error parsing SOF segment. Reason:Length of start of frame differs from expected " ++
      toString expected ++ ",value is " ++ toString length))
  let colorComponents := if count = 1 then 1
    else if count = 4 ∧ s.colorComponents = 3 then 4 else s.colorComponents
  let mut cur := s
  let mut components : List Component := []
  for k in [0:count] do
    let (triple, next) ← take b cur 3
    cur := next
    let id := triple / 65536
    if k ≥ 4 ∧ (id = 0 ∨ id > 4) then
      throw (malformedQuoted ("Unknown component id found," ++ toString k ++
        ", expected value between 1 and 4"))
    let sampling := triple / 256 % 256
    let table := triple % 256
    if table ≥ 4 then
      throw (malformedQuoted ("Too large quantization number :" ++ toString table ++
        ", expected value between 0 and 4"))
    if sampling / 16 = 0 ∨ sampling % 16 = 0 then
      throw (malformedQuoted "Sampling factors cannot be zero")
    components := components ++ [{ id, name := componentName k id, quant := table }]
  pure { cur with width, height, components, seenFrame := true, progressive, colorComponents }

/-- Reads quantisation tables (the marker already read). -/
def quantization (b : ByteArray) (s : Headers) : Except ImageError Headers := do
  let (length, s) ← take b s 2
  if length < 2 then throw (malformedQuoted "Invalid DQT length")
  let mut left := length - 2
  let mut cur := s
  for _ in [0:length] do
    if left = 0 then break
    let (info, next) ← take b cur 1
    cur := next
    let precision := info / 16
    let position := info % 16
    let size := 64 * (precision + 1)
    if size + 1 > left then
      throw (malformed ("Error parsing DQT segment. Reason:Invalid QT table bytes left :" ++
        toString left ++ ". Too small to construct a valid qt table which should be " ++
        toString (size + 1) ++ " long"))
    if precision > 1 then
      throw (malformed ("Error parsing DQT segment. Reason:Expected QT precision value of either 0 or 1, found " ++
        toString precision))
    if precision = 0 then
      let (_, next) ← take b cur 64
      cur := next
    else
      for _ in [0:64] do
        let (_, next) ← take b cur 2
        cur := next
    left := left - (size + 1)
    if position ≥ 4 then
      throw (malformed ("Error parsing DQT segment. Reason:Too large table position for QT :" ++
        toString position ++ ", expected between 0 and 3"))
    cur := { cur with quantTables := position :: cur.quantTables }
  pure cur

/-- Whether code counts describe a usable Huffman table: no length overflows its codes. -/
def countsFit (counts : List Nat) : Bool :=
  let step := fun (acc : Option Nat) (c : Nat) =>
    acc.bind fun room => if c ≤ room then some ((room - c) * 2) else none
  (counts.foldl step (some 2)).isSome

/-- Reads Huffman tables (the marker already read). -/
def huffman (b : ByteArray) (s : Headers) : Except ImageError Headers := do
  let (length, s) ← take b s 2
  if length < 2 then throw (malformedQuoted "Invalid Huffman length in image")
  let mut left : Int := length - 2
  let mut cur := s
  for _ in [0:length] do
    if left ≤ 16 then break
    let (info, next) ← take b cur 1
    cur := next
    let kind := info / 16
    let index := info % 16
    if index ≥ 4 then
      throw (malformed ("Error decoding huffman values: Invalid DHT index " ++ toString index ++
        ", expected between 0 and 3"))
    if kind > 1 then
      throw (malformed ("Error decoding huffman values: Invalid DHT position " ++ toString kind ++
        ", should be 0 or 1"))
    if cur.pos + 16 > b.size then throw (short 16 (b.size - min cur.pos b.size))
    let counts := (List.range 16).map fun k => b[cur.pos + k]!.toNat
    cur := skip cur 16
    left := left - 17
    let total : Nat := counts.foldl (· + ·) 0
    if total > 256 then
      throw (malformedQuoted "Encountered Huffman table with excessive length in DHT")
    if (total : Int) > left then
      throw (malformed ("Error decoding huffman values: Excessive Huffman table of length " ++
        toString total ++ " found when header length is " ++ toString left))
    left := left - total
    if cur.pos + total > b.size then
      throw (malformedQuoted ("Could not read symbols into the buffer\nNot enough bytes, expected " ++
        toString total ++ " but found " ++ toString (b.size - min cur.pos b.size) ++ "\n"))
    cur := skip cur total
    unless countsFit counts do
      throw (malformed "Error decoding huffman values: Bad Huffman Table")
    cur := if kind = 0 then { cur with dcTables := index :: cur.dcTables }
      else { cur with acTables := index :: cur.acTables }
  if left > 0 then throw (malformedQuoted "Bogus Huffman table definition")
  pure cur

/-- Reads the start-of-scan header (the marker already read). -/
def scan (b : ByteArray) (s : Headers) : Except ImageError Headers := do
  let (length, s) ← take b s 2
  let (count, s) ← take b s 1
  if length ≠ 6 + 2 * count then
    throw (malformed ("Error parsing SOS Segment. Reason:Bad SOS length " ++ toString length ++
      ",corrupt jpeg"))
  if count = 0 ∨ count > 4 then
    throw (malformed ("Error parsing SOS Segment. Reason:Number of components in start of scan should be less than 3 but more than 0. Found " ++
      toString count))
  if s.components.isEmpty then
    throw (malformedQuoted "Error decoding SOF Marker, Number of components cannot be zero.")
  let mut cur := s
  let mut seen : List Nat := []
  for _ in [0:count] do
    let (id, next) ← take b cur 1
    cur := next
    if id ∈ seen then
      throw (malformed ("Error parsing SOF segment. Reason:Duplicate ID " ++ toString id ++
        " seen twice in the same component"))
    seen := seen ++ [id]
    let (tables, next) ← take b cur 1
    cur := next
    unless s.components.any (·.id = id) do
      throw (malformed ("Error parsing SOF segment. Reason:Invalid component id " ++ toString id ++
        ", expected one one of [" ++ ", ".intercalate (s.components.map (toString ·.id)) ++ "]"))
    cur := { cur with components := chooseTables cur.components id (tables / 16) (tables % 16) }
  let (start, next) ← take b cur 1
  let (stop, next) ← take b next 1
  let (approx, next) ← take b next 1
  if stop > 63 then
    throw (malformed ("Error parsing SOS Segment. Reason:Invalid Se parameter " ++ toString stop ++
      ", range should be 0-63"))
  if start > 63 then
    throw (malformed ("Error parsing SOS Segment. Reason:Invalid Ss parameter " ++ toString start ++
      ", range should be 0-63"))
  if approx / 16 > 13 then
    throw (malformed ("Error parsing SOS Segment. Reason:Invalid Ah parameter " ++
      toString (approx / 16) ++ ", range should be 0-13"))
  if approx % 16 > 13 then
    throw (malformed ("Error parsing SOS Segment. Reason:Invalid Al parameter " ++
      toString (approx % 16) ++ ", range should be 0-13"))
  pure next

/-- Skips a segment by its length (the marker already read). -/
def skipSegment (b : ByteArray) (s : Headers) : Except ImageError Headers := do
  let (length, s) ← take b s 2
  if length < 2 then
    throw (malformedQuoted ("Found a marker with invalid length:" ++ toString length ++ "\n"))
  pure (skip s (length - 2))

/-- Reads a two-byte length leniently: bytes past the end read as zero. -/
def lenientLength (b : ByteArray) (s : Headers) : Nat × Headers :=
  if s.pos + 2 ≤ b.size then (b[s.pos]!.toNat * 256 + b[s.pos + 1]!.toNat, skip s 2)
  else if s.pos + 1 = b.size then (b[s.pos]!.toNat * 256, skip s 1)
  else (0, s)

/-- Reads application segment 0; a motion-JPEG frame is marked by `AVI1` and a zero byte at
its start. When those five bytes are read, the rest is skipped as if the length counted
seven bytes before it, so a length of 6 skips one byte more. -/
def appZero (b : ByteArray) (s : Headers) : Except ImageError Headers := do
  let (length, s) ← take b s 2
  if length < 2 then
    throw (malformedQuoted ("Found a marker with invalid length:" ++ toString length ++ "\n"))
  if length > 5 ∧ s.pos + 5 ≤ b.size then
    let tag := (List.range 5).map fun k => b[s.pos + k]!.toNat
    pure (skip { s with motion := s.motion || tag == [0x41, 0x56, 0x49, 0x31, 0] } (5 + (length - 7)))
  else pure (skip s (length - 2))

/-- Reads application segment 1 (Exif). -/
def appOne (b : ByteArray) (s : Headers) : Except ImageError Headers := do
  let (length, s) := lenientLength b s
  if length < 2 then throw (malformedQuoted "Too small app1 length")
  pure (skip s (length - 2))

/-- Reads application segment 2 (an ICC profile), which must lie within the file. -/
def appTwo (b : ByteArray) (s : Headers) : Except ImageError Headers := do
  let (length, s) := lenientLength b s
  if length < 2 ∨ b.size < s.pos + (length - 2) then throw (malformed "Exhausted data")
  pure (skip s (length - 2))

/-- Reads application segment 14: an Adobe segment names the colour transform, which fixes
the colour space (0: CMYK, 1: YCbCr, 2: YCCK). -/
def appAdobe (b : ByteArray) (s : Headers) : Except ImageError Headers := do
  let (length, s) := lenientLength b s
  if length < 2 ∨ b.size < s.pos + (length - 2) then throw (malformed "Exhausted data")
  if length < 14 then throw (malformedQuoted "Too short of a length for App14 segment")
  if (List.range 5).map (fun k => b[s.pos + k]!.toNat) == [0x41, 0x64, 0x6f, 0x62, 0x65] then
    let transform := b[s.pos + 11]!.toNat
    let colors ← match transform with
      | 0 | 2 => pure 4
      | 1 => pure 3
      | t => throw (malformedQuoted ("Unknown Adobe colorspace " ++ toString t))
    pure (skip { s with colorComponents := colors } (12 + (length - 14)))
  else pure (skip s (length - 2))

/-- The names of the frame types the decoder does not support. -/
def unsupportedFrame : Nat → Option String
  | 3 => some "LosslessHuffman"
  | 5 => some "DifferentialSequentialHuffman"
  | 6 => some "DifferentialProgressiveHuffman"
  | 7 => some "DifferentialLosslessHuffman"
  | 9 => some "ExtendedSequentialDctArithmetic"
  | 10 => some "ProgressiveDctArithmetic"
  | 11 => some "LosslessArithmetic"
  | 13 => some "DifferentialSequentialArithmetic"
  | 14 => some "DifferentialProgressiveArithmetic"
  | 15 => some "DifferentialLosslessArithmetic"
  | _ => none

/-- Reads one segment after its marker `m`; `true` when it was the start of the scan. -/
def segment (b : ByteArray) (s : Headers) (m : Nat) : Except ImageError (Bool × Headers) := do
  if m = 0xC0 ∨ m = 0xC1 then return (false, ← frame b s false)
  if m = 0xC2 then return (false, ← frame b s true)
  if m = 0xC4 then return (false, ← huffman b s)
  if m = 0xDB then return (false, ← quantization b s)
  if m = 0xDA then return (true, ← scan b s)
  if m = 0xE0 then return (false, ← appZero b s)
  if m = 0xE1 then return (false, ← appOne b s)
  if m = 0xE2 then return (false, ← appTwo b s)
  if m = 0xEE then return (false, ← appAdobe b s)
  if m = 0xD9 then throw (malformedQuoted "Premature End of image")
  if m = 0xCC ∨ m = 0xDC then
    throw (malformedQuoted ("Parsing of the following header " ++
      (if m = 0xCC then "DAC" else "DNL") ++ " is not supported,cannot continue"))
  if m = 0xDD then
    let (length, s) ← take b s 2
    if length ≠ 4 then throw (malformedQuoted "Bad DRI length, Corrupt JPEG")
    let (_, s) ← take b s 2
    return (false, s)
  if 0xC3 ≤ m ∧ m ≤ 0xCF ∧ m ≠ 0xC4 ∧ m ≠ 0xC8 ∧ m ≠ 0xCC then
    match unsupportedFrame (m - 0xC0) with
    | some name => throw (.unsupportedFeature .jpeg name)
    | none => throw (malformedQuoted "Unsupported image format")
  return (false, ← skipSegment b s)

/-- Reads the headers from the current position to the start of the scan; `last` is the
previous byte read and `fuel` bounds the bytes read. -/
def markers (b : ByteArray) : Nat → Headers → Nat → Except ImageError Headers
  | 0, _, _ => throw (short 1 0)
  | fuel + 1, start, prev => do
    let (first, afterFirst) ← take b start 1
    let mut m := first
    let mut last := prev
    let mut cur := afterFirst
    if (m = 0xFF ∨ m = 0) ∧ last = 0xFF then
      for _ in [0:b.size] do
        if m ≠ 0xFF ∧ m ≠ 0 then break
        last := m
        let (byte, next) ← take b cur 1
        m := byte
        cur := next
    if last = 0xFF ∧ m ≠ 0xFF then
      let known := m = 0xFE ∨ (0xC0 ≤ m ∧ m ≤ 0xCF ∧ m ≠ 0xC8) ∨ (0xD0 ≤ m ∧ m ≤ 0xDD) ∨
        (0xE0 ≤ m ∧ m ≤ 0xEF)
      if known then
        let (done, after) ← segment b cur m
        if done then return after
        markers b fuel after m
      else
        let (length, after) ← take b cur 2
        if length < 2 then
          throw (malformedQuoted ("Found a marker with invalid length : " ++ toString length))
        markers b fuel (skip after (length - 2)) m
    else markers b fuel cur m

/-- Reads the headers of a JPEG file up to its scan. -/
def headers (b : ByteArray) : Except ImageError Headers := do
  let (magic, s) ← take b {} 2
  if magic ≠ 0xFFD8 then
    throw (malformed ("Error parsing image. Illegal start bytes:" ++
      String.map Char.toUpper (Text.hexDigits magic)))
  markers b (b.size + 1) s 0

/-- The dimensions of a JPEG file. -/
def dimensions (b : ByteArray) : Except ImageError (Nat × Nat) := do
  let h ← headers b
  pure (h.width, h.height)

/-! ## Decoding -/

/-- Whether a marker byte names a marker the decoder knows. -/
def knownMarker (m : Nat) : Bool :=
  m = 0xFE ∨ (0xC0 ≤ m ∧ m ≤ 0xCF ∧ m ≠ 0xC8) ∨ (0xD0 ≤ m ∧ m ≤ 0xDD) ∨ (0xE0 ≤ m ∧ m ≤ 0xEF)

/-- The position of the next marker at or after `pos` in entropy-coded data: a `0xFF`
followed by a byte that is not a stuffed zero, a fill byte or a restart marker. `fuel`
bounds the bytes looked at. -/
def nextMarker (b : ByteArray) : Nat → Nat → Option Nat
  | 0, _ => none
  | fuel + 1, pos =>
    if b.size ≤ pos + 1 then none
    else if b[pos]!.toNat = 0xFF then
      let m := b[pos + 1]!.toNat
      if m = 0 ∨ m = 0xFF ∨ (0xD0 ≤ m ∧ m ≤ 0xD7) then nextMarker b fuel (pos + 1) else some pos
    else nextMarker b fuel (pos + 1)

/-- Reads the segments that follow a scan, up to the end of the image: a scan's data is
skipped to the next marker, and each segment is read as in the headers. The data may end
first, or at a marker the decoder does not know; either ends the image. `fuel` bounds the
segments. -/
def afterScans (b : ByteArray) : Nat → Headers → Except ImageError Unit
  | 0, _ => pure ()
  | fuel + 1, s =>
    match nextMarker b (b.size + 1) s.pos with
    | none => pure ()
    | some p =>
      let m := b[p + 1]!.toNat
      if m = 0xD9 ∨ !knownMarker m then pure ()
      else do
        let (_, next) ← segment b { s with pos := p + 2 } m
        afterScans b fuel next

/-- The Huffman tables a motion-JPEG frame may leave out: the standard ones at places 0
and 1. -/
def standardTables (h : Headers) : List Nat := if h.motion then [0, 1] else []

/-- Checks that a component's tables are defined: its quantisation table, then for a
sequential image its DC and AC tables (a place past 3 is no table at all). -/
def checkTables (h : Headers) : Except ImageError Unit := do
  for c in h.components do
    unless c.quant ∈ h.quantTables do
      throw (malformed ("Error parsing DQT segment. Reason:No quantization table for component " ++
        c.name))
  if h.progressive then return
  for c in h.components do
    if c.dc ≥ 4 then
      throw (malformed ("Error decoding huffman values: No Huffman DC table for component " ++
        c.name ++ " "))
    unless c.dc ∈ h.dcTables ∨ c.dc ∈ standardTables h do
      throw (malformed ("Error decoding huffman values: No DC table for component " ++ c.name))
    if c.ac ≥ 4 then
      throw (malformed ("Error decoding huffman values: No Huffman AC table for component " ++
        c.name ++ " "))
    unless c.ac ∈ h.acTables ∨ c.ac ∈ standardTables h do
      throw (malformed ("Error decoding huffman values: No AC table for component " ++ c.name))

/-- The samples per pixel of the decoded image: grey for one component, else RGB. -/
def outputSamples (h : Headers) : Nat := if h.components.length = 1 then 1 else 3

/-- Decodes a JPEG file far enough to know that it is sound: the image must fit in memory,
every table its components use must be defined, a sequential image's colour space must not
need more components than the frame has, and the segments after the scan must read. The
scan data itself never fails: a short scan is filled with zeros. A progressive image needs
a marker after its first scan. -/
def decode (b : ByteArray) : Except ImageError Unit := do
  let h ← headers b
  if h.width * h.height * outputSamples h > decodeMemoryLimit then throw ImageError.memoryLimit
  checkTables h
  if h.progressive then
    if (nextMarker b (b.size + 1) h.pos).isNone then
      throw (malformedQuoted "Marker missing where expected")
  else if h.colorComponents > h.components.length then
    throw (malformedQuoted (" Expected " ++ toString h.colorComponents ++
      " number of components but found " ++ toString h.components.length))
  afterScans b (b.size + 1) h

end Jpeg

end ImageStudio
