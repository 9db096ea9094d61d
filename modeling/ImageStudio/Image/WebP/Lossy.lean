import ImageStudio.Image.WebP.Fault
import ImageStudio.Image.WebP.LossyTables

/-!
# Image · WebP · Lossy: reading a lossy frame

A lossy frame is read far enough to know that it is sound: its header, its partitions,
the header of every macroblock and the tokens of every block. Predicting, transforming and
filtering the pixels cannot fail, so they are not done; the values of the coefficients
are not needed either, only whether each block had any, which steers the next block's
probabilities.

## The boolean decoder

Every field after the first ten bytes is read with a boolean decoder: a bit is zero with a
given probability out of 256. The decoder keeps an interval width between 128 and 255 and
a window of eight bits of the data; reading a bit splits the interval at
`1 + (width - 1) * prob / 256`, compares the window with the split, keeps the part the
window is in and shifts both until the width is at least 128 again. Bytes are loaded one
at a time as the window needs them. One zero byte past the end of a partition may be
loaded; a read that needs another is a corrupt bitstream. A decoder that has run past its
data would only read zeros from then on, and zeros steer no check but the end of the data,
so failing at once reports what the frame would report.

## The frame

The first ten bytes are the frame tag (a key frame, and the size of the first partition),
the start code `9d 01 2a`, and the width and height (14 bits each). The first partition
holds the frame header and the macroblock headers; the other partitions hold the tokens,
one partition for each row of macroblocks in turn. The sizes of all token partitions but
the last stand in three bytes each after the first partition, and the last takes the rest
of the chunk. In a partition size the third byte is weighed as the second one:
`b₀ + 256 · (b₁ ||| b₂)`.

The frame header gives the colour space (which must be 0), the segmentation, the loop
filter, the number of token partitions, the quantisers, the updates of the token
probabilities and the probability that a macroblock skips its tokens. A macroblock header
gives the segment, the skip flag, the luma prediction mode (with sixteen sub-block modes,
each read with probabilities chosen by the sub-block modes above and on the left), and the
chroma mode. A block's tokens are read with the probabilities of its type, the band of the
position and a context: at the first position, how many of the blocks above and on the
left had tokens; later, whether the previous coefficient was zero, one or more.
-/

namespace ImageStudio

namespace WebP

/-! ## The boolean decoder -/

/-- A boolean decoder over the bytes of one partition. -/
structure BoolReader where
  data : ByteArray
  /-- The next byte to load. -/
  pos : Nat := 0
  /-- The bits loaded and not yet shifted out; the window is the top eight of `held`. -/
  value : Nat := 0
  /-- The width of the current interval. -/
  range : Nat := 255
  /-- How many bits of `value` are held. -/
  held : Nat := 0
  deriving Inhabited

/-- Reading with a boolean decoder; the failure is a fault of the file. -/
abbrev BoolReading := StateT BoolReader (Except Fault)

/-- Loads a byte when fewer than eight bits are held. One zero byte may be loaded past the
data; a load after it is a corrupt bitstream. -/
def BoolReader.fill (r : BoolReader) : Except Fault BoolReader :=
  if r.held ≥ 8 then .ok r
  else if r.pos < r.data.size then
    .ok { r with value := r.value * 256 + r.data[r.pos]!.toNat, pos := r.pos + 1,
                 held := r.held + 8 }
  else if r.pos = r.data.size then
    .ok { r with value := r.value * 256, pos := r.pos + 1, held := r.held + 8 }
  else .error .bitStream

/-- Reads a bit that is zero with probability `prob / 256`. -/
def readBool (prob : Nat) : BoolReading Bool := do
  let r ← StateT.lift (BoolReader.fill (← get))
  let split := 1 + (r.range - 1) * prob / 256
  let big := split * Nat.pow 2 (r.held - 8)
  let bit := decide (big ≤ r.value)
  let range := if bit then r.range - split else split
  let value := if bit then r.value - big else r.value
  let shift := 7 - Nat.log2 range
  set { r with range := range * Nat.pow 2 shift, value, held := r.held - shift }
  pure bit

/-- Reads an even bit. -/
def readFlag : BoolReading Bool := readBool 128

/-- Reads an `n`-bit number of even bits, the most significant first. -/
def readLiteral (n : Nat) : BoolReading Nat := do
  let mut v := 0
  for _ in [0:n] do
    v := 2 * v + (if (← readFlag) then 1 else 0)
  return v

/-- Reads an optional signed `n`-bit number (a flag, then the magnitude and the sign) whose
value steers nothing. -/
def skipSigned (n : Nat) : BoolReading Unit := do
  if (← readFlag) then
    let _ ← readLiteral n
    discard readFlag

/-! ## The frame header -/

/-- What the frame header says that steers the macroblocks. -/
structure FrameSettings where
  /-- Whether each macroblock header names its segment. -/
  segmentMap : Bool
  /-- The probabilities of the segment tree. -/
  segmentProbs : Array Nat
  /-- The number of token partitions: 1, 2, 4 or 8. -/
  partitionCount : Nat
  deriving Inhabited

/-- Reads the segmentation updates: whether the map is updated, the segment values (which
steer nothing here) and the probabilities of the segment tree. -/
def readSegmentation : BoolReading (Bool × Array Nat) := do
  let updateMap ← readFlag
  if (← readFlag) then
    let _ ← readFlag
    for _ in [0:4] do skipSigned 7
    for _ in [0:4] do skipSigned 6
  let mut probs := #[255, 255, 255]
  if updateMap then
    for i in [0:3] do
      if (← readFlag) then probs := probs.set! i (← readLiteral 8)
  return (updateMap, probs)

/-- Reads the frame header up to the number of token partitions. -/
def readFrameStart : BoolReading FrameSettings := do
  let colorSpace ← readLiteral 1
  let _ ← readLiteral 1
  if colorSpace ≠ 0 then throw (.colorSpace colorSpace)
  let (segmentMap, segmentProbs) ← if (← readFlag) then readSegmentation
    else pure (false, #[255, 255, 255])
  let _ ← readFlag
  let _ ← readLiteral 6
  let _ ← readLiteral 3
  if (← readFlag) then
    if (← readFlag) then
      for _ in [0:8] do skipSigned 6
  let k ← readLiteral 2
  return { segmentMap, segmentProbs, partitionCount := Nat.pow 2 k }

/-- Reads the rest of the frame header: the quantisers, the token probabilities (starting
from the defaults) and the skip probability, if macroblocks may skip their tokens. -/
def readFrameEnd : BoolReading (Array Nat × Option Nat) := do
  let _ ← readLiteral 7
  for _ in [0:5] do skipSigned 4
  let _ ← readLiteral 1
  let mut tokens := tokenDefaults
  for i in [0:tokenUpdates.size] do
    if (← readBool tokenUpdates[i]!) then tokens := tokens.set! i (← readLiteral 8)
  let skip ← if (← readLiteral 1) = 1 then some <$> readLiteral 8 else pure none
  return (tokens, skip)

/-- The decoders of the token partitions, from the bytes after the first partition. -/
def splitPartitions (rest : ByteArray) (count : Nat) : Except Fault (Array BoolReader) := do
  let table := 3 * (count - 1)
  if rest.size < table then throw .shortRead
  let mut pos := table
  let mut parts := #[]
  for i in [0:count - 1] do
    let size := rest[3 * i]!.toNat + 256 * (rest[3 * i + 1]!.toNat ||| rest[3 * i + 2]!.toNat)
    if rest.size < pos + size then throw .shortRead
    parts := parts.push { data := rest.extract pos (pos + size) }
    pos := pos + size
  return parts.push { data := rest.extract pos rest.size }

/-! ## Macroblocks -/

/-- What reading the macroblocks carries along. -/
structure Macroblocks where
  /-- The decoder of the first partition. -/
  header : BoolReader
  /-- The decoders of the token partitions. -/
  parts : Array BoolReader
  /-- The token probabilities of the frame. -/
  tokens : Array Nat
  /-- For each column, nine flags of the blocks on its lower edge that had tokens: the
  second-order block, four luma columns and two columns of each chroma plane. -/
  topTokens : Array Nat
  /-- For each column, the sub-block modes of its lowest row. -/
  topModes : Array Nat
  /-- The same nine flags for the blocks on the right edge of the macroblock on the left. -/
  leftTokens : Array Nat := Array.replicate 9 0
  /-- The sub-block modes of the right column of the macroblock on the left. -/
  leftModes : Array Nat := Array.replicate 4 0

/-- Reading macroblocks. -/
abbrev MacroblockReading := StateT Macroblocks (Except Fault)

/-- Reads from the first partition. -/
def fromHeader {α : Type} (m : BoolReading α) : MacroblockReading α := do
  let s ← get
  let (a, r) ← StateT.lift (m.run s.header)
  set { s with header := r }
  pure a

/-- Reads from token partition `p`. -/
def fromPartition {α : Type} (p : Nat) (m : BoolReading α) : MacroblockReading α := do
  let s ← get
  let (a, r) ← StateT.lift (m.run s.parts[p]!)
  set { s with parts := s.parts.set! p r }
  pure a

/-- Reads a segment number, which steers nothing here. -/
def readSegment (probs : Array Nat) : BoolReading Unit := do
  if (← readBool probs[0]!) then discard (readBool probs[2]!)
  else discard (readBool probs[1]!)

/-- Reads the luma mode: `none` for sub-block prediction, or the sub-block mode that the
whole-block mode stands for in later contexts (DC, TM, VE or HE). -/
def readLumaMode : BoolReading (Option Nat) := do
  if !(← readBool 145) then return none
  if (← readBool 156) then return some (if (← readBool 128) then 1 else 3)
  return some (if (← readBool 163) then 2 else 0)

/-- Reads a sub-block mode with the probabilities for the modes above and on the left. -/
def readSubBlockMode (above left : Nat) : BoolReading Nat := do
  let p := fun i => subBlockModeProbabilities[(above * 10 + left) * 9 + i]!
  if !(← readBool (p 0)) then return 0
  if !(← readBool (p 1)) then return 1
  if !(← readBool (p 2)) then return 2
  if !(← readBool (p 3)) then
    if !(← readBool (p 4)) then return 3
    return (if (← readBool (p 5)) then 5 else 4)
  if !(← readBool (p 6)) then return 6
  if !(← readBool (p 7)) then return 7
  return (if (← readBool (p 8)) then 9 else 8)

/-- Reads the chroma mode, which steers nothing here. -/
def readChromaMode : BoolReading Unit := do
  if (← readBool 142) then
    if (← readBool 114) then
      discard (readBool 183)

/-- The band of each coefficient position. -/
def coefficientBands : Array Nat := #[0, 1, 2, 3, 6, 4, 5, 6, 6, 6, 6, 6, 6, 6, 6, 7]

/-- The probabilities of the extra bits of the six token categories. -/
def categoryProbabilities : Array (List Nat) :=
  #[[159], [165, 145], [173, 148, 140], [176, 155, 140, 135], [180, 157, 141, 134, 130],
    [254, 254, 243, 230, 196, 177, 153, 140, 133, 130, 129]]

/-- A token as far as the next context goes: the end of the block, a zero, a one, or a
larger magnitude. -/
inductive Token where
  | stop | zero | one | more
  deriving DecidableEq, Repr, Inhabited

/-- Reads the extra bits of token category `k` (from 0). -/
def readExtra (k : Nat) : BoolReading Unit := do
  for prob in categoryProbabilities[k]! do
    discard (readBool prob)

/-- Reads a token with the node probabilities `p`. After a zero the end of the block cannot
come, so its node is not read. -/
def readToken (p : Nat → Nat) (afterZero : Bool) : BoolReading Token := do
  if !afterZero then
    if !(← readBool (p 0)) then return .stop
  if !(← readBool (p 1)) then return .zero
  if !(← readBool (p 2)) then return .one
  if !(← readBool (p 3)) then
    if (← readBool (p 4)) then discard (readBool (p 5))
    return .more
  if !(← readBool (p 6)) then
    readExtra (if (← readBool (p 7)) then 1 else 0)
    return .more
  let high ← readBool (p 8)
  let low ← readBool (p (if high then 10 else 9))
  readExtra (2 + (if high then 2 else 0) + (if low then 1 else 0))
  return .more

/-- Reads the tokens of a block of type `type` from position `i` on, in context `ctx`;
the result says whether any token came before the end (a zero counts). `fuel` bounds the
positions. -/
def readBlockFrom (tokens : Array Nat) (type : Nat) :
    Nat → Nat → Nat → Bool → Bool → BoolReading Bool
  | 0, _, _, _, any => pure any
  | fuel + 1, i, ctx, afterZero, any => do
    if i ≥ 16 then return any
    let base := ((type * 8 + coefficientBands[i]!) * 3 + ctx) * 11
    match ← readToken (fun k => tokens[base + k]!) afterZero with
    | .stop => return any
    | .zero => readBlockFrom tokens type fuel (i + 1) 0 true true
    | .one =>
      let _ ← readFlag
      readBlockFrom tokens type fuel (i + 1) 1 false true
    | .more =>
      let _ ← readFlag
      readBlockFrom tokens type fuel (i + 1) 2 false true

/-- Reads one block of type `type` from position `first` out of partition `part`. Its
context is the flags at `top` (of the row above) and `left` (of the macroblock on the left),
and both are set to whether it had tokens. -/
def readBlock (part type first top left : Nat) : MacroblockReading Unit := do
  let s ← get
  let ctx := s.topTokens[top]! + s.leftTokens[left]!
  let any ← fromPartition part (readBlockFrom s.tokens type 17 first ctx false false)
  let flag := if any then 1 else 0
  modify fun s =>
    { s with topTokens := s.topTokens.set! top flag, leftTokens := s.leftTokens.set! left flag }

/-- Reads the blocks of the macroblock in column `mbx`: the second-order block (type 1)
unless the luma is predicted by sub-blocks, the sixteen luma blocks (type 3 from position
0 with sub-blocks, else type 0 from position 1), and four blocks of each chroma plane
(type 2). -/
def readResiduals (part mbx : Nat) (subBlocks : Bool) : MacroblockReading Unit := do
  let top := mbx * 9
  if !subBlocks then readBlock part 1 0 top 0
  let (type, first) := if subBlocks then (3, 0) else (0, 1)
  for y in [0:4] do
    for x in [0:4] do
      readBlock part type first (top + 1 + x) (1 + y)
  for j in [5, 7] do
    for y in [0:2] do
      for x in [0:2] do
        readBlock part 2 0 (top + j + x) (j + y)

/-- Clears the flags of a macroblock that skips its tokens; the second-order flag is kept
when the luma is predicted by sub-blocks, since such a macroblock has no second-order
block. -/
def clearTokens (mbx : Nat) (subBlocks : Bool) : MacroblockReading Unit :=
  modify fun s =>
    let start := if subBlocks then 1 else 0
    let clear := fun (a : Array Nat) (base : Nat) =>
      (List.range 9).foldl (fun a k => if k ≥ start then a.set! (base + k) 0 else a) a
    { s with topTokens := clear s.topTokens (mbx * 9), leftTokens := clear s.leftTokens 0 }

/-- Reads the macroblock in column `mbx`, its tokens from partition `part`. -/
def readMacroblock (f : FrameSettings) (skipProb : Option Nat) (part mbx : Nat) :
    MacroblockReading Unit := do
  if f.segmentMap then fromHeader (readSegment f.segmentProbs)
  let skip ← match skipProb with
    | some p => fromHeader (readBool p)
    | none => pure false
  let luma ← fromHeader readLumaMode
  match luma with
  | none =>
    for y in [0:4] do
      for x in [0:4] do
        let s ← get
        let mode ← fromHeader (readSubBlockMode s.topModes[mbx * 4 + x]! s.leftModes[y]!)
        modify fun s => { s with topModes := s.topModes.set! (mbx * 4 + x) mode,
                                 leftModes := s.leftModes.set! y mode }
  | some mode =>
    modify fun s =>
      { s with topModes := (List.range 4).foldl (fun a x => a.set! (mbx * 4 + x) mode) s.topModes,
               leftModes := Array.replicate 4 mode }
  fromHeader readChromaMode
  if skip then clearTokens mbx luma.isNone
  else readResiduals part mbx luma.isNone

/-- Reads all macroblocks, row by row; each row starts with empty left contexts and takes
its tokens from the next partition in turn. -/
def readMacroblocks (f : FrameSettings) (skipProb : Option Nat) (columns rows : Nat) :
    MacroblockReading Unit := do
  for mby in [0:rows] do
    modify fun s => { s with leftTokens := Array.replicate 9 0, leftModes := Array.replicate 4 0 }
    for mbx in [0:columns] do
      readMacroblock f skipProb (mby % f.partitionCount) mbx

/-! ## The frame -/

/-- Reads a lossy frame from its chunk's data; the result is the frame's width and height. -/
def decodeLossyFrame (data : ByteArray) : Except Fault (Nat × Nat) := do
  let tag ← readLe data 0 3
  if tag % 2 ≠ 0 then throw .nonKeyframe
  let firstSize := tag / 32
  let _ ← readLe data 3 3
  let magic := (List.range 3).map fun k => data[3 + k]!.toNat
  unless magic == [0x9d, 0x01, 0x2a] do throw (.vp8Magic magic)
  let width := (← readLe data 6 2) % 16384
  let height := (← readLe data 8 2) % 16384
  if data.size < 10 + firstSize then throw .shortRead
  let start ← (readFrameStart.run { data := data.extract 10 (10 + firstSize) })
  let parts ← splitPartitions (data.extract (10 + firstSize) data.size) start.1.partitionCount
  let rest ← readFrameEnd.run start.2
  let columns := (width + 15) / 16
  let rows := (height + 15) / 16
  let _ ← (readMacroblocks start.1 rest.1.2 columns rows).run
    { header := rest.2, parts, tokens := rest.1.1, topTokens := Array.replicate (9 * columns) 0,
      topModes := Array.replicate (4 * columns) 0 }
  pure (width, height)

end WebP

end ImageStudio
