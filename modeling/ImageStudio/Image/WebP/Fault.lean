import ImageStudio.Image.Error
import ImageStudio.Text.Quoted

/-!
# Image · WebP · Fault: what can be wrong with a WebP file

The faults a WebP decoder reports, each with its message. A read past the end of the file
is not a fault of the format: it is an input error, and prints as one.
-/

namespace ImageStudio

namespace WebP

/-- A fault of a WebP file. -/
inductive Fault where
  | bitStream
  | huffman
  | transform
  | colorCacheBits (n : Nat)
  | losslessSignature (b : Nat)
  | version (v : Nat)
  | chunkHeader (fourcc : List Nat)
  | webpSignature (fourcc : List Nat)
  | vp8Magic (bytes : List Nat)
  | nonKeyframe
  | inconsistentSizes
  | imageTooLarge
  | chunkMissing
  | chunkSize
  | frameOutsideImage
  | colorSpace (n : Nat)
  | alphaPreprocessing
  | compressionMethod
  /-- The file ended inside a structure of fixed size. -/
  | shortRead
  deriving DecidableEq, Repr, Inhabited

/-- Bytes as a hexadecimal list, `[57, 45, 42, 50]`. -/
def hexList (bs : List Nat) : String := "[" ++ ", ".intercalate (bs.map Text.hexDigits) ++ "]"

/-- The message of a fault. -/
def Fault.message : Fault → String
  | .bitStream => "Corrupt bitstream"
  | .huffman => "Invalid Huffman code"
  | .transform => "Invalid transform"
  | .colorCacheBits n => "Invalid color cache bits: " ++ toString n
  | .losslessSignature b => "Invalid lossless signature: " ++ Text.hexDigits b
  | .version v => "Invalid lossless version number: " ++ toString v
  | .chunkHeader f => "Invalid Chunk header: " ++ hexList f
  | .webpSignature f => "Invalid WebP signature: " ++ hexList f
  | .vp8Magic m => "Invalid VP8 magic: " ++ hexList m
  | .nonKeyframe => "Unsupported feature: Non-keyframe frames"
  | .inconsistentSizes => "Inconsistent image sizes"
  | .imageTooLarge => "Image too large"
  | .chunkMissing => "An expected chunk was missing"
  | .chunkSize => "Invalid chunk size"
  | .frameOutsideImage => "Frame outside image"
  | .colorSpace n => "Invalid VP8 color space: " ++ toString n
  | .alphaPreprocessing => "Alpha chunk preprocessing flag invalid"
  | .compressionMethod => "Invalid compression method"
  | .shortRead => "failed to fill whole buffer"

/-- The image error of a fault: a short read is an input error, the rest are WebP format
errors. -/
def Fault.toError : Fault → ImageError
  | .shortRead => ImageError.shortRead
  | f => .malformed .webP f.message

/-- The little-endian number in `n` bytes at offset `i`. -/
def le (b : ByteArray) (i n : Nat) : Nat :=
  (List.range n).foldr (fun k acc => acc * 256 + b[i + k]!.toNat) 0

/-- Reads `n` bytes at `pos` as a little-endian number, or fails as a short read. -/
def readLe (b : ByteArray) (pos n : Nat) : Except Fault Nat :=
  if pos + n ≤ b.size then .ok (le b pos n) else .error .shortRead

/-- The four bytes at `pos`. -/
def fourcc (b : ByteArray) (pos : Nat) : List Nat := (List.range 4).map fun k => b[pos + k]!.toNat

end WebP

end ImageStudio
