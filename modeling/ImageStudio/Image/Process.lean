import ImageStudio.Image.Source
import ImageStudio.Image.Png
import ImageStudio.Image.Jpeg
import ImageStudio.Image.WebP
import ImageStudio.Bytes.Sha256
import ImageStudio.Number.Double

/-!
# Image · Process: the stored pair of a generated image

A provider's image is stored twice: as the raw bytes it came in, under the type its
reference declared, and as a thumbnail whose larger side is at most 512 pixels.

The format is told from the bytes' magic, not from the declared type. The dimensions come
from the format's header. A WebP image no larger than 512 on either side is its own
thumbnail; any other image is decoded in full and re-encoded as a WebP whose larger side
is 512 and whose other side keeps the aspect ratio: computed in binary64 as the service
computes it, rounded half away from zero, and at least 1. The re-encoded bytes depend on an encoder and a resampling filter that are not
part of this model, so a re-encoded thumbnail is known by its dimensions only.
-/

namespace ImageStudio

/-- The larger side of a thumbnail. -/
def thumbnailMaxSide : Nat := 512

/-- The side of a thumbnail opposite its larger one, in binary64 as the service computes it
(`thumbnail_dimensions`): `other as f64 * 512.0 / larger as f64`, rounded and cast to `u32`. -/
def thumbnailSide (other larger : Nat) : Nat :=
  let side : Option Double := do
    let product ← (← Double.ofNat other).mul (← Double.ofNat thumbnailMaxSide)
    product.div (← Double.ofNat larger)
  (side.map Double.roundToU32).getD 0

/-- The thumbnail dimensions of an image (`thumbnail_dimensions`): the larger side becomes 512
and the other side keeps the aspect ratio, rounded, at least 1. -/
def thumbnailDimensions (width height : Nat) : Nat × Nat :=
  if width ≥ height then (thumbnailMaxSide, max 1 (thumbnailSide height width))
  else (max 1 (thumbnailSide width height), thumbnailMaxSide)

/-- A stored image buffer with what its upload and file record need (`ImageArtifact`). -/
structure Artifact where
  bytes : ByteArray
  width : Nat
  height : Nat
  extension : String
  mime : String

namespace Artifact

/-- The size of the buffer in bytes. -/
def size (a : Artifact) : Nat := a.bytes.size

/-- The SHA-256 of the buffer, in hex (`sha256_hex`). -/
def hash (a : Artifact) : String := Sha256.hex a.bytes

end Artifact

/-- The thumbnail of a processed image. -/
inductive Thumbnail where
  /-- The raw image serves as its own thumbnail. -/
  | same
  /-- A WebP re-encoding of the given dimensions. -/
  | encoded (width height : Nat)
  deriving DecidableEq, Repr, Inhabited

/-- The extension of re-encoded thumbnails. -/
def thumbnailExtension : String := "webp"

/-- The media type of re-encoded thumbnails. -/
def thumbnailMediaType : String := "image/webp"

/-- A processed image (`ProcessedImage`): the raw artifact and its thumbnail. -/
structure Processed where
  raw : Artifact
  thumbnail : Thumbnail

namespace Processed

/-- The thumbnail's dimensions. -/
def thumbnailSize (p : Processed) : Nat × Nat :=
  match p.thumbnail with
  | .same => (p.raw.width, p.raw.height)
  | .encoded w h => (w, h)

/-- The thumbnail's extension. -/
def thumbnailExt (p : Processed) : String :=
  match p.thumbnail with
  | .same => p.raw.extension
  | .encoded _ _ => thumbnailExtension

/-- The thumbnail's media type. -/
def thumbnailMime (p : Processed) : String :=
  match p.thumbnail with
  | .same => p.raw.mime
  | .encoded _ _ => thumbnailMediaType

end Processed

/-- The dimensions of an image in a format the service decodes. -/
def imageDimensions (format : ImageFormat) (bytes : ByteArray) : Except ImageError (Nat × Nat) :=
  match format with
  | .png => Png.dimensions bytes
  | .jpeg => Jpeg.dimensions bytes
  | .webP => WebP.dimensions bytes
  | f => .error (.unsupportedFormat f)

/-- Decodes an image in full, to learn whether it decodes. -/
def decodeImage (format : ImageFormat) (bytes : ByteArray) : Except ImageError Unit :=
  match format with
  | .png => Png.decode bytes
  | .jpeg => Jpeg.decode bytes
  | .webP => WebP.decode bytes
  | f => .error (.unsupportedFormat f)

/-- Inspects a source, builds its thumbnail and keeps both (`process_bytes`). -/
def processBytes (source : SourceImage) : Except ProcessError Processed := do
  let some format := ImageFormat.guess source.bytes
    | throw (.dimensions "unrecognized image data")
  let (width, height) ← (imageDimensions format source.bytes).mapError
    fun e => .dimensions e.message
  if width = 0 ∨ height = 0 then
    throw (.dimensions (toString width ++ "x" ++ toString height))
  let raw : Artifact :=
    { bytes := source.bytes, width, height, extension := source.extension, mime := source.mime }
  if format = .webP ∧ width ≤ thumbnailMaxSide ∧ height ≤ thumbnailMaxSide then
    return { raw, thumbnail := .same }
  let (tw, th) := thumbnailDimensions width height
  (decodeImage format source.bytes).mapError fun e => .decode e.message
  return { raw, thumbnail := .encoded tw th }

end ImageStudio
