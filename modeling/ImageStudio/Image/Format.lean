/-!
# Image · Format: the image formats, their names, extensions and media types

The service recognises sixteen raster formats by name, file extension, media type and the
magic bytes that start a file. It can read the dimensions of, and decode, three of them:
PNG, JPEG and WebP. The others are recognised only to be refused by name.

Two tables are kept apart: what a format calls itself (its extensions and its preferred
media type), and which media type the web commonly serves for an extension. A remote link
is typed by the second, a data URL by the first.
-/

namespace ImageStudio

/-- A raster image format. -/
inductive ImageFormat where
  | png | jpeg | gif | webP | pnm | tiff | tga | dds | bmp | ico | hdr | openExr | farbfeld
  | avif | qoi | pcx
  deriving DecidableEq, Repr, Inhabited

namespace ImageFormat

/-- The name of the format, as messages print it. -/
def name : ImageFormat → String
  | .png => "Png" | .jpeg => "Jpeg" | .gif => "Gif" | .webP => "WebP" | .pnm => "Pnm"
  | .tiff => "Tiff" | .tga => "Tga" | .dds => "Dds" | .bmp => "Bmp" | .ico => "Ico"
  | .hdr => "Hdr" | .openExr => "OpenExr" | .farbfeld => "Farbfeld" | .avif => "Avif"
  | .qoi => "Qoi" | .pcx => "Pcx"

/-- The format a lowercase file extension names. -/
def ofExtension : String → Option ImageFormat
  | "avif" => some .avif
  | "jpg" | "jpeg" | "jfif" => some .jpeg
  | "png" | "apng" => some .png
  | "gif" => some .gif
  | "webp" => some .webP
  | "tif" | "tiff" => some .tiff
  | "tga" => some .tga
  | "dds" => some .dds
  | "bmp" => some .bmp
  | "ico" => some .ico
  | "hdr" => some .hdr
  | "exr" => some .openExr
  | "pbm" | "pam" | "ppm" | "pgm" => some .pnm
  | "ff" => some .farbfeld
  | "qoi" => some .qoi
  | "pcx" => some .pcx
  | _ => none

/-- The format a media type names, compared exactly. -/
def ofMediaType : String → Option ImageFormat
  | "image/avif" => some .avif
  | "image/jpeg" => some .jpeg
  | "image/png" => some .png
  | "image/gif" => some .gif
  | "image/webp" => some .webP
  | "image/tiff" => some .tiff
  | "image/x-targa" | "image/x-tga" => some .tga
  | "image/vnd-ms.dds" => some .dds
  | "image/bmp" => some .bmp
  | "image/x-icon" | "image/vnd.microsoft.icon" => some .ico
  | "image/vnd.radiance" => some .hdr
  | "image/x-exr" => some .openExr
  | "image/x-portable-bitmap" | "image/x-portable-graymap" | "image/x-portable-pixmap"
  | "image/x-portable-anymap" => some .pnm
  | "image/x-qoi" => some .qoi
  | "image/x-pcx" => some .pcx
  | _ => none

/-- The extensions of the format, the preferred one first. -/
def extensions : ImageFormat → List String
  | .png => ["png"] | .jpeg => ["jpg", "jpeg"] | .gif => ["gif"] | .webP => ["webp"]
  | .pnm => ["pbm", "pam", "ppm", "pgm"] | .tiff => ["tiff", "tif"] | .tga => ["tga"]
  | .dds => ["dds"] | .bmp => ["bmp"] | .ico => ["ico"] | .hdr => ["hdr"]
  | .openExr => ["exr"] | .farbfeld => ["ff"] | .avif => ["avif"] | .qoi => ["qoi"]
  | .pcx => ["pcx"]

/-- The preferred media type of the format. -/
def mediaType : ImageFormat → String
  | .avif => "image/avif" | .jpeg => "image/jpeg" | .png => "image/png" | .gif => "image/gif"
  | .webP => "image/webp" | .tiff => "image/tiff" | .tga => "image/x-targa"
  | .dds => "image/vnd-ms.dds" | .bmp => "image/bmp" | .ico => "image/x-icon"
  | .hdr => "image/vnd.radiance" | .openExr => "image/x-exr" | .pnm => "image/x-portable-anymap"
  | .qoi => "image/x-qoi" | .farbfeld => "application/octet-stream"
  | .pcx => "image/vnd.zbrush.pcx"

/-- A magic signature: the bytes a file starts with, with a mask per byte (a byte of the
file matches when its masked value equals the signature's). -/
structure Signature where
  bytes : List UInt8
  mask : List UInt8 := []
  format : ImageFormat

/-- Whether a file's first bytes carry the signature; bytes beyond the mask are compared
whole, and the file must be at least as long as the signature. -/
def Signature.matches (s : Signature) (head : List UInt8) : Bool :=
  head.length ≥ s.bytes.length &&
    ((head.zip (s.bytes.zip (s.mask ++ List.replicate s.bytes.length 0xFF))).all
      fun (b, sig, m) => b &&& m == sig)

/-- The signatures, in the order they are tried. -/
def signatures : List Signature :=
  let ascii (s : String) : List UInt8 := s.toUTF8.toList
  [ { bytes := [0x89] ++ ascii "PNG" ++ [13, 10, 26, 10], format := .png },
    { bytes := [0xff, 0xd8, 0xff], format := .jpeg },
    { bytes := ascii "GIF89a", format := .gif },
    { bytes := ascii "GIF87a", format := .gif },
    { bytes := ascii "RIFF" ++ [0, 0, 0, 0] ++ ascii "WEBP",
      mask := [0xFF, 0xFF, 0xFF, 0xFF, 0, 0, 0, 0], format := .webP },
    { bytes := ascii "MM" ++ [0, 42], format := .tiff },
    { bytes := ascii "II" ++ [42, 0], format := .tiff },
    { bytes := ascii "DDS ", format := .dds },
    { bytes := ascii "BM", format := .bmp },
    { bytes := [0, 0, 1, 0], format := .ico },
    { bytes := ascii "#?RADIANCE", format := .hdr },
    { bytes := [0, 0, 0, 0] ++ ascii "ftypavif", mask := [0xFF, 0xFF, 0, 0], format := .avif },
    { bytes := [0x76, 0x2f, 0x31, 0x01], format := .openExr },
    { bytes := ascii "qoif", format := .qoi },
    { bytes := ascii "P1", format := .pnm },
    { bytes := ascii "P2", format := .pnm },
    { bytes := ascii "P3", format := .pnm },
    { bytes := ascii "P4", format := .pnm },
    { bytes := ascii "P5", format := .pnm },
    { bytes := ascii "P6", format := .pnm },
    { bytes := ascii "P7", format := .pnm },
    { bytes := ascii "farbfeld", format := .farbfeld } ]

/-- The format the first bytes of a file announce, judged from at most 16 bytes. -/
def guess (bytes : ByteArray) : Option ImageFormat :=
  let head := (bytes.extract 0 16).toList
  (signatures.find? fun s => s.matches head).map Signature.format

end ImageFormat

/-- The media type commonly served for a lowercase file extension, for the extensions that
name an image format. -/
def servedMediaType : String → Option String
  | "avif" => some "image/avif"
  | "jpg" | "jpeg" | "jfif" => some "image/jpeg"
  | "png" => some "image/png"
  | "apng" => some "image/apng"
  | "gif" => some "image/gif"
  | "webp" => some "image/webp"
  | "tif" | "tiff" => some "image/tiff"
  | "tga" => some "image/x-tga"
  | "dds" => some "image/vnd.ms-dds"
  | "bmp" => some "image/bmp"
  | "ico" => some "image/x-icon"
  | "hdr" => some "image/vnd.radiance"
  | "pbm" => some "image/x-portable-bitmap"
  | "pgm" => some "image/x-portable-graymap"
  | "ppm" => some "image/x-portable-pixmap"
  | "pcx" => some "image/x-pcx"
  | _ => none

end ImageStudio
