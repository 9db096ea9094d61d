import ImageStudio.Image.Format
import ImageStudio.Bytes.Base64
import ImageStudio.Process.Error
import ImageStudio.Text.Blank

/-!
# Image · Source: the bytes behind an image reference, and their declared type

A provider answers with either a link or a data URL. A link is typed by the extension of
the last segment of its path (the query and fragment removed): the extension must name an
image format and have a commonly served media type. A data URL declares its media type,
which must name an image format exactly; its payload must be canonical base64, possibly
surrounded by blanks.

A loaded source keeps the declared extension and media type even when its bytes turn out
to be of another format; only the dimensions and the thumbnail come from the bytes.
-/

namespace ImageStudio

/-- The characters before the first occurrence of `c`, and those after it. -/
def splitAtFirst (c : Char) : List Char → Option (List Char × List Char)
  | [] => none
  | x :: xs =>
    if x = c then some ([], xs)
    else (splitAtFirst c xs).map fun (a, b) => (x :: a, b)

/-- The characters before the last occurrence of `c`, and those after it. -/
def splitAtLast (c : Char) (cs : List Char) : Option (List Char × List Char) :=
  (splitAtFirst c cs.reverse).map fun (a, b) => (b.reverse, a.reverse)

/-- The raw bytes of a source image with the type its reference declared. -/
structure SourceImage where
  bytes : ByteArray
  mime : String
  extension : String

namespace SourceImage

/-- The data URL that carries the source (`SourceImage::to_data_url`). -/
def toDataUrl (s : SourceImage) : String :=
  "data:" ++ s.mime ++ ";base64," ++ Base64.encode s.bytes

end SourceImage

/-- The preferred extension and the media type of a declared media type (`type_from_mime`). -/
def typeOfMediaType (declared : String) : Option (String × String) := do
  let format ← ImageFormat.ofMediaType declared
  let ext ← format.extensions.head?
  pure (ext, format.mediaType)

/-- The extension and media type of a link, from the last segment of its path
(`resolve_remote_type`). -/
def resolveRemoteType (url : String) : Except ProcessError (String × String) :=
  let path := url.toList.takeWhile fun c => c ≠ '?' && c ≠ '#'
  let fileName := match splitAtLast '/' path with
    | some (_, name) => name
    | none => path
  let ext := (splitAtLast '.' fileName).map fun (_, e) => String.ofList (e.map Char.toLower)
  match ext with
  | some e =>
    match ImageFormat.ofExtension e, servedMediaType e with
    | some _, some mime => .ok (e, mime)
    | _, _ => .error (.unknownType url)
  | none => .error (.unknownType url)

/-- Decodes `data:<type>;base64,<payload>` (`decode_data_url`). -/
def decodeDataUrl (url : String) : Except ProcessError SourceImage := do
  let cs := url.toList
  unless cs.take 5 = "data:".toList do throw (.invalidDataUrl "missing data: prefix")
  let some (header, payload) := splitAtFirst ',' (cs.drop 5)
    | throw (.invalidDataUrl "missing payload")
  let suffix := ";base64".toList
  unless header.length ≥ suffix.length ∧ header.drop (header.length - suffix.length) = suffix do
    throw (.invalidDataUrl "only base64 payloads are supported")
  let declared := String.ofList (header.take (header.length - suffix.length))
  let some (extension, mime) := typeOfMediaType declared
    | throw (.unknownType ("data URL of type '" ++ declared ++ "'"))
  match Base64.decode (String.ofList (Text.trimChars payload)) with
  | .ok bytes => pure { bytes, mime, extension }
  | .error e => throw (.invalidDataUrl e.message)

end ImageStudio
