import ImageStudio.Json.Decode
import ImageStudio.Id.Uuid
import ImageStudio.Time.Instant

/-!
# File · Record: stored images and the assets that show them

A successful generation stores its image once per user and content hash, as a file record.
The record's `url` is the object key of the raw image; its metadata gives the image's
dimensions and, when there is one, the key of a separate thumbnail. A generation's *asset*
is what the feed shows: the image key, the thumbnail key, the provider's original URL when
it was a link, and the dimensions.

A record owns its raw key and, when it differs, its thumbnail key: deleting the record
deletes exactly these objects.
-/

namespace ImageStudio

/-- The image shown for a successful generation (`GenerationAsset`). -/
structure Asset where
  url : String
  thumbnailUrl : String
  originalUrl : Option String := none
  width : Nat
  height : Nat
  deriving DecidableEq, Repr, Inhabited

namespace Asset

/-- The stored form; the original URL only when present. -/
def toJson (a : Asset) : Json :=
  Json.mkObj <| [("url", .str a.url), ("thumbnailUrl", .str a.thumbnailUrl),
    ("width", Json.ofInt a.width), ("height", Json.ofInt a.height)] ++
    (match a.originalUrl with | some o => [("originalUrl", .str o)] | none => [])

/-- The record shape of an asset under a name (the stored form and the wire form agree). -/
def shape (name : String) : RecordShape :=
  { name, fields := [("url", false), ("thumbnailUrl", false), ("originalUrl", true),
    ("width", false), ("height", false)] }

/-- Reads an asset in the named record shape. -/
def readAs (name : String) (n : Node) : Decoded Asset := do
  let m ← (shape name).members n
  let url ← m.field "url" Node.asString
  let thumbnailUrl ← m.field "thumbnailUrl" Node.asString
  let originalUrl ← m.optField "originalUrl" Node.asString
  let width ← m.field "width" Node.asU32
  let height ← m.field "height" Node.asU32
  pure { url, thumbnailUrl, originalUrl, width, height }

/-- Reads the stored form. -/
def read : Node → Decoded Asset := readAs "GenerationAsset"

end Asset

/-- What a file record knows about its image. -/
structure FileMetadata where
  thumbnailKey : Option String := none
  width : Nat
  height : Nat
  deriving DecidableEq, Repr, Inhabited

namespace FileMetadata

/-- The stored form; the thumbnail key only when present. -/
def toJson (m : FileMetadata) : Json :=
  Json.mkObj <| [("width", Json.ofInt m.width), ("height", Json.ofInt m.height)] ++
    (match m.thumbnailKey with | some k => [("thumbnailKey", .str k)] | none => [])

/-- The record shape of the stored form. -/
def shape : RecordShape :=
  { name := "FileMetadata", fields := [("thumbnailKey", true), ("width", false), ("height", false)] }

/-- Reads the stored form. -/
def read (n : Node) : Decoded FileMetadata := do
  let m ← shape.members n
  let thumbnailKey ← m.optField "thumbnailKey" Node.asString
  let width ← m.field "width" Node.asU32
  let height ← m.field "height" Node.asU32
  pure { thumbnailKey, width, height }

end FileMetadata

/-- A stored image, deduplicated per user by content hash. -/
structure FileRecord where
  id : Uuid
  user : Uuid
  name : String
  fileType : String
  fileHash : String
  size : Int
  /-- Object key of the raw image. -/
  url : String
  metadata : FileMetadata
  createdAt : Instant
  deriving DecidableEq, Repr, Inhabited

namespace FileRecord

/-- The key of the thumbnail, or of the raw image when there is no separate one
(`FileRecord::thumbnail_key`). -/
def thumbnailKey (f : FileRecord) : String := f.metadata.thumbnailKey.getD f.url

/-- The object keys the record owns (`FileRecord::object_keys`): the raw key, then the thumbnail
key if it differs. -/
def objectKeys (f : FileRecord) : List String :=
  match f.metadata.thumbnailKey with
  | some t => if t = f.url then [f.url] else [f.url, t]
  | none => [f.url]

end FileRecord

/-- A file to be recorded. -/
structure NewFile where
  name : String
  fileType : String
  fileHash : String
  size : Int
  url : String
  metadata : FileMetadata
  deriving DecidableEq, Repr, Inhabited

end ImageStudio
