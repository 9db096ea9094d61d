/-!
# Process · Error: why a provider's image could not be turned into stored artifacts

Loading the image (from a data URL or a link), recognising its type, reading its
dimensions, decoding it for the thumbnail and encoding the thumbnail can each fail; the
message says which step failed and why.
-/

namespace ImageStudio

/-- A failure while loading or processing an image (`PostProcessError`). -/
inductive ProcessError where
  /-- The link could not be fetched. -/
  | fetch (url reason : String)
  /-- The data URL is malformed. -/
  | invalidDataUrl (reason : String)
  /-- The image type cannot be told from the link or the declared type. -/
  | unknownType (what : String)
  /-- The bytes are no image whose dimensions can be read. -/
  | dimensions (reason : String)
  /-- The image could not be decoded. -/
  | decode (reason : String)
  /-- The thumbnail could not be encoded. -/
  | encode (reason : String)
  deriving DecidableEq, Repr, Inhabited

namespace ProcessError

/-- The message of the failure. -/
def message : ProcessError → String
  | .fetch u r => "Failed to fetch image from " ++ u ++ ": " ++ r
  | .invalidDataUrl r => "Invalid data URL: " ++ r
  | .unknownType w => "Cannot determine the image type of " ++ w
  | .dimensions r => "Cannot determine image dimensions: " ++ r
  | .decode r => "Failed to decode image: " ++ r
  | .encode r => "Failed to encode thumbnail: " ++ r

/-- The name of the failure's kind. -/
def kindName : ProcessError → String
  | .fetch _ _ => "Fetch"
  | .invalidDataUrl _ => "InvalidDataUrl"
  | .unknownType _ => "UnknownType"
  | .dimensions _ => "Dimensions"
  | .decode _ => "Decode"
  | .encode _ => "Encode"

end ProcessError

end ImageStudio
