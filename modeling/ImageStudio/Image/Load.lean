import ImageStudio.Image.Process
import ImageStudio.Net.Request

/-!
# Image · Load: the source image behind a URL

A data URL carries its image. Any other URL is a link: its type is told from the last
segment of its path first, and a link without an image type fails before any request.
The link is then fetched, by whatever fetch the caller has: the body's bytes, or the text
of why the request failed. A service without a network has the fetch `Fetch.offline`,
under which every request fails as unsent (`requestFailure`).

A link is *local* when its host is the local machine under one of its usual names. Local
reference images are the ones a remote provider cannot read for itself.
-/

namespace ImageStudio

/-- How the body behind a link is fetched (`AssetPostProcessor::load_source`): its bytes, or why
the request or its status failed. -/
abbrev Fetch := String → Except String ByteArray

/-- The fetch of a service without a network: every request fails. -/
def Fetch.offline : Fetch := fun url => .error (requestFailure url).message

/-- Loads the source image of a URL (`AssetPostProcessor::load_source`): a data URL is decoded,
and a link of a known image type is fetched, its type told by its path. -/
def loadSource (fetch : Fetch) (url : String) : Except ProcessError SourceImage :=
  if url.startsWith "data:" then decodeDataUrl url
  else do
    let (extension, mime) ← resolveRemoteType url
    match fetch url with
    | .ok bytes => pure { bytes, mime, extension }
    | .error reason => throw (.fetch url reason)

/-- Loads the image of a URL and processes it (`AssetPostProcessor::process`). -/
def processUrl (fetch : Fetch) (url : String) : Except ProcessError Processed := do
  processBytes (← loadSource fetch url)

/-- The names of the local machine. -/
def localHosts : List String := ["localhost", "127.0.0.1", "[::1]", "0.0.0.0"]

/-- Whether a URL reads and names the local machine as its host (`is_local_url`). -/
def isLocalUrl (url : String) : Bool :=
  match (Url.parse url).bind (·.host) with
  | some h => localHosts.contains h
  | none => false

end ImageStudio
