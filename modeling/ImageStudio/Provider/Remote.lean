import ImageStudio.Net.Request
import ImageStudio.Provider.Rules

/-!
# Provider · Remote: the services reached over HTTP

Three services of the studio live elsewhere and are reached over HTTP:

* fal.ai makes images. A call posts to `<base>/fal-ai/<model>` with the header
  `Authorization: Key <api key>`.
* OpenAI makes images too. A call posts to `<base>/v1/images/generations` with the header
  `Authorization: Bearer <api key>`.
* A chat model names a topic after its first prompt. A call posts to
  `<api base>/chat/completions`.

The two image providers drop every `/` at the end of their base. The chat client joins its
base and path as they are, and drops an empty query from the URL it makes.

Without a network every call fails before a byte is sent, with the failure of its request
(see `RequestError`). The failure is an unexpected error whose message names the service:
`fal.ai request failed: …`, `OpenAI request failed: …` and `http error: …`.
-/

namespace ImageStudio

/-- A text without the `/` characters at its end. -/
def trimEndSlashes (s : String) : String :=
  String.ofList (s.toList.reverse.dropWhile (· == '/')).reverse

/-- The fal.ai image provider (`FalImageProvider`). -/
structure FalProvider where
  apiKey : String
  baseUrl : String := "https://fal.run"
  deriving Repr, Inhabited

namespace FalProvider

/-- The URL a model is called at. -/
def endpoint (p : FalProvider) (model : String) : String :=
  trimEndSlashes p.baseUrl ++ "/fal-ai/" ++ model

/-- Asks for an image. -/
def createImage (p : FalProvider) (model : String) (_params : ImageParams) :
    Except PortError ProviderImage :=
  .error (.unexpected ("fal.ai request failed: " ++
    (requestFailureWith (p.endpoint model) ["Key " ++ p.apiKey]).message))

end FalProvider

/-- The OpenAI image provider (`OpenAiImageProvider`). -/
structure OpenAiImages where
  apiKey : String
  baseUrl : String := "https://api.openai.com"
  deriving Repr, Inhabited

namespace OpenAiImages

/-- The URL every model is called at. -/
def endpoint (p : OpenAiImages) : String := trimEndSlashes p.baseUrl ++ "/v1/images/generations"

/-- Asks for an image. -/
def createImage (p : OpenAiImages) (_model : String) (_params : ImageParams) :
    Except PortError ProviderImage :=
  .error (.unexpected ("OpenAI request failed: " ++
    (requestFailureWith p.endpoint ["Bearer " ++ p.apiKey]).message))

end OpenAiImages

/-- The chat model that names topics (`OpenAiTitleAdapter`). -/
structure TitleModel where
  apiBase : String := "https://api.openai.com/v1"
  model : String := "gpt-4o-mini"
  deriving Repr, Inhabited

namespace TitleModel

/-- The URL of a chat completion. -/
def endpoint (t : TitleModel) : String := t.apiBase ++ "/chat/completions"

/-- Why a chat request fails. -/
def failure (t : TitleModel) : RequestError :=
  match Url.parse t.endpoint with
  | none => .malformed
  | some u => if u.hasHost then sendFailure (u.withPairs []) [] else .unsupported u

/-- Asks for a title for a prompt (`OpenAiTitleAdapter::generate_title_from_prompt`). -/
def generateTitle (t : TitleModel) (_prompt : String) : Except PortError String :=
  .error (.unexpected ("http error: " ++ t.failure.message))

end TitleModel

end ImageStudio
