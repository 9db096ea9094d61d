import ImageStudio.Web.Views
import ImageStudio.Net.Url
import ImageStudio.Web.MediaType
import ImageStudio.Json.Stream

/-!
# Web · Http: requests, answers, and reading what a request carries

A request has a method, a target (path and query), the caller's `x-user-id` header, a
content type and a body. An answer has a status and a body, which is empty, text or JSON.

What the handlers read from a request, and how each read fails:

* **Path parameters** are percent-decoded and read as identifiers; a refusal is a
  `400 Invalid URL: Cannot parse …` that names the parameter and its value.
* **The query** is read as form data (`+` is a space, percent-escapes are decoded); a
  missing, repeated or unreadable member fails with
  `400 Failed to deserialize query string: …`.
* **A JSON body** needs a JSON content type (`Web.MediaType`), else `415`. It is read as a
  stream (`Json.Stream`): malformed JSON is a `400`, JSON of the wrong shape a `422`,
  whichever the reading meets first. A body whose value is followed by more than blanks
  is malformed.
-/

namespace ImageStudio

/-- An HTTP request as the router sees it. -/
structure HttpRequest where
  method : String
  /-- Path and query, as sent. -/
  target : String
  /-- The `x-user-id` header, when sent. -/
  userHeader : Option String := none
  /-- The `content-type` header, when sent. -/
  contentType : Option String := none
  body : ByteArray := ByteArray.empty

/-- The body of an answer. -/
inductive HttpBody where
  | empty
  | text (s : String)
  | json (j : Json)
  deriving Inhabited

/-- An answer. -/
structure HttpResponse where
  status : Nat
  body : HttpBody := .empty
  deriving Inhabited

namespace HttpResponse

/-- A text answer. -/
def text (status : Nat) (s : String) : HttpResponse := { status, body := .text s }

/-- A JSON answer. -/
def json (status : Nat) (j : Json) : HttpResponse := { status, body := .json j }

/-- The answer to a failure of the service (`port_error_response`). -/
def ofPortError (e : PortError) : HttpResponse :=
  let (status, message) := e.response
  text status message

end HttpResponse

namespace Http

/-- Whether a header value is visible ASCII (tabs allowed), which is what it must be to
be read as text. -/
def isVisibleHeader (s : String) : Bool :=
  s.toList.all fun c => c == '\t' || (0x20 ≤ c.toNat && c.toNat ≤ 0x7E)

/-- Whether a content type names JSON: a visible text that reads as a media type of type
`application` with subtype or suffix `json`. -/
def isJsonContentType (ct : String) : Bool :=
  isVisibleHeader ct && (MediaType.parse ct).any MediaType.isJson

/-- Percent-decodes text, or nothing when the bytes are not UTF-8. -/
def percentDecode? (cs : List Char) : Option String :=
  String.fromUTF8? (ByteArray.mk (Url.decodeBytes cs).toArray)

/-- The members of form data, decoded, in order; empty members are skipped. -/
def formPairs (query : String) : List (String × String) :=
  let plusToSpace (xs : List Char) := xs.map fun c => if c == '+' then ' ' else c
  let decode (xs : List Char) :=
    (String.fromUTF8? (ByteArray.mk (Url.decodeBytes (plusToSpace xs)).toArray)).getD ""
  (query.splitOn "&").filterMap fun part =>
    if part.isEmpty then none
    else
      let (k, v) := Url.breakAt (· == '=') part.toList
      some (decode k, decode (v.drop 1))

/-- A failure to read the query. -/
def queryFailure (message : String) : HttpResponse :=
  .text 400 ("Failed to deserialize query string: " ++ message)

/-- Reads an identifier member of the query. -/
def queryUuid (query : String) (name : String) : Except HttpResponse Uuid :=
  let rec scan : List (String × String) → Option Uuid → Except HttpResponse Uuid
    | [], some u => .ok u
    | [], none => .error (queryFailure ("missing field `" ++ name ++ "`"))
    | (k, v) :: rest, seen =>
      if k != name then scan rest seen
      else if seen.isSome then .error (queryFailure ("duplicate field `" ++ name ++ "`"))
      else match Uuid.parse v with
        | .ok u => scan rest (some u)
        | .error e => .error (queryFailure (name ++ ": UUID parsing failed: " ++ e.message))
  scan (formPairs query) none

/-- Reads an identifier path parameter from its raw segment. -/
def pathUuid (name raw : String) : Except HttpResponse Uuid :=
  match percentDecode? raw.toList with
  | none => .error (.text 400 ("Invalid URL: Invalid UTF-8 in `" ++ name ++ "`"))
  | some v =>
    match Uuid.parse v with
    | .ok u => .ok u
    | .error e =>
      .error (.text 400 ("Invalid URL: Cannot parse `" ++ name ++ "` with value `" ++ v ++
        "`: UUID parsing failed: " ++ e.message))

/-- Reads a JSON body with a reader of its text: a syntax fault is a `400`, a data fault a
`422`, each with its message. -/
def jsonBody {α : Type} (req : HttpRequest) (read : ByteArray → Except Stream.Fault α) :
    Except HttpResponse α :=
  if !(req.contentType.any isJsonContentType) then
    .error (.text 415 "Expected request with `Content-Type: application/json`")
  else
    match read req.body with
    | .ok v => .ok v
    | .error f =>
      if f.malformed then
        .error (.text 400 ("Failed to parse the request body as JSON: " ++ f.text req.body))
      else
        .error (.text 422 ("Failed to deserialize the JSON body into the target type: " ++
          f.text req.body))

end Http

end ImageStudio
