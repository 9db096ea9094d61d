import ImageStudio.Net.Url

/-!
# Net · Request: what happens to an outgoing request

The service runs without a network: a request to a well-formed `http` or `https` URL is
never sent, and fails as unsent. Before that, the request is checked the way an HTTP client
checks it, in this order:

1. the text must be an absolute URL with a host (else it is malformed, or unsupported);
2. every header value must be a valid header value (else the request is malformed);
3. the scheme must be `http` or `https` (else it is unsupported).

An unsupported or unsent request names its URL in its normal form, without the user name
and password, which a client sends in a header instead.

A query is added to a URL as form-encoded pairs, after the query it has. An empty query is
dropped.
-/

namespace ImageStudio

/-- Why a request failed. -/
inductive RequestError where
  /-- The text is not an absolute URL. -/
  | malformed
  /-- The URL has no host, or a scheme other than `http` and `https`. -/
  | unsupported (url : Url)
  /-- The request could not be sent. -/
  | unsent (url : Url)
  deriving DecidableEq, Repr, Inhabited

namespace RequestError

/-- The message of the failure, naming the URL when there is one. -/
def message : RequestError → String
  | .malformed => "builder error"
  | .unsupported u => "builder error for url (" ++ u.toText ++ ")"
  | .unsent u => "error sending request for url (" ++ u.toText ++ ")"

end RequestError

/-- Whether a header value may be sent: no control character but the tab, and no delete. -/
def isHeaderValue (v : String) : Bool :=
  v.toList.all fun c => (c.toNat ≥ 32 && c.toNat != 127) || c == '\t'

/-- Whether a URL names a host. -/
def Url.hasHost (u : Url) : Bool :=
  match u.host with
  | some h => !h.isEmpty
  | none => false

/-- The text of percent-encoded characters, when their bytes are UTF-8. -/
def Url.decodedText (cs : List Char) : Option String :=
  String.fromUTF8? (ByteArray.mk (Url.decodeBytes cs).toArray)

/-- The URL a request goes to: user name and password leave it (they travel in a header
instead). They stay when the user name does not decode to UTF-8 text, or when there is no
user name and no password that decodes. -/
def Url.withoutCredentials (u : Url) : Url :=
  let (user, pass) := Url.breakAt (· == ':') u.userinfo.toList
  let password := match pass with
    | _ :: p => Url.decodedText p
    | [] => none
  match Url.decodedText user with
  | some name => if !name.isEmpty || password.isSome then { u with userinfo := "" } else u
  | none => u

/-- The failure of a request to a URL, read already, with these header values. -/
def sendFailure (u : Url) (headerValues : List String) : RequestError :=
  if !u.hasHost then .unsupported u
  else
    let u := u.withoutCredentials
    if !headerValues.all isHeaderValue then .malformed
    else if !(u.scheme == "http" || u.scheme == "https") then .unsupported u
    else .unsent u

/-- The failure of a request to this URL with these header values. -/
def requestFailureWith (url : String) (headerValues : List String) : RequestError :=
  match Url.parse url with
  | none => .malformed
  | some u => sendFailure u headerValues

/-- The failure of a request to this URL. -/
def requestFailure (url : String) : RequestError := requestFailureWith url []

/-- A byte of a form-encoded text: letters, digits and `*-._` stay, a space is `+`. -/
def formByte (b : UInt8) : String :=
  let c := Char.ofNat b.toNat
  if c.isAlphanum || "*-._".contains c then String.singleton c
  else if c == ' ' then "+"
  else "%" ++ String.singleton (Url.hexDigit (b.toNat / 16)) ++
    String.singleton (Url.hexDigit (b.toNat % 16))

/-- A text form-encoded. -/
def formEncode (s : String) : String := String.join (s.toUTF8.toList.map formByte)

/-- The URL with these pairs added to its query. -/
def Url.withPairs (u : Url) (pairs : List (String × String)) : Url :=
  let added := "&".intercalate (pairs.map fun (k, v) => formEncode k ++ "=" ++ formEncode v)
  let query := match u.query with
    | none => added
    | some q => if q.isEmpty || added.isEmpty then q ++ added else q ++ "&" ++ added
  { u with query := if query.isEmpty then none else some query }

end ImageStudio
