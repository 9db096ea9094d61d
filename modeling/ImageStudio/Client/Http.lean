import ImageStudio.Client.Error
import ImageStudio.Provider.Remote
import ImageStudio.Web.Dto

/-!
# Client · Http: the studio's status interface, seen from a client

A client follows a generation through two requests, both made for one user, whose id it
sends in the `x-user-id` header:

* `GET <base>/generations/<generation>/status?asyncTaskId=<task>` answers the status of the
  generation's task;
* `GET <base>/topics/<topic>/batches` answers the batches of a topic.

Every `/` at the end of the base is dropped. Without a network each request fails before it
is sent (see `RequestError`); its failure names the URL with the query added.
-/

namespace ImageStudio

/-- A client of the studio's HTTP interface, acting for one user. -/
structure HttpStatusSource where
  baseUrl : String
  user : Uuid
  deriving Repr, Inhabited

namespace HttpStatusSource

/-- The URL of a generation's status, before its query. -/
def statusUrl (s : HttpStatusSource) (generation : Uuid) : String :=
  trimEndSlashes s.baseUrl ++ "/generations/" ++ generation.toText ++ "/status"

/-- The URL of a topic's batches. -/
def batchesUrl (s : HttpStatusSource) (topic : Uuid) : String :=
  trimEndSlashes s.baseUrl ++ "/topics/" ++ topic.toText ++ "/batches"

/-- Why a request to `url` fails, with these query pairs when it has a query. -/
def failure (s : HttpStatusSource) (url : String) (pairs : Option (List (String × String))) :
    ClientError :=
  match Url.parse url with
  | none => .http .malformed
  | some u =>
    let u' := match pairs with
      | some ps => u.withPairs ps
      | none => u
    if u.hasHost then .http (sendFailure u' [s.user.toText]) else .http (.unsupported u)

/-- Asks for the status of a generation's task (`HttpStatusSource::get_generation_status`). -/
def generationStatus (s : HttpStatusSource) (generation task : Uuid) :
    Except ClientError GenerationStatusDto :=
  .error (s.failure (s.statusUrl generation) (some [("asyncTaskId", task.toText)]))

/-- Asks for the batches of a topic (`HttpStatusSource::get_generation_batches`). -/
def generationBatches (s : HttpStatusSource) (topic : Uuid) :
    Except ClientError (List BatchViewDto) :=
  .error (s.failure (s.batchesUrl topic) none)

end HttpStatusSource

end ImageStudio
