import ImageStudio.Web.Http

/-!
# Web · Router: the HTTP interface of the service

| method | path | answer |
|---|---|---|
| POST | `/images` | 201, the created batch |
| GET | `/generations/{id}/status?asyncTaskId=…` | 200, the status |
| DELETE | `/generations/{id}` | 204 |
| GET, POST | `/topics` | 200 the topics, 201 the created topic |
| PATCH, DELETE | `/topics/{id}` | 200 the topic, 204 |
| GET | `/topics/{id}/batches` | 200, the feed |
| DELETE | `/batches/{id}` | 204 |

Every request, to a route or not, must carry the caller in `x-user-id`: without a readable
header the answer is `401`, with one that is no identifier (after trimming) `400`. Only
then is the path matched: an unknown path is `404`, a method the path does not take
`405`; `HEAD` is answered like `GET`, without a body. The handler then reads the path
parameter, the query and the body, in that order. Failures of the service answer with
their status and message, an unexpected one with `500 Internal server error`.
-/

namespace ImageStudio

/-- The routes of the interface, with their raw path parameter. -/
inductive Route where
  | images
  | generationStatus (id : String)
  | generation (id : String)
  | topics
  | topic (id : String)
  | topicBatches (id : String)
  | batch (id : String)
  deriving DecidableEq, Repr

namespace Route

/-- The route of a path. -/
def ofPath (path : String) : Option Route :=
  let param (id : String) (r : String → Route) := if id.isEmpty then none else some (r id)
  match path.splitOn "/" with
  | ["", "images"] => some .images
  | ["", "generations", id, "status"] => param id .generationStatus
  | ["", "generations", id] => param id .generation
  | ["", "topics"] => some .topics
  | ["", "topics", id] => param id .topic
  | ["", "topics", id, "batches"] => param id .topicBatches
  | ["", "batches", id] => param id .batch
  | _ => none

/-- The methods a route takes. -/
def methods : Route → List String
  | .images => ["POST"]
  | .generationStatus _ => ["GET"]
  | .generation _ => ["DELETE"]
  | .topics => ["GET", "POST"]
  | .topic _ => ["PATCH", "DELETE"]
  | .topicBatches _ => ["GET"]
  | .batch _ => ["DELETE"]

end Route

namespace Studio

/-- Runs a request of the service; a failure becomes its answer. -/
def answer {α : Type} (m : Serve α) (ok : α → HttpResponse) : StateM Studio HttpResponse := do
  match ← m.run with
  | .ok a => pure (ok a)
  | .error e => pure (HttpResponse.ofPortError e)

/-- The answer of a handler that reads its inputs before calling the service. -/
def withInputs {α : Type} (inputs : Except HttpResponse α)
    (k : α → StateM Studio HttpResponse) : StateM Studio HttpResponse :=
  match inputs with
  | .ok a => k a
  | .error r => pure r

/-- Handles a request of a known caller on a route, by method (`rest::router`). -/
def route (user : Uuid) (req : HttpRequest) (query : String) :
    Route → String → StateM Studio HttpResponse
  | .images, _ =>
    withInputs (Http.jsonBody req CreateImagePayload.readText) fun p =>
      answer (createImage user { topic := p.topicId, provider := p.provider, model := p.model,
                                 imageNum := p.imageNum, params := p.params })
        fun r => .json 201 (CreateImageResponse.ofResult r).toJson
  | .generationStatus id, _ =>
    withInputs (do pure (← Http.pathUuid "id" id, ← Http.queryUuid query "asyncTaskId"))
      fun (gen, task) =>
        answer (generationStatus user gen task) fun s =>
          .json 200 (GenerationStatusDto.ofStatus s).toJson
  | .generation id, _ =>
    withInputs (Http.pathUuid "id" id) fun gen =>
      answer (deleteGeneration user gen) fun _ => { status := 204 }
  | .topics, "POST" =>
    withInputs (Http.jsonBody req CreateTopicPayload.readText) fun p =>
      answer (createTopic user p.title) fun t => .json 201 (TopicDto.ofTopic t).toJson
  | .topics, _ =>
    answer (listTopics user) fun ts => .json 200 (.arr (ts.map fun t => (TopicDto.ofTopic t).toJson))
  | .topic id, "PATCH" =>
    withInputs (do pure (← Http.pathUuid "id" id, ← Http.jsonBody req UpdateTopicPayload.readText))
      fun (topic, p) =>
        answer (updateTopic user topic p.title p.coverUrl) fun t =>
          .json 200 (TopicDto.ofTopic t).toJson
  | .topic id, _ =>
    withInputs (Http.pathUuid "id" id) fun topic =>
      answer (deleteTopic user topic) fun _ => { status := 204 }
  | .topicBatches id, _ =>
    withInputs (Http.pathUuid "id" id) fun topic =>
      answer (batches user topic) fun bs => .json 200 (.arr (bs.map BatchViewDto.toJson))
  | .batch id, _ =>
    withInputs (Http.pathUuid "id" id) fun b =>
      answer (deleteBatch user b) fun _ => { status := 204 }

/-- Answers an HTTP request (`rest::router`). -/
def handle (req : HttpRequest) : StateM Studio HttpResponse := do
  let some raw := req.userHeader.filter Http.isVisibleHeader | pure { status := 401 }
  let .ok user := Uuid.parse (Text.trim raw) | pure { status := 400 }
  let (path, query) := Url.breakAt (· == '?') req.target.toList
  let query := String.ofList (query.drop 1)
  let some r := Route.ofPath (String.ofList path) | pure { status := 404 }
  let method := if req.method == "HEAD" then "GET" else req.method
  if !r.methods.contains method then return { status := 405 }
  let response ← route user req query r method
  pure (if req.method == "HEAD" then { response with body := .empty } else response)

end Studio

end ImageStudio
