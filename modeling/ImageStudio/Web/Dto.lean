import ImageStudio.Task.Basic
import ImageStudio.File.Record
import ImageStudio.Json.Stream

/-!
# Web · Dto: the shapes the HTTP interface reads and writes

Each wire type is a structure with a writer to JSON and a reader from a `Node`. Member names
are camel case; absent optional members are written as `null`, except an asset's original
URL, which is left out. Readers take an absent optional member as absent; identifiers must
be UUID texts and instants RFC 3339 texts.

The same shapes travel back to the polling client, which reads them with the same readers.
The request bodies (`CreateImagePayload`, `CreateTopicPayload`, `UpdateTopicPayload`) are
also read straight from their text (`readText`), as a list of fields for `Json.Stream`, so
that a fault is the one the reading meets first.
-/

namespace ImageStudio

namespace Node

/-- Reads an identifier from its text. -/
def asUuid (n : Node) : Decoded Uuid :=
  match n with
  | .str s p =>
    match Uuid.parse s with
    | .ok u => .ok u
    | .error e => .error { cause := .custom ("UUID parsing failed: " ++ e.message), stop := p }
  | _ => .error (n.typeError "a formatted UUID string")

/-- Reads an instant from its RFC 3339 text. -/
def asInstant (n : Node) : Decoded Instant :=
  match n with
  | .str s p =>
    match Instant.parse s with
    | .ok t => .ok t
    | .error e => .error { cause := .custom e.message, stop := p }
  | _ => .error (n.typeError "an RFC 3339 formatted date and time string")

end Node

namespace Json

/-- An identifier as its text. -/
def ofUuid (u : Uuid) : Json := .str u.toText

/-- An optional identifier, or `null`. -/
def ofOptUuid : Option Uuid → Json
  | some u => .str u.toText
  | none => .null

/-- An instant as its text. -/
def ofInstant (t : Instant) : Json := .str t.toText

/-- An optional value, or `null`. -/
def ofOpt {α : Type} (f : α → Json) : Option α → Json
  | some a => f a
  | none => .null

end Json

/-- A task error on the wire: any name, any message. -/
structure TaskErrorDto where
  name : String
  message : String
  deriving DecidableEq, Repr, Inhabited

namespace TaskErrorDto

/-- The wire form of a stored task error. -/
def ofError (e : TaskError) : TaskErrorDto := { name := e.kind.name, message := e.message }

/-- Writes the error. -/
def toJson (e : TaskErrorDto) : Json := Json.mkObj [("name", .str e.name), ("message", .str e.message)]

/-- Reads the error. -/
def read (n : Node) : Decoded TaskErrorDto := do
  let m ← RecordShape.members ⟨"TaskErrorDto", [("name", false), ("message", false)]⟩ n
  let name ← m.field "name" Node.asString
  let message ← m.field "message" Node.asString
  pure { name, message }

end TaskErrorDto

/-- A generation on the wire. -/
structure GenerationDto where
  id : Uuid
  batchId : Uuid
  asyncTaskId : Option Uuid
  fileId : Option Uuid
  seed : Option Int
  asset : Option Asset
  createdAt : Instant
  deriving DecidableEq, Repr, Inhabited

namespace GenerationDto

/-- Writes the generation. -/
def toJson (g : GenerationDto) : Json :=
  Json.mkObj [("id", .ofUuid g.id), ("batchId", .ofUuid g.batchId),
    ("asyncTaskId", .ofOptUuid g.asyncTaskId), ("fileId", .ofOptUuid g.fileId),
    ("seed", .ofOptInt g.seed), ("asset", .ofOpt Asset.toJson g.asset),
    ("createdAt", .ofInstant g.createdAt)]

/-- Reads a generation. -/
def read (n : Node) : Decoded GenerationDto := do
  let m ← RecordShape.members ⟨"GenerationDto", [("id", false), ("batchId", false),
    ("asyncTaskId", true), ("fileId", true), ("seed", true), ("asset", true),
    ("createdAt", false)]⟩ n
  let id ← m.field "id" Node.asUuid
  let batchId ← m.field "batchId" Node.asUuid
  let asyncTaskId ← m.optField "asyncTaskId" Node.asUuid
  let fileId ← m.optField "fileId" Node.asUuid
  let seed ← m.optField "seed" Node.asI64
  let asset ← m.optField "asset" (Asset.readAs "AssetDto")
  let createdAt ← m.field "createdAt" Node.asInstant
  pure { id, batchId, asyncTaskId, fileId, seed, asset, createdAt }

end GenerationDto

/-- A batch on the wire. -/
structure BatchDto where
  id : Uuid
  topicId : Uuid
  provider : String
  model : String
  prompt : String
  width : Option Int
  height : Option Int
  config : Json
  createdAt : Instant
  deriving Repr, Inhabited

/-- Writes the batch. -/
def BatchDto.toJson (b : BatchDto) : Json :=
  Json.mkObj [("id", .ofUuid b.id), ("topicId", .ofUuid b.topicId), ("provider", .str b.provider),
    ("model", .str b.model), ("prompt", .str b.prompt), ("width", .ofOptInt b.width),
    ("height", .ofOptInt b.height), ("config", b.config), ("createdAt", .ofInstant b.createdAt)]

/-- The answer to a create request: the topic, the batch and its generations. -/
structure CreateImageResponse where
  topicId : Uuid
  batch : BatchDto
  generations : List GenerationDto
  deriving Repr, Inhabited

/-- Writes the answer. -/
def CreateImageResponse.toJson (r : CreateImageResponse) : Json :=
  Json.mkObj [("topicId", .ofUuid r.topicId), ("batch", r.batch.toJson),
    ("generations", .arr (r.generations.map GenerationDto.toJson))]

/-- The status of one generation on the wire. -/
structure GenerationStatusDto where
  status : TaskStatus
  generation : Option GenerationDto := none
  error : Option TaskErrorDto := none
  deriving DecidableEq, Repr, Inhabited

namespace GenerationStatusDto

/-- Writes the status. -/
def toJson (s : GenerationStatusDto) : Json :=
  Json.mkObj [("status", .str s.status.name), ("generation", .ofOpt GenerationDto.toJson s.generation),
    ("error", .ofOpt TaskErrorDto.toJson s.error)]

/-- Reads a status. -/
def read (n : Node) : Decoded GenerationStatusDto := do
  let m ← RecordShape.members ⟨"GenerationStatusDto",
    [("status", false), ("generation", true), ("error", true)]⟩ n
  let status ← m.field "status" TaskStatus.read
  let generation ← m.optField "generation" GenerationDto.read
  let error ← m.optField "error" TaskErrorDto.read
  pure { status, generation, error }

end GenerationStatusDto

/-- A generation's task as the feed shows it. -/
structure GenerationTaskDto where
  id : Option Uuid
  status : Option TaskStatus
  error : Option TaskErrorDto := none
  deriving DecidableEq, Repr, Inhabited

namespace GenerationTaskDto

/-- Writes the task view. -/
def toJson (t : GenerationTaskDto) : Json :=
  Json.mkObj [("id", .ofOptUuid t.id), ("status", .ofOpt (fun s => .str s.name) t.status),
    ("error", .ofOpt TaskErrorDto.toJson t.error)]

/-- Reads a task view. -/
def read (n : Node) : Decoded GenerationTaskDto := do
  let m ← RecordShape.members ⟨"GenerationTaskDto",
    [("id", true), ("status", true), ("error", true)]⟩ n
  let id ← m.optField "id" Node.asUuid
  let status ← m.optField "status" TaskStatus.read
  let error ← m.optField "error" TaskErrorDto.read
  pure { id, status, error }

end GenerationTaskDto

/-- A generation as the feed shows it. -/
structure GenerationViewDto where
  id : Uuid
  asset : Option Asset
  seed : Option Int
  createdAt : Instant
  task : GenerationTaskDto
  deriving DecidableEq, Repr, Inhabited

namespace GenerationViewDto

/-- Writes the generation view. -/
def toJson (g : GenerationViewDto) : Json :=
  Json.mkObj [("id", .ofUuid g.id), ("asset", .ofOpt Asset.toJson g.asset),
    ("seed", .ofOptInt g.seed), ("createdAt", .ofInstant g.createdAt), ("task", g.task.toJson)]

/-- Reads a generation view. -/
def read (n : Node) : Decoded GenerationViewDto := do
  let m ← RecordShape.members ⟨"GenerationViewDto", [("id", false), ("asset", true),
    ("seed", true), ("createdAt", false), ("task", false)]⟩ n
  let id ← m.field "id" Node.asUuid
  let asset ← m.optField "asset" (Asset.readAs "AssetDto")
  let seed ← m.optField "seed" Node.asI64
  let createdAt ← m.field "createdAt" Node.asInstant
  let task ← m.field "task" GenerationTaskDto.read
  pure { id, asset, seed, createdAt, task }

end GenerationViewDto

/-- A batch with its generations, as the feed shows it. -/
structure BatchViewDto where
  id : Uuid
  provider : String
  model : String
  prompt : String
  width : Option Int
  height : Option Int
  config : Json
  createdAt : Instant
  generations : List GenerationViewDto
  deriving Repr, Inhabited

namespace BatchViewDto

/-- Writes the batch view. -/
def toJson (b : BatchViewDto) : Json :=
  Json.mkObj [("id", .ofUuid b.id), ("provider", .str b.provider), ("model", .str b.model),
    ("prompt", .str b.prompt), ("width", .ofOptInt b.width), ("height", .ofOptInt b.height),
    ("config", b.config), ("createdAt", .ofInstant b.createdAt),
    ("generations", .arr (b.generations.map GenerationViewDto.toJson))]

/-- Reads a batch view. -/
def read (n : Node) : Decoded BatchViewDto := do
  let m ← RecordShape.members ⟨"BatchViewDto", [("id", false), ("provider", false),
    ("model", false), ("prompt", false), ("width", true), ("height", true), ("config", false),
    ("createdAt", false), ("generations", false)]⟩ n
  let id ← m.field "id" Node.asUuid
  let provider ← m.field "provider" Node.asString
  let model ← m.field "model" Node.asString
  let prompt ← m.field "prompt" Node.asString
  let width ← m.optField "width" Node.asI32
  let height ← m.optField "height" Node.asI32
  let config ← m.field "config" Node.asJson
  let createdAt ← m.field "createdAt" Node.asInstant
  let generations ← m.field "generations" (Node.asList GenerationViewDto.read)
  pure { id, provider, model, prompt, width, height, config, createdAt, generations }

/-- Equality of batch views, the configuration compared as a value. -/
def beq (a b : BatchViewDto) : Bool :=
  a.id == b.id && a.provider == b.provider && a.model == b.model && a.prompt == b.prompt &&
  a.width == b.width && a.height == b.height && a.config == b.config &&
  a.createdAt == b.createdAt && a.generations == b.generations

instance : BEq BatchViewDto := ⟨beq⟩

end BatchViewDto

/-- A topic on the wire. -/
structure TopicDto where
  id : Uuid
  title : String
  coverUrl : Option String
  createdAt : Instant
  updatedAt : Instant
  deriving DecidableEq, Repr, Inhabited

/-- Writes the topic. -/
def TopicDto.toJson (t : TopicDto) : Json :=
  Json.mkObj [("id", .ofUuid t.id), ("title", .str t.title), ("coverUrl", .ofOptStr t.coverUrl),
    ("createdAt", .ofInstant t.createdAt), ("updatedAt", .ofInstant t.updatedAt)]

/-- The body of a create request. -/
structure CreateImagePayload where
  topicId : Option Uuid := none
  provider : String
  model : String
  imageNum : Option Nat := none
  params : Json
  deriving Repr, Inhabited

namespace CreateImagePayload

/-- Writes the request. -/
def toJson (p : CreateImagePayload) : Json :=
  Json.mkObj [("topicId", .ofOptUuid p.topicId), ("provider", .str p.provider),
    ("model", .str p.model), ("imageNum", .ofOpt (fun n => Json.ofInt n) p.imageNum),
    ("params", p.params)]

/-- The fields of a request, in declaration order. -/
def fields : List (Stream.Field CreateImagePayload) :=
  [⟨"topicId", true, fun b _ _ => do
      let v ← Stream.optional b (Stream.uuid b)
      pure fun p => { p with topicId := v }⟩,
   ⟨"provider", false, fun b _ _ => do
      let v ← Stream.string b
      pure fun p => { p with provider := v }⟩,
   ⟨"model", false, fun b _ _ => do
      let v ← Stream.string b
      pure fun p => { p with model := v }⟩,
   ⟨"imageNum", true, fun b _ _ => do
      let v ← Stream.optional b (Stream.usize b)
      pure fun p => { p with imageNum := v }⟩,
   ⟨"params", false, fun b path depth => do
      let v ← Stream.anyValue b path depth (b.size + 2)
      pure fun p => { p with params := v }⟩]

/-- Reads a request. -/
def read (n : Node) : Decoded CreateImagePayload := do
  let m ← RecordShape.members ⟨"CreateImagePayload", [("topicId", true), ("provider", false),
    ("model", false), ("imageNum", true), ("params", false)]⟩ n
  let topicId ← m.optField "topicId" Node.asUuid
  let provider ← m.field "provider" Node.asString
  let model ← m.field "model" Node.asString
  let imageNum ← m.optField "imageNum" Node.asUsize
  let params ← m.field "params" Node.asJson
  pure { topicId, provider, model, imageNum, params }

/-- Reads a request from its text. -/
def readText (b : ByteArray) : Except Stream.Fault CreateImagePayload :=
  Stream.document b (Stream.record b "CreateImagePayload" fields
    { provider := "", model := "", params := .null })

end CreateImagePayload

/-- The body of a topic creation. -/
structure CreateTopicPayload where
  title : String
  deriving Repr, Inhabited

/-- Reads a topic creation from its text. -/
def CreateTopicPayload.readText (b : ByteArray) : Except Stream.Fault CreateTopicPayload :=
  Stream.document b (Stream.record b "CreateTopicPayload"
    [⟨"title", false, fun b _ _ => do
      let v ← Stream.string b
      pure fun _ => { title := v }⟩]
    { title := "" })

/-- The body of a topic update. -/
structure UpdateTopicPayload where
  title : Option String := none
  coverUrl : Option String := none
  deriving Repr, Inhabited

namespace UpdateTopicPayload

/-- Writes the update. -/
def toJson (p : UpdateTopicPayload) : Json :=
  Json.mkObj [("title", .ofOptStr p.title), ("coverUrl", .ofOptStr p.coverUrl)]

/-- The fields of an update, in declaration order. -/
def fields : List (Stream.Field UpdateTopicPayload) :=
  [⟨"title", true, fun b _ _ => do
      let v ← Stream.optional b (Stream.string b)
      pure fun p => { p with title := v }⟩,
   ⟨"coverUrl", true, fun b _ _ => do
      let v ← Stream.optional b (Stream.string b)
      pure fun p => { p with coverUrl := v }⟩]

/-- Reads an update. -/
def read (n : Node) : Decoded UpdateTopicPayload := do
  let m ← RecordShape.members ⟨"UpdateTopicPayload", [("title", true), ("coverUrl", true)]⟩ n
  let title ← m.optField "title" Node.asString
  let coverUrl ← m.optField "coverUrl" Node.asString
  pure { title, coverUrl }

/-- Reads an update from its text. -/
def readText (b : ByteArray) : Except Stream.Fault UpdateTopicPayload :=
  Stream.document b (Stream.record b "UpdateTopicPayload" fields {})

end UpdateTopicPayload

end ImageStudio
