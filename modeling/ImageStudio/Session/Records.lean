import ImageStudio.Session.Transcript

/-!
# Session · Records: the stored records as a session shows them

A session shows the repository's records whole, with their owner: topics, batches,
generations, tasks (with their kind and whether they recorded a duration) and files (with
the keys they own). Failures show their kind and message.
-/

namespace ImageStudio

namespace Records

/-- A failure of a given kind. -/
def failure (kind message : String) : Json :=
  Json.mkObj [("error", .str kind), ("message", .str message)]

/-- A failure of the service. -/
def portFailure (e : PortError) : Json := failure ("PortError::" ++ e.kindName) e.message

/-- A topic. -/
def topic (t : Topic) : Json :=
  Json.mkObj [("id", .ofUuid t.id), ("user", .ofUuid t.user), ("title", .str t.title),
    ("coverUrl", .ofOptStr t.coverUrl), ("createdAt", .ofInstant t.createdAt),
    ("updatedAt", .ofInstant t.updatedAt)]

/-- A batch. -/
def batch (b : Batch) : Json :=
  Json.mkObj [("id", .ofUuid b.id), ("user", .ofUuid b.user), ("topic", .ofUuid b.topic),
    ("provider", .str b.provider), ("model", .str b.model), ("prompt", .str b.prompt),
    ("width", .ofOptInt b.width), ("height", .ofOptInt b.height), ("config", b.config),
    ("createdAt", .ofInstant b.createdAt)]

/-- A generation. -/
def generation (g : Generation) : Json :=
  Json.mkObj [("id", .ofUuid g.id), ("user", .ofUuid g.user), ("batch", .ofUuid g.batch),
    ("task", .ofOptUuid g.task), ("file", .ofOptUuid g.file), ("seed", .ofOptInt g.seed),
    ("asset", .ofOpt Asset.toJson g.asset), ("createdAt", .ofInstant g.createdAt)]

/-- A task. -/
def task (t : Task) : Json :=
  Json.mkObj [("id", .ofUuid t.id), ("user", .ofUuid t.user), ("type", .str Task.typeName),
    ("status", .str t.status.name), ("error", .ofOpt TaskError.toJson t.error),
    ("hasDuration", .bool t.durationMs.isSome), ("createdAt", .ofInstant t.createdAt),
    ("updatedAt", .ofInstant t.updatedAt)]

/-- A file. -/
def file (f : FileRecord) : Json :=
  Json.mkObj [("id", .ofUuid f.id), ("user", .ofUuid f.user), ("name", .str f.name),
    ("fileType", .str f.fileType), ("fileHash", .str f.fileHash), ("size", Json.ofInt f.size),
    ("url", .str f.url), ("metadata", f.metadata.toJson), ("thumbnailKey", .str f.thumbnailKey),
    ("objectKeys", .arr (f.objectKeys.map .str)), ("createdAt", .ofInstant f.createdAt)]

/-- A list of files. -/
def files (fs : List FileRecord) : Json := .arr (fs.map file)

/-- The objects of a store, one line each: key, size (`-` for a re-encoded thumbnail) and
content type, in key order. -/
def storeLines (b : Bucket) : Json :=
  .arr (b.listing.map fun o =>
    let size := if o.key.endsWith "_thumb.webp" then "-"
      else toString (o.blob.size?.getD 0)
    .str (o.key ++ " " ++ size ++ " " ++ o.contentType))

end Records

end ImageStudio
