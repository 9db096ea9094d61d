import ImageStudio.Session.Steps

/-!
# Session · Run: every step, and a whole session

`Session.step` runs one step and writes its answer for the transcript; `Session.run` sets a
studio up from its description and runs the steps in order. A failing step answers with
its failure, and the session goes on.

The seeds a session chooses itself are known before it runs: those requested in the
parameters of a create request, over HTTP too, and those given to `repo.create_batch`.
-/

namespace ImageStudio

namespace Session

/-- The service's requests. -/
def serviceStep (kind : String) (step : Json) : SessionM (Option Json) := do
  match kind with
  | "create_image" =>
    let user ← userOf step
    let topic ← match step.get? "topic" with
      | some (.str _) => some <$> ref step "topic"
      | _ => pure none
    let imageNum := (int? step "image_num").map Int.toNat
    let r ← serve (Studio.createImage user
      { topic, provider := text step "provider", model := text step "model", imageNum,
        params := (step.get? "params").getD .null })
    if let .ok c := r then
      labelCreated c.topic c.batch.id (c.generations.map fun g => (g.id, g.task))
    pure (some (answerOf r fun c =>
      let seeds := c.generations.filterMap (·.seed)
      Json.mkObj ((CreateImageResponse.ofResult c).toJson.members ++
        [("seedsDistinct", .bool (seeds.eraseDups.length == seeds.length))])))
  | "status" =>
    let user ← userOf step
    let gen ← ref step "generation"
    let task ← ref step "task"
    let r ← serve (Studio.generationStatus user gen task)
    pure (some (answerOf r fun s => (GenerationStatusDto.ofStatus s).toJson))
  | "batches" =>
    let user ← userOf step
    let topic ← ref step "topic"
    let r ← serve (Studio.batches user topic)
    pure (some (answerOf r fun bs => .arr (bs.map BatchViewDto.toJson)))
  | "delete_generation" =>
    let user ← userOf step
    let id ← ref step "generation"
    pure (some (answerOf (← serve (Studio.deleteGeneration user id)) fun _ => .str "ok"))
  | "delete_batch" =>
    let user ← userOf step
    let id ← ref step "batch"
    pure (some (answerOf (← serve (Studio.deleteBatch user id)) fun _ => .str "ok"))
  | "delete_topic" =>
    let user ← userOf step
    let id ← ref step "topic"
    pure (some (answerOf (← serve (Studio.deleteTopic user id)) fun _ => .str "ok"))
  | "list_topics" =>
    let user ← userOf step
    let r ← serve (Studio.listTopics user)
    pure (some (answerOf r fun ts => .arr (ts.map fun t => (TopicDto.ofTopic t).toJson)))
  | "create_topic" =>
    let user ← userOf step
    let r ← serve (Studio.createTopic user (text step "title"))
    if let .ok t := r then
      let _ ← naming (Names.label 'T' t.id)
    pure (some (answerOf r fun t => (TopicDto.ofTopic t).toJson))
  | "update_topic" =>
    let user ← userOf step
    let id ← ref step "topic"
    let r ← serve (Studio.updateTopic user id (optText step "title") (optText step "cover_url"))
    pure (some (answerOf r fun t => (TopicDto.ofTopic t).toJson))
  | "settle" =>
    onStudio Studio.settle
    pure (some (.str "settled"))
  | "store" => pure (some (Records.storeLines (← get).studio.bucket))
  | "dump" => some <$> dump
  | "http" => some <$> http step
  | _ => pure none

/-- Reads the task states of a transition, or the failure of the first unknown one. -/
def readStatuses (names : List Json) : Except Json (List TaskStatus) :=
  names.mapM fun n =>
    (TaskStatus.ofName ((Json.asStr? n).getD "")).mapError
      (Records.failure "AsyncTaskStatus::from_str")

/-- The file a completion records, from its description. Absent members default to a
WebP image of 42 bytes and 400 × 400 pixels stored under keys made from the hash. -/
def readNewFile (f : Json) : Except Json NewFile := do
  let hash := text f "file_hash"
  let metadata ← match f.get? "metadata" with
    | some m => (FileMetadata.read (Node.ofJson m)).mapError fun e =>
        Records.failure "serde" e.message
    | none => pure { thumbnailKey := some ("generations/images/" ++ hash ++ "_thumb.webp"),
                     width := 400, height := 400 }
  pure { fileHash := hash, name := (optText f "name").getD (hash ++ ".webp"),
         fileType := (optText f "file_type").getD "image/webp",
         size := (int? f "size").getD 42,
         url := (optText f "url").getD ("generations/images/" ++ hash ++ "_raw.webp"),
         metadata }

/-- Calls on the repository itself. -/
def repoStep (kind : String) (step : Json) : SessionM (Option Json) := do
  let user ← userOf step
  match kind with
  | "create_topic" =>
    let r ← repo (Repository.createTopic user (text step "title"))
    if let .ok t := r then
      let _ ← naming (Names.label 'T' t.id)
    pure (some (answerOf r Records.topic))
  | "get_topic" =>
    let id ← ref step "topic"
    pure (some (answerOf (← repo (Repository.getTopic user id)) Records.topic))
  | "list_topics" =>
    pure (some (.arr (((← get).studio.repo.topicsOf user).map Records.topic)))
  | "update_topic" =>
    let id ← ref step "topic"
    let r ← repo (Repository.updateTopic user id (optText step "title") (optText step "cover_url"))
    pure (some (answerOf r Records.topic))
  | "set_cover" =>
    let id ← ref step "topic"
    let r ← repo (Repository.setCoverIfEmpty user id (text step "cover"))
    pure (some (answerOf r Json.bool))
  | "delete_topic" =>
    let id ← ref step "topic"
    pure (some (answerOf (← repo (Repository.deleteTopic user id)) Records.files))
  | "create_batch" =>
    let topic ← ref step "topic"
    let seeds := match step.get? "seeds" with
      | some (.arr xs) => some (xs.filterMap fun x => match x with
          | .num n => n.asI64?
          | _ => none)
      | _ => none
    let r ← repo (Repository.createBatch user
      { topic, provider := (optText step "provider").getD "fal",
        model := (optText step "model").getD "flux/schnell",
        prompt := (optText step "prompt").getD "a red fox",
        width := int? step "width", height := int? step "height",
        config := (step.get? "config").getD (Json.mkObj []),
        imageNum := ((int? step "image_num").getD 1).toNat, seeds })
    if let .ok c := r then
      labelCreated topic c.batch.id (c.generations.map fun g => (g.id, g.task))
    pure (some (answerOf r fun c => Json.mkObj [("batch", Records.batch c.batch),
      ("generations", .arr (c.generations.map Records.generation)),
      ("taskIds", .arr (c.tasks.map Json.ofUuid))]))
  | "batches" =>
    let topic ← ref step "topic"
    pure (some (.arr (((← get).studio.repo.batchesOf user topic).map BatchViewDto.toJson)))
  | "delete_batch" =>
    let id ← ref step "batch"
    pure (some (answerOf (← repo (Repository.deleteBatch user id))
      fun fs => Json.ofOpt Records.files fs))
  | "get_generation" =>
    let id ← ref step "generation"
    pure (some (Json.ofOpt Records.generation ((← get).studio.repo.generation? user id)))
  | "find_file" =>
    pure (some (Json.ofOpt Records.file ((← get).studio.repo.fileWithHash? user (text step "hash"))))
  | "delete_generation" =>
    let id ← ref step "generation"
    pure (some (answerOf (← repo (Repository.deleteGeneration user id)) fun d =>
      Json.ofOpt (fun (d : DeletedGeneration) => Json.mkObj
        [("generation", Records.generation d.generation),
         ("deletedFile", Json.ofOpt Records.file d.deletedFile)]) d))
  | "complete" =>
    let gen ← ref step "generation"
    let task ← ref step "task"
    let asset := (Asset.read (Node.ofJson ((step.get? "asset").getD .null))).mapError fun e =>
      Records.failure "serde" e.message
    match asset, readNewFile ((step.get? "file").getD .null) with
    | .error j, _ | _, .error j => pure (some j)
    | .ok asset, .ok file =>
      let r ← repo (Repository.completeGeneration user gen task asset file)
      pure (some (answerOf r (Json.ofOpt Records.file)))
  | "get_task" =>
    let id ← ref step "task"
    pure (some (Json.ofOpt Records.task ((← get).studio.repo.task? user id)))
  | "transition" =>
    let id ← ref step "task"
    let allowed := readStatuses (match step.get? "from" with
      | some (.arr xs) => xs
      | _ => [])
    let target := readStatuses [(step.get? "to").getD .null]
    let error := match step.get? "error" with
      | some e => ((TaskError.read (Node.ofJson e)).map some).mapError fun (e : DecodeError) =>
          Records.failure "serde" e.message
      | none => .ok none
    match allowed, target, error with
    | .error j, _, _ | _, .error j, _ | _, _, .error j => pure (some j)
    | .ok allowed, .ok target, .ok error =>
      let r ← repo (Repository.transition user id allowed (target.headD .pending) error)
      pure (some (answerOf r Json.bool))
  | "fail_timed_out" =>
    let ids ← match step.get? "tasks" with
      | some (.arr xs) => xs.mapM fun x => naming (Names.resolve ((Json.asStr? x).getD ""))
      | _ => pure []
    let r ← repo (Repository.failTimedOut user ids ((int? step "timeout_ms").getD 0))
    pure (some (answerOf r fun n => Json.ofInt n))
  | _ => pure none

/-- Runs one step and writes its answer for the transcript. -/
def step (s : Json) : SessionM Json := do
  let kind := text s "do"
  let answer ← match kind.splitOn "repo." with
    | ["", op] => repoStep op s
    | _ => if kind == "calls" then some <$> (.arr <$> newCalls) else serviceStep kind s
  match answer with
  | none => pure (Records.failure "DriverInput" ("unknown step '" ++ kind ++ "'"))
  | some j =>
    naming (Transcript.answer kind j)

/-- The seeds a session chooses itself. -/
def chosenSeeds (steps : List Json) : List Int :=
  steps.foldl (fun acc s =>
    let fromParams (p : Json) : List Int := match p.get? "seed" with
      | some (.num n) => n.asI64?.toList
      | _ => []
    let bodyParams := match s.get? "body" with
      | some b => fromParams ((b.get? "params").getD .null)
      | none => []
    let batchSeeds := match s.get? "seeds" with
      | some (.arr xs) => xs.filterMap fun x => match x with
        | .num n => n.asI64?
        | _ => none
      | _ => []
    acc ++ fromParams ((s.get? "params").getD .null) ++ bodyParams ++ batchSeeds) []

/-- Runs a whole session: the studio its description sets up, then every step. -/
def run (setup : Json) (steps : List Json) : Except String (List Json) := do
  let studio ← Setup.studio setup
  let session : Session := { studio, names := { chosenSeeds := chosenSeeds steps } }
  pure ((steps.mapM step).run session).1

end Session

end ImageStudio
