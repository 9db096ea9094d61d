import ImageStudio.Studio.Basic

/-!
# Studio · Jobs: queueing jobs and running them

A created batch hands one job per generation to the queue. A job that cannot be queued,
because no worker runs or the queue is full, fails its task at once with a dispatch error.
The worker can be cancelled: it then stops taking jobs, and the jobs still in its queue are
dropped with it, their tasks left as they are (`Studio.stopWorker`). Jobs it took already
run on.

The worker runs the queued jobs together. Each job first claims its task (a task that is
no longer pending was claimed already, and the job stops), asks its provider for an image
and loads it; then it processes the image, stores it and completes the generation. The
first halves of all jobs run before any second half: that is the order the service shows,
since loading is quick and processing slow. Every failure ends the task in error with the
cause; only a task that left processing meanwhile (it timed out) is left as it is, and
the objects stored for it are removed again.

A job runs as a sequence of steps, one for each call it makes on the repository, the object
store or its provider (`JobStage`, `Studio.jobStep`). `Studio.settle` takes the queued jobs
through their steps in the order above.

Stored images are deduplicated per user: when the user already has a file with the same
content, the job uses its keys and stores nothing. Otherwise the raw image and its
thumbnail go under the keys
`generations/images/<id>_<W>x<H>_<yyyymmddhhmmss>_raw.<ext>` and `…_thumb.webp`; a
thumbnail that is the raw image itself is stored once, under the raw key.
-/

namespace ImageStudio

namespace Instant

/-- `yyyymmddhhmmss` of an instant. -/
def compactStamp (t : Instant) : String :=
  let (y, m, d) := civilFromDays t.days
  padded 4 y.toNat ++ padded 2 m ++ padded 2 d ++ padded 2 (t.seconds / 3600) ++
    padded 2 (t.seconds % 3600 / 60) ++ padded 2 (t.seconds % 60)

end Instant

/-- The keys an upload wrote: the raw image's and the thumbnail's (the same key when the
thumbnail is the raw image). -/
structure UploadedKeys where
  image : String
  thumbnail : String
  deriving DecidableEq, Repr, Inhabited

/-- The distinct keys of an upload (`UploadedKeys::keys`). -/
def UploadedKeys.keys (k : UploadedKeys) : List String :=
  if k.image == k.thumbnail then [k.image] else [k.image, k.thumbnail]

/-- The folder of generated images. -/
def imagesFolder : String := "generations/images"

/-- The text after the last `/`. -/
def lastSegment (key : String) : String :=
  String.ofList ((key.toList.reverse.takeWhile (· != '/')).reverse)

/-- A job whose provider answered and whose image was loaded. -/
structure LoadedJob where
  job : Job
  image : ProviderImage
  source : SourceImage

namespace Studio

/-- Fails a job's task, if it is still in flight, with the job's error (`fail_task`). -/
def failJob (job : Job) (e : JobError) : StateM Studio Unit := do
  let _ ← tryRepo (Repository.transition job.user job.task [.pending, .processing] .error
    (some e.toTaskError))

/-- Queues a job, or fails its task when it cannot be queued (one job of
`TaskDispatcher::trigger_all`, with `record_trigger_failure`). -/
def enqueue (job : Job) : StateM Studio Unit := do
  let s ← get
  let refusal :=
    if !s.workerRunning then some "dispatch worker is not running"
    else if s.queue.length ≥ s.settings.queueCapacity then some "dispatch queue is full"
    else none
  match refusal with
  | none => set { s with queue := s.queue ++ [job] }
  | some reason =>
    let _ ← tryRepo (Repository.transition job.user job.task [.pending, .processing] .error
      (some { kind := .dispatchTrigger, message := reason }))

/-- Cancels the worker (`DispatchWorker::run` on its token): it takes no more jobs, and the
jobs in its queue go with it. -/
def stopWorker (s : Studio) : Studio :=
  { s with queue := [], workerRunning := false }

/-- Fails every task still in flight, as a timeout of zero seconds would. -/
def expireAll : StateM Studio Unit := do
  let tasks := (← get).repo.tasks
  tasks.forM fun t => do
    let _ ← tryRepo (Repository.failTimedOut t.user [t.id] 0)

/-- Puts one object; a slow store lets every task in flight time out first
(`ObjectStore::put_object`). -/
def putObject (key : String) (blob : Blob) (contentType : String) :
    StateM Studio (Except PortError Unit) := do
  if (← get).bucket.slowPuts then expireAll
  let s ← get
  match s.bucket.put key blob contentType with
  | .ok b =>
    set { s with bucket := b }
    pure (.ok ())
  | .error e => pure (.error e)

/-- Deletes one object; a refused deletion is only noted (`ObjectStore::delete_object`). -/
def deleteObject (key : String) : StateM Studio Unit := do
  let s ← get
  match s.bucket.delete key with
  | .ok b => set { s with bucket := b }
  | .error _ => pure ()

/-- Deletes objects one after the other. -/
def deleteObjects (keys : List String) : StateM Studio Unit :=
  keys.forM deleteObject

/-- The keys a processed image is stored under, from a fresh identifier and the time
(`key_prefix`). -/
def uploadKeys (p : Processed) : StateM Studio UploadedKeys := do
  let id ← freshId
  let now ← now
  let stem := imagesFolder ++ "/" ++ id.simple ++ "_" ++ toString p.raw.width ++ "x" ++
    toString p.raw.height ++ "_" ++ now.compactStamp
  let imageKey := stem ++ "_raw." ++ p.raw.extension
  match p.thumbnail with
  | .same => pure { image := imageKey, thumbnail := imageKey }
  | .encoded _ _ => pure { image := imageKey, thumbnail := stem ++ "_thumb." ++ thumbnailExtension }

end Studio

/-! ## A job, one step at a time

A job waits at each call it makes on shared state: the repository, the object store, its
provider. `JobStage` says where a job waits and what it has found so far, and
`Studio.jobStep` takes it through the next call. What happens between two calls (checking
an answer, decoding an image, building a record) is part of the step that follows the
first call. -/

/-- Where a job waits, with what it has found so far (`run_job`). -/
inductive JobStage where
  /-- Next: claim the task. -/
  | claim
  /-- The task is claimed. Next: ask the provider, and load the image it answers with. -/
  | call
  /-- The image is loaded. Next: process it and look for a stored file with its content. -/
  | loaded (image : ProviderImage) (source : SourceImage)
  /-- No stored file has the content. Next: store the raw image. -/
  | upload (image : ProviderImage) (p : Processed)
  /-- The raw image was put under `keys.image`, with the result `raw`. Next: store the
  thumbnail of these dimensions. -/
  | putThumb (image : ProviderImage) (p : Processed) (keys : UploadedKeys) (width height : Nat)
      (raw : Except PortError Unit)
  /-- The image is stored under these keys; `uploaded` when this job stored them. Next:
  complete the generation. -/
  | complete (image : ProviderImage) (p : Processed) (imageKey thumbKey : String)
      (uploaded : Option UploadedKeys)
  /-- Next: delete these objects that no record kept, then go on as `next`. -/
  | discard (keys : List String) (next : JobStage)
  /-- Next: fail the task with this error. -/
  | fail (e : JobError)
  /-- The generation is complete. Next: give the topic this cover if it has none. -/
  | cover (key : String)
  /-- The job is over. -/
  | done

namespace JobStage

/-- Where a job goes once its image is stored under the keys of an upload, given the
result of the puts. -/
def afterUpload (image : ProviderImage) (p : Processed) (keys : UploadedKeys) :
    Except PortError Unit → JobStage
  | .ok _ => .complete image p keys.image keys.thumbnail (some keys)
  | .error e => .fail (.storage e)

/-- Where a job goes after completing its generation, before discarding anything: failed
when the completion failed, over when the task had left processing, and on to the cover
otherwise. -/
def afterComplete : Except PortError (Option FileRecord) → JobStage
  | .error e => .fail (.storage e)
  | .ok none => .done
  | .ok (some f) => .cover f.thumbnailKey

end JobStage

namespace Studio

/-- The asset a job records for its generation (`run_job`). -/
def jobAsset (image : ProviderImage) (p : Processed) (imageKey thumbKey : String) : Asset :=
  { url := imageKey, thumbnailUrl := thumbKey,
    originalUrl := if image.url.startsWith "data:" then none else some image.url,
    width := image.width.getD p.raw.width, height := image.height.getD p.raw.height }

/-- The file a job records for its generation (`run_job`). -/
def jobFile (p : Processed) (imageKey thumbKey : String) : NewFile :=
  { name := lastSegment imageKey, fileType := p.raw.mime, fileHash := p.raw.hash,
    size := p.raw.size, url := imageKey,
    metadata := { thumbnailKey := some thumbKey, width := p.raw.width, height := p.raw.height } }

/-- Takes a job through its next call, and says where it waits after it (`process_job`). -/
def jobStep (job : Job) : JobStage → StateM Studio JobStage
  | .claim => do
    let claimed ← tryRepo (Repository.transition job.user job.task [.pending] .processing none)
    pure (if claimed == some true then .call else .done)
  | .call => do
    let s ← get
    match s.provider? job.provider with
    | none => pure (.fail (.unknownProvider job.provider))
    | some p =>
      modify fun s => { s with calls := s.calls ++
        [{ provider := job.provider, model := job.model, params := job.params }] }
      match p.answer job.model job.params with
      | .error e => pure (.fail (.provider e))
      | .ok image =>
        if Text.isBlankText image.url then
          pure (.fail (.provider (.unexpected "Provider returned an empty image URL")))
        else
          match loadSource s.fetch image.url with
          | .error e => pure (.fail (.process e))
          | .ok source => pure (.loaded image source)
  | .loaded image source => do
    match processBytes source with
    | .error e => pure (.fail (.process e))
    | .ok p =>
      match (← get).repo.fileWithHash? job.user p.raw.hash with
      | some f => pure (.complete image p f.url f.thumbnailKey none)
      | none => pure (.upload image p)
  | .upload image p => do
    let keys ← uploadKeys p
    let raw ← putObject keys.image (.bytes p.raw.bytes) p.raw.mime
    match p.thumbnail with
    | .same => pure (JobStage.afterUpload image p keys raw)
    | .encoded w h => pure (.putThumb image p keys w h raw)
  | .putThumb image p keys w h raw => do
    let thumb ← putObject keys.thumbnail (.rendered w h) thumbnailMediaType
    pure (JobStage.afterUpload image p keys (do raw; thumb))
  | .complete image p imageKey thumbKey uploaded => do
    let completed ← runRepo (Repository.completeGeneration job.user job.generation job.task
      (jobAsset image p imageKey thumbKey) (jobFile p imageKey thumbKey))
    let next := JobStage.afterComplete completed
    match uploaded with
    | none => pure next
    | some keys =>
      let kept := match completed with
        | .ok (some f) => f.url == keys.image
        | _ => false
      pure (if kept then next else .discard keys.keys next)
  | .discard [] next => pure next
  | .discard (key :: keys) next => do
    deleteObject key
    pure (.discard keys next)
  | .fail e => do
    failJob job e
    pure .done
  | .cover key => do
    let _ ← tryRepo (Repository.setCoverIfEmpty job.user job.topic key)
    pure .done
  | .done => pure .done

/-- Takes a job through at most `n` calls (`process_job`). -/
def runJob (job : Job) : Nat → JobStage → StateM Studio JobStage
  | 0, stage => pure stage
  | n + 1, stage => do runJob job n (← jobStep job stage)

/-- The first half of a job: claim the task, ask the provider, load the image. -/
def startJob (job : Job) : StateM Studio (Option LoadedJob) := do
  match ← jobStep job .claim with
  | .call =>
    match ← jobStep job .call with
    | .loaded image source => pure (some { job, image, source })
    | stage =>
      let _ ← jobStep job stage
      pure none
  | _ => pure none

/-- The second half of a job: process the image, store it, complete the generation and
give the topic its first cover. Eight steps are enough: the longest way is processing, two
puts, the completion, two deletions, the end of the deletions and the failure. -/
def finishJob (l : LoadedJob) : StateM Studio Unit := do
  let _ ← runJob l.job 8 (.loaded l.image l.source)

/-- Runs every queued job and empties the queue (`DispatchWorker::run`). -/
def settle : StateM Studio Unit := do
  let jobs := (← get).queue
  modify fun s => { s with queue := [] }
  let loaded ← jobs.filterMapM startJob
  loaded.forM finishJob

end Studio

end ImageStudio
