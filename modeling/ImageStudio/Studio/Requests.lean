import ImageStudio.Studio.Jobs

/-!
# Studio · Requests: what a client can ask of the service

**Creating images.** A request names a provider's model, the number of images and the
parameters. It is checked before anything is written, in this order: the model must be in
the catalog, its provider registered, the parameters valid for the model's schema, and the
number of images between one and the maximum (the default when none is named). The images
go to the named topic, which must be the caller's, or to a new topic whose title comes
from the title service or, when that fails or answers blank, from the prompt (trimmed, at
most 32 characters). A model that takes seeds gets one distinct seed per image, the first
being the requested seed when there is one. The batch is stored, and each generation's job
is queued with its own seed; local reference images are sent inline when they can be read.

**Status.** Asking for a generation's status first fails its task if it has been in flight
longer than the timeout. A successful task shows its generation, a failed one its error.

**Deleting.** Deleting a generation that is gone is no failure; deleting a batch that is
gone is. The stored objects of the files that went are removed, and a refused removal is
only noted.

**Topics.** A topic's title is trimmed and may not be blank.
-/

namespace ImageStudio

/-- A request for images (`CreateImageRequest`). -/
structure CreateRequest where
  topic : Option Uuid := none
  provider : String
  model : String
  imageNum : Option Nat := none
  params : Json
  deriving Repr, Inhabited

/-- What a create request made (`CreateImageResult`): the topic, the batch and its generations. -/
structure CreateResult where
  topic : Uuid
  batch : Batch
  generations : List Generation
  deriving Repr, Inhabited

/-- The state of a generation (`GenerationStatus`): its task's status, and its generation on
success or its error on failure. -/
structure GenerationStatus where
  status : TaskStatus
  generation : Option Generation := none
  error : Option TaskError := none
  deriving Repr, Inhabited

/-- The longest topic title made from a prompt. -/
def fallbackTitleLength : Nat := 32

/-- A title made from a prompt (`fallback_title`): trimmed, at most 32 characters. -/
def fallbackTitle (prompt : String) : String :=
  String.ofList ((Text.trim prompt).toList.take fallbackTitleLength)

/-- The title of a new topic (`ImageService::topic_title`): the title service's answer unless it
fails or is blank. -/
def topicTitle (titles : Option TitleService) (prompt : String) : String :=
  match titles.map (fun f => f prompt) with
  | some (Except.ok t) => if Text.isBlankText t then fallbackTitle prompt else t
  | _ => fallbackTitle prompt

/-- The parameters with each local reference image that can be fetched sent inline
(`ImageService::inline_local_images`). -/
def inlineLocalImages (fetch : Fetch) (p : ImageParams) : ImageParams :=
  if !p.imageUrls.any isLocalUrl then p
  else
    { p with imageUrls := p.imageUrls.map fun u =>
        if isLocalUrl u then
          match loadSource fetch u with
          | .ok s => s.toDataUrl
          | .error _ => u
        else u }

/-- A 32-bit unsigned width as the signed column that stores it. -/
def storedDimension (n : Nat) : Int :=
  let w : Nat := n % Nat.pow 2 32
  if w ≥ Nat.pow 2 31 then (w : Int) - Nat.pow 2 32 else (w : Int)

/-- The longest timeout, in seconds, that a duration of milliseconds can hold. -/
def maxTimeoutSecs : Nat := 9223372036854775

namespace Studio

/-- Distinct seeds for a batch, the first being `first` when given (`generate_unique_seeds`). -/
def drawSeeds (count : Nat) (first : Option Int) : StateM Studio (List Int) :=
  modifyGet fun s =>
    let (seeds, e) := uniqueSeeds count first s.seeds
    (seeds, { s with seeds := e })

/-- A create request that passed its checks, with its topic resolved. -/
structure CreatePlan where
  user : Uuid
  request : CreateRequest
  card : ModelCard
  params : ImageParams
  imageNum : Nat
  topic : Uuid

/-- Checks a create request and resolves its topic (`ImageService::create_image`): the caller's
named topic, or a new one. -/
def planCreate (user : Uuid) (req : CreateRequest) : Serve CreatePlan := do
  let s ← get
  let some card := s.catalog.find? req.provider req.model
    | throw (.validation ("Unknown model '" ++ req.model ++ "' for provider '" ++
        req.provider ++ "'"))
  if (s.provider? req.provider).isNone then
    throw (.validation ("Provider '" ++ req.provider ++ "' is not configured"))
  let params ← match card.schema.check req.params with
    | .ok p => pure p
    | .error e => throw (PortError.ofParams e)
  let imageNum := req.imageNum.getD s.settings.defaultImageNum
  if imageNum = 0 ∨ imageNum > s.settings.maxImageNum then
    throw (.validation ("imageNum must be between 1 and " ++ toString s.settings.maxImageNum))
  let topic ← match req.topic with
    | some t => Topic.id <$> inRepo (Repository.getTopic user t)
    | none => Topic.id <$> inRepo (Repository.createTopic user (topicTitle s.titles params.prompt))
  pure { user, request := req, card, params, imageNum, topic }

/-- The job of a stored generation and its task. -/
def CreatePlan.job (plan : CreatePlan) (sent : ImageParams) (g : Generation) (task : Uuid) : Job :=
  { user := plan.user, task, generation := g.id, topic := plan.topic,
    provider := plan.request.provider, model := plan.request.model, params := sent.withSeed g.seed }

/-- Stores the batch of a checked request (`ImageService::create_image`): draws its seeds when
the model takes seeds, and makes one job per generation, with local reference images sent
inline. -/
def commitCreate (plan : CreatePlan) : Serve (CreatedBatch × List Job) := do
  let seeds ← if plan.card.schema.supports .seed then
      some <$> drawSeeds plan.imageNum plan.params.seed
    else pure none
  let created ← inRepo (Repository.createBatch plan.user
    { topic := plan.topic, provider := plan.request.provider, model := plan.request.model,
      prompt := plan.params.prompt, width := plan.params.width.map storedDimension,
      height := plan.params.height.map storedDimension, config := plan.params.toConfig,
      imageNum := plan.imageNum, seeds })
  let sent := inlineLocalImages (← get).fetch plan.params
  pure (created, (created.generations.zip created.tasks).map fun (g, t) => plan.job sent g t)

/-- Creates a batch of images and queues their jobs (`ImageService::create_image`). -/
def createImage (user : Uuid) (req : CreateRequest) : Serve CreateResult := do
  let plan ← planCreate user req
  let (created, jobs) ← commitCreate plan
  (jobs.forM enqueue : StateM Studio Unit)
  pure { topic := plan.topic, batch := created.batch, generations := created.generations }

/-- Fails the user's task if it has been in flight longer than the timeout
(`ImageService::get_generation_status`). -/
def sweepTask (user task : Uuid) : Serve Unit := do
  let secs := (← get).settings.taskTimeoutSecs
  if secs > maxTimeoutSecs then
    throw (.unexpected "Source duration value is out of range for the target type")
  let _ ← inRepo (Repository.failTimedOut user [task] (secs * 1000))

/-- The state of a generation, as its task shows it now (`ImageService::get_generation_status`). -/
def readStatus (user gen task : Uuid) : Serve GenerationStatus := do
  let r := (← get).repo
  let some t := r.task? user task
    | throw (.notFound ("Task " ++ task.toText ++ " not found"))
  match t.status with
  | .success =>
    match r.generation? user gen with
    | some g => pure { status := .success, generation := some g }
    | none => throw (.notFound ("Generation " ++ gen.toText ++ " not found"))
  | .error => pure { status := .error, error := t.error }
  | status => pure { status }

/-- The status of a generation, after failing its task if it outlived the timeout
(`ImageService::get_generation_status`). -/
def generationStatus (user gen task : Uuid) : Serve GenerationStatus := do
  sweepTask user task
  readStatus user gen task

/-- The feed of a topic (`ImageService::get_generation_batches`). -/
def batches (user topic : Uuid) : Serve (List BatchViewDto) := do
  pure ((← get).repo.batchesOf user topic)

/-- Removes the stored objects of files (`ImageService::purge_blobs`). -/
def purgeFiles (files : List FileRecord) : StateM Studio Unit :=
  deleteObjects (files.flatMap (·.objectKeys))

/-- Deletes a generation's rows; returns the file that went with it, if any
(`ImageService::delete_generation`). -/
def dropGeneration (user id : Uuid) : Serve (List FileRecord) := do
  match ← inRepo (Repository.deleteGeneration user id) with
  | some d => pure d.deletedFile.toList
  | none => pure []

/-- Deletes a generation; a missing one is no failure (`ImageService::delete_generation`). -/
def deleteGeneration (user id : Uuid) : Serve Unit := do
  purgeFiles (← dropGeneration user id)

/-- Deletes a batch's rows; returns the files that went with it (`ImageService::delete_batch`). -/
def dropBatch (user id : Uuid) : Serve (List FileRecord) := do
  let some files ← inRepo (Repository.deleteBatch user id)
    | throw (.notFound ("Batch " ++ id.toText ++ " not found"))
  pure files

/-- Deletes a batch (`ImageService::delete_batch`). -/
def deleteBatch (user id : Uuid) : Serve Unit := do
  purgeFiles (← dropBatch user id)

/-- The user's topics, most recently updated first (`ImageService::list_topics`). -/
def listTopics (user : Uuid) : Serve (List Topic) := do
  pure ((← get).repo.topicsOf user)

/-- The refusal of a blank title. -/
def blankTitle : PortError := .validation "title must not be empty"

/-- Creates a topic with a trimmed, non-blank title (`ImageService::create_topic`). -/
def createTopic (user : Uuid) (title : String) : Serve Topic := do
  let title := Text.trim title
  if title.isEmpty then throw blankTitle
  inRepo (Repository.createTopic user title)

/-- Renames a topic or sets its cover (`ImageService::update_topic`). -/
def updateTopic (user id : Uuid) (title cover : Option String) : Serve Topic := do
  if title.any Text.isBlankText then throw blankTitle
  inRepo (Repository.updateTopic user id title cover)

/-- Deletes a topic with everything in it (`ImageService::delete_topic`). -/
def deleteTopic (user id : Uuid) : Serve Unit := do
  let files ← inRepo (Repository.deleteTopic user id)
  purgeFiles files

end Studio

end ImageStudio
