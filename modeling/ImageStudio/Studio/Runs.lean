import ImageStudio.Studio.Requests

/-!
# Studio · Runs: requests and jobs, interleaved

The service answers many clients at once, and its worker runs many jobs at once. Each of
them waits whenever it calls the repository, the object store or a provider, and any other
of them may go on meanwhile. A run of the service is any interleaving of these waits.

A request that makes more than one such call is taken apart where it waits
(`RequestStage`): a create request first checks itself and resolves its topic, then stores
its batch, then queues its jobs one by one; a deletion first removes the rows, then the
stored objects of the files that went, one by one. A request that makes one call (a status
read with its timeout sweep, a topic's creation or update) is one step. A job is taken
apart the same way already (`JobStage`, `Studio.jobStep`).

A `World` is the service with what is in flight: the requests that wait, the job runs, and
the jobs the worker took from its queue, any of which may run again (a job can be
delivered twice). `World.Step` is one step of any of them, of the worker's cancellation, of
the object store switching to refusing or accepting work, or of time passing;
`World.Reaches` is any sequence of steps. The world also keeps three logs that no step
reads: the tasks whose claim succeeded, the tasks whose provider was asked, one entry each
time, and the jobs dropped with the worker's queue.
-/

namespace ImageStudio

/-- A request a client sends. -/
inductive Request where
  | createImage (user : Uuid) (req : CreateRequest)
  | status (user gen task : Uuid)
  | deleteGeneration (user id : Uuid)
  | deleteBatch (user id : Uuid)
  | deleteTopic (user id : Uuid)
  | createTopic (user : Uuid) (title : String)
  | updateTopic (user id : Uuid) (title cover : Option String)

/-- Where a request waits, with what it has done so far. -/
inductive RequestStage where
  /-- The request is checked and its topic resolved. Next: store the batch. -/
  | commit (plan : Studio.CreatePlan)
  /-- The batch is stored. Next: queue these jobs, one at a time. -/
  | trigger (jobs : List Job)
  /-- The rows are deleted. Next: remove these stored objects, one at a time. -/
  | purge (keys : List String)

namespace JobStage

/-- Whether a job waits to claim its task. -/
def isClaim : JobStage → Bool
  | .claim => true
  | _ => false

/-- Whether a job has claimed its task and waits to ask its provider. -/
def isCall : JobStage → Bool
  | .call => true
  | _ => false

end JobStage

namespace Studio

/-- The first step of a request; what is left of it, if anything. -/
def beginRequest : Request → StateM Studio (Option RequestStage)
  | .createImage user req => do
    match ← (planCreate user req).run with
    | .ok plan => pure (some (.commit plan))
    | .error _ => pure none
  | .status user gen task => do
    let _ ← (generationStatus user gen task).run
    pure none
  | .deleteGeneration user id => do
    match ← (dropGeneration user id).run with
    | .ok files => pure (some (.purge (files.flatMap (·.objectKeys))))
    | .error _ => pure none
  | .deleteBatch user id => do
    match ← (dropBatch user id).run with
    | .ok files => pure (some (.purge (files.flatMap (·.objectKeys))))
    | .error _ => pure none
  | .deleteTopic user id => do
    match ← (inRepo (Repository.deleteTopic user id)).run with
    | .ok files => pure (some (.purge (files.flatMap (·.objectKeys))))
    | .error _ => pure none
  | .createTopic user title => do
    let _ ← (createTopic user title).run
    pure none
  | .updateTopic user id title cover => do
    let _ ← (updateTopic user id title cover).run
    pure none

/-- The next step of a request that waits; what is left of it, if anything. -/
def resumeRequest : RequestStage → StateM Studio (Option RequestStage)
  | .commit plan => do
    match ← (commitCreate plan).run with
    | .ok created => pure (some (.trigger created.2))
    | .error _ => pure none
  | .trigger [] => pure none
  | .trigger (job :: jobs) => do
    enqueue job
    pure (some (.trigger jobs))
  | .purge [] => pure none
  | .purge (key :: keys) => do
    deleteObject key
    pure (some (.purge keys))

end Studio

/-- The service with what is in flight. -/
structure World where
  studio : Studio
  /-- The requests that wait. -/
  requests : List RequestStage := []
  /-- The job runs, each with where it waits. A run that is over stays, as `done`. -/
  runs : List (Job × JobStage) := []
  /-- The jobs the worker took from its queue, in order. -/
  taken : List Job := []
  /-- The task of each claim that succeeded. -/
  claimed : List Uuid := []
  /-- The task of each request made to a provider. -/
  asked : List Uuid := []
  /-- The jobs that were in the queue when the worker was cancelled. -/
  dropped : List Job := []

namespace World

/-- A request arrives and takes its first step. -/
def send (w : World) (r : Request) : World :=
  let o := (Studio.beginRequest r).run w.studio
  { w with studio := o.2, requests := w.requests ++ o.1.toList }

/-- The request `st`, which waits between `pre` and `post`, takes its next step. -/
def resume (w : World) (pre : List RequestStage) (st : RequestStage)
    (post : List RequestStage) : World :=
  let o := (Studio.resumeRequest st).run w.studio
  { w with studio := o.2, requests := pre ++ o.1.toList ++ post }

/-- The worker takes `job` from the front of its queue and starts running it. -/
def take (w : World) (job : Job) (rest : List Job) : World :=
  { w with studio := { w.studio with queue := rest }, runs := w.runs ++ [(job, .claim)],
           taken := w.taken ++ [job] }

/-- The run of `job` waiting at `stage`, between `pre` and `post`, takes its next step. A
claim that moves on to the provider succeeded; a step that adds to the studio's log of
provider requests asked the provider. -/
def advance (w : World) (pre : List (Job × JobStage)) (job : Job) (stage : JobStage)
    (post : List (Job × JobStage)) : World :=
  let o := (Studio.jobStep job stage).run w.studio
  { w with studio := o.2, runs := pre ++ (job, o.1) :: post,
           claimed := w.claimed ++ (if stage.isClaim && o.1.isCall then [job.task] else []),
           asked := w.asked ++
             (if o.2.calls.length = w.studio.calls.length then [] else [job.task]) }

/-- The worker is cancelled, and the jobs in its queue are dropped (`DispatchWorker::run`). -/
def cancelWorker (w : World) : World :=
  { w with studio := w.studio.stopWorker, dropped := w.dropped ++ w.studio.queue }

/-- The object store starts or stops refusing puts and deletions. -/
def setStore (w : World) (refusePuts refuseDeletes : Bool) : World :=
  { w with studio := { w.studio with bucket := { w.studio.bucket with refusePuts, refuseDeletes } } }

/-- Time passes. -/
def wait (w : World) (ms : Nat) : World :=
  { w with studio := { w.studio with repo :=
      { w.studio.repo with clock := w.studio.repo.clock.addMillis ms } } }

/-- What happens in one step, without saying which of the requests or runs it was. -/
inductive Action where
  | send (r : Request)
  | resume
  | take
  | rerun
  | advance
  | cancelWorker
  | store (refusePuts refuseDeletes : Bool)
  | wait (ms : Nat)

/-- One step of the service. -/
inductive Step : World → Action → World → Prop where
  | send (w : World) (r : Request) : Step w (.send r) (w.send r)
  | resume (w : World) (pre post : List RequestStage) (st : RequestStage)
      (h : w.requests = pre ++ st :: post) : Step w .resume (w.resume pre st post)
  | take (w : World) (job : Job) (rest : List Job) (h : w.studio.queue = job :: rest) :
      Step w .take (w.take job rest)
  | rerun (w : World) (job : Job) (h : job ∈ w.taken) :
      Step w .rerun { w with runs := w.runs ++ [(job, .claim)] }
  | advance (w : World) (pre post : List (Job × JobStage)) (job : Job) (stage : JobStage)
      (h : w.runs = pre ++ (job, stage) :: post) :
      Step w .advance (w.advance pre job stage post)
  | cancelWorker (w : World) : Step w .cancelWorker w.cancelWorker
  | store (w : World) (refusePuts refuseDeletes : Bool) :
      Step w (.store refusePuts refuseDeletes) (w.setStore refusePuts refuseDeletes)
  | wait (w : World) (ms : Nat) : Step w (.wait ms) (w.wait ms)

/-- The worlds that some sequence of steps leads to from `w₀`. -/
inductive Reaches (w₀ : World) : World → Prop where
  | refl : Reaches w₀ w₀
  | step {w w' : World} {a : Action} : Reaches w₀ w → Step w a w' → Reaches w₀ w'

end World

/-- A studio that has served nothing yet: no rows, no queued job, no stored object. -/
structure Studio.Blank (s : Studio) : Prop where
  topics : s.repo.topics = []
  batches : s.repo.batches = []
  generations : s.repo.generations = []
  tasks : s.repo.tasks = []
  files : s.repo.files = []
  queue : s.queue = []
  objects : s.bucket.objects = []

end ImageStudio
