import ImageStudio.Repository.Tasks
import ImageStudio.Storage.Bucket
import ImageStudio.Provider.Rules
import ImageStudio.Image.Load
import ImageStudio.Catalog
import ImageStudio.Dispatch.Error

/-!
# Studio · Basic: the running service

A `Studio` is the whole state of the service: the repository, the object store, the model
catalog, the registered providers, the optional title service, how links are fetched, the
settings, the queue of jobs waiting for the worker and whether the worker still takes them,
the seed source, and the log of provider requests.

Requests run in `Serve`, which may fail with a `PortError`. Unlike a repository operation,
a request is not one transaction: what its earlier steps wrote stays written when a later
step fails.
-/

namespace ImageStudio

/-- How the service is tuned (`ImageServiceSettings`). -/
structure Settings where
  /-- The number of images when a request names none. -/
  defaultImageNum : Nat := 4
  /-- The most images one request may ask for. -/
  maxImageNum : Nat := 8
  /-- How long a task may stay in flight before a status request fails it. -/
  taskTimeoutSecs : Nat := 300
  /-- How many jobs may wait for the worker. -/
  queueCapacity : Nat := 64
  deriving Repr, Inhabited

/-- One image to generate (`DispatchJob`): whose, for which task and generation, with what. -/
structure Job where
  user : Uuid
  task : Uuid
  generation : Uuid
  topic : Uuid
  provider : String
  model : String
  params : ImageParams
  deriving Repr, Inhabited

/-- A title service: a topic title for a prompt, or a failure. -/
abbrev TitleService := String → Except PortError String

/-- The state of the service (`ImageService`). -/
structure Studio where
  repo : Repository
  bucket : Bucket := {}
  catalog : Catalog := Catalog.builtin
  providers : List Provider := []
  titles : Option TitleService := none
  /-- How the body behind a link is fetched. -/
  fetch : Fetch := Fetch.offline
  settings : Settings := {}
  queue : List Job := []
  /-- Whether the worker still takes jobs from the queue: once it stops, nothing more can be
  queued. -/
  workerRunning : Bool := true
  seeds : ChaCha
  calls : List ProviderCall := []

/-- A request to the service. -/
abbrev Serve := ExceptT PortError (StateM Studio)

namespace Studio

/-- Runs a repository operation on the studio's repository. -/
def runRepo {α : Type} (m : Repo α) : StateM Studio (Except PortError α) :=
  modifyGet fun s => let (a, r) := Repository.settle m s.repo; (a, { s with repo := r })

/-- Runs a repository operation as a step of a request: its writes stay when it succeeds,
and its failure fails the request. -/
def inRepo {α : Type} (m : Repo α) : Serve α := ExceptT.mk (runRepo m)

/-- Runs a repository operation whose failure is only noted: `none` stands for it. -/
def tryRepo {α : Type} (m : Repo α) : StateM Studio (Option α) :=
  (fun r => r.toOption) <$> runRepo m

/-- A new identifier from the repository's source. -/
def freshId : StateM Studio Uuid :=
  modifyGet fun s =>
    let (u, e) := Uuid.draw s.repo.entropy
    (u, { s with repo := { s.repo with entropy := e } })

/-- Reads the repository's clock, which then stands a millisecond later. -/
def now : StateM Studio Instant :=
  modifyGet fun s =>
    let t := s.repo.clock.addMillis 1
    (t, { s with repo := { s.repo with clock := t } })

/-- The registered provider of this name. -/
def provider? (s : Studio) (name : String) : Option Provider :=
  s.providers.find? (·.name == name)

end Studio

end ImageStudio
