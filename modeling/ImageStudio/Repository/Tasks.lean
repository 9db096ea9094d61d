import ImageStudio.Repository.Batches

/-!
# Repository · Tasks: moving tasks between states, and completing generations

A task moves only from a state the caller names, so two workers cannot both claim one
pending task. A task that reaches a terminal state records how long it ran, in whole
milliseconds (at most the largest 32-bit integer).

A task in flight for at least the timeout fails with a timeout error. A negative timeout
has passed for every task.

Completing a generation attaches its image and finishes its task, but only while the task
is still processing: a task that timed out meanwhile keeps its error, and nothing is
written. A file is made once per user and content hash. When the user already has a file
with the same content, the generation gets that file and its keys, not the new ones.
-/

namespace ImageStudio

namespace Task

/-- The largest duration a task records. -/
def maxDurationMs : Int := 2147483647

/-- The task moved to a state at `now`; a terminal state records the run time
(`State::finish_task`). -/
def finish (t : Task) (status : TaskStatus) (error : Option TaskError) (now : Instant) : Task :=
  { t with status, error, updatedAt := now,
           durationMs := if status.isTerminal then
             some (min maxDurationMs (t.createdAt.millisBetween now))
           else t.durationMs }

end Task

namespace Repository

/-- Moves a task to a state now (`State::finish_task`). -/
def finishTask (id : Uuid) (status : TaskStatus) (error : Option TaskError) : Repo Unit := do
  let now ← now
  modify fun r => { r with tasks := r.tasks.map fun t => if t.id == id then t.finish status error now else t }

/-- Moves the user's task to `target` if its state is one of `allowed`; says whether it did
(`InMemoryRepository::transition_task`). -/
def transition (user id : Uuid) (allowed : List TaskStatus) (target : TaskStatus)
    (error : Option TaskError) : Repo Bool := do
  match (← get).task? user id with
  | some t =>
    if allowed.contains t.status then
      finishTask id target error
      pure true
    else pure false
  | none => pure false

/-- The error of a task that outlived a timeout of this many milliseconds; the message
gives the timeout in whole seconds, rounded toward zero. -/
def timeoutError (timeoutMs : Int) : TaskError :=
  { kind := .timeout,
    message := "task did not finish within " ++ toString (Int.tdiv timeoutMs 1000) ++ " seconds" }

/-- Whether the user's task is still in flight and was made at least `timeoutMs`
milliseconds before `now`. -/
def staleAt (r : Repository) (user : Uuid) (now : Instant) (timeoutMs : Int) (id : Uuid) : Bool :=
  match r.task? user id with
  | some t => !t.status.isTerminal &&
      decide (now.toNanos - t.createdAt.toNanos ≥ timeoutMs * 1000000)
  | none => false

/-- Fails each listed task of the user that is still in flight and was made at least
`timeoutMs` milliseconds before `now`; returns how many failed. -/
def expireEach (user : Uuid) (now : Instant) (timeoutMs : Int) : List Uuid → Repo Nat
  | [] => pure 0
  | id :: rest => do
    let stale := (← get).staleAt user now timeoutMs id
    if stale then finishTask id .error (some (timeoutError timeoutMs))
    let n ← expireEach user now timeoutMs rest
    pure (if stale then n + 1 else n)

/-- Fails the listed tasks of the user that have been in flight for at least the timeout;
returns how many failed (`InMemoryRepository::fail_timed_out_tasks`). -/
def failTimedOut (user : Uuid) (ids : List Uuid) (timeoutMs : Int) : Repo Nat := do
  let now ← now
  expireEach user now timeoutMs ids

/-- The user's file with this content; a new file is stored when the user has none
(`InMemoryRepository::complete_generation`). -/
def fileFor (user : Uuid) (file : NewFile) : Repo FileRecord := do
  match (← get).fileWithHash? user file.fileHash with
  | some f => pure f
  | none =>
    let id ← freshId
    let now ← now
    let f : FileRecord :=
      { id, user, name := file.name, fileType := file.fileType, fileHash := file.fileHash,
        size := file.size, url := file.url, metadata := file.metadata, createdAt := now }
    modify fun r => { r with files := r.files ++ [f] }
    pure f

/-- Gives the generation an image stored as `record`
(`InMemoryRepository::complete_generation`): the asset takes the file's keys. -/
def attachAsset (gen : Uuid) (asset : Asset) (record : FileRecord) : Repo Unit :=
  let asset := { asset with url := record.url, thumbnailUrl := record.thumbnailKey }
  modify fun r => { r with generations := r.generations.map fun g =>
    if g.id == gen then { g with asset := some asset, file := some record.id } else g }

/-- Attaches an image to the user's generation and finishes its task, while the task is
processing (`InMemoryRepository::complete_generation`). Returns the file the generation now
uses, or nothing when the task was no longer processing. -/
def completeGeneration (user gen task : Uuid) (asset : Asset) (file : NewFile) :
    Repo (Option FileRecord) := do
  let r ← get
  let processing : Bool := match r.task? user task with
    | some t => t.status == .processing
    | none => false
  if processing then
    if (r.generation? user gen).isNone then
      throw (.notFound ("Generation " ++ gen.toText ++ " not found"))
    let record ← fileFor user file
    attachAsset gen asset record
    finishTask task .success none
    pure (some record)
  else pure none

end Repository

end ImageStudio
