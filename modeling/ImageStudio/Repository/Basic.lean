import ImageStudio.Params.Seeds
import ImageStudio.Random.SplitMix
import ImageStudio.Web.Dto
import ImageStudio.Port.Error

/-!
# Repository · Basic: the records of the service and the state that holds them

The service keeps five kinds of record. A topic groups batches; a batch holds the
generations of one request; each generation has a task that tracks its progress and, once
it succeeded, a file that holds the stored image. Every record belongs to one user, and
every operation sees the caller's records only: a record of another user behaves as if it
did not exist.

`Repository` keeps the records in the order they were made, together with a clock and the
source of new identifiers. Operations run in `Repo`, a failure monad over the state. An
operation checks before it writes, and `Repository.settle` keeps of a failed operation only
its clock readings and the identifiers it drew: a failed write leaves no record behind, and
an identifier once drawn is never drawn again.

The clock moves on by a millisecond at every reading, so no two readings agree and the
order of events is the order of their times.
-/

namespace ImageStudio

/-- A named group of batches (`GenerationTopic`). -/
structure Topic where
  id : Uuid
  user : Uuid
  title : String
  coverUrl : Option String := none
  createdAt : Instant
  updatedAt : Instant
  deriving DecidableEq, Repr, Inhabited

/-- The record of one create request (`GenerationBatch`): what was asked, of which provider and
model. -/
structure Batch where
  id : Uuid
  user : Uuid
  topic : Uuid
  provider : String
  model : String
  prompt : String
  width : Option Int := none
  height : Option Int := none
  /-- The checked parameters, in their stored form. -/
  config : Json
  createdAt : Instant
  deriving Repr, Inhabited

/-- One image of a batch. -/
structure Generation where
  id : Uuid
  user : Uuid
  batch : Uuid
  task : Option Uuid
  file : Option Uuid := none
  seed : Option Int
  asset : Option Asset := none
  createdAt : Instant
  deriving DecidableEq, Repr, Inhabited

namespace Uuid

/-- A random (version 4) identifier from two 64-bit words: the version and variant bits
are set, the other 122 bits come from the words. -/
def ofWords (hi lo : Nat) : Uuid :=
  let hi := ((hi % Nat.pow 2 64) &&& 0xFFFFFFFFFFFF0FFF) ||| 0x4000
  let lo := ((lo % Nat.pow 2 64) &&& 0x3FFFFFFFFFFFFFFF) ||| 0x8000000000000000
  ⟨hi * Nat.pow 2 64 + lo⟩

/-- A fresh identifier from the entropy source, and the source after it. -/
def draw (e : Entropy) : Uuid × Entropy :=
  let (hi, e) := e.next
  let (lo, e) := e.next
  (ofWords hi lo, e)

end Uuid

namespace Instant

/-- The instant a number of milliseconds later. -/
def addMillis (t : Instant) (ms : Int) : Instant := ofNanos (t.toNanos + ms * 1000000)

/-- Whole milliseconds from `a` to `b`, rounded toward zero. -/
def millisBetween (a b : Instant) : Int := Int.tdiv (b.toNanos - a.toNanos) 1000000

end Instant

/-- The records of the service, a clock and a source of identifiers (`InMemoryRepository`). -/
structure Repository where
  topics : List Topic := []
  batches : List Batch := []
  generations : List Generation := []
  tasks : List Task := []
  files : List FileRecord := []
  clock : Instant
  entropy : Entropy
  deriving Repr, Inhabited

/-- An operation on the repository that may fail. -/
abbrev Repo := ExceptT PortError (StateM Repository)

namespace Repository

/-- Runs an operation on a repository: its result and the repository after it. A failed
operation keeps the records of `r` and only moves its clock and identifier source on. -/
def settle {α : Type} (m : Repo α) (r : Repository) : Except PortError α × Repository :=
  match m.run r with
  | (.ok a, r') => (.ok a, r')
  | (.error e, r') => (.error e, { r with clock := r'.clock, entropy := r'.entropy })

/-- An empty repository whose clock starts at `start` and whose identifiers come from
`entropy`. -/
def empty (start : Instant) (entropy : Entropy) : Repository := { clock := start, entropy }

/-- Reads the clock, which then stands a millisecond later. -/
def now : Repo Instant :=
  modifyGet fun r => let t := r.clock.addMillis 1; (t, { r with clock := t })

/-- A new identifier. -/
def freshId : Repo Uuid :=
  modifyGet fun r => let (u, e) := Uuid.draw r.entropy; (u, { r with entropy := e })

/-! ## Looking records up, as seen by one user -/

/-- The user's topic with this id. -/
def topic? (r : Repository) (user id : Uuid) : Option Topic :=
  r.topics.find? fun t => t.id == id && t.user == user

/-- The user's generation with this id (`InMemoryRepository::get_generation`). -/
def generation? (r : Repository) (user id : Uuid) : Option Generation :=
  r.generations.find? fun g => g.id == id && g.user == user

/-- The user's task with this id (`InMemoryRepository::get_task`). -/
def task? (r : Repository) (user id : Uuid) : Option Task :=
  r.tasks.find? fun t => t.id == id && t.user == user

/-- The user's file with this content hash (`InMemoryRepository::find_file_by_hash`). -/
def fileWithHash? (r : Repository) (user : Uuid) (hash : String) : Option FileRecord :=
  r.files.find? fun f => f.user == user && f.fileHash == hash

/-- The files that no generation refers to any more, among `ids`, are removed and returned
(`State::purge_orphan_files`). -/
def purgeOrphans (ids : List Uuid) : Repo (List FileRecord) :=
  modifyGet fun r =>
    let referenced := r.generations.filterMap (·.file)
    let orphans := r.files.filter fun f => ids.contains f.id && !referenced.contains f.id
    (orphans, { r with files := r.files.filter fun f => !orphans.contains f })

/-- Removes the batches that satisfy `doomed`, with their generations (`State::remove_batches`).
Returns how many batches went and the files their generations referred to. -/
def removeBatches (doomed : Batch → Bool) : Repo (Nat × List Uuid) :=
  modifyGet fun r =>
    let gone := (r.batches.filter doomed).map (·.id)
    let lost := r.generations.filter fun g => gone.contains g.batch
    ((gone.length, (lost.filterMap (·.file)).eraseDups),
      { r with batches := r.batches.filter (fun b => !doomed b),
               generations := r.generations.filter fun g => !gone.contains g.batch })

/-- The topic-not-found failure (`topic_not_found`). -/
def topicNotFound (id : Uuid) : PortError := .notFound ("Topic " ++ id.toText ++ " not found")

end Repository

end ImageStudio
