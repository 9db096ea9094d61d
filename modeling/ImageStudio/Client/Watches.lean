import ImageStudio.Client.Poller

/-!
# Client · Watches: poll loops that share one cache

A client may watch several generations of one topic at once: one poll loop per generation,
all filling the same cache. The loops run concurrently, and the calls they make reach the
server and come back in any order. `Watches.Step` is that system, one event at a time.

A loop stands `waiting` for its next tick, `polling` while its status call is out, and
`refreshing` while its call for the topic's batches is out, once the task has ended. It
stops `finished` with the task's last status, noting whether the batches came, or `gone`
when the generation was not found. A call is sent, answered by the server from what it
holds at that moment, and the answer reaches the loop later. As in `StatusPoller.tick`,
every status answer goes into the cache, and the batches replace the topic there.

The server holds the topic's batches. It changes by moving one generation's view forward:
a task in flight may be claimed or end, and an ended task stays as it ended.

Refresh calls are numbered as they are sent. Under `Delivery.inOrder` their answers arrive
in that order; under `Delivery.anyOrder` in any order. Status answers arrive in any order
either way: each loop has one call out at a time.
-/

namespace ImageStudio

namespace TaskStatus

/-- Whether a task may go from the first status to the second: a pending task may be
claimed or end, a claimed one may end, and an ended one stays as it is. -/
def advancesTo : TaskStatus → TaskStatus → Bool
  | .pending, _ => true
  | .processing, s => s != .pending
  | .success, s => s == .success
  | .error, s => s == .error

end TaskStatus

/-- The view of a generation in a list of batches, found in the batch with its batch's id. -/
def viewIn (bs : List BatchViewDto) (batch generation : Uuid) : Option GenerationViewDto :=
  (bs.find? (·.id == batch)).bind fun b => b.generations.find? (·.id == generation)

/-- The batches with a new view in place of a generation's. -/
def putView (bs : List BatchViewDto) (batch generation : Uuid) (v : GenerationViewDto) :
    List BatchViewDto :=
  modifyFirst (·.id == batch)
    (fun b => { b with generations := modifyFirst (·.id == generation) (fun _ => v) b.generations })
    bs

/-- The task status a list of batches shows for a watched generation. -/
def WatchTarget.statusIn (t : WatchTarget) (bs : List BatchViewDto) : Option TaskStatus :=
  (viewIn bs t.batch t.generation).bind (·.task.status)

/-- Where one poll loop stands. -/
inductive LoopStage where
  /-- Waiting for its next tick. -/
  | waiting
  /-- Its status call is out; the server's answer, once given. -/
  | polling (answer : Option (Except ClientError GenerationStatusDto))
  /-- The task ended with `status`, and the call for the batches, sent as number `sent`, is
  out; the server's answer, once given. -/
  | refreshing (status : TaskStatus) (sent : Nat)
      (answer : Option (Except ClientError (List BatchViewDto)))
  /-- Stopped on the task's last status; `refreshed` when the batches came. -/
  | finished (status : TaskStatus) (refreshed : Bool)
  /-- Stopped because the generation is gone. -/
  | gone
  deriving Repr, Inhabited

/-- How the answers to refresh calls arrive. -/
inductive Delivery where
  | anyOrder
  | inOrder
  deriving DecidableEq, Repr, Inhabited

/-- Poll loops `0, …, n - 1` with the generations they watch, their server and their cache. -/
structure Watches (n : Nat) where
  targets : Fin n → WatchTarget
  stage : Fin n → LoopStage
  /-- The topic's batches as the server holds them. -/
  server : List BatchViewDto
  cache : BatchCache
  /-- How many refresh calls were sent. -/
  sent : Nat

namespace Watches

variable {n : Nat}

/-- The loops before their first tick. -/
def start (targets : Fin n → WatchTarget) (server : List BatchViewDto) (cache : BatchCache) :
    Watches n :=
  { targets, stage := fun _ => .waiting, server, cache, sent := 0 }

/-- Loop `i` moved to a stage. -/
def setStage (w : Watches n) (i : Fin n) (st : LoopStage) : Watches n :=
  { w with stage := fun j => if j = i then st else w.stage j }

/-- The task status the cache shows for loop `i`'s generation. -/
def cached (w : Watches n) (i : Fin n) : Option TaskStatus :=
  (w.cache.generation? (w.targets i).topic (w.targets i).batch (w.targets i).generation).bind
    (·.task.status)

/-- Loop `i` gets its status answer. A status goes into the cache. A task in flight sends
the loop back to wait for its next tick; an ended one makes it send the refresh call,
numbered `sent`. A failed call is tried again at the next tick, unless the generation is
gone. -/
def hear (w : Watches n) (i : Fin n) : Except ClientError GenerationStatusDto → Watches n
  | .error e => w.setStage i (if e.isNotFound then .gone else .waiting)
  | .ok st =>
    let t := w.targets i
    let w' := { w with
      cache := w.cache.reduce (.updateGeneration t.topic t.batch t.generation (.ofStatus st)) }
    if st.status.isTerminal then
      { w'.setStage i (.refreshing st.status w.sent none) with sent := w.sent + 1 }
    else w'.setStage i .waiting

/-- Loop `i` gets the answer to its refresh call: batches replace the topic in the cache.
Either way the loop stops on the status it saw. -/
def land (w : Watches n) (i : Fin n) (status : TaskStatus) :
    Except ClientError (List BatchViewDto) → Watches n
  | .ok bs =>
    { w.setStage i (.finished status true) with
      cache := w.cache.reduce (.replaceTopic (w.targets i).topic bs) }
  | .error _ => w.setStage i (.finished status false)

/-- Whether the answer to refresh call number `sent` may arrive now: in order, when no call
sent before it is still out. -/
def MayLand (d : Delivery) (w : Watches n) (sent : Nat) : Prop :=
  d = .inOrder → ∀ j s σ a, w.stage j = .refreshing s σ a → sent ≤ σ

/-- One event of the system. -/
inductive Step (d : Delivery) : Watches n → Watches n → Prop where
  /-- Loop `i` ticks and sends its status call. -/
  | tick (w : Watches n) (i : Fin n) (h : w.stage i = .waiting) :
      Step d w (w.setStage i (.polling none))
  /-- The server answers loop `i`'s status call with the status it holds, or the call
  fails. -/
  | answer (w : Watches n) (i : Fin n) (a : Except ClientError GenerationStatusDto)
      (h : w.stage i = .polling none)
      (ha : ∀ st, a = .ok st → (w.targets i).statusIn w.server = some st.status) :
      Step d w (w.setStage i (.polling (some a)))
  /-- Loop `i` gets its status answer. -/
  | hear (w : Watches n) (i : Fin n) (a : Except ClientError GenerationStatusDto)
      (h : w.stage i = .polling (some a)) :
      Step d w (w.hear i a)
  /-- The server answers loop `i`'s refresh call with the batches it holds, or the call
  fails. -/
  | serve (w : Watches n) (i : Fin n) (s : TaskStatus) (σ : Nat)
      (a : Except ClientError (List BatchViewDto)) (h : w.stage i = .refreshing s σ none)
      (ha : ∀ bs, a = .ok bs → bs = w.server) :
      Step d w (w.setStage i (.refreshing s σ (some a)))
  /-- Loop `i` gets the answer to its refresh call. -/
  | land (w : Watches n) (i : Fin n) (s : TaskStatus) (σ : Nat)
      (a : Except ClientError (List BatchViewDto)) (h : w.stage i = .refreshing s σ (some a))
      (ho : w.MayLand d σ) :
      Step d w (w.land i s a)
  /-- The server moves a generation's view forward. -/
  | advance (w : Watches n) (batch generation : Uuid) (old v : GenerationViewDto)
      (hold : viewIn w.server batch generation = some old) (hid : v.id = generation)
      (hfwd : ∀ s, old.task.status = some s →
        ∃ s', v.task.status = some s' ∧ s.advancesTo s' = true) :
      Step d w { w with server := putView w.server batch generation v }

end Watches

end ImageStudio
