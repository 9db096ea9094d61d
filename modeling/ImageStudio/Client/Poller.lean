import ImageStudio.Client.Cache
import ImageStudio.Client.Error

/-!
# Client · Poller: following one generation until its task ends

A poller asks for a generation's status at a fixed interval. It merges every status it gets
into the cache, and when the task has ended it reloads the topic's batches and stops. It
also stops when the generation is gone (a 404). Any other failed call is tried again at the
next tick.

Time is virtual and starts at 0 when the watch starts. The ticks fall at `0, i, 2i, …` for
an interval of `i` milliseconds. A call takes no time, so every tick is on time. A watch can
be ended from outside: cancelled, or dropped by its owner. Either way no tick at or after
that moment happens. An interval of zero is refused when the loop starts, so the loop ends
before its first tick, as if cancelled.

The poller reads from any `StatusSource`: a source answers a status call and a batches call,
and may change with each call. A scripted source answers status call `n` with the script's
entry `min n (length - 1)`, so the last entry repeats, and every batches call with the same
answer; it counts its calls and notes the ids it was asked for.

The cache counts the changes sent to it. A change is sent even when it leaves the cache as
it was.
-/

namespace ImageStudio

/-- The generation a poller watches. -/
structure WatchTarget where
  topic : Uuid
  batch : Uuid
  generation : Uuid
  task : Uuid
  deriving DecidableEq, Repr, Inhabited

/-- How a poll loop ended by itself, or was cancelled. -/
inductive PollOutcome where
  | finished (status : TaskStatus)
  | notFound
  | cancelled
  deriving DecidableEq, Repr, Inhabited

/-- A status source answering from a script. -/
structure ScriptedSource where
  /-- The answers to status calls; the last one repeats. -/
  statuses : List (Except ClientError GenerationStatusDto)
  /-- The answer to every batches call. -/
  batches : Except ClientError (List BatchViewDto)
  statusCalls : Nat := 0
  batchCalls : Nat := 0
  /-- The distinct generation and task pairs status calls asked for. -/
  asked : List (Uuid × Uuid) := []
  deriving Repr, Inhabited

namespace ScriptedSource

/-- Answers a status call. An empty script answers that the generation is gone. -/
def status (s : ScriptedSource) (generation task : Uuid) :
    Except ClientError GenerationStatusDto × ScriptedSource :=
  let answer := s.statuses.getD (min s.statusCalls (s.statuses.length - 1)) (.error (.status 404 ""))
  let asked := if s.asked.contains (generation, task) then s.asked else s.asked ++ [(generation, task)]
  (answer, { s with statusCalls := s.statusCalls + 1, asked })

/-- Answers a batches call. -/
def batchesOf (s : ScriptedSource) (_topic : Uuid) :
    Except ClientError (List BatchViewDto) × ScriptedSource :=
  (s.batches, { s with batchCalls := s.batchCalls + 1 })

end ScriptedSource

/-- Where a poller gets its answers (`GenerationStatusSource`): the status of a generation's
task, and the batches of a topic. Each call may change the source. -/
class StatusSource (σ : Type) where
  status : σ → Uuid → Uuid → Except ClientError GenerationStatusDto × σ
  batchesOf : σ → Uuid → Except ClientError (List BatchViewDto) × σ

instance : StatusSource ScriptedSource := ⟨ScriptedSource.status, ScriptedSource.batchesOf⟩

/-- A poller with its source and the cache it fills. -/
structure StatusPoller (σ : Type) where
  source : σ
  cache : BatchCache := {}
  intervalMs : Nat := 2000
  /-- How many changes were sent to the cache. -/
  sends : Nat := 0
  deriving Repr, Inhabited

namespace StatusPoller

variable {σ : Type} [StatusSource σ]

/-- Sends a change to the cache (`StatusPoller::dispatch`). -/
def dispatch (p : StatusPoller σ) (a : BatchAction) : StatusPoller σ :=
  { p with cache := p.cache.reduce a, sends := p.sends + 1 }

/-- Loads a topic's batches into the cache (`StatusPoller::refresh_topic`). -/
def refreshTopic (p : StatusPoller σ) (topic : Uuid) : Except ClientError Unit × StatusPoller σ :=
  let r := StatusSource.batchesOf p.source topic
  let p := { p with source := r.2 }
  match r.1 with
  | .ok bs => (.ok (), p.dispatch (.replaceTopic topic bs))
  | .error e => (.error e, p)

/-- One tick of the loop (`poll_loop`): the outcome when the loop ends there. A task that ended
has its topic reloaded, whether or not the reload succeeds. -/
def tick (p : StatusPoller σ) (target : WatchTarget) : Option PollOutcome × StatusPoller σ :=
  let r := StatusSource.status p.source target.generation target.task
  let p := { p with source := r.2 }
  match r.1 with
  | .error e => (if e.isNotFound then some .notFound else none, p)
  | .ok st =>
    let p := p.dispatch (.updateGeneration target.topic target.batch target.generation
      (.ofStatus st))
    if !st.status.isTerminal then (none, p)
    else (some (.finished st.status), (p.refreshTopic target.topic).2)

/-- Runs the loop from tick `n` on, with at most `fuel` ticks (`poll_loop`). No tick at or after
`stopAt` happens; the loop is then cancelled at `stopAt`. The answer is the outcome with the
time the loop ended, or `none` when the fuel ran out first. -/
def loop (target : WatchTarget) (stopAt : Option Nat) :
    Nat → Nat → StatusPoller σ → Option (PollOutcome × Nat) × StatusPoller σ
  | 0, _, p => (none, p)
  | fuel + 1, n, p =>
    let t := n * p.intervalMs
    match stopAt.filter (· ≤ t) with
    | some s => (some (.cancelled, s), p)
    | none =>
      let r := p.tick target
      match r.1 with
      | some o => (some (o, t), r.2)
      | none => loop target stopAt fuel (n + 1) r.2

end StatusPoller

/-- How the owner of a watch ends it. -/
inductive Interruption where
  | none
  | cancelAfter (ms : Nat)
  | dropAfter (ms : Nat)
  deriving DecidableEq, Repr, Inhabited

/-- How a watch ended, as its owner sees it. -/
inductive WatchEnd where
  | finished (status : TaskStatus)
  | notFound
  | cancelled
  | dropped
  deriving DecidableEq, Repr, Inhabited

/-- A watch from start to end. -/
structure WatchRun (σ : Type) where
  ending : WatchEnd
  /-- The time from the start to the join, the cancel or the drop. A drop is followed by
  one more millisecond for the loop to see it. -/
  elapsedMs : Nat
  poller : StatusPoller σ
  deriving Repr, Inhabited

namespace StatusPoller

/-- The end of a loop as its owner sees it. -/
def WatchEnd.ofOutcome : PollOutcome → WatchEnd
  | .finished s => .finished s
  | .notFound => .notFound
  | .cancelled => .cancelled

/-- Watches a generation with a scripted source until the loop ends, or until the owner
cancels or drops the watch; `none` when the loop would never end (`StatusPoller::watch`). -/
def watch (p : StatusPoller ScriptedSource) (target : WatchTarget) (i : Interruption) :
    Option (WatchRun ScriptedSource) :=
  let stopAt := match i with
    | .none => none
    | .cancelAfter c => some c
    | .dropAfter d => some d
  let finish (o : PollOutcome) (t : Nat) (p : StatusPoller ScriptedSource) : WatchRun ScriptedSource :=
    match i with
    | .none => ⟨WatchEnd.ofOutcome o, t, p⟩
    | .cancelAfter c => ⟨WatchEnd.ofOutcome o, c, p⟩
    | .dropAfter d => ⟨.dropped, d + 1, p⟩
  if p.intervalMs = 0 then some (finish .cancelled 0 p)
  else
    let fuel := (stopAt.map (· / p.intervalMs + 2)).getD 0 + p.source.statuses.length + 1
    match loop target stopAt fuel 0 p with
    | (some (o, t), p) => some (finish o t p)
    | (none, _) => none

end StatusPoller

end ImageStudio
