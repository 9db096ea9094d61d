import ImageStudio.Client.Poller

/-!
# Client · PollTask: a poll loop as a task, with its cancellation token

`StatusPoller.loop` runs a poll loop on a clock where calls take no time, and a cancellation
always wins over a tick due at the same moment. The loop of the service (`poll_loop`) runs as
a task of its own: its calls are out for a while, and its owner may cancel its token at any
moment, also while a call is out. This module is that task, one event at a time.

The loop waits at two `select!`s, each between the cancellation and one other branch: the
next tick, then the answer to its status call. When the task has ended, the loop calls for
the topic's batches and puts them in the cache; that call is not raced with the
cancellation. A `select!` that finds both of its branches ready takes either
(`Selection.anyReady`); a biased one, whose first branch is the cancellation, would take the
cancellation (`Selection.cancelFirst`).

A call is sent when the loop first polls it, and its answer is whatever the source answers
then; the answer reaches the loop later. Each call on the source is counted. The handle ends
the loop by cancelling its token, and a dropped handle does the same; a joined handle yields
the outcome the loop returned. An interval of zero makes the loop fail before its first tick,
and its join yields that it was cancelled.
-/

namespace ImageStudio

/-- Which branch a `select!` of the poll loop takes when its token is cancelled and its other
branch is ready too. -/
inductive Selection where
  /-- Either branch, as `select!` picks one at random. -/
  | anyReady
  /-- The cancellation, as a biased `select!` whose first branch is the cancellation. -/
  | cancelFirst
  deriving DecidableEq, Repr, Inhabited

/-- Whether a `select!` may take its other branch, given whether the token is cancelled. -/
def Selection.proceeds : Selection → Bool → Bool
  | .anyReady, _ => true
  | .cancelFirst, cancelled => !cancelled

/-- Where the poll loop's task stands. -/
inductive PollStage where
  /-- At its first `select!`: the cancellation, or the next tick. -/
  | waiting
  /-- At its second `select!`, its status call not sent yet. -/
  | asking
  /-- At its second `select!`, its status call sent and answered with `answer`, which may
  still be on its way. -/
  | answered (answer : Except ClientError GenerationStatusDto)
  /-- The task ended with `status`, and the call for the topic's batches is out, answered
  with `answer`. -/
  | refreshing (status : TaskStatus) (answer : Except ClientError (List BatchViewDto))
  /-- The loop returned this outcome. -/
  | ended (outcome : PollOutcome)
  deriving Repr, Inhabited

namespace PollStage

/-- Whether the loop waits at a `select!`, where the cancellation can end it. -/
def atSelect : PollStage → Bool
  | .waiting | .asking | .answered _ => true
  | _ => false

/-- Whether the loop waits for the topic's batches, which no cancellation can cut short. -/
def awaitsRefresh : PollStage → Bool
  | .refreshing .. => true
  | _ => false

end PollStage

/-- A poll loop as a task (`poll_loop`): the generation it watches, where it stands, whether its
token was cancelled, the poller with its source and cache, and how many calls it made on the
source. -/
structure PollTask (σ : Type) where
  target : WatchTarget
  stage : PollStage
  cancelled : Bool := false
  poller : StatusPoller σ
  calls : Nat := 0
  deriving Repr, Inhabited

namespace PollTask

variable {σ : Type} [StatusSource σ]

/-- The task of a loop started by `StatusPoller::watch`: waiting for its first tick, or
ended already when its interval is zero. -/
def start (p : StatusPoller σ) (target : WatchTarget) : PollTask σ :=
  { target, stage := if p.intervalMs = 0 then .ended .cancelled else .waiting, poller := p }

/-- What joining the loop's handle yields once the loop has returned (`PollHandle::join`). -/
def joined (t : PollTask σ) : Option PollOutcome :=
  match t.stage with
  | .ended o => some o
  | _ => none

/-- The loop sends its status call, which the source answers. -/
def send (t : PollTask σ) : PollTask σ :=
  let r := StatusSource.status t.poller.source t.target.generation t.target.task
  { t with stage := .answered r.1, poller := { t.poller with source := r.2 }, calls := t.calls + 1 }

/-- The loop takes the answer to its status call. A failed call is tried again at the next
tick, unless the generation is gone. A status goes into the cache; a task in flight sends
the loop back to wait for its next tick, and an ended one makes it call for the topic's
batches, which the source answers. -/
def hear (t : PollTask σ) : Except ClientError GenerationStatusDto → PollTask σ
  | .error e => { t with stage := if e.isNotFound then .ended .notFound else .waiting }
  | .ok st =>
    let p := t.poller.dispatch (.updateGeneration t.target.topic t.target.batch
      t.target.generation (.ofStatus st))
    if !st.status.isTerminal then { t with stage := .waiting, poller := p }
    else
      let r := StatusSource.batchesOf p.source t.target.topic
      { t with stage := .refreshing st.status r.1, poller := { p with source := r.2 },
               calls := t.calls + 1 }

/-- The loop takes the topic's batches, which replace the topic in the cache, and returns
the status the task ended with; a failed call is only noted. -/
def land (t : PollTask σ) (status : TaskStatus) :
    Except ClientError (List BatchViewDto) → PollTask σ
  | .ok bs =>
    { t with stage := .ended (.finished status),
             poller := t.poller.dispatch (.replaceTopic t.target.topic bs) }
  | .error _ => { t with stage := .ended (.finished status) }

/-- One event of the loop's task, its `select!`s taking branches as `sel` says (`poll_loop`). -/
inductive Step (sel : Selection) : PollTask σ → PollTask σ → Prop where
  /-- The handle is cancelled or dropped: the token is cancelled. -/
  | cancel (t : PollTask σ) : Step sel t { t with cancelled := true }
  /-- The first `select!` takes the tick. -/
  | tick (t : PollTask σ) (h : t.stage = .waiting) (hsel : sel.proceeds t.cancelled = true) :
      Step sel t { t with stage := .asking }
  /-- The second `select!` polls the status call, which is sent. -/
  | send (t : PollTask σ) (h : t.stage = .asking) (hsel : sel.proceeds t.cancelled = true) :
      Step sel t t.send
  /-- The second `select!` takes the status call's answer. -/
  | hear (t : PollTask σ) (a : Except ClientError GenerationStatusDto)
      (h : t.stage = .answered a) (hsel : sel.proceeds t.cancelled = true) :
      Step sel t (t.hear a)
  /-- The topic's batches arrive. -/
  | land (t : PollTask σ) (s : TaskStatus) (a : Except ClientError (List BatchViewDto))
      (h : t.stage = .refreshing s a) : Step sel t (t.land s a)
  /-- A `select!` takes the cancellation, and the loop returns. -/
  | stop (t : PollTask σ) (h : t.stage.atSelect = true) (hc : t.cancelled = true) :
      Step sel t { t with stage := .ended .cancelled }

end PollTask

end ImageStudio
