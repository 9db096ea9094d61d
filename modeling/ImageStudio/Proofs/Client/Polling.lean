import ImageStudio.Client.Poller

/-!
# Proofs · Client · Polling: what a poll loop asks and sends, answer by answer

A poll loop ticks, asks its source for the watched generation's status, and sends every
status it gets to the cache. It stops on the first answer that reports an ended task or says
the generation is gone; on an ended task it reloads the topic once before it returns. Read
against the answers its source gives, call after call (`StatusSource.answerAt`), that is
exactly what it does (`StatusPoller.loop_polls_until_stop`): one call per tick up to the
first stopping answer and none after it, the outcome that answer gives at that tick's time,
one merge per status in the order of the answers, one reload exactly when the task ended,
sending the topic's batches exactly when the reload succeeds; and when no answer ever stops
it, it never returns.

On this clock, where calls take no time and a cancel wins over a tick due at the same
moment, a watch cancelled or dropped at a moment `m` is the same loop cut at `m`
(`StatusPoller.loop_interrupted`): what it asked and sent is what its ticks before `m` asked
and sent, and it ends cancelled at `m` unless it had already ended at one of those ticks.
A watch whose loop ended before the owner cancels it answers the loop's own outcome, not a
cancellation (`StatusPoller.watch_interrupted`). What a cancel does to a loop whose calls are
out is the subject of `Proofs.Client.Cancellation`.

The one-tick lemma `StatusPoller.tick_eq` is stated once and every run lemma is derived
from it; the poller a run leaves is described by `StatusPoller.sent`, the source it ends
with and the changes sent to the cache, in order.
-/

namespace ImageStudio

/-! ## The answers a source gives -/

namespace StatusSource

variable {σ : Type} [StatusSource σ]

/-- The source after `n` status calls for one generation and task. -/
def afterCalls (s : σ) (generation task : Uuid) : Nat → σ
  | 0 => s
  | n + 1 => (status (afterCalls s generation task n) generation task).2

/-- The answer to status call `n` for one generation and task. -/
def answerAt (s : σ) (generation task : Uuid) (n : Nat) : Except ClientError GenerationStatusDto :=
  (status (afterCalls s generation task n) generation task).1

@[simp] theorem afterCalls_zero (s : σ) (g t : Uuid) : afterCalls s g t 0 = s := rfl

theorem afterCalls_succ (s : σ) (g t : Uuid) (n : Nat) :
    afterCalls s g t (n + 1) = (status (afterCalls s g t n) g t).2 := rfl

end StatusSource

namespace StatusPoller

variable {σ : Type}

/-! ## What one answer does -/

/-- Whether an answer ends the loop: a status of an ended task, or a 404. -/
def stopsOn : Except ClientError GenerationStatusDto → Bool
  | .ok st => st.status.isTerminal
  | .error e => e.isNotFound

/-- Whether an answer reports an ended task, which has the loop reload its topic. -/
def endsTask : Except ClientError GenerationStatusDto → Bool
  | .ok st => st.status.isTerminal
  | .error _ => false

/-- The outcome of a loop that stops on an answer. -/
def outcomeOf : Except ClientError GenerationStatusDto → PollOutcome
  | .ok st => .finished st.status
  | .error _ => .notFound

/-- The merge a status answer sends to the cache; a failed call sends none. -/
def mergeOf (target : WatchTarget) : Except ClientError GenerationStatusDto → List BatchAction
  | .ok st => [.updateGeneration target.topic target.batch target.generation (.ofStatus st)]
  | .error _ => []

/-- The change a batches answer sends to the cache; a failed call sends none. -/
def reloadOf (topic : Uuid) : Except ClientError (List BatchViewDto) → List BatchAction
  | .ok bs => [.replaceTopic topic bs]
  | .error _ => []

theorem endsTask_le_stopsOn {a : Except ClientError GenerationStatusDto} (h : stopsOn a = false) :
    endsTask a = false := by
  cases a <;> simp_all [stopsOn, endsTask]

/-! ## Sending changes -/

/-- The poller once its source has become `s` and the changes `as` have gone to the cache, in
order. -/
def sent (p : StatusPoller σ) (s : σ) (as : List BatchAction) : StatusPoller σ :=
  { p with source := s, cache := as.foldl BatchCache.reduce p.cache, sends := p.sends + as.length }

@[simp] theorem sent_source (p : StatusPoller σ) (s : σ) (as : List BatchAction) :
    (p.sent s as).source = s := rfl

@[simp] theorem sent_intervalMs (p : StatusPoller σ) (s : σ) (as : List BatchAction) :
    (p.sent s as).intervalMs = p.intervalMs := rfl

theorem sent_sent (p : StatusPoller σ) (s s' : σ) (as bs : List BatchAction) :
    (p.sent s as).sent s' bs = p.sent s' (as ++ bs) := by
  simp only [sent, List.foldl_append, List.length_append, Nat.add_assoc]

/-- Dispatching changes one by one sends them in order. -/
theorem foldl_dispatch (as : List BatchAction) (p : StatusPoller σ) :
    as.foldl dispatch p = p.sent p.source as := by
  induction as generalizing p with
  | nil => rfl
  | cons a as ih =>
    rw [List.foldl_cons, ih]
    simp only [sent, dispatch, List.foldl_cons, List.length_cons]
    congr 1
    omega

variable [StatusSource σ]

/-- The merges that answers `0, …, n - 1` send, in order. -/
def mergesUpTo (target : WatchTarget) (s : σ) (n : Nat) : List BatchAction :=
  (List.range n).flatMap fun i => mergeOf target (StatusSource.answerAt s target.generation target.task i)

theorem mergesUpTo_succ (target : WatchTarget) (s : σ) (n : Nat) :
    mergesUpTo target s (n + 1) =
      mergesUpTo target s n ++ mergeOf target (StatusSource.answerAt s target.generation target.task n) := by
  simp [mergesUpTo, List.range_succ]

/-- A reload asks for the topic's batches once, and sends them when the call succeeds. -/
theorem refreshTopic_snd (p : StatusPoller σ) (topic : Uuid) :
    (p.refreshTopic topic).2 =
      p.sent (StatusSource.batchesOf p.source topic).2
        (reloadOf topic (StatusSource.batchesOf p.source topic).1) := by
  unfold refreshTopic
  rcases StatusSource.batchesOf p.source topic with ⟨_ | bs, s⟩ <;> rfl

/-! ## One tick -/

/-- One tick asks for the status once, sends the merge of a status, reloads the topic when
the task ended, and ends the loop exactly on a stopping answer. -/
theorem tick_eq (p : StatusPoller σ) (target : WatchTarget) :
    p.tick target =
      (if stopsOn (StatusSource.status p.source target.generation target.task).1 then
        some (outcomeOf (StatusSource.status p.source target.generation target.task).1) else none,
      let q := p.sent (StatusSource.status p.source target.generation target.task).2
        (mergeOf target (StatusSource.status p.source target.generation target.task).1)
      if endsTask (StatusSource.status p.source target.generation target.task).1 then
        (q.refreshTopic target.topic).2 else q) := by
  unfold tick
  rcases StatusSource.status p.source target.generation target.task with ⟨_ | st, s⟩
  · rfl
  · -- a status is merged first; an ended task is then reloaded
    cases hst : st.status.isTerminal <;>
      simp [stopsOn, endsTask, outcomeOf, mergeOf, hst, dispatch, sent]

@[simp] theorem tick_intervalMs (p : StatusPoller σ) (target : WatchTarget) :
    (p.tick target).2.intervalMs = p.intervalMs := by
  rw [tick_eq]
  dsimp only
  split <;> simp [refreshTopic_snd]

/-! ## Runs of ticks -/

section Loop

variable (target : WatchTarget)

/-- A tick before the cut, if there is one, is not cut. -/
theorem filter_le_eq_none {stopAt : Option Nat} {t : Nat} (hs : ∀ m ∈ stopAt, t < m) :
    stopAt.filter (· ≤ t) = none := by
  cases stopAt with
  | none => rfl
  | some m => simpa using hs m rfl

theorem loop_succ_of_tick_none {stopAt : Option Nat} {fuel n : Nat} {p : StatusPoller σ}
    (hs : ∀ m ∈ stopAt, n * p.intervalMs < m) (h : (p.tick target).1 = none) :
    loop target stopAt (fuel + 1) n p = loop target stopAt fuel (n + 1) (p.tick target).2 := by
  rw [loop, filter_le_eq_none hs]
  simp only [h]

theorem loop_succ_of_tick_some {stopAt : Option Nat} {fuel n : Nat} {p : StatusPoller σ}
    {o : PollOutcome} (hs : ∀ m ∈ stopAt, n * p.intervalMs < m) (h : (p.tick target).1 = some o) :
    loop target stopAt (fuel + 1) n p = (some (o, n * p.intervalMs), (p.tick target).2) := by
  rw [loop, filter_le_eq_none hs]
  simp only [h]

theorem loop_succ_of_le {m fuel n : Nat} {p : StatusPoller σ} (h : m ≤ n * p.intervalMs) :
    loop target (some m) (fuel + 1) n p = (some (.cancelled, m), p) := by
  have hf : (some m).filter (· ≤ n * p.intervalMs) = some m := by
    simp [Option.filter, h]
  rw [loop, hf]

/-- The poller after `n` answers that did not stop the loop: the source asked `n` times and a
merge sent for each status among them. -/
def polled (p : StatusPoller σ) (n : Nat) : StatusPoller σ :=
  p.sent (StatusSource.afterCalls p.source target.generation target.task n) (mergesUpTo target p.source n)

/-- A tick on an answer that does not stop the loop sends its merge and goes on. -/
theorem tick_polled {p : StatusPoller σ} {n : Nat}
    (h : stopsOn (StatusSource.answerAt p.source target.generation target.task n) = false) :
    (polled target p n).tick target = (none, polled target p (n + 1)) := by
  rw [tick_eq]
  simp only [polled, sent_source, StatusSource.answerAt] at h ⊢
  simp only [h, endsTask_le_stopsOn h, Bool.false_eq_true, if_false]
  rw [sent_sent, mergesUpTo_succ, StatusSource.afterCalls_succ]
  rfl

theorem polled_zero (p : StatusPoller σ) : polled target p 0 = p := rfl

/-- The loop passes the ticks whose answers do not stop it, before any cut, one by one; the
induction is on those ticks, with any fuel left over. -/
theorem loop_polled {stopAt : Option Nat} {p : StatusPoller σ} {k : Nat} :
    ∀ n, (∀ j < n, stopsOn (StatusSource.answerAt p.source target.generation target.task j) = false) →
      (∀ m ∈ stopAt, ∀ j < n, (k + j) * p.intervalMs < m) → ∀ fuel,
      loop target stopAt (n + fuel) k p = loop target stopAt fuel (k + n) (polled target p n)
  | 0, _, _, fuel => by rw [Nat.zero_add, Nat.add_zero, polled_zero]
  | n + 1, hans, hs, fuel => by
    have htick := tick_polled target (hans n (by omega))
    rw [show n + 1 + fuel = n + (fuel + 1) by omega,
      loop_polled n (fun j hj => hans j (by omega)) (fun m hm j hj => hs m hm j (by omega)) (fuel + 1),
      loop_succ_of_tick_none target (fun m hm => by simpa [polled] using hs m hm n (by omega))
        (by rw [htick]), htick, Nat.add_assoc]

/-- A tick on the first answer that stops the loop gives that answer's outcome; the task
ended, it also asks for the topic's batches once and sends them when the call succeeds. -/
theorem tick_polled_stop {p : StatusPoller σ} {k : Nat}
    (h : stopsOn (StatusSource.answerAt p.source target.generation target.task k) = true) :
    (polled target p k).tick target =
      (some (outcomeOf (StatusSource.answerAt p.source target.generation target.task k)),
        let after := StatusSource.afterCalls p.source target.generation target.task (k + 1)
        if endsTask (StatusSource.answerAt p.source target.generation target.task k) then
          p.sent (StatusSource.batchesOf after target.topic).2
            (mergesUpTo target p.source (k + 1) ++ reloadOf target.topic (StatusSource.batchesOf after target.topic).1)
        else polled target p (k + 1)) := by
  rw [tick_eq]
  simp only [polled, sent_source, StatusSource.answerAt] at h ⊢
  simp only [h, if_true]
  rw [sent_sent, mergesUpTo_succ, StatusSource.afterCalls_succ]
  by_cases he : endsTask (StatusSource.status
      (StatusSource.afterCalls p.source target.generation target.task k) target.generation target.task).1 = true
  · simp only [he, if_true, refreshTopic_snd, sent_source, sent_sent, List.append_assoc]
    rfl
  · simp only [he, Bool.false_eq_true, if_false]
    rfl

/-- A poll loop reads its answers call by call. Up to the first answer that stops it (an
ended task, or a 404), it asks once per tick and sends a merge for each status, in the order
of the answers; that answer gives the outcome, at its tick's time, and the loop asks for no
status after it. An ended task has its topic's batches asked for once, and sent when that
call succeeds. When no answer stops it, the loop never returns: after any number of ticks it
has asked once per tick and sent a merge for each status. -/
theorem loop_polls_until_stop (p : StatusPoller σ) :
    let answer := StatusSource.answerAt p.source target.generation target.task
    let after := StatusSource.afterCalls p.source target.generation target.task
    (∀ k, stopsOn (answer k) = true → (∀ j < k, stopsOn (answer j) = false) → ∀ fuel, k < fuel →
      loop target none fuel 0 p =
        (some (outcomeOf (answer k), k * p.intervalMs),
          if endsTask (answer k) then
            p.sent (StatusSource.batchesOf (after (k + 1)) target.topic).2
              (mergesUpTo target p.source (k + 1) ++
                reloadOf target.topic (StatusSource.batchesOf (after (k + 1)) target.topic).1)
          else p.sent (after (k + 1)) (mergesUpTo target p.source (k + 1)))) ∧
    ((∀ n, stopsOn (answer n) = false) → ∀ fuel,
      loop target none fuel 0 p = (none, p.sent (after fuel) (mergesUpTo target p.source fuel))) := by
  intro answer after
  refine ⟨fun k hk hbefore fuel hfuel => ?_, fun hnever fuel => ?_⟩
  · -- the ticks before `k` go on; tick `k` stops the loop
    obtain ⟨rest, rfl⟩ : ∃ rest, fuel = k + (rest + 1) := ⟨fuel - k - 1, by omega⟩
    rw [loop_polled target k hbefore (fun _ h => by cases h) (rest + 1), Nat.zero_add,
      loop_succ_of_tick_some target (fun _ h => by cases h) (by rw [tick_polled_stop target hk]),
      tick_polled_stop target hk]
    rfl
  · have hrun : loop target none (fuel + 0) 0 p = loop target none 0 (0 + fuel) (polled target p fuel) :=
      loop_polled target fuel (fun j _ => hnever j) (fun _ h => by cases h) 0
    rw [Nat.add_zero] at hrun
    rw [hrun]
    rfl

/-- The generation the sample loops watch. -/
def sampleTarget : WatchTarget :=
  ⟨⟨0xcccccccc000040008000000000000001⟩, ⟨0xbbbbbbbb000040008000000000000001⟩,
    ⟨0xaaaaaaaa000040008000000000000001⟩, ⟨0x99999999888847778666555555555555⟩⟩

/-- A poller whose source fails once with a 503, then reports the task pending, then ended
in success, and has an empty topic to reload. -/
def retryingPoller : StatusPoller ScriptedSource :=
  { source := { statuses := [.error (.status 503 ""), .ok { status := .pending },
      .ok { status := .success }], batches := .ok [] } }

/-- On that source the loop stops at its third tick, 4 s in, on the success: it asked for the
status three times and for the topic's batches once, and sent the two statuses and the
topic to the cache. -/
theorem loop_polls_until_stop_retrying :
    (loop sampleTarget none 5 0 retryingPoller).1 = some (.finished .success, 4000) ∧
      (loop sampleTarget none 5 0 retryingPoller).2.source.statusCalls = 3 ∧
      (loop sampleTarget none 5 0 retryingPoller).2.source.batchCalls = 1 ∧
      (loop sampleTarget none 5 0 retryingPoller).2.sends = 3 := by
  rw [(loop_polls_until_stop sampleTarget retryingPoller).1 2 (by decide) (by decide) 5 (by decide)]
  decide

/-! ## Cutting the loop -/

/-- The number of ticks, at `0, i, 2i, …`, that fall before `m`. -/
def ticksBefore (i m : Nat) : Nat := (m + i - 1) / i

theorem lt_ticksBefore_iff {i m n : Nat} (hi : 0 < i) : n < ticksBefore i m ↔ n * i < m := by
  rw [ticksBefore, ← Nat.succ_le_iff, Nat.le_div_iff_mul_le hi, Nat.succ_mul]
  omega

/-- A loop cut at `m` runs as the uncut loop over the ticks before `m`, and is cancelled at
`m` if those ticks did not end it. The induction is on the ticks left before the cut. -/
theorem loop_cut {i m fuel : Nat} (hi : 0 < i) :
    ∀ j n (p : StatusPoller σ), p.intervalMs = i → n + j = ticksBefore i m →
      loop target (some m) (j + fuel + 1) n p =
        (some ((loop target none j n p).1.getD (.cancelled, m)), (loop target none j n p).2)
  | 0, n, p, hp, hn => by
    -- no tick is left before the cut
    have hle : m ≤ n * p.intervalMs := by
      rw [hp]
      refine Nat.not_lt.1 fun h => ?_
      have := (lt_ticksBefore_iff hi).2 h
      omega
    rw [Nat.zero_add, loop_succ_of_le target hle]
    rfl
  | j + 1, n, p, hp, hn => by
    have hlt : ∀ s ∈ some m, n * p.intervalMs < s := by
      rintro s ⟨⟩
      rw [hp]
      exact (lt_ticksBefore_iff hi).1 (by omega)
    have hnone : ∀ s ∈ (none : Option Nat), n * p.intervalMs < s := fun _ h => by cases h
    rcases ht : (p.tick target).1 with _ | o
    · rw [show j + 1 + fuel + 1 = (j + fuel + 1) + 1 by omega, loop_succ_of_tick_none target hlt ht,
        loop_succ_of_tick_none target hnone ht]
      exact loop_cut hi j (n + 1) _ (by rw [tick_intervalMs, hp]) (by omega)
    · rw [show j + 1 + fuel + 1 = (j + fuel + 1) + 1 by omega, loop_succ_of_tick_some target hlt ht,
        loop_succ_of_tick_some target hnone ht]
      rfl

/-- A loop cut at `m` asks and sends what its ticks before `m` ask and send, and nothing
from `m` on; it ends as those ticks ended it, or cancelled at `m` if they did not. -/
theorem loop_interrupted {p : StatusPoller σ} (hi : 0 < p.intervalMs) (m : Nat) {fuel : Nat}
    (hfuel : ticksBefore p.intervalMs m < fuel) :
    loop target (some m) fuel 0 p =
      (some ((loop target none (ticksBefore p.intervalMs m) 0 p).1.getD (.cancelled, m)),
        (loop target none (ticksBefore p.intervalMs m) 0 p).2) := by
  obtain ⟨rest, rfl⟩ : ∃ rest, fuel = ticksBefore p.intervalMs m + rest + 1 :=
    ⟨fuel - ticksBefore p.intervalMs m - 1, by omega⟩
  exact loop_cut target hi _ 0 p rfl (Nat.zero_add _)

end Loop

/-! ## Cancelling and dropping a watch -/

/-- The loop over the ticks that fall before `m`; with an interval of zero there is none, the
loop being refused before its first tick. -/
def before (p : StatusPoller σ) (target : WatchTarget) (m : Nat) :
    Option (PollOutcome × Nat) × StatusPoller σ :=
  if p.intervalMs = 0 then (none, p) else loop target none (ticksBefore p.intervalMs m) 0 p

theorem ticksBefore_le {i m : Nat} (hi : 0 < i) : ticksBefore i m ≤ m / i + 1 := by
  refine Nat.not_lt.1 fun h => ?_
  have h₁ := (lt_ticksBefore_iff hi).1 h
  have h₂ := Nat.lt_div_mul_add (a := m) hi
  rw [Nat.succ_mul] at h₁
  omega

/-- A watch cancelled or dropped at `m` leaves the source and the cache as the ticks before
`m` left them: no status or batches call and no change to the cache happens from `m` on. A
cancelled watch's join answers a cancellation, unless one of those ticks had ended the loop,
when it answers the loop's own outcome. -/
theorem watch_interrupted (p : StatusPoller ScriptedSource) (target : WatchTarget) (m : Nat) :
    p.watch target (.cancelAfter m) =
        some ⟨WatchEnd.ofOutcome ((p.before target m).1.getD (.cancelled, m)).1, m, (p.before target m).2⟩ ∧
      p.watch target (.dropAfter m) = some ⟨.dropped, m + 1, (p.before target m).2⟩ := by
  by_cases hi : p.intervalMs = 0
  · simp [watch, before, hi]
  · have hpos : 0 < p.intervalMs := Nat.pos_of_ne_zero hi
    have hfuel : ticksBefore p.intervalMs m < m / p.intervalMs + 2 + p.source.statuses.length + 1 := by
      have := ticksBefore_le (m := m) hpos
      omega
    simp only [watch, hi, if_false, Option.map_some, Option.getD_some]
    rw [loop_interrupted target hpos m hfuel]
    simp [before, hi]

/- A watch whose task ended at its first tick, cancelled a second later: the join answers
the finished task, not a cancellation. -/
example :
    ((({ source := { statuses := [.ok { status := .success }], batches := .ok [] } } :
        StatusPoller ScriptedSource).watch sampleTarget (.cancelAfter 1000)).map (·.ending)) =
      some (.finished .success) := by
  decide

end StatusPoller

end ImageStudio
