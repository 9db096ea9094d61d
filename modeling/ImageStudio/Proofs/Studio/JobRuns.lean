import ImageStudio.Proofs.Studio.JobSteps
import ImageStudio.Proofs.Studio.Stored

/-!
# Proofs · Studio · JobRuns: how a job ends

A job runs step after step from its claim to its end (`JobRun`). Each step is the step
function's own (`jobStep`), and once the job has claimed its task a timeout sweep of that
task may run between two steps (`sweepTask`). A run lists its steps, each with the stage
and the studio it started from; `completions` and `covers` read off that list the files the
completions stored and the covers the job gave its topic.

Every job runs to an end (`jobRun_exists`); the service's own run of a job is one of these
runs (`jobRun_settle`). `jobRun_outcome` says how every run ends, when task
identifiers name one task each. A job that does not find its task pending stops at its
claim and changes nothing (`JobRun.of_idle`). A job that finds it pending ends as `JobEnd`
says: the task terminal; successful exactly when a completion stored a file, which happens
once at most, and then the topic is given that file's thumbnail as cover if it has none;
failed otherwise, with the error of the point where the job failed (`FailedAt`) or with a
timeout's; and a job whose task timed out stores no asset, gives no cover and leaves behind
no object it put.

Each part is a run lemma, by induction on the run, over the step lemmas of `JobSteps`:
what a step can do to the task (`TaskStep`) and to the other rows (`RowsStep`), the cover
and the failure a stage has still to write (`coverAhead_jobStep`, `failure?_jobStep_iff`),
and the objects a step leaves (`leftovers_jobStep`). What every step and sweep keeps is
said once (`JobRun.inv`), as is where a run goes on after each of its steps
(`JobRun.after`).
-/

namespace ImageStudio

namespace Studio

/-! ## Runs -/

/-- A run of a job from `stage` and `s` to its end in `s'`. `trace` lists its steps, each
with the stage and the studio it started from; once the task is claimed, timeout sweeps of
it may run between the steps. -/
inductive JobRun (job : Job) : JobStage → Studio → List (JobStage × Studio) → Studio → Prop where
  | done (s : Studio) : JobRun job .done s [] s
  | step {stage : JobStage} {s s' : Studio} {trace : List (JobStage × Studio)}
      (hne : stage ≠ .done)
      (h : JobRun job ((jobStep job stage).run s).1 ((jobStep job stage).run s).2 trace s') :
      JobRun job stage s ((stage, s) :: trace) s'
  | sweep {stage : JobStage} {s s' : Studio} {trace : List (JobStage × Studio)}
      (hclaimed : stage ≠ .claim) (hne : stage ≠ .done)
      (h : JobRun job stage ((sweepTask job.user job.task).run.run s).2 trace s') :
      JobRun job stage s trace s'

/-- The files the completions of a run stored or found. -/
def completions (job : Job) (trace : List (JobStage × Studio)) : List FileRecord :=
  trace.filterMap fun p => completed? job p.1 p.2

/-- The covers the steps of a run gave the topic, each by a call that sets it if the topic
has none. -/
def covers (trace : List (JobStage × Studio)) : List String :=
  trace.filterMap fun p => p.1.coverKey?

variable {job : Job}

@[simp] theorem completions_nil : completions job [] = [] := rfl

@[simp] theorem completions_cons (stage : JobStage) (s : Studio) (trace : List (JobStage × Studio)) :
    completions job ((stage, s) :: trace) = (completed? job stage s).toList ++ completions job trace := by
  unfold completions
  rw [List.filterMap_cons]
  cases completed? job stage s <;> rfl

@[simp] theorem covers_nil : covers [] = [] := rfl

@[simp] theorem covers_cons (stage : JobStage) (s : Studio) (trace : List (JobStage × Studio)) :
    covers ((stage, s) :: trace) = stage.coverKey?.toList ++ covers trace := by
  unfold covers
  rw [List.filterMap_cons]
  cases stage.coverKey? <;> rfl

/-- Every job runs to an end: each step brings it closer. -/
theorem jobRun_exists (job : Job) (stage : JobStage) (s : Studio) :
    ∃ trace s', JobRun job stage s trace s' := by
  by_cases hdone : stage = .done
  · subst hdone
    exact ⟨[], s, .done s⟩
  · obtain ⟨trace, s', h⟩ :=
      jobRun_exists job ((jobStep job stage).run s).1 ((jobStep job stage).run s).2
    exact ⟨_, s', .step hdone h⟩
termination_by stage.rank
decreasing_by exact (jobStep_leads job stage s).rank_lt hdone

/-! ## The service's run of a job

The service runs its queued jobs in two halves (`settle`): each job is claimed, sent to its
provider and loaded (`startJob`), and each loaded job is then finished in at most eight
steps (`finishJob`). Both halves are parts of a run, so a job alone in the queue is run as
a run of it (`jobRun_settle`). -/

/-- A job that is over stays so. -/
theorem runJob_done (job : Job) : ∀ (n : Nat) (s : Studio), (runJob job n .done).run s = (.done, s)
  | 0, _ => rfl
  | n + 1, s => runJob_done job n s

/-- Running a job through as many steps as its rank takes it to its end, along a run. -/
theorem jobRun_runJob (job : Job) (n : Nat) :
    ∀ (stage : JobStage) (s : Studio), stage.rank ≤ n →
      ∃ trace, JobRun job stage s trace ((runJob job n stage).run s).2 := by
  induction n with
  | zero =>
    intro stage s hrank
    -- only a job that is over has no step left
    obtain rfl : stage = .done := by
      by_contra hdone
      have := (jobStep_leads job stage s).rank_lt hdone
      omega
    rw [runJob_done]
    exact ⟨[], .done s⟩
  | succ n ih =>
    intro stage s hrank
    by_cases hdone : stage = .done
    · subst hdone
      rw [runJob_done]
      exact ⟨[], .done s⟩
    · have hlt := (jobStep_leads job stage s).rank_lt hdone
      obtain ⟨trace, h⟩ := ih ((jobStep job stage).run s).1 ((jobStep job stage).run s).2 (by omega)
      rw [runJob, Studio.run_bind]
      exact ⟨_, .step hdone h⟩

/-- The second half of a job takes a loaded job to its end. -/
theorem jobRun_finishJob (l : LoadedJob) (s : Studio) :
    ∃ trace, JobRun l.job (.loaded l.image l.source) s trace ((finishJob l).run s).2 := by
  unfold finishJob
  simp only [Studio.run_bind, Studio.run_pure]
  exact jobRun_runJob l.job 8 _ s (Nat.le_refl 8)

/-- The first half of a job starts a run of it: it ends the job, or leaves it loaded for a
run of the rest. -/
theorem jobRun_startJob (job : Job) (s : Studio) :
    (((startJob job).run s).1 = none → ∃ trace, JobRun job .claim s trace ((startJob job).run s).2) ∧
      ∀ l, ((startJob job).run s).1 = some l → l.job = job ∧
        ∀ trace s', JobRun job (.loaded l.image l.source) ((startJob job).run s).2 trace s' →
          ∃ trace', JobRun job .claim s trace' s' := by
  have hclaimed : JobStage.claim ≠ .done := fun h => by cases h
  unfold startJob
  simp only [Studio.run_bind]
  rcases jobStep_claim job s with hclaim | hclaim
  · -- claimed: the provider is called next
    rw [hclaim]
    dsimp only
    rw [Studio.run_bind]
    have hl := jobStep_leads job .call ((jobStep job .claim).run s).2
    generalize hnext : ((jobStep job .call).run ((jobStep job .claim).run s).2).1 = next at hl ⊢
    cases hl with
    | callFails e =>
      -- the provider failed: the failure is recorded, and the job is over
      dsimp only
      rw [Studio.run_bind, Studio.run_pure]
      refine ⟨fun _ => ?_, fun l hl => by cases hl⟩
      apply Exists.intro
      apply JobRun.step hclaimed
      rw [hclaim]
      apply JobRun.step (fun h => by cases h)
      rw [hnext]
      exact .step (fun h => by cases h) (.done _)
    | called image source =>
      -- the image is loaded, and the rest of the run is the loaded job's
      dsimp only
      rw [Studio.run_pure]
      refine ⟨(fun hl => by cases hl), fun l hl => ?_⟩
      cases hl
      refine ⟨rfl, fun trace s' h => ?_⟩
      apply Exists.intro
      apply JobRun.step hclaimed
      rw [hclaim]
      apply JobRun.step (fun h => by cases h)
      rw [hnext]
      exact h
  · -- not claimed: the job is over
    rw [hclaim]
    dsimp only
    rw [Studio.run_pure]
    refine ⟨fun _ => ?_, fun l hl => by cases hl⟩
    apply Exists.intro
    apply JobRun.step hclaimed
    rw [hclaim]
    exact .done _

/-- The service runs a job alone in its queue as a run of it, with no sweep between the
steps. -/
theorem jobRun_settle (job : Job) (s : Studio) :
    ∃ trace, JobRun job .claim { s with queue := [] } trace (settle.run { s with queue := [job] }).2 := by
  have hstart := jobRun_startJob job { s with queue := [] }
  unfold settle
  simp only [Studio.run_get_bind]
  simp only [Studio.run_bind, Studio.run_modify, List.filterMapM_cons, List.filterMapM_nil]
  rcases hrun : (startJob job).run { s with queue := [] } with ⟨_ | l, s₁⟩
  · -- the first half ended the job
    rw [hrun] at hstart
    dsimp only
    exact hstart.1 rfl
  · -- the second half takes the loaded job to its end
    rw [hrun] at hstart
    obtain ⟨hjob, hrest⟩ := hstart.2 l rfl
    obtain ⟨trace, h⟩ := jobRun_finishJob l s₁
    rw [hjob] at h
    dsimp only
    exact hrest _ _ h

section Runs

variable {stage : JobStage} {s s' : Studio} {trace : List (JobStage × Studio)}

/-- A job that is over takes no step. -/
theorem JobRun.of_done (h : JobRun job .done s trace s') : trace = [] ∧ s' = s := by
  cases h with
  | done => exact ⟨rfl, rfl⟩
  | step hne => exact absurd rfl hne
  | sweep _ hne => exact absurd rfl hne

/-- What each step and each sweep keep holds at the end of a run and at each of its steps. -/
theorem JobRun.inv (I : JobStage → Studio → Prop)
    (hstep : ∀ stage s, stage ≠ .done → I stage s →
      I ((jobStep job stage).run s).1 ((jobStep job stage).run s).2)
    (hsweep : ∀ stage s, stage ≠ .claim → I stage s → I stage ((sweepTask job.user job.task).run.run s).2)
    (h : JobRun job stage s trace s') (hI : I stage s) : I .done s' ∧ ∀ p ∈ trace, I p.1 p.2 := by
  induction h with
  | done => exact ⟨hI, fun p hp => absurd hp List.not_mem_nil⟩
  | step hne _ ih =>
    obtain ⟨hend, hsteps⟩ := ih (hstep _ _ hne hI)
    refine ⟨hend, fun p hp => ?_⟩
    rcases List.mem_cons.1 hp with rfl | hp
    · exact hI
    · exact hsteps p hp
  | sweep hclaimed _ _ ih => exact ih (hsweep _ _ hclaimed hI)

/-- After each of its steps, a run goes on as a run from where that step left the job. -/
theorem JobRun.after (h : JobRun job stage s trace s') :
    ∀ p ∈ trace, ∃ rest, JobRun job ((jobStep job p.1).run p.2).1 ((jobStep job p.1).run p.2).2 rest s' := by
  induction h with
  | done => exact fun p hp => absurd hp List.not_mem_nil
  | step _ h ih =>
    intro p hp
    rcases List.mem_cons.1 hp with rfl | hp
    · exact ⟨_, h⟩
    · exact ih p hp
  | sweep _ _ _ ih => exact ih

/-- A job that does not find its task pending stops at its claim, and changes nothing. -/
theorem JobRun.of_idle (h : JobRun job .claim s trace s')
    (hidle : (job.taskIn s.repo).any (·.status == .pending) = false) : trace = [(.claim, s)] ∧ s' = s := by
  cases h with
  | sweep hclaimed => exact absurd rfl hclaimed
  | step _ h =>
    rw [jobStep_claim_idle job s hidle] at h
    obtain ⟨rfl, rfl⟩ := h.of_done
    exact ⟨rfl, rfl⟩

/-- A run completes the generation once at most, and not at all from a stage past the
completion. -/
theorem JobRun.completions_le (h : JobRun job stage s trace s') :
    (stage.rank < 5 → completions job trace = []) ∧ (completions job trace).length ≤ 1 := by
  induction h with
  | done => exact ⟨fun _ => rfl, Nat.zero_le _⟩
  | @step stage s s' trace hne _ ih =>
    have hlt := (jobStep_leads job stage s).rank_lt hne
    rw [completions_cons]
    rcases hc : completed? job stage s with _ | f
    · rw [Option.toList_none, List.nil_append]
      exact ⟨fun _ => ih.1 (by omega), ih.2⟩
    · -- only the completion's step completes, and no completion follows it
      have h5 : stage.rank = 5 := by
        cases stage with
        | complete => rfl
        | _ => cases hc
      rw [Option.toList_some, ih.1 (by omega)]
      exact ⟨fun _ => by omega, Nat.le_refl 1⟩
  | sweep _ _ _ ih => exact ih

/-- The covers of a run are the cover its first stage has still to give, then the thumbnails
of the files its completions stored. -/
theorem JobRun.covers_eq (h : JobRun job stage s trace s') :
    covers trace = stage.coverAhead ++ (completions job trace).map (·.thumbnailKey) := by
  induction h with
  | done => rfl
  | @step stage s s' trace _ _ ih =>
    rw [covers_cons, ih, ← List.append_assoc, coverAhead_jobStep, completions_cons, List.map_append,
      List.append_assoc, Option.toList_map]
  | sweep _ _ _ ih => exact ih

/-- A timeout sweep leaves the store alone. -/
theorem bucket_sweepTask (user task : Uuid) (s : Studio) :
    ((sweepTask user task).run.run s).2.bucket = s.bucket := by
  rcases sweepTask_run user task s with ⟨e, hrun⟩ | ⟨timeoutMs, hrun⟩ <;> rw [hrun]

/-- A run that completes nothing leaves behind, while the store serves it, only objects that
were there before the job ran or that the job still answers for. -/
theorem JobRun.leftovers {s₀ : Studio} (h : JobRun job stage s trace s') (hc : completions job trace = [])
    (hleft : Leftovers s₀ stage s) : Leftovers s₀ .done s' := by
  induction h with
  | done => exact hleft
  | @step stage s s' trace _ _ ih =>
    rw [completions_cons, List.append_eq_nil_iff, Option.toList_eq_nil_iff] at hc
    exact ih hc.2 (leftovers_jobStep job hc.1 hleft)
  | sweep _ _ _ ih => exact ih hc (hleft.of_bucket (bucket_sweepTask _ _ _) (fun _ hk => hk) hleft.raw)

end Runs

/-! ## The rows of a run

The lemmas of this section hold when task identifiers name one task each, as every step
and every sweep keep them. -/

section Rows

variable {stage : JobStage} {s s' : Studio} {trace : List (JobStage × Studio)}

/-- A timeout sweep of the job's task can only time it out. -/
theorem swept_sweepTask (job : Job) (hids : (s.repo.tasks.map (·.id)).Nodup) :
    job.Swept s.repo ((sweepTask job.user job.task).run.run s).2.repo := by
  rcases sweepTask_run job.user job.task s with ⟨e, hrun⟩ | ⟨timeoutMs, hrun⟩ <;> rw [hrun]
  · exact .refl job s.repo
  · exact Job.swept_failTimedOut hids job.user [job.task] timeoutMs

theorem nodup_sweepTask (job : Job) (hids : (s.repo.tasks.map (·.id)).Nodup) :
    (((sweepTask job.user job.task).run.run s).2.repo.tasks.map (·.id)).Nodup :=
  (swept_sweepTask job hids).framed.ids ▸ hids

theorem nodup_jobStep (job : Job) (hids : (s.repo.tasks.map (·.id)).Nodup) (stage : JobStage) :
    (((jobStep job stage).run s).2.repo.tasks.map (·.id)).Nodup :=
  (rowsStep_jobStep job hids stage).ids ▸ hids

/-- A task that is terminal stays as it is to the end of the run. -/
theorem JobRun.keeps_terminal (h : JobRun job stage s trace s') (hids : (s.repo.tasks.map (·.id)).Nodup)
    {t : Task} (ht : job.taskIn s.repo = some t) (hterm : t.status.isTerminal = true) :
    job.taskIn s'.repo = some t := by
  induction h with
  | done => exact ht
  | @step stage s s' trace _ _ ih =>
    exact ih (nodup_jobStep job hids stage) ((taskStep_jobStep job hids stage).keeps_terminal ht hterm)
  | sweep _ _ _ ih =>
    obtain ⟨t', ht', hto⟩ := (swept_sweepTask job hids).task_some ht
    exact ih (nodup_sweepTask job hids) (hto.eq_of_terminal hterm ▸ ht')

/-- A run makes the task successful exactly when one of its completions stores a file. -/
theorem JobRun.success_iff (h : JobRun job stage s trace s') (hids : (s.repo.tasks.map (·.id)).Nodup) :
    (job.taskIn s'.repo).map (·.status) = some .success ↔
      (job.taskIn s.repo).map (·.status) = some .success ∨ completions job trace ≠ [] := by
  induction h with
  | done => simp
  | @step stage s s' trace _ _ ih =>
    rw [ih (nodup_jobStep job hids stage), (taskStep_jobStep job hids stage).success_iff, completions_cons]
    cases completed? job stage s <;> simp
  | sweep _ _ _ ih =>
    rw [ih (nodup_sweepTask job hids), Task.success_iff_of_rel (swept_sweepTask job hids).task]

/-- What a run does to the job's rows other than its task: the topic is given each cover of
the run in turn; without covers the topics, and without completions the generations and the
files, are as they were. -/
structure RowsRun (job : Job) (s : Studio) (trace : List (JobStage × Studio)) (s' : Studio) : Prop where
  cover : job.coverIn s'.repo = (covers trace).foldl Job.giveCover (job.coverIn s.repo)
  topics : covers trace = [] → s'.repo.topics = s.repo.topics
  rows : completions job trace = [] →
    s'.repo.generations = s.repo.generations ∧ s'.repo.files = s.repo.files

theorem JobRun.rowsRun (h : JobRun job stage s trace s') (hids : (s.repo.tasks.map (·.id)).Nodup) :
    RowsRun job s trace s' := by
  induction h with
  | done => exact ⟨rfl, fun _ => rfl, fun _ => ⟨rfl, rfl⟩⟩
  | @step stage s s' trace _ _ ih =>
    have hstep := rowsStep_jobStep job hids stage
    have hrest := ih (nodup_jobStep job hids stage)
    refine ⟨?_, fun hc => ?_, fun hc => ?_⟩
    · rw [hrest.cover, hstep.cover, covers_cons, List.foldl_append]
    · rw [covers_cons, List.append_eq_nil_iff, Option.toList_eq_nil_iff] at hc
      rw [hrest.topics hc.2, hstep.topics hc.1]
    · rw [completions_cons, List.append_eq_nil_iff, Option.toList_eq_nil_iff] at hc
      obtain ⟨hgens, hfiles⟩ := hstep.rows hc.1
      obtain ⟨hgens', hfiles'⟩ := hrest.rows hc.2
      exact ⟨hgens'.trans hgens, hfiles'.trans hfiles⟩
  | sweep _ _ _ ih =>
    -- a sweep writes none of these rows
    have hframed := (swept_sweepTask job hids).framed
    have hrest := ih (nodup_sweepTask job hids)
    refine ⟨?_, fun hc => (hrest.topics hc).trans hframed.topics, fun hc => ?_⟩
    · rw [hrest.cover, job.coverIn_of_topics hframed.topics]
    · exact ⟨(hrest.rows hc).1.trans hframed.generations, (hrest.rows hc).2.trans hframed.files⟩

/-- Where the task is, and what it is at the job's stage, when identifiers name one task
each. -/
def Tracked (job : Job) (stage : JobStage) (s : Studio) : Prop :=
  (s.repo.tasks.map (·.id)).Nodup ∧ ∃ t, job.taskIn s.repo = some t ∧ stage.TaskAt t

/-- Every step and every sweep keep what the task is at the job's stage. -/
theorem JobRun.tracked (h : JobRun job stage s trace s') (hI : Tracked job stage s) :
    Tracked job .done s' ∧ ∀ p ∈ trace, Tracked job p.1 p.2 := by
  refine h.inv (Tracked job) (fun stage s _ hI => ?_) (fun stage s _ hI => ?_) hI
  · obtain ⟨hids, t, ht, hat⟩ := hI
    obtain ⟨t', ht', hat'⟩ := taskAt_jobStep job hids ht hat
    exact ⟨nodup_jobStep job hids stage, t', ht', hat'⟩
  · obtain ⟨hids, t, ht, hat⟩ := hI
    obtain ⟨t', ht', hto⟩ := (swept_sweepTask job hids).task_some ht
    exact ⟨nodup_sweepTask job hids, t', ht', hat.timesOut hto⟩

/-- A task that is terminal at a step of a run stays as it is to the end. -/
theorem JobRun.keeps_terminal_after (h : JobRun job stage s trace s') (hI : Tracked job stage s)
    {p : JobStage × Studio} (hp : p ∈ trace) {t : Task} (ht : job.taskIn p.2.repo = some t)
    (hterm : t.status.isTerminal = true) : job.taskIn s'.repo = some t := by
  obtain ⟨rest, hrest⟩ := h.after p hp
  have hids := ((h.tracked hI).2 p hp).1
  exact hrest.keeps_terminal (nodup_jobStep job hids p.1)
    ((taskStep_jobStep job hids p.1).keeps_terminal ht hterm) hterm

end Rows

/-! ## Failures -/

section Failures

variable {stage : JobStage} {s s' : Studio} {trace : List (JobStage × Studio)}

/-- The failure step records its error on a task in flight, and leaves one that timed out as
it is. -/
theorem failed_jobStep (e : JobError) {t : Task} (ht : job.taskIn s.repo = some t)
    (hat : (JobStage.fail e).TaskAt t) :
    ∃ t', job.taskIn ((jobStep job (.fail e)).run s).2.repo = some t' ∧ t'.status = .error ∧
      (t'.error = some e.toTaskError ∨ t'.TimedOut) := by
  rw [jobStep_fail_run]
  dsimp only
  rw [Job.taskIn_transition, ht, Option.map_some]
  rcases hat with hp | hout
  · rw [hp]
    exact ⟨_, rfl, rfl, .inl rfl⟩
  · have hidle : [TaskStatus.pending, .processing].contains t.status = false := by
      rw [hout.1]
      rfl
    rw [hidle]
    exact ⟨t, rfl, hout.1, .inr hout⟩

/-- An error a job has still to record ends up on its task, unless a timeout failed the task
first. -/
theorem JobRun.failure_lands (h : JobRun job stage s trace s') (hids : (s.repo.tasks.map (·.id)).Nodup)
    {t : Task} (ht : job.taskIn s.repo = some t) (hat : stage.TaskAt t) {err : TaskError}
    (hfail : stage.failure? = some err) :
    ∃ t', job.taskIn s'.repo = some t' ∧ t'.status = .error ∧ (t'.error = some err ∨ t'.TimedOut) := by
  induction h generalizing t with
  | done => cases hfail
  | @step stage s s' trace hne hrun ih =>
    rcases (jobStep_leads job stage s).failure?_of_some hfail with ⟨e, rfl, rfl⟩ | hnext
    · -- the failure step: its task is terminal from then on
      obtain ⟨t', ht', herr, hlast⟩ := failed_jobStep e ht hat
      have hterm : t'.status.isTerminal = true := by
        rw [herr]
        rfl
      exact ⟨t', hrun.keeps_terminal (nodup_jobStep job hids _) ht' hterm, herr, hlast⟩
    · obtain ⟨t', ht', hat'⟩ := taskAt_jobStep job hids ht hat
      exact ih (nodup_jobStep job hids stage) ht' hat' hnext
  | sweep _ _ _ ih =>
    obtain ⟨t', ht', hto⟩ := (swept_sweepTask job hids).task_some ht
    exact ih (nodup_sweepTask job hids) ht' (hat.timesOut hto) hfail

/-- Where a job fails, its task ends with that failure's error, unless a timeout failed it
first. -/
theorem JobRun.failedAt_lands (h : JobRun job stage s trace s') (hI : Tracked job stage s)
    {p : JobStage × Studio} (hp : p ∈ trace) {err : TaskError} (hat : FailedAt job p.1 p.2 err) :
    ∃ t, job.taskIn s'.repo = some t ∧ t.status = .error ∧ (t.error = some err ∨ t.TimedOut) := by
  obtain ⟨rest, hrest⟩ := h.after p hp
  obtain ⟨hids, t, ht, hatp⟩ := (h.tracked hI).2 p hp
  obtain ⟨t', ht', hat'⟩ := taskAt_jobStep job hids ht hatp
  exact hrest.failure_lands (nodup_jobStep job hids p.1) ht' hat' (failure?_of_failedAt job hat)

/-- The error a run leaves on the task is a timeout's, or one that `E` allows, or the error
of a point of the run where the job failed: given that the task starts so, and that the
first stage has only an error `E` allows still to record. -/
theorem JobRun.error_origin (h : JobRun job stage s trace s') (hids : (s.repo.tasks.map (·.id)).Nodup)
    (E : TaskError → Prop)
    (hstart : ∀ t, job.taskIn s.repo = some t → t.status = .error →
      t.TimedOut ∨ ∃ err, E err ∧ t.error = some err)
    (hahead : ∀ err, stage.failure? = some err → E err) :
    ∀ t, job.taskIn s'.repo = some t → t.status = .error →
      t.TimedOut ∨ ∃ err, (E err ∨ ∃ p ∈ trace, FailedAt job p.1 p.2 err) ∧ t.error = some err := by
  induction h generalizing E with
  | done =>
    intro t ht herr
    exact (hstart t ht herr).imp_right fun ⟨err, hE, he⟩ => ⟨err, .inl hE, he⟩
  | @step stage s s' trace _ _ ih =>
    -- the rest of the run starts with the errors allowed so far, and this step's failure
    have hstart' : ∀ t, job.taskIn ((jobStep job stage).run s).2.repo = some t → t.status = .error →
        t.TimedOut ∨ ∃ err, (E err ∨ FailedAt job stage s err) ∧ t.error = some err := by
      intro t ht herr
      rcases (taskStep_jobStep job hids stage).error_origin ht herr with hold | hout | ⟨e, hstage, he⟩
      · exact (hstart t hold herr).imp_right fun ⟨err, hE, he⟩ => ⟨err, .inl hE, he⟩
      · exact .inl hout
      · exact .inr ⟨_, .inl (hahead _ (by rw [hstage]; rfl)), he⟩
    have hahead' : ∀ err, ((jobStep job stage).run s).1.failure? = some err →
        E err ∨ FailedAt job stage s err := by
      intro err hnext
      cases hfail : stage.failure? with
      | none => exact .inr (failedAt_of_failure? job hfail hnext)
      | some err₀ =>
        rcases (jobStep_leads job stage s).failure?_of_some hfail with ⟨e, rfl, -⟩ | hnext₀
        · -- the failure step ends the job, with nothing left to record
          rw [jobStep_fail_run] at hnext
          cases hnext
        · rw [hnext₀] at hnext
          exact .inl (Option.some.inj hnext ▸ hahead err₀ hfail)
    intro t ht herr
    rcases ih (nodup_jobStep job hids stage) _ hstart' hahead' t ht herr with hout | ⟨err, hfrom, he⟩
    · exact .inl hout
    · refine .inr ⟨err, ?_, he⟩
      rcases hfrom with (hE | hat) | ⟨p, hp, hat⟩
      · exact .inl hE
      · exact .inr ⟨(stage, s), List.mem_cons_self, hat⟩
      · exact .inr ⟨p, List.mem_cons_of_mem _ hp, hat⟩
  | sweep _ _ _ ih =>
    refine ih (nodup_sweepTask job hids) E (fun t ht herr => ?_) hahead
    -- a sweep leaves the task as it was, or times it out
    obtain ⟨t₀, ht₀, hto⟩ := (swept_sweepTask job hids).task_of_some ht
    rcases hto.timedOut with rfl | hout
    · exact hstart _ ht₀ herr
    · exact .inl hout

end Failures

/-! ## How a job ends -/

/-- How a job that found its task pending ends, run from `s` to `s'` through the steps of
`trace`. -/
structure JobEnd (job : Job) (s : Studio) (trace : List (JobStage × Studio)) (s' : Studio) : Prop where
  /-- The task ends terminal. -/
  terminal : ∃ t, job.taskIn s'.repo = some t ∧ t.status.isTerminal = true
  /-- A task that is terminal at a step, as a timed-out one is, ends so. -/
  stays : ∀ p ∈ trace, ∀ t, job.taskIn p.2.repo = some t → t.status.isTerminal = true →
    job.taskIn s'.repo = some t
  /-- The generation is completed once at most. -/
  once : (completions job trace).length ≤ 1
  /-- The task ends successful exactly when a completion stored a file. -/
  success : (job.taskIn s'.repo).map (·.status) = some .success ↔ completions job trace ≠ []
  /-- The topic is given a cover exactly for the completed file: its thumbnail. -/
  covers : covers trace = (completions job trace).map (·.thumbnailKey)
  /-- That cover is set when the topic has none. -/
  cover : ∀ f, completions job trace = [f] →
    job.coverIn s'.repo = Job.giveCover (job.coverIn s.repo) f.thumbnailKey
  /-- A task that ends failed has a timeout's error, or the error of a point where the job
  failed. -/
  failed : ∀ t, job.taskIn s'.repo = some t → t.status = .error →
    t.TimedOut ∨ ∃ p ∈ trace, ∃ err, FailedAt job p.1 p.2 err ∧ t.error = some err
  /-- Where the job fails, the task ends with that error, unless a timeout failed it first. -/
  fails : ∀ p ∈ trace, ∀ err, FailedAt job p.1 p.2 err →
    ∃ t, job.taskIn s'.repo = some t ∧ t.status = .error ∧ (t.error = some err ∨ t.TimedOut)
  /-- A job whose task timed out stores no asset, gives no cover, and leaves behind, while
  the store serves it, no object it put. -/
  timedOut : ∀ t, job.taskIn s'.repo = some t → t.TimedOut →
    completions job trace = [] ∧ s'.repo.generations = s.repo.generations ∧
      s'.repo.files = s.repo.files ∧ s'.repo.topics = s.repo.topics ∧
      (s.Serving → ∀ o ∈ s'.bucket.objects, o ∈ s.bucket.objects)

/-- A job whose task times out completes nothing, and so writes none of its rows and keeps
none of its objects. -/
theorem JobRun.timedOut_clean {s s' : Studio} {trace : List (JobStage × Studio)}
    (h : JobRun job .claim s trace s') (hids : (s.repo.tasks.map (·.id)).Nodup)
    (hsuccess : (job.taskIn s'.repo).map (·.status) = some .success ↔ completions job trace ≠ [])
    {t : Task} (ht : job.taskIn s'.repo = some t) (hout : t.TimedOut) :
    completions job trace = [] ∧ s'.repo.generations = s.repo.generations ∧
      s'.repo.files = s.repo.files ∧ s'.repo.topics = s.repo.topics ∧
      (s.Serving → ∀ o ∈ s'.bucket.objects, o ∈ s.bucket.objects) := by
  have hnone : completions job trace = [] := by
    by_contra hsome
    have hs := hsuccess.2 hsome
    rw [ht, Option.map_some, hout.1] at hs
    cases hs
  have hrows := h.rowsRun hids
  have hcovers : covers trace = [] := by
    rw [h.covers_eq, hnone]
    rfl
  refine ⟨hnone, (hrows.rows hnone).1, (hrows.rows hnone).2, hrows.topics hcovers, fun hserving o ho => ?_⟩
  -- the job answers for no object at its end
  have hleft := h.leftovers hnone ⟨fun o ho => .inl ho, hserving, trivial⟩
  exact (hleft.objects o ho).resolve_right List.not_mem_nil

/-- A job runs to an end. A job that does not find its task pending stops at its claim and
changes nothing; one that finds it pending ends with the task terminal, successful exactly
when its generation was completed, and then with the topic's cover given, and failed
otherwise, with the error of where it failed or a timeout's. -/
theorem jobRun_outcome (job : Job) (s : Studio) (hids : (s.repo.tasks.map (·.id)).Nodup) :
    (∃ trace s', JobRun job .claim s trace s') ∧
      ∀ trace s', JobRun job .claim s trace s' →
        ((job.taskIn s.repo).any (·.status == .pending) = false → trace = [(.claim, s)] ∧ s' = s) ∧
        ((job.taskIn s.repo).any (·.status == .pending) = true → JobEnd job s trace s') := by
  refine ⟨jobRun_exists job .claim s, fun trace s' h => ⟨h.of_idle, fun hpending => ?_⟩⟩
  obtain ⟨t₀, ht₀, hp₀⟩ := (Option.any_eq_true _ _).1 hpending
  have hI : Tracked job .claim s := ⟨hids, t₀, ht₀, .inl (beq_iff_eq.1 hp₀)⟩
  have hsuccess : (job.taskIn s'.repo).map (·.status) = some .success ↔ completions job trace ≠ [] := by
    rw [h.success_iff hids, ht₀, Option.map_some, beq_iff_eq.1 hp₀]
    simp
  have hcovers : covers trace = (completions job trace).map (·.thumbnailKey) := h.covers_eq
  refine ⟨?_, fun p hp _ ht hterm => h.keeps_terminal_after hI hp ht hterm, h.completions_le.2, hsuccess, hcovers,
    fun f hf => ?_, fun t ht herr => ?_, fun p hp _ hat => h.failedAt_lands hI hp hat,
    fun t ht hout => h.timedOut_clean hids hsuccess ht hout⟩
  · obtain ⟨-, t, ht, hterm⟩ := (h.tracked hI).1
    exact ⟨t, ht, hterm⟩
  · rw [(h.rowsRun hids).cover, hcovers, hf]
    rfl
  · -- a pending task starts with no error, and the claim has none to record
    have hstart : ∀ t, job.taskIn s.repo = some t → t.status = .error →
        t.TimedOut ∨ ∃ err, False ∧ t.error = some err := by
      intro t ht herr
      rw [ht₀] at ht
      cases ht
      rw [beq_iff_eq.1 hp₀] at herr
      cases herr
    rcases h.error_origin hids (fun _ => False) hstart (fun _ hnone => by cases hnone) t ht herr with
      hout | ⟨err, hE | ⟨p, hp, hat⟩, he⟩
    · exact .inl hout
    · exact hE.elim
    · exact .inr ⟨p, hp, err, hat, he⟩

/-- A task waiting to be run. -/
def waitingTask : Task :=
  { id := ⟨1⟩, user := ⟨2⟩, status := .pending, createdAt := Studio.oneModel.repo.clock,
    updatedAt := Studio.oneModel.repo.clock }

theorem jobRun_outcome_waiting :
    ∃ (s : Studio) (job : Job), (s.repo.tasks.map (·.id)).Nodup ∧
      (job.taskIn s.repo).any (·.status == .pending) = true ∧
      (∃ trace s', JobRun job .claim s trace s') ∧
      ∀ trace s', JobRun job .claim s trace s' → JobEnd job s trace s' := by
  let s : Studio := { Studio.oneModel with repo := { Studio.oneModel.repo with tasks := [waitingTask] } }
  let job : Job := { (default : Job) with user := ⟨2⟩, task := ⟨1⟩ }
  have hids : (s.repo.tasks.map (·.id)).Nodup := by decide
  have hpending : (job.taskIn s.repo).any (·.status == .pending) = true := by decide
  obtain ⟨hrun, hend⟩ := jobRun_outcome job s hids
  exact ⟨s, job, hids, hpending, hrun, fun trace s' h => (hend trace s' h).2 hpending⟩

end Studio

end ImageStudio
