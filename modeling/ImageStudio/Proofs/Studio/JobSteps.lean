import ImageStudio.Proofs.Studio.Objects

/-!
# Proofs · Studio · JobSteps: what one step of a job does to the rows it reads

A job reads, and writes, few rows of the repository: its task, its generation with the
file it ends up with, and the cover of its topic. This module says what each step does
to them, once per kind of write, so that the properties of whole runs (`JobRuns`) follow
from these facts and never from the steps' code.

Four steps write the job's rows: the claim and the failure move the task
(`taskIn_transition`), the completion attaches the image and finishes the task
(`completion_cases`), the cover step gives the topic a cover if it has none
(`coverIn_setCoverIfEmpty`). Every other step leaves the rows as they are, but a put into
a slow store lets every task in flight time out first; with task identifiers named once
each, the job's own task is then the only one of its rows that changes, and only from in
flight to a timeout error (`Job.Swept`, `jobStep_swept`). A timeout sweep of the job's task
from outside does the same (`swept_failTimedOut`).

Beside the rows, a step moves the job on to its next stage. `JobStage.rank` falls at every
step, so a job ends; `JobStage.coverAhead` and `JobStage.failure?` say which cover and
which failure a stage has still to write, and `FailedAt` says, as a cause and the error a
task records for it, where a job fails.
-/

namespace ImageStudio

/-! ## The job's rows -/

namespace Job

/-- The job's task. -/
def taskIn (job : Job) (r : Repository) : Option Task := r.task? job.user job.task

/-- The cover of the job's topic, when the topic is there. -/
def coverIn (job : Job) (r : Repository) : Option (Option String) :=
  (r.topic? job.user job.topic).map (·.coverUrl)

/-- A topic's cover, when the topic is there, after it is given `key` if it had none. -/
def giveCover (cover : Option (Option String)) (key : String) : Option (Option String) :=
  cover.map (·.or (some key))

end Job

namespace Task

/-- A task that a timeout failed. -/
def TimedOut (t : Task) : Prop :=
  t.status = .error ∧ ∃ timeoutMs, t.error = some (Repository.timeoutError timeoutMs)

/-- What timeouts do to a task: nothing, or they fail it while it is in flight. -/
def TimesOut (t t' : Task) : Prop :=
  t' = t ∨ t.status.isTerminal = false ∧
    ∃ timeoutMs now, t' = t.finish .error (some (Repository.timeoutError timeoutMs)) now

theorem TimesOut.refl (t : Task) : t.TimesOut t := .inl rfl

/-- A task that timed out is terminal, so a later timeout leaves it alone. -/
theorem TimesOut.trans {t t' t'' : Task} (h : t.TimesOut t') (h' : t'.TimesOut t'') :
    t.TimesOut t'' := by
  rcases h with rfl | ⟨hflight, ms, now, rfl⟩
  · exact h'
  · rcases h' with rfl | ⟨hflight', -⟩
    · exact .inr ⟨hflight, ms, now, rfl⟩
    · cases hflight'

theorem TimesOut.timedOut {t t' : Task} (h : t.TimesOut t') : t' = t ∨ t'.TimedOut := by
  rcases h with rfl | ⟨-, ms, now, rfl⟩
  · exact .inl rfl
  · exact .inr ⟨rfl, ms, rfl⟩

/-- Timeouts leave a terminal task alone. -/
theorem TimesOut.eq_of_terminal {t t' : Task} (h : t.TimesOut t') (hterm : t.status.isTerminal = true) :
    t' = t := by
  rcases h with rfl | ⟨hflight, -⟩
  · rfl
  · rw [hterm] at hflight
    cases hflight

/-- Timeouts neither make a task successful nor end its success. -/
theorem TimesOut.success_iff {t t' : Task} (h : t.TimesOut t') :
    t'.status = .success ↔ t.status = .success := by
  rcases h with rfl | ⟨hflight, ms, now, rfl⟩
  · rfl
  · constructor
    · intro hs
      cases hs
    · intro hs
      rw [hs] at hflight
      cases hflight

/-- Timeouts of a task that may be missing neither make it successful nor end its success. -/
theorem success_iff_of_rel {o o' : Option Task} (h : Option.Rel TimesOut o o') :
    o'.map (·.status) = some .success ↔ o.map (·.status) = some .success := by
  cases h with
  | some hto =>
    simp only [Option.map_some, Option.some.injEq]
    exact hto.success_iff
  | none => rfl

end Task

/-- A timeout error is of the timeout kind. -/
@[simp] theorem Repository.timeoutError_kind (timeoutMs : Int) :
    (Repository.timeoutError timeoutMs).kind = .timeout := rfl

/-- Finishing the tasks of one identifier finishes the task a lookup finds, if it has that
identifier, and finds the same task. -/
theorem Repository.find?_finish (tasks : List Task) (id : Uuid) (status : TaskStatus)
    (error : Option TaskError) (now : Instant) (user task : Uuid) :
    (tasks.map fun t => if t.id == id then t.finish status error now else t).find?
        (fun t => t.id == task && t.user == user) =
      (tasks.find? fun t => t.id == task && t.user == user).map
        fun t => if t.id == id then t.finish status error now else t := by
  -- finishing keeps the identifier and the user a lookup compares
  have hsame : ((fun t : Task => t.id == task && t.user == user) ∘
      fun t => if t.id == id then t.finish status error now else t) =
      fun t => t.id == task && t.user == user := by
    funext t
    simp only [Function.comp, (finish_keeps id status error now t).1,
      (finish_keeps id status error now t).2]
  rw [List.find?_map, hsame]

/-- Where a job's rows are as they were: the task identifiers, the topics, the generations
and the files. The job's task itself is said apart. -/
structure Job.Framed (r r' : Repository) : Prop where
  ids : r'.tasks.map (·.id) = r.tasks.map (·.id)
  topics : r'.topics = r.topics
  generations : r'.generations = r.generations
  files : r'.files = r.files

theorem Job.Framed.refl (r : Repository) : Job.Framed r r := ⟨rfl, rfl, rfl, rfl⟩

theorem Job.Framed.trans {r r' r'' : Repository} (h : Job.Framed r r') (h' : Job.Framed r' r'') :
    Job.Framed r r'' :=
  ⟨h'.ids.trans h.ids, h'.topics.trans h.topics, h'.generations.trans h.generations,
    h'.files.trans h.files⟩

/-- The job's task is read off the tasks. -/
theorem Job.taskIn_of_tasks (job : Job) {r r' : Repository} (h : r'.tasks = r.tasks) :
    job.taskIn r' = job.taskIn r := by
  simp only [Job.taskIn, Repository.task?, h]

/-- The cover of the job's topic is read off the topics. -/
theorem Job.coverIn_of_topics (job : Job) {r r' : Repository} (h : r'.topics = r.topics) :
    job.coverIn r' = job.coverIn r := by
  simp only [Job.coverIn, Repository.topic?, h]

/-- `r'` is `r` after timeouts, as the job sees it: its task may have timed out, and its other
rows are as they were. -/
structure Job.Swept (job : Job) (r r' : Repository) : Prop where
  task : Option.Rel Task.TimesOut (job.taskIn r) (job.taskIn r')
  framed : Job.Framed r r'

namespace Job.Swept

variable {job : Job} {r r' r'' : Repository}

theorem refl (job : Job) (r : Repository) : job.Swept r r := by
  refine ⟨?_, .refl r⟩
  cases job.taskIn r with
  | none => exact .none
  | some t => exact .some (.refl t)

/-- Rows that only the clock or the source of identifiers changed. -/
theorem of_eq (htasks : r'.tasks = r.tasks) (hframed : Job.Framed r r') : job.Swept r r' :=
  ⟨job.taskIn_of_tasks htasks ▸ (refl job r).task, hframed⟩

theorem trans (h : job.Swept r r') (h' : job.Swept r' r'') : job.Swept r r'' := by
  refine ⟨?_, h.framed.trans h'.framed⟩
  have h₁ := h.task
  have h₂ := h'.task
  generalize job.taskIn r = a at h₁
  generalize job.taskIn r' = b at h₁ h₂
  generalize job.taskIn r'' = c at h₂
  cases h₁ with
  | none => exact h₂
  | some ht =>
    cases h₂ with
    | some ht' => exact .some (ht.trans ht')

/-- The job's task, when there, is still there after timeouts, timed out at most. -/
theorem task_some (h : job.Swept r r') {t : Task} (ht : job.taskIn r = some t) :
    ∃ t', job.taskIn r' = some t' ∧ t.TimesOut t' := by
  have hrel := h.task
  rw [ht] at hrel
  generalize job.taskIn r' = o' at hrel
  cases hrel with
  | some hto => exact ⟨_, rfl, hto⟩

/-- A task there after timeouts was there before them. -/
theorem task_of_some (h : job.Swept r r') {t' : Task} (ht' : job.taskIn r' = some t') :
    ∃ t, job.taskIn r = some t ∧ t.TimesOut t' := by
  have hrel := h.task
  rw [ht'] at hrel
  generalize job.taskIn r = o at hrel
  cases hrel with
  | some hto => exact ⟨_, rfl, hto⟩

end Job.Swept

/-! ## Timeouts -/

section Timeouts

variable {job : Job} {r : Repository}

/-- A timeout sweep that looks at one task, when identifiers name one task each: it can fail
the job's task only by looking at that very task. -/
theorem Job.swept_sweepOne (hids : (r.tasks.map (·.id)).Nodup) (user : Uuid) (now : Instant)
    (timeoutMs : Int) (id : Uuid) : job.Swept r (Repository.sweepOne user now timeoutMs r id) := by
  unfold Repository.sweepOne
  split
  · rename_i hstale
    rw [Repository.run_finishTask]
    refine ⟨?_, ⟨?_, rfl, rfl, rfl⟩⟩
    · unfold Job.taskIn Repository.task?
      dsimp only
      rw [Repository.find?_finish]
      change Option.Rel _ (r.task? job.user job.task) ((r.task? job.user job.task).map _)
      rcases hfind : r.task? job.user job.task with _ | t
      · exact .none
      · refine .some ?_
        by_cases hid : t.id = id
        · -- the stale task has the identifier of the job's task, so it is that task
          obtain ⟨t₀, hfind₀, hflight⟩ := Repository.staleAt_spec hstale
          have heq : t = t₀ := List.inj_on_of_nodup_map hids (Repository.task?_spec hfind).1
            (Repository.task?_spec hfind₀).1 (hid.trans (Repository.task?_spec hfind₀).2.1.symm)
          subst heq
          simp only [hid, beq_self_eq_true, if_true]
          exact .inr ⟨hflight, timeoutMs, _, rfl⟩
        · simp only [beq_iff_eq, hid, if_false]
          exact .refl t
    · rw [List.map_map]
      exact List.map_congr_left fun t _ => (Repository.finish_keeps _ _ _ _ t).1
  · exact .refl job r

theorem Job.swept_foldl (user : Uuid) (now : Instant) (timeoutMs : Int) :
    ∀ (ids : List Uuid) (r : Repository), (r.tasks.map (·.id)).Nodup →
      job.Swept r (ids.foldl (Repository.sweepOne user now timeoutMs) r)
  | [], r, _ => .refl job r
  | id :: rest, r, hids => by
    have hone : job.Swept r (Repository.sweepOne user now timeoutMs r id) :=
      Job.swept_sweepOne hids user now timeoutMs id
    exact hone.trans (Job.swept_foldl user now timeoutMs rest _ (hone.framed.ids ▸ hids))

/-- A timeout sweep of any user's tasks, when identifiers name one task each. -/
theorem Job.swept_failTimedOut (hids : (r.tasks.map (·.id)).Nodup) (user : Uuid) (ids : List Uuid)
    (timeoutMs : Int) : job.Swept r ((RepoCall.failTimedOut user ids timeoutMs).apply r) := by
  rw [RepoCall.apply_failTimedOut]
  have hclock : job.Swept r { r with clock := r.clock.addMillis 1 } := .of_eq rfl ⟨rfl, rfl, rfl, rfl⟩
  exact hclock.trans (Job.swept_foldl user _ timeoutMs ids { r with clock := r.clock.addMillis 1 } hids)

/-- A call of a timeout sweep. -/
def RepoCall.IsSweep (c : RepoCall) : Prop := ∃ user ids timeoutMs, c = .failTimedOut user ids timeoutMs

/-- A run of timeout sweeps, clock readings and draws, when identifiers name one task each. -/
theorem Job.Swept.of_runs {r' : Repository} (h : Repository.Runs RepoCall.IsSweep r r')
    (hids : (r.tasks.map (·.id)).Nodup) : job.Swept r r' := by
  induction h with
  | refl r => exact .refl job r
  | @call r r' c hc _ ih =>
    obtain ⟨user, ids, timeoutMs, rfl⟩ := hc
    have hone : job.Swept r ((RepoCall.failTimedOut user ids timeoutMs).apply r) :=
      Job.swept_failTimedOut hids user ids timeoutMs
    exact hone.trans (ih (hone.framed.ids ▸ hids))
  | @tick r r' t _ ih =>
    have hclock : job.Swept r { r with clock := t } := .of_eq rfl ⟨rfl, rfl, rfl, rfl⟩
    exact hclock.trans (ih hids)
  | @draw r r' _ ih =>
    have hdraw : job.Swept r { r with entropy := r.entropy.skip 1 } := .of_eq rfl ⟨rfl, rfl, rfl, rfl⟩
    exact hdraw.trans (ih hids)

end Timeouts

/-! ## The job's writes -/

section Writes

variable (job : Job) (r : Repository)

/-- A transition moves every task of the identifier when the user's task of it is in an
allowed state, and writes nothing otherwise. -/
theorem RepoCall.apply_transition (user id : Uuid) (allowed : List TaskStatus)
    (target : TaskStatus) (error : Option TaskError) :
    (RepoCall.transition user id allowed target error).apply r =
      if (r.task? user id).any (fun t => allowed.contains t.status) then
        { r with clock := r.clock.addMillis 1,
                 tasks := r.tasks.map fun u =>
                   if u.id == id then u.finish target error (r.clock.addMillis 1) else u }
      else r := by
  have hrun := Repository.run_transition user id allowed target error r
  rcases hfind : r.task? user id with _ | t
  · rw [hfind] at hrun
    rw [RepoCall.apply, Repository.settle_of_ok hrun]
    rfl
  · rw [hfind] at hrun
    dsimp only at hrun
    by_cases ha : allowed.contains t.status = true
    · rw [if_pos ha] at hrun
      rw [RepoCall.apply, Repository.settle_of_ok hrun, Option.any_some, if_pos ha]
    · rw [if_neg ha] at hrun
      rw [RepoCall.apply, Repository.settle_of_ok hrun, Option.any_some, if_neg ha]

/-- A transition writes no row the job reads but tasks, and keeps their identifiers. -/
theorem Job.framed_transition (user id : Uuid) (allowed : List TaskStatus) (target : TaskStatus)
    (error : Option TaskError) :
    Job.Framed r ((RepoCall.transition user id allowed target error).apply r) := by
  rw [RepoCall.apply_transition]
  split
  · refine ⟨?_, rfl, rfl, rfl⟩
    rw [List.map_map]
    exact List.map_congr_left fun t _ => (Repository.finish_keeps _ _ _ _ t).1
  · exact .refl r

/-- A transition of the job's task moves it when its state is allowed. -/
theorem Job.taskIn_transition (allowed : List TaskStatus) (target : TaskStatus)
    (error : Option TaskError) :
    job.taskIn ((RepoCall.transition job.user job.task allowed target error).apply r) =
      (job.taskIn r).map fun t =>
        if allowed.contains t.status then t.finish target error (r.clock.addMillis 1) else t := by
  rw [RepoCall.apply_transition]
  unfold Job.taskIn
  rcases hfind : r.task? job.user job.task with _ | t
  · simp only [Option.any_none, Bool.false_eq_true, if_false, hfind, Option.map_none]
  · have hid : t.id = job.task := (Repository.task?_spec hfind).2.1
    by_cases ha : allowed.contains t.status = true
    · simp only [Option.any_some, ha, if_true, Option.map_some]
      unfold Repository.task?
      rw [Repository.find?_finish]
      change (r.task? job.user job.task).map _ = _
      simp only [hfind, Option.map_some, hid, beq_self_eq_true, if_true]
    · simp only [Option.any_some, ha, Bool.false_eq_true, if_false, hfind, Option.map_some]

/-- Completing the job's generation, as one call of the repository. -/
def Job.completion (job : Job) (asset : Asset) (file : NewFile) (r : Repository) :
    Except PortError (Option FileRecord) × Repository :=
  Repository.settle (Repository.completeGeneration job.user job.generation job.task asset file) r

/-- What completing the job's generation does. It finds the task processing and the
generation there, and then stores a file or finds one, attaches it and finishes the task
successfully; or it finds the task no longer processing and writes nothing; or it fails,
when the generation is gone, and writes no row. -/
theorem Job.completion_cases (asset : Asset) (file : NewFile) :
    (∃ f t now, (job.completion asset file r).1 = .ok (some f) ∧ job.taskIn r = some t ∧
      t.status = .processing ∧
      job.taskIn (job.completion asset file r).2 = some (t.finish .success none now) ∧
      (job.completion asset file r).2.tasks.map (·.id) = r.tasks.map (·.id) ∧
      (job.completion asset file r).2.topics = r.topics) ∨
    ((job.completion asset file r).1 = .ok none ∧
      (job.taskIn r).any (·.status == .processing) = false ∧ (job.completion asset file r).2 = r) ∨
    (∃ e, (job.completion asset file r).1 = .error e ∧ Job.Framed r (job.completion asset file r).2 ∧
      (job.completion asset file r).2.tasks = r.tasks) := by
  unfold Job.completion
  by_cases hp : (r.task? job.user job.task).any (·.status == .processing) = true
  · rcases hfind : r.task? job.user job.task with _ | t
    · rw [hfind] at hp
      cases hp
    have hproc : t.status = .processing := by
      rw [hfind, Option.any_some] at hp
      exact beq_iff_eq.1 hp
    have hid : t.id = job.task := (Repository.task?_spec hfind).2.1
    by_cases hg : (r.generation? job.user job.generation).isSome = true
    · -- the generation is there: the file is found or stored, and the task finishes
      obtain ⟨record, clock, entropy, files, hf⟩ := Repository.fileFor_ok job.user file r
      rw [Repository.settle_of_ok (Repository.run_completeGeneration hp hg hf)]
      refine .inl ⟨record, t, clock.addMillis 1, rfl, hfind, hproc, ?_, ?_, rfl⟩
      · unfold Job.taskIn Repository.task?
        dsimp only
        rw [Repository.find?_finish]
        change (r.task? job.user job.task).map _ = _
        simp only [hfind, Option.map_some, hid, beq_self_eq_true, if_true]
      · dsimp only
        rw [List.map_map]
        exact List.map_congr_left fun t _ => (Repository.finish_keeps _ _ _ _ t).1
    · -- the generation is gone: the completion fails and keeps nothing
      rw [Repository.settle_of_error (Repository.run_completeGeneration_of_missing hp
        (Option.not_isSome_iff_eq_none.1 hg))]
      exact .inr (.inr ⟨_, rfl, .refl r, rfl⟩)
  · rw [Bool.not_eq_true] at hp
    rw [Repository.settle_of_ok (Repository.run_completeGeneration_of_idle hp)]
    exact .inr (.inl ⟨rfl, hp, rfl⟩)

/-- Putting a topic in place of the one a lookup finds makes the lookup find the new one. -/
theorem Repository.find?_putTopic {user id : Uuid} {t t' : Topic} (hid : t'.id = t.id)
    (huser : t'.user = t.user) :
    ∀ {topics : List Topic}, topics.find? (fun u => u.id == id && u.user == user) = some t →
      (topics.map fun u => if u.id == t.id then t' else u).find?
        (fun u => u.id == id && u.user == user) = some t'
  | [], h => by cases h
  | u :: rest, h => by
    let p : Topic → Bool := fun u => u.id == id && u.user == user
    have ht : p t' = true := by
      have hpt : p t = true := List.find?_some h
      simpa only [p, hid, huser] using hpt
    rw [List.map_cons]
    by_cases hu : p u = true
    · -- the lookup stopped at `u`, which is `t`
      rw [List.find?_cons_of_pos (p := p) hu] at h
      obtain rfl := Option.some.inj h
      rw [if_pos (beq_self_eq_true _), List.find?_cons_of_pos (p := p) ht]
    · rw [List.find?_cons_of_neg (p := p) hu] at h
      split
      · exact List.find?_cons_of_pos (p := p) ht
      · rw [List.find?_cons_of_neg (p := p) hu]
        exact Repository.find?_putTopic hid huser h

/-- The cover step writes topics only. -/
theorem Job.setCoverIfEmpty_rows (key : String) :
    ((RepoCall.setCoverIfEmpty job.user job.topic key).apply r).tasks = r.tasks ∧
      ((RepoCall.setCoverIfEmpty job.user job.topic key).apply r).generations = r.generations ∧
      ((RepoCall.setCoverIfEmpty job.user job.topic key).apply r).files = r.files := by
  have hrun := Repository.run_setCoverIfEmpty job.user job.topic key r
  rw [RepoCall.apply]
  split at hrun
  · split at hrun
    · rw [Repository.settle_of_ok hrun]
      exact ⟨rfl, rfl, rfl⟩
    · rw [Repository.settle_of_ok hrun]
      exact ⟨rfl, rfl, rfl⟩
  · rw [Repository.settle_of_ok hrun]
    exact ⟨rfl, rfl, rfl⟩

/-- The cover step gives the topic the key as its cover if it has none, and keeps a cover it
has. -/
theorem Job.coverIn_setCoverIfEmpty (key : String) :
    job.coverIn ((RepoCall.setCoverIfEmpty job.user job.topic key).apply r) =
      Job.giveCover (job.coverIn r) key := by
  have hrun := Repository.run_setCoverIfEmpty job.user job.topic key r
  unfold Job.coverIn
  rw [RepoCall.apply]
  rcases hfind : r.topic? job.user job.topic with _ | t
  · rw [hfind] at hrun
    rw [Repository.settle_of_ok hrun, hfind]
    rfl
  · rw [hfind] at hrun
    dsimp only at hrun
    obtain ⟨-, hid, huser⟩ := Repository.topic?_spec hfind
    rcases hcover : t.coverUrl with _ | c
    · rw [hcover, Option.isNone_none, if_pos rfl] at hrun
      rw [Repository.settle_of_ok hrun]
      have hput : (r.topics.map fun u => if u.id == t.id then
            { t with coverUrl := some key, updatedAt := r.clock.addMillis 1 } else u).find?
          (fun u => u.id == job.topic && u.user == job.user) =
          some { t with coverUrl := some key, updatedAt := r.clock.addMillis 1 } :=
        @Repository.find?_putTopic job.user job.topic t
          { t with coverUrl := some key, updatedAt := r.clock.addMillis 1 } rfl rfl r.topics hfind
      unfold Repository.topic?
      dsimp only
      rw [hput]
      simp only [Job.giveCover, Option.map_some, hcover, Option.none_or]
    · rw [if_neg (by rw [hcover]; exact Bool.false_ne_true)] at hrun
      rw [Repository.settle_of_ok hrun, hfind]
      simp only [Job.giveCover, Option.map_some, hcover, Option.some_or]

end Writes

/-! ## Stages

A job goes from stage to stage along the graph `JobStage.Leads`; its step function never
leaves it (`jobStep_leads`). What the properties of runs need of a stage is read off the
graph: the rank falls along every edge, and the stages that write no row keep what the
task is at them. -/

namespace JobStage

/-- At most how many steps a job at this stage still takes. -/
def rank : JobStage → Nat
  | .claim => 10
  | .call => 9
  | .loaded .. => 8
  | .upload .. => 7
  | .putThumb .. => 6
  | .complete .. => 5
  | .discard keys next => keys.length + 1 + next.rank
  | .fail _ | .cover _ => 1
  | .done => 0

/-- The cover a job at this stage has still to give its topic. -/
def coverAhead : JobStage → List String
  | .cover key => [key]
  | .discard _ next => next.coverAhead
  | _ => []

/-- The cover that the step at this stage gives the topic. -/
def coverKey? : JobStage → Option String
  | .cover key => some key
  | _ => none

/-- The error a job at this stage has still to record on its task. -/
def failure? : JobStage → Option TaskError
  | .fail e => some e.toTaskError
  | .discard _ next => next.failure?
  | _ => none

/-- Whether the step at this stage writes the job's rows. -/
def writesRows : JobStage → Bool
  | .claim | .complete .. | .fail _ | .cover _ => true
  | _ => false

/-- What the job's task is at each stage of a run that found it pending: pending until the
claim, then processing while the job works, successful when the job waits to give the cover,
terminal once the job is over. A timeout may fail it at any time before it ends. -/
def TaskAt : JobStage → Task → Prop
  | .claim, t => t.status = .pending ∨ t.TimedOut
  | .cover _, t => t.status = .success
  | .done, t => t.status.isTerminal = true
  | .discard _ next, t => next.TaskAt t
  | _, t => t.status = .processing ∨ t.TimedOut

/-- Where a step can take a job. -/
inductive Leads : JobStage → JobStage → Prop where
  | claimed : Leads .claim .call
  | unclaimed : Leads .claim .done
  | callFails (e : JobError) : Leads .call (.fail e)
  | called (image : ProviderImage) (source : SourceImage) : Leads .call (.loaded image source)
  | processFails (image : ProviderImage) (source : SourceImage) (e : JobError) :
      Leads (.loaded image source) (.fail e)
  | reused (image : ProviderImage) (source : SourceImage) (p : Processed) (imageKey thumbKey : String) :
      Leads (.loaded image source) (.complete image p imageKey thumbKey none)
  | fresh (image : ProviderImage) (source : SourceImage) (p : Processed) :
      Leads (.loaded image source) (.upload image p)
  | putOnce (image : ProviderImage) (p : Processed) (keys : UploadedKeys) (raw : Except PortError Unit) :
      Leads (.upload image p) (afterUpload image p keys raw)
  | putRaw (image : ProviderImage) (p : Processed) (keys : UploadedKeys) (width height : Nat)
      (raw : Except PortError Unit) : Leads (.upload image p) (.putThumb image p keys width height raw)
  | putThumb (image : ProviderImage) (p : Processed) (keys : UploadedKeys) (width height : Nat)
      (raw both : Except PortError Unit) :
      Leads (.putThumb image p keys width height raw) (afterUpload image p keys both)
  | completed (image : ProviderImage) (p : Processed) (imageKey thumbKey : String)
      (uploaded : Option UploadedKeys) (c : Except PortError (Option FileRecord)) :
      Leads (.complete image p imageKey thumbKey uploaded) (afterComplete c)
  | unkept (image : ProviderImage) (p : Processed) (imageKey thumbKey : String) (keys : UploadedKeys)
      (c : Except PortError (Option FileRecord)) :
      Leads (.complete image p imageKey thumbKey (some keys)) (.discard keys.keys (afterComplete c))
  | discarded (next : JobStage) : Leads (.discard [] next) next
  | discardOne (key : String) (keys : List String) (next : JobStage) :
      Leads (.discard (key :: keys) next) (.discard keys next)
  | failed (e : JobError) : Leads (.fail e) .done
  | covered (key : String) : Leads (.cover key) .done
  | ended : Leads .done .done

theorem rank_afterUpload (image : ProviderImage) (p : Processed) (keys : UploadedKeys)
    (raw : Except PortError Unit) : (afterUpload image p keys raw).rank ≤ 5 := by
  cases raw <;> simp [afterUpload, rank]

theorem rank_afterComplete (c : Except PortError (Option FileRecord)) : (afterComplete c).rank ≤ 1 := by
  rcases c with _ | _ | _ <;> simp [afterComplete, rank]

theorem length_keys_le (keys : UploadedKeys) : keys.keys.length ≤ 2 := by
  unfold UploadedKeys.keys
  split <;> simp

/-- Every step brings a job that is not over closer to its end. -/
theorem Leads.rank_lt {a b : JobStage} (h : a.Leads b) (ha : a ≠ .done) : b.rank < a.rank := by
  cases h with
  | ended => exact absurd rfl ha
  | putOnce image p keys raw =>
    have := rank_afterUpload image p keys raw
    simp only [rank]
    omega
  | putThumb image p keys width height raw both =>
    have := rank_afterUpload image p keys both
    simp only [rank]
    omega
  | completed image p imageKey thumbKey uploaded c =>
    have := rank_afterComplete c
    simp only [rank]
    omega
  | unkept image p imageKey thumbKey keys c =>
    -- at most two keys to delete before a last stage
    have := rank_afterComplete c
    have := length_keys_le keys
    simp only [rank]
    omega
  | discarded next => simp [rank]
  | discardOne key keys next =>
    simp only [rank, List.length_cons]
    omega
  | _ => simp [rank]

/-- A step that writes no row leaves a job where its task is what it was. -/
theorem Leads.taskAt_eq {a b : JobStage} (h : a.Leads b) (hquiet : a.writesRows = false) :
    b.TaskAt = a.TaskAt := by
  cases h with
  | putOnce image p keys raw => cases raw <;> rfl
  | putThumb image p keys width height raw both => cases both <;> rfl
  | claimed | unclaimed | completed | unkept | failed | covered => cases hquiet
  | _ => rfl

/-- A job that has an error still to record records it at its next step, or still has it to
record after. -/
theorem Leads.failure?_of_some {a b : JobStage} (h : a.Leads b) {err : TaskError}
    (hfail : a.failure? = some err) :
    (∃ e, a = .fail e ∧ e.toTaskError = err) ∨ b.failure? = some err := by
  cases h with
  | failed e => exact .inl ⟨e, rfl, Option.some.inj hfail⟩
  | discarded next => exact .inr hfail
  | discardOne key keys next => exact .inr hfail
  | _ => cases hfail

@[simp] theorem coverAhead_afterUpload (image : ProviderImage) (p : Processed) (keys : UploadedKeys)
    (raw : Except PortError Unit) : (afterUpload image p keys raw).coverAhead = [] := by
  cases raw <;> rfl

theorem coverAhead_afterComplete (c : Except PortError (Option FileRecord)) :
    (afterComplete c).coverAhead = (c.toOption.join.map (·.thumbnailKey)).toList := by
  rcases c with _ | _ | f <;> rfl

theorem failure?_afterUpload (image : ProviderImage) (p : Processed) (keys : UploadedKeys)
    (raw : Except PortError Unit) {err : TaskError} :
    (afterUpload image p keys raw).failure? = some err ↔
      ∃ e, raw = .error e ∧ err = { kind := .storage, message := e.message } := by
  cases raw with
  | ok => simp [afterUpload, failure?]
  | error e =>
    simp only [afterUpload, failure?, Option.some.injEq, Except.error.injEq, exists_eq_left']
    exact eq_comm

theorem failure?_afterComplete (c : Except PortError (Option FileRecord)) {err : TaskError} :
    (afterComplete c).failure? = some err ↔
      ∃ e, c = .error e ∧ err = { kind := .storage, message := e.message } := by
  rcases c with e | _ | f
  · simp only [afterComplete, failure?, Option.some.injEq, Except.error.injEq, exists_eq_left']
    exact eq_comm
  · simp [afterComplete, failure?]
  · simp [afterComplete, failure?]

/-- Timeouts keep what the task is at every stage. -/
theorem TaskAt.timesOut : ∀ {stage : JobStage} {t t' : Task}, stage.TaskAt t → t.TimesOut t' →
    stage.TaskAt t'
  | .cover _, t, _, ht, hto => by
    have hs : t.status = .success := ht
    rw [hto.eq_of_terminal (by rw [hs]; rfl)]
    exact ht
  | .done, _, _, ht, hto => hto.eq_of_terminal ht ▸ ht
  | .discard _ next, _, _, ht, hto => @TaskAt.timesOut next _ _ ht hto
  | .claim, _, _, ht, hto => by
    rcases hto.timedOut with rfl | hout
    · exact ht
    · exact .inr hout
  | .call, _, _, ht, hto | .loaded .., _, _, ht, hto | .upload .., _, _, ht, hto
  | .putThumb .., _, _, ht, hto | .complete .., _, _, ht, hto | .fail _, _, _, ht, hto => by
    rcases hto.timedOut with rfl | hout
    · exact ht
    · exact .inr hout

end JobStage

/-! ## The step function

`jobStep` stays on the graph of stages (`jobStep_leads`). Of its writes, the claim, the
failure and the cover are single calls (`jobStep_claim_run`, `jobStep_fail_run`,
`jobStep_cover_run`), the completion is one call whose answer picks the next stage, and
every other step is a run of timeout sweeps, clock readings and draws
(`jobStep_quiet_through`). -/

namespace Studio

variable (job : Job)

/-- The file that the step at this stage completes the job's generation with, if it does. -/
def completed? (job : Job) : JobStage → Studio → Option FileRecord
  | .complete image p imageKey thumbKey _, s =>
    (job.completion (jobAsset image p imageKey thumbKey) (jobFile p imageKey thumbKey) s.repo).1.toOption.join
  | _, _ => none

theorem jobStep_leads (stage : JobStage) (s : Studio) : stage.Leads ((jobStep job stage).run s).1 := by
  cases stage with
  | claim =>
    rcases jobStep_claim job s with h | h <;> rw [h]
    · exact .claimed
    · exact .unclaimed
  | call =>
    simp only [jobStep, Studio.run_get_bind]
    split
    · exact .callFails _
    · simp only [Studio.run_bind, Studio.run_modify]
      split
      · exact .callFails _
      · split
        · exact .callFails _
        · split
          · exact .callFails _
          · exact .called _ _
  | loaded image source =>
    simp only [jobStep]
    split
    · exact .processFails _ _ _
    · simp only [Studio.run_get_bind]
      split
      · exact .reused _ _ _ _ _
      · exact .fresh _ _ _
  | upload image p =>
    simp only [jobStep, Studio.run_bind]
    split
    · exact .putOnce _ _ _ _
    · exact .putRaw _ _ _ _ _ _
  | putThumb image p keys width height raw => exact .putThumb _ _ _ _ _ _ _
  | complete image p imageKey thumbKey uploaded =>
    simp only [jobStep, Studio.run_bind, Studio.runRepo_run]
    split
    · exact .completed _ _ _ _ _ _
    · -- the upload is kept, or deleted before going on
      show JobStage.Leads _ (if _ = true then _ else _)
      split_ifs with hkept
      · simp only [hkept, ↓reduceIte]
        exact .completed _ _ _ _ _ _
      · simp only [hkept, Bool.false_eq_true, ↓reduceIte]
        exact .unkept _ _ _ _ _ _
  | discard keys next =>
    cases keys with
    | nil => exact .discarded next
    | cons key keys => exact .discardOne key keys next
  | fail e => exact .failed e
  | cover key => exact .covered key
  | done => exact .ended

/-- The claim moves the task to processing when it is pending, and goes on to the provider
exactly then. -/
theorem jobStep_claim_run (s : Studio) :
    (jobStep job .claim).run s =
      (if (job.taskIn s.repo).any (·.status == .pending) then .call else .done,
        { s with repo := (RepoCall.transition job.user job.task [.pending] .processing none).apply s.repo }) := by
  have hrun := Repository.run_transition job.user job.task [.pending] .processing none s.repo
  simp only [jobStep, Studio.run_bind, Studio.tryRepo_run, Studio.run_pure]
  refine Prod.ext ?_ rfl
  dsimp only
  unfold Job.taskIn
  rcases hfind : s.repo.task? job.user job.task with _ | t
  · rw [hfind] at hrun
    simp [Repository.settle_of_ok hrun, Except.toOption]
  · rw [hfind] at hrun
    dsimp only at hrun
    by_cases hp : t.status = .pending
    · rw [if_pos (by simp [hp])] at hrun
      simp [Repository.settle_of_ok hrun, Except.toOption, hp]
    · rw [if_neg (by simpa using hp)] at hrun
      simp [Repository.settle_of_ok hrun, Except.toOption, hp]

/-- A claim that does not find the task pending writes nothing and ends the job. -/
theorem jobStep_claim_idle (s : Studio) (hidle : (job.taskIn s.repo).any (·.status == .pending) = false) :
    (jobStep job .claim).run s = (.done, s) := by
  have hany : (s.repo.task? job.user job.task).any (fun t => [TaskStatus.pending].contains t.status) =
      (job.taskIn s.repo).any (·.status == .pending) := by
    simp only [Job.taskIn, List.contains_cons, List.contains_nil, Bool.or_false]
  rw [jobStep_claim_run, RepoCall.apply_transition, hany, hidle]
  rfl

theorem jobStep_fail_run (e : JobError) (s : Studio) :
    (jobStep job (.fail e)).run s =
      (.done, { s with repo := (RepoCall.transition job.user job.task [.pending, .processing] .error
        (some e.toTaskError)).apply s.repo }) := rfl

theorem jobStep_cover_run (key : String) (s : Studio) :
    (jobStep job (.cover key)).run s =
      (.done, { s with repo := (RepoCall.setCoverIfEmpty job.user job.topic key).apply s.repo }) := rfl

section Complete

variable (image : ProviderImage) (p : Processed) (imageKey thumbKey : String)
  (uploaded : Option UploadedKeys) (s : Studio)

theorem jobStep_complete_state :
    ((jobStep job (.complete image p imageKey thumbKey uploaded)).run s).2 =
      { s with repo := (job.completion (jobAsset image p imageKey thumbKey)
        (jobFile p imageKey thumbKey) s.repo).2 } := by
  simp only [jobStep, Studio.run_bind, Studio.runRepo_run]
  split <;> rfl

/-- After the completion the job goes on as its answer says, after deleting its upload when
no record kept it. -/
theorem jobStep_complete_next :
    ((jobStep job (.complete image p imageKey thumbKey uploaded)).run s).1 =
        JobStage.afterComplete (job.completion (jobAsset image p imageKey thumbKey)
          (jobFile p imageKey thumbKey) s.repo).1 ∨
      ∃ keys, ((jobStep job (.complete image p imageKey thumbKey uploaded)).run s).1 =
        .discard keys (JobStage.afterComplete (job.completion (jobAsset image p imageKey thumbKey)
          (jobFile p imageKey thumbKey) s.repo).1) := by
  simp only [jobStep, Studio.run_bind, Studio.runRepo_run]
  split
  · exact .inl rfl
  · show (if _ = true then _ else _) = _ ∨ ∃ keys, (if _ = true then _ else _) = _
    split_ifs with hkept
    · simp only [hkept, ↓reduceIte]
      exact .inl rfl
    · simp only [hkept, Bool.false_eq_true, ↓reduceIte]
      exact .inr ⟨_, rfl⟩

/-- An upload that no completed record names is deleted. -/
theorem jobStep_complete_unkept {keys : UploadedKeys} (hup : uploaded = some keys)
    (hc : completed? job (.complete image p imageKey thumbKey uploaded) s = none) :
    ((jobStep job (.complete image p imageKey thumbKey uploaded)).run s).1 =
      .discard keys.keys (JobStage.afterComplete (job.completion (jobAsset image p imageKey thumbKey)
        (jobFile p imageKey thumbKey) s.repo).1) := by
  subst hup
  simp only [completed?, Job.completion] at hc
  simp only [jobStep, Studio.run_bind, Studio.runRepo_run]
  show (if _ = true then _ else _) = _
  split_ifs with hkept
  · -- a kept upload needs a completion that stored a file
    exfalso
    generalize (Repository.settle (Repository.completeGeneration job.user job.generation job.task
      (jobAsset image p imageKey thumbKey) (jobFile p imageKey thumbKey)) s.repo).1 = c at hkept hc
    rcases c with _ | _ | f <;> simp [Except.toOption] at hkept hc
  · simp only [hkept, Bool.false_eq_true, ↓reduceIte]
    rfl

end Complete

/-- A step that writes no row of the job's makes no call but timeout sweeps of tasks in
flight. -/
theorem jobStep_quiet_through {P : RepoCall → Prop} (hsweep : ∀ user id, P (.failTimedOut user [id] 0))
    {stage : JobStage} (hquiet : stage.writesRows = false) : Through P (jobStep job stage) := by
  cases stage with
  | claim | complete | fail | cover => cases hquiet
  | call =>
    refine .of_repo fun s => ?_
    simp only [jobStep, Studio.run_get_bind]
    split
    · rfl
    · simp only [Studio.run_bind, Studio.run_modify]
      split
      · rfl
      · split
        · rfl
        · split <;> rfl
  | loaded image source =>
    refine .of_repo fun s => ?_
    simp only [jobStep]
    split
    · rfl
    · simp only [Studio.run_get_bind]
      split <;> rfl
  | upload image p =>
    refine .bind (.of_calls (uploadKeys_calls p)) fun keys => ?_
    refine .bind (putObject_through hsweep _ _ _) fun raw => ?_
    split
    · exact .of_calls (Calls.pure _)
    · exact .of_calls (Calls.pure _)
  | putThumb image p keys width height raw =>
    exact .bind (putObject_through hsweep _ _ _) fun _ => .of_calls (Calls.pure _)
  | discard keys next =>
    cases keys with
    | nil => exact .of_calls (Calls.pure _)
    | cons key keys =>
      exact .bind (.of_repo (deleteObject_repo key)) fun _ => .of_calls (Calls.pure _)
  | done => exact .of_calls (Calls.pure _)

/-- A step that writes no row of the job's changes them only by timeouts, when identifiers
name one task each. -/
theorem jobStep_swept {s : Studio} (hids : (s.repo.tasks.map (·.id)).Nodup) {stage : JobStage}
    (hquiet : stage.writesRows = false) : job.Swept s.repo ((jobStep job stage).run s).2.repo :=
  Job.Swept.of_runs (jobStep_quiet_through job (P := RepoCall.IsSweep)
    (fun user id => ⟨user, [id], 0, rfl⟩) hquiet s) hids

theorem completed?_of_writesRows {stage : JobStage} (h : stage.writesRows = false) (s : Studio) :
    completed? job stage s = none := by
  cases stage with
  | complete => cases h
  | _ => rfl

/-! ## What a step does to the job's rows -/

/-- How the step at `stage` from `s` changes the job's task: by timeouts at most, or by the
job's own write, which the claim, the failure and the completion make. -/
inductive TaskStep (job : Job) (stage : JobStage) (s : Studio) : Option Task → Option Task → Prop where
  | times {o o' : Option Task} (h : Option.Rel Task.TimesOut o o') (hc : completed? job stage s = none) :
      TaskStep job stage s o o'
  | claim {t : Task} (hstage : stage = .claim) (hp : t.status = .pending) (now : Instant) :
      TaskStep job stage s (some t) (some (t.finish .processing none now))
  | fail {t : Task} {e : JobError} (hstage : stage = .fail e) (hflight : t.status.isTerminal = false)
      (now : Instant) : TaskStep job stage s (some t) (some (t.finish .error (some e.toTaskError) now))
  | complete {t : Task} {f : FileRecord} (hc : completed? job stage s = some f)
      (hp : t.status = .processing) (now : Instant) :
      TaskStep job stage s (some t) (some (t.finish .success none now))

/-- What each step does to the job's task, when identifiers name one task each. -/
theorem taskStep_jobStep {s : Studio} (hids : (s.repo.tasks.map (·.id)).Nodup) (stage : JobStage) :
    TaskStep job stage s (job.taskIn s.repo) (job.taskIn ((jobStep job stage).run s).2.repo) := by
  cases hquiet : stage.writesRows
  · exact .times (jobStep_swept job hids hquiet).task (completed?_of_writesRows job hquiet s)
  cases stage with
  | claim =>
    rw [jobStep_claim_run, Job.taskIn_transition]
    rcases job.taskIn s.repo with _ | t
    · exact .times .none rfl
    · by_cases hp : t.status = .pending
      · rw [Option.map_some, if_pos (by simp [hp])]
        exact .claim rfl hp _
      · rw [Option.map_some, if_neg (by simpa using hp)]
        exact .times (.some (.refl t)) rfl
  | fail e =>
    rw [jobStep_fail_run, Job.taskIn_transition]
    rcases job.taskIn s.repo with _ | t
    · exact .times .none rfl
    · by_cases hflight : [TaskStatus.pending, .processing].contains t.status = true
      · rw [Option.map_some, if_pos hflight]
        -- the states a failure may leave are the ones in flight
        refine .fail rfl ?_ _
        revert hflight
        cases t.status <;> decide
      · rw [Option.map_some, if_neg hflight]
        exact .times (.some (.refl t)) rfl
  | cover key =>
    rw [jobStep_cover_run]
    dsimp only
    rw [job.taskIn_of_tasks (Job.setCoverIfEmpty_rows job s.repo key).1]
    exact .times (Job.Swept.refl job s.repo).task rfl
  | complete image p imageKey thumbKey uploaded =>
    rw [jobStep_complete_state]
    dsimp only
    rcases Job.completion_cases job s.repo (jobAsset image p imageKey thumbKey)
        (jobFile p imageKey thumbKey) with
      ⟨f, t, now, hc, ht, hp, ht', -, -⟩ | ⟨hc, -, hr⟩ | ⟨e, hc, -, htasks⟩
    · rw [ht, ht']
      exact .complete (f := f) (by simp [completed?, hc, Except.toOption]) hp now
    · rw [hr]
      exact .times (Job.Swept.refl job s.repo).task (by simp [completed?, hc, Except.toOption])
    · rw [job.taskIn_of_tasks htasks]
      exact .times (Job.Swept.refl job s.repo).task (by simp [completed?, hc, Except.toOption])
  | _ => cases hquiet

namespace TaskStep

variable {job : Job} {stage : JobStage} {s : Studio} {o o' : Option Task}

/-- A step leaves a terminal task as it is. -/
theorem keeps_terminal (h : TaskStep job stage s o o') {t : Task} (ht : o = some t)
    (hterm : t.status.isTerminal = true) : o' = some t := by
  subst ht
  cases h with
  | times hrel =>
    rcases hrel with ⟨hto⟩
    rw [hto.eq_of_terminal hterm]
  | claim _ hp => simp [hp, TaskStatus.isTerminal] at hterm
  | fail _ hflight => simp [hflight] at hterm
  | complete _ hp => simp [hp, TaskStatus.isTerminal] at hterm

/-- A step makes the task successful exactly when it completes the generation. -/
theorem success_iff (h : TaskStep job stage s o o') :
    o'.map (·.status) = some .success ↔
      o.map (·.status) = some .success ∨ (completed? job stage s).isSome := by
  cases h with
  | times hrel hc =>
    rw [hc, Option.isSome_none, Bool.false_eq_true, or_false]
    exact Task.success_iff_of_rel hrel
  | @claim t hstage hp now =>
    subst hstage
    simp [Task.finish, hp, completed?]
  | @fail t e hstage hflight now =>
    subst hstage
    have hne : t.status ≠ .success := fun hs => by simp [hs, TaskStatus.isTerminal] at hflight
    simp [Task.finish, hne, completed?]
  | complete hc hp now => simp [Task.finish, hc]

/-- An error a step leaves on the task was there, or is a timeout's, or is the one the
failure records. -/
theorem error_origin (h : TaskStep job stage s o o') {t' : Task} (ht' : o' = some t')
    (herr : t'.status = .error) :
    o = some t' ∨ t'.TimedOut ∨ ∃ e, stage = .fail e ∧ t'.error = some e.toTaskError := by
  subst ht'
  cases h with
  | times hrel =>
    rcases hrel with ⟨hto⟩
    rcases hto.timedOut with rfl | hout
    · exact .inl rfl
    · exact .inr (.inl hout)
  | claim => cases herr
  | @fail t e hstage => exact .inr (.inr ⟨e, hstage, rfl⟩)
  | complete => cases herr

end TaskStep

/-- What a step does to the job's rows other than its task: it keeps the task identifiers,
gives the topic its cover at the cover step and changes no topic at any other, and writes
generations and files only when it completes the generation. -/
structure RowsStep (job : Job) (stage : JobStage) (s : Studio) (r' : Repository) : Prop where
  ids : r'.tasks.map (·.id) = s.repo.tasks.map (·.id)
  cover : job.coverIn r' = stage.coverKey?.toList.foldl Job.giveCover (job.coverIn s.repo)
  topics : stage.coverKey? = none → r'.topics = s.repo.topics
  rows : completed? job stage s = none →
    r'.generations = s.repo.generations ∧ r'.files = s.repo.files

theorem RowsStep.of_framed {stage : JobStage} {s : Studio} {r' : Repository}
    (h : Job.Framed s.repo r') (hcover : stage.coverKey? = none) : RowsStep job stage s r' where
  ids := h.ids
  cover := by
    rw [hcover, Option.toList_none, List.foldl_nil]
    exact job.coverIn_of_topics h.topics
  topics _ := h.topics
  rows _ := ⟨h.generations, h.files⟩

/-- What each step does to the job's other rows, when identifiers name one task each. -/
theorem rowsStep_jobStep {s : Studio} (hids : (s.repo.tasks.map (·.id)).Nodup) (stage : JobStage) :
    RowsStep job stage s ((jobStep job stage).run s).2.repo := by
  cases hquiet : stage.writesRows
  · -- a step that writes none of the job's rows is not the cover step
    have hcover : stage.coverKey? = none := by
      cases stage with
      | cover => cases hquiet
      | _ => rfl
    exact .of_framed job (jobStep_swept job hids hquiet).framed hcover
  cases stage with
  | claim =>
    rw [jobStep_claim_run]
    exact .of_framed job (Job.framed_transition s.repo _ _ _ _ _) rfl
  | fail e =>
    rw [jobStep_fail_run]
    exact .of_framed job (Job.framed_transition s.repo _ _ _ _ _) rfl
  | cover key =>
    rw [jobStep_cover_run]
    obtain ⟨htasks, hgens, hfiles⟩ := Job.setCoverIfEmpty_rows job s.repo key
    exact ⟨by rw [htasks], Job.coverIn_setCoverIfEmpty job s.repo key, (fun h => by cases h),
      fun _ => ⟨hgens, hfiles⟩⟩
  | complete image p imageKey thumbKey uploaded =>
    rw [jobStep_complete_state]
    rcases Job.completion_cases job s.repo (jobAsset image p imageKey thumbKey)
        (jobFile p imageKey thumbKey) with
      ⟨f, t, now, hc, -, -, -, hids', htopics⟩ | ⟨-, -, hr⟩ | ⟨e, -, hframed, -⟩
    · refine ⟨hids', ?_, fun _ => htopics, fun hnone => ?_⟩
      · simp only [JobStage.coverKey?, Option.toList_none, List.foldl_nil, Job.coverIn,
          Repository.topic?, htopics]
      · simp [completed?, hc, Except.toOption] at hnone
    · refine .of_framed job ?_ rfl
      show Job.Framed s.repo (job.completion _ _ s.repo).2
      rw [hr]
      exact .refl s.repo
    · exact .of_framed job hframed rfl
  | _ => cases hquiet

/-- Each step keeps what the job's task is at its stage, when identifiers name one task each. -/
theorem taskAt_jobStep {s : Studio} (hids : (s.repo.tasks.map (·.id)).Nodup) {stage : JobStage}
    {t : Task} (ht : job.taskIn s.repo = some t) (hat : stage.TaskAt t) :
    ∃ t', job.taskIn ((jobStep job stage).run s).2.repo = some t' ∧
      ((jobStep job stage).run s).1.TaskAt t' := by
  cases hquiet : stage.writesRows
  · -- the task may time out, and the stage it is at asks the same of it
    obtain ⟨t', ht', hto⟩ := (jobStep_swept job hids hquiet).task_some ht
    rw [(jobStep_leads job stage s).taskAt_eq hquiet]
    exact ⟨t', ht', hat.timesOut hto⟩
  cases stage with
  | claim =>
    rw [jobStep_claim_run, Job.taskIn_transition, ht]
    rcases hat with hp | hout
    · -- a pending task is claimed
      simp only [hp, Option.map_some, Option.any_some, beq_self_eq_true, if_true,
        List.contains_cons, List.contains_nil, Bool.or_false]
      exact ⟨_, rfl, .inl rfl⟩
    · -- a task that timed out is left alone, and the job ends
      have hne : t.status ≠ .pending := by rw [hout.1]; decide
      simp only [Option.map_some, Option.any_some, beq_iff_eq, hne, if_false, List.contains_cons,
        List.contains_nil, Bool.or_false]
      exact ⟨t, rfl, show t.status.isTerminal = true by rw [hout.1]; rfl⟩
  | fail e =>
    rw [jobStep_fail_run, Job.taskIn_transition, ht]
    rcases hat with hp | hout
    · simp only [Option.map_some, hp]
      exact ⟨_, rfl, rfl⟩
    · simp only [Option.map_some, hout.1]
      exact ⟨t, rfl, show t.status.isTerminal = true by rw [hout.1]; rfl⟩
  | cover key =>
    rw [jobStep_cover_run]
    refine ⟨t, ?_, ?_⟩
    · rw [← ht]
      exact job.taskIn_of_tasks (Job.setCoverIfEmpty_rows job s.repo key).1
    · show t.status.isTerminal = true
      rw [show t.status = .success from hat]
      rfl
  | complete image p imageKey thumbKey uploaded =>
    rw [jobStep_complete_state]
    -- whatever the completion answers, the job goes on as the answer says, possibly after
    -- deleting its upload, which keeps what the task is
    have hnext : ∀ t', (JobStage.afterComplete (job.completion (jobAsset image p imageKey thumbKey)
        (jobFile p imageKey thumbKey) s.repo).1).TaskAt t' →
        ((jobStep job (.complete image p imageKey thumbKey uploaded)).run s).1.TaskAt t' := by
      intro t' h'
      rcases jobStep_complete_next job image p imageKey thumbKey uploaded s with hn | ⟨keys, hn⟩ <;>
        rw [hn] <;> exact h'
    rcases Job.completion_cases job s.repo (jobAsset image p imageKey thumbKey)
        (jobFile p imageKey thumbKey) with
      ⟨f, t₀, now, hc, ht₀, -, ht', -, -⟩ | ⟨hc, hidle, hr⟩ | ⟨e, hc, -, htasks⟩
    · refine ⟨_, ht', hnext _ ?_⟩
      rw [hc]
      rfl
    · -- the task was no longer processing, so it timed out
      refine ⟨t, by rw [← ht]; exact congrArg job.taskIn hr, hnext _ ?_⟩
      rw [hc]
      rcases hat with hp | hout
      · rw [ht, Option.any_some, hp] at hidle
        cases hidle
      · show t.status.isTerminal = true
        rw [hout.1]
        rfl
    · refine ⟨t, by rw [← ht]; exact job.taskIn_of_tasks htasks, hnext _ ?_⟩
      rw [hc]
      exact hat
  | _ => cases hquiet

end Studio

/-! ## Where a job fails

`FailedAt` names each way a job fails: at the provider (not configured, refusing, or
answering an image without an address), at loading or processing the image, at storing it
or at completing the generation. Each records the error the task ends with: its kind, and
as message the cause's own. The job fails exactly at these points: a step that leaves a
job with an error to record is a `FailedAt` of its stage, and the other way round
(`failure?_jobStep_iff`). -/

/-- A refused put is refused whatever is put: the store refuses puts, and says so. -/
theorem Bucket.put_error_iff {b : Bucket} {key : String} {blob : Blob} {contentType : String}
    {e : PortError} :
    b.put key blob contentType = .error e ↔ b.refusePuts = true ∧ e = .unexpected "bucket unavailable" := by
  unfold Bucket.put
  cases b.refusePuts
  · simp
  · simp [eq_comm]

namespace Studio

variable (job : Job)

/-- A put answers what the store answers; the timeouts that a slow store lets happen first
leave the store alone. -/
theorem putObject_result (key : String) (blob : Blob) (contentType : String) (s : Studio) :
    ((putObject key blob contentType).run s).1 =
      (s.bucket.put key blob contentType).map fun _ => () := by
  have hkeep : Keeps (·.bucket) expireAll :=
    .of_calls (P := fun _ => True) (expireAll_calls fun _ _ => trivial) fun _ _ _ => rfl
  unfold putObject
  rw [Studio.run_get_bind]
  by_cases hslow : s.bucket.slowPuts = true
  · rw [if_pos hslow, Studio.run_bind]
    simp only [Studio.run_get_bind]
    have hbucket : (expireAll.run s).2.bucket = s.bucket := hkeep s
    rw [hbucket]
    split
    · rename_i b heq
      rw [heq]
      rfl
    · rename_i e heq
      rw [heq]
      rfl
  · rw [if_neg hslow]
    simp only [Studio.run_get_bind]
    split
    · rename_i b heq
      rw [heq]
      rfl
    · rename_i e heq
      rw [heq]
      rfl

/-- Where a job fails, from a studio, and the error its task records for it: the kind of the
failure, and the message of its cause. -/
inductive FailedAt : JobStage → Studio → TaskError → Prop where
  /-- No provider of the job's name is configured. -/
  | unknownProvider {s : Studio} (h : s.provider? job.provider = none) :
      FailedAt .call s
        { kind := .provider, message := "Image provider '" ++ job.provider ++ "' is not configured" }
  /-- The provider refused the request. -/
  | provider {s : Studio} {p : Provider} {e : PortError} (hp : s.provider? job.provider = some p)
      (h : p.answer job.model job.params = .error e) :
      FailedAt .call s { kind := .provider, message := e.message }
  /-- The provider answered an image without an address. -/
  | blankUrl {s : Studio} {p : Provider} {image : ProviderImage}
      (hp : s.provider? job.provider = some p) (h : p.answer job.model job.params = .ok image)
      (hblank : Text.isBlankText image.url = true) :
      FailedAt .call s
        { kind := .provider,
          message := (PortError.unexpected "Provider returned an empty image URL").message }
  /-- The image the provider answered with could not be loaded. -/
  | load {s : Studio} {p : Provider} {image : ProviderImage} {e : ProcessError}
      (hp : s.provider? job.provider = some p) (h : p.answer job.model job.params = .ok image)
      (hblank : Text.isBlankText image.url = false) (hload : loadSource s.fetch image.url = .error e) :
      FailedAt .call s { kind := .postProcessing, message := e.message }
  /-- The loaded image could not be decoded, resized or encoded. -/
  | process {s : Studio} {image : ProviderImage} {source : SourceImage} {e : ProcessError}
      (h : processBytes source = .error e) :
      FailedAt (.loaded image source) s { kind := .postProcessing, message := e.message }
  /-- The store refused the image, stored on its own as its own thumbnail. -/
  | upload {s : Studio} {image : ProviderImage} {p : Processed} {e : PortError}
      (hsame : p.thumbnail = .same)
      (h : ∃ key blob contentType, s.bucket.put key blob contentType = .error e) :
      FailedAt (.upload image p) s { kind := .storage, message := e.message }
  /-- The store refused the raw image, or then its thumbnail. -/
  | putThumb {s : Studio} {image : ProviderImage} {p : Processed} {keys : UploadedKeys}
      {width height : Nat} {raw : Except PortError Unit} {e : PortError}
      (h : raw = .error e ∨
        raw = .ok () ∧ ∃ key blob contentType, s.bucket.put key blob contentType = .error e) :
      FailedAt (.putThumb image p keys width height raw) s { kind := .storage, message := e.message }
  /-- Completing the generation failed. -/
  | complete {s : Studio} {image : ProviderImage} {p : Processed} {imageKey thumbKey : String}
      {uploaded : Option UploadedKeys} {e : PortError}
      (h : (job.completion (jobAsset image p imageKey thumbKey) (jobFile p imageKey thumbKey)
        s.repo).1 = .error e) :
      FailedAt (.complete image p imageKey thumbKey uploaded) s { kind := .storage, message := e.message }

theorem uploadKeys_bucket (p : Processed) (s : Studio) : ((uploadKeys p).run s).2.bucket = s.bucket :=
  Keeps.of_calls (P := fun _ => True) (uploadKeys_calls p) (fun _ _ _ => rfl) s

/-- A job that fails at a stage leaves it with the failure's error to record. -/
theorem failure?_of_failedAt {stage : JobStage} {s : Studio} {err : TaskError}
    (h : FailedAt job stage s err) : ((jobStep job stage).run s).1.failure? = some err := by
  cases h with
  | unknownProvider h =>
    simp only [jobStep, Studio.run_get_bind, h]
    rfl
  | provider hp h =>
    simp only [jobStep, Studio.run_get_bind]
    simp only [hp, Studio.run_bind, Studio.run_modify, h]
    rfl
  | blankUrl hp h hblank =>
    simp only [jobStep, Studio.run_get_bind]
    simp only [hp, Studio.run_bind, Studio.run_modify, h, hblank, if_true]
    rfl
  | load hp h hblank hload =>
    simp only [jobStep, Studio.run_get_bind]
    simp only [hp, Studio.run_bind, Studio.run_modify, h, hblank, Bool.false_eq_true, if_false, hload]
    rfl
  | process h =>
    simp only [jobStep, h]
    rfl
  | @upload s image p e hsame h =>
    -- the store refuses every put, the raw image's too
    obtain ⟨key, blob, contentType, hput⟩ := h
    obtain ⟨hrefuse, rfl⟩ := Bucket.put_error_iff.1 hput
    simp only [jobStep, Studio.run_bind, hsame]
    change (JobStage.afterUpload image p _ _).failure? = _
    rw [JobStage.failure?_afterUpload]
    refine ⟨_, ?_, rfl⟩
    rw [putObject_result, Bucket.put_error_iff.2 ⟨(uploadKeys_bucket p s).symm ▸ hrefuse, rfl⟩]
    rfl
  | @putThumb s image p keys width height raw e h =>
    simp only [jobStep, Studio.run_bind]
    change (JobStage.afterUpload image p keys _).failure? = _
    rw [JobStage.failure?_afterUpload]
    refine ⟨e, ?_, rfl⟩
    rcases h with rfl | ⟨rfl, key, blob, contentType, hput⟩
    · rfl
    · obtain ⟨hrefuse, rfl⟩ := Bucket.put_error_iff.1 hput
      rw [putObject_result, Bucket.put_error_iff.2 ⟨hrefuse, rfl⟩]
      rfl
  | @complete s image p imageKey thumbKey uploaded e h =>
    -- a failed completion fails the job, after it deletes what it stored
    have hfail : (JobStage.afterComplete (job.completion (jobAsset image p imageKey thumbKey)
        (jobFile p imageKey thumbKey) s.repo).1).failure? = some { kind := .storage, message := e.message } :=
      (JobStage.failure?_afterComplete _).2 ⟨e, h, rfl⟩
    rcases jobStep_complete_next job image p imageKey thumbKey uploaded s with hn | ⟨keys, hn⟩ <;>
      rw [hn] <;> exact hfail

/-- A step that leaves a job with an error to record, where it had none, is a failure at
its stage. -/
theorem failedAt_of_failure? {stage : JobStage} {s : Studio} {err : TaskError}
    (hnone : stage.failure? = none) (h : ((jobStep job stage).run s).1.failure? = some err) :
    FailedAt job stage s err := by
  cases stage with
  | claim => rcases jobStep_claim job s with hn | hn <;> rw [hn] at h <;> cases h
  | call =>
    simp only [jobStep, Studio.run_get_bind] at h
    split at h
    · rename_i hprov
      cases h
      exact .unknownProvider hprov
    · rename_i p hp
      simp only [Studio.run_bind, Studio.run_modify] at h
      split at h
      · rename_i e he
        cases h
        exact .provider hp he
      · rename_i image himage
        split at h
        · rename_i hblank
          cases h
          exact .blankUrl hp himage hblank
        · rename_i hblank
          split at h
          · rename_i e hload
            cases h
            exact .load hp himage (Bool.not_eq_true _ ▸ hblank) hload
          · cases h
  | loaded image source =>
    simp only [jobStep] at h
    split at h
    · rename_i e he
      cases h
      exact .process he
    · simp only [Studio.run_get_bind] at h
      split at h <;> cases h
  | upload image p =>
    simp only [jobStep, Studio.run_bind] at h
    split at h
    · rename_i hsame
      obtain ⟨e, hraw, rfl⟩ := (JobStage.failure?_afterUpload _ _ _ _).1 h
      rw [putObject_result, uploadKeys_bucket] at hraw
      refine .upload hsame ⟨((uploadKeys p).run s).1.image, .bytes p.raw.bytes, p.raw.mime, ?_⟩
      revert hraw
      cases s.bucket.put _ _ _ <;> simp [Except.map]
    · cases h
  | putThumb image p keys width height raw =>
    simp only [jobStep, Studio.run_bind, Studio.run_pure] at h
    obtain ⟨e, hboth, rfl⟩ := (JobStage.failure?_afterUpload _ _ _ _).1 h
    refine .putThumb ?_
    rcases raw with e' | ⟨⟩
    · cases hboth
      exact .inl rfl
    · refine .inr ⟨rfl, keys.thumbnail, .rendered width height, thumbnailMediaType, ?_⟩
      rw [putObject_result] at hboth
      revert hboth
      cases s.bucket.put _ _ _ <;> simp [Except.map, bind, Except.bind]
  | complete image p imageKey thumbKey uploaded =>
    have hfail : ∀ next, (JobStage.afterComplete (job.completion (jobAsset image p imageKey thumbKey)
        (jobFile p imageKey thumbKey) s.repo).1).failure? = some err → next = err →
        FailedAt job (.complete image p imageKey thumbKey uploaded) s next := by
      rintro _ hc rfl
      obtain ⟨e, he, rfl⟩ := (JobStage.failure?_afterComplete _).1 hc
      exact .complete he
    rcases jobStep_complete_next job image p imageKey thumbKey uploaded s with hn | ⟨keys, hn⟩ <;>
      rw [hn] at h <;> exact hfail err h rfl
  | discard keys next =>
    cases keys with
    | nil => exact absurd (hnone.symm.trans h) (by simp)
    | cons key keys => exact absurd (hnone.symm.trans h) (by simp)
  | fail e => cases hnone
  | cover key => cases h
  | done => cases h

/-- A step leaves a job with an error to record, where it had none, exactly when the job
fails at its stage. -/
theorem failure?_jobStep_iff {stage : JobStage} {s : Studio} {err : TaskError}
    (hnone : stage.failure? = none) :
    ((jobStep job stage).run s).1.failure? = some err ↔ FailedAt job stage s err :=
  ⟨failedAt_of_failure? job hnone, failure?_of_failedAt job⟩

theorem coverAhead_jobStep_complete (image : ProviderImage) (p : Processed)
    (imageKey thumbKey : String) (uploaded : Option UploadedKeys) (s : Studio) :
    ((jobStep job (.complete image p imageKey thumbKey uploaded)).run s).1.coverAhead =
      ((completed? job (.complete image p imageKey thumbKey uploaded) s).map (·.thumbnailKey)).toList := by
  rw [completed?, ← JobStage.coverAhead_afterComplete]
  -- deleting an upload first does not change the cover ahead
  rcases jobStep_complete_next job image p imageKey thumbKey uploaded s with hn | ⟨keys, hn⟩
  · rw [hn]
  · rw [hn]
    rfl

/-- The cover a job has still to give, after a step, is what it had to give before with the
step's own cover taken off, and the completed file's thumbnail added. -/
theorem coverAhead_jobStep (stage : JobStage) (s : Studio) :
    stage.coverKey?.toList ++ ((jobStep job stage).run s).1.coverAhead =
      stage.coverAhead ++ ((completed? job stage s).map (·.thumbnailKey)).toList := by
  have hl := jobStep_leads job stage s
  generalize hnext : ((jobStep job stage).run s).1 = next at hl ⊢
  cases hl with
  | completed image p imageKey thumbKey uploaded c =>
    rw [← hnext, coverAhead_jobStep_complete]
    rfl
  | unkept image p imageKey thumbKey keys c =>
    rw [← hnext, coverAhead_jobStep_complete]
    rfl
  | _ => simp [JobStage.coverAhead, JobStage.coverKey?, completed?]

end Studio

/-! ## The objects a job leaves

While the store serves every put and deletion, what a job has put and no completed record
kept is removed again: every object the store holds is one it held before the job ran, or
one the job still answers for at its stage (`JobStage.heldKeys`). -/

namespace JobStage

/-- Whether a job about to put its thumbnail has put its raw image. -/
def RawStored : JobStage → Prop
  | .putThumb _ _ _ _ _ raw => raw = .ok ()
  | .discard _ next => next.RawStored
  | _ => True

/-- Only the upload leads to the thumbnail's put. -/
theorem Leads.rawStored {a b : JobStage} (h : a.Leads b) (ha : a.RawStored)
    (hupload : ∀ image p, a ≠ .upload image p) : b.RawStored := by
  cases h with
  | putRaw image p => exact absurd rfl (hupload image p)
  | putOnce image p keys raw => exact absurd rfl (hupload image p)
  | putThumb image p keys width height raw both => cases both <;> trivial
  | completed image p imageKey thumbKey uploaded c => rcases c with _ | _ | _ <;> trivial
  | unkept image p imageKey thumbKey keys c => rcases c with _ | _ | _ <;> trivial
  | discarded next => exact ha
  | discardOne key keys next => exact ha
  | _ => trivial

end JobStage

namespace Studio

variable (job : Job)

/-- The objects a job at `stage` leaves in `s`, run from `s₀`: each was stored in `s₀` or is
one the job answers for. The store serves puts and deletions, and a job about to put its
thumbnail has put its raw image. -/
structure Leftovers (s₀ : Studio) (stage : JobStage) (s : Studio) : Prop where
  objects : ∀ o ∈ s.bucket.objects, o ∈ s₀.bucket.objects ∨ o.key ∈ stage.heldKeys
  serving : s.Serving
  raw : stage.RawStored

/-- A step that leaves the store alone, and answers for the objects it answered for. -/
theorem Leftovers.of_bucket {s₀ s s' : Studio} {stage next : JobStage} (h : Leftovers s₀ stage s)
    (hbucket : s'.bucket = s.bucket) (hheld : ∀ k ∈ stage.heldKeys, k ∈ next.heldKeys)
    (hraw : next.RawStored) : Leftovers s₀ next s' where
  objects o ho := (h.objects o (hbucket ▸ ho)).imp_right (hheld _)
  serving := by
    unfold Serving
    rw [hbucket]
    exact h.serving
  raw := hraw

/-- A put into a store that serves it succeeds and adds the one object. -/
theorem putObject_served {s : Studio} (hs : s.Serving) (key : String) (blob : Blob)
    (contentType : String) :
    ((putObject key blob contentType).run s).1 = .ok () ∧ ((putObject key blob contentType).run s).2.Serving ∧
      ∀ o ∈ ((putObject key blob contentType).run s).2.bucket.objects,
        o ∈ s.bucket.objects ∨ o.key = key := by
  obtain ⟨s₁, ⟨-, hbucket, -⟩, hput⟩ := putObject_run hs key blob contentType
  rw [hput]
  refine ⟨rfl, ?_, fun o ho => ?_⟩
  · unfold Serving
    rw [hbucket]
    exact hs
  · rcases List.mem_append.1 ho with ho | ho
    · exact .inl (hbucket ▸ (List.mem_filter.1 ho).1)
    · exact .inr (by rw [List.mem_singleton.1 ho])

theorem bucket_jobStep_call (s : Studio) : ((jobStep job .call).run s).2.bucket = s.bucket := by
  simp only [jobStep, Studio.run_get_bind]
  split
  · rfl
  · simp only [Studio.run_bind, Studio.run_modify]
    split
    · rfl
    · split
      · rfl
      · split <;> rfl

theorem bucket_jobStep_loaded (image : ProviderImage) (source : SourceImage) (s : Studio) :
    ((jobStep job (.loaded image source)).run s).2.bucket = s.bucket := by
  simp only [jobStep]
  split
  · rfl
  · simp only [Studio.run_get_bind]
    split <;> rfl

/-- A step that completes no generation leaves behind, while the store serves it, only
objects that were there before the job ran or that the job still answers for. -/
theorem leftovers_jobStep {s₀ s : Studio} {stage : JobStage} (hc : completed? job stage s = none)
    (h : Leftovers s₀ stage s) :
    Leftovers s₀ ((jobStep job stage).run s).1 ((jobStep job stage).run s).2 := by
  have hraw : ∀ (hupload : ∀ image p, stage ≠ .upload image p),
      ((jobStep job stage).run s).1.RawStored :=
    (jobStep_leads job stage s).rawStored h.raw
  have hnone : ∀ k, k ∉ ([] : List String) := fun _ hk => by cases hk
  cases stage with
  | claim =>
    exact h.of_bucket (by rw [jobStep_claim_run]) (fun k hk => absurd hk (hnone k))
      (hraw fun _ _ hu => by cases hu)
  | call =>
    exact h.of_bucket (bucket_jobStep_call job s) (fun k hk => absurd hk (hnone k))
      (hraw fun _ _ hu => by cases hu)
  | loaded image source =>
    exact h.of_bucket (bucket_jobStep_loaded job image source s) (fun k hk => absurd hk (hnone k))
      (hraw fun _ _ hu => by cases hu)
  | upload image p =>
    -- the raw image is put, and the job answers for it from now on
    have hserving : ((uploadKeys p).run s).2.Serving := by
      unfold Serving
      rw [uploadKeys_bucket]
      exact h.serving
    obtain ⟨hok, hserving', hobjects⟩ := putObject_served hserving ((uploadKeys p).run s).1.image
      (.bytes p.raw.bytes) p.raw.mime
    have hleft : ∀ next : JobStage, ((uploadKeys p).run s).1.image ∈ next.heldKeys → next.RawStored →
        Leftovers s₀ next ((putObject ((uploadKeys p).run s).1.image (.bytes p.raw.bytes)
          p.raw.mime).run ((uploadKeys p).run s).2).2 := by
      intro next hheld hraw'
      refine ⟨fun o ho => ?_, hserving', hraw'⟩
      rcases hobjects o ho with ho | hkey
      · rw [uploadKeys_bucket] at ho
        exact (h.objects o ho).imp_right fun hk => absurd hk (hnone _)
      · exact .inr (hkey ▸ hheld)
    simp only [jobStep, Studio.run_bind]
    split
    · rw [hok]
      exact hleft _ (UploadedKeys.mem_keys.2 (.inl rfl)) trivial
    · rw [hok]
      exact hleft _ (List.mem_singleton_self _) rfl
  | putThumb image p keys width height raw =>
    -- the thumbnail is put after the raw image, and the job answers for both
    have hrawOk : raw = .ok () := h.raw
    subst hrawOk
    obtain ⟨hok, hserving', hobjects⟩ := putObject_served h.serving keys.thumbnail
      (.rendered width height) thumbnailMediaType
    simp only [jobStep, Studio.run_bind, hok]
    refine ⟨fun o ho => ?_, hserving', trivial⟩
    rcases hobjects o ho with ho | hkey
    · exact (h.objects o ho).imp_right fun hk => by
        rw [List.mem_singleton.1 hk]
        exact UploadedKeys.mem_keys.2 (.inl rfl)
    · exact .inr (UploadedKeys.mem_keys.2 (.inr hkey))
  | complete image p imageKey thumbKey uploaded =>
    have hbucket : ((jobStep job (.complete image p imageKey thumbKey uploaded)).run s).2.bucket =
        s.bucket := by
      rw [jobStep_complete_state]
    cases uploaded with
    | none =>
      exact h.of_bucket hbucket (fun k hk => absurd hk (hnone k)) (hraw fun _ _ hu => by cases hu)
    | some keys =>
      -- no record kept the upload, so the job deletes it next
      have hnext := jobStep_complete_unkept job image p imageKey thumbKey (some keys) s rfl hc
      refine h.of_bucket hbucket (fun k hk => ?_) (hraw fun _ _ hu => by cases hu)
      rw [hnext]
      exact List.mem_append_left _ hk
  | discard keys next =>
    cases keys with
    | nil => exact h.of_bucket rfl (fun _ hk => hk) (hraw fun _ _ hu => by cases hu)
    | cons key keys =>
      -- the first key is deleted, and the job answers for the rest
      show Leftovers s₀ (.discard keys next) ((deleteObject key).run s).2
      rw [deleteObject_run h.serving]
      refine ⟨fun o ho => ?_, h.serving, h.raw⟩
      obtain ⟨ho, hne⟩ := List.mem_filter.1 ho
      refine (h.objects o ho).imp_right fun hk => ?_
      rcases List.mem_cons.1 hk with hk | hk
      · rw [hk] at hne
        simp at hne
      · exact hk
  | fail e => exact h.of_bucket rfl (fun k hk => absurd hk (hnone k)) trivial
  | cover key => exact h.of_bucket rfl (fun k hk => absurd hk (hnone k)) trivial
  | done => exact h.of_bucket rfl (fun k hk => absurd hk (hnone k)) trivial

end Studio

end ImageStudio
