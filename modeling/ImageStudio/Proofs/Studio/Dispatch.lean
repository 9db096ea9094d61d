import ImageStudio.Proofs.Studio.Stored
import ImageStudio.Proofs.Studio.Images

/-!
# Proofs · Studio · Dispatch: every pending task has its job held

A create request stores its batch with every task pending, then queues the batch's jobs one
at a time; the worker takes jobs from the front of the queue, and a run of a job first claims
its task. A job the queue refuses, because it is full or the worker is gone, fails its task at
once. So a task stays pending only while the world holds a job of it (`World.Holds`): about
to be queued by its request, in the queue, held by a run that has not tried its claim, or
dropped with the queue when the worker was cancelled.

This is an invariant of the service (`World.Dispatched`). No call but storing a batch makes a
task pending (`Repository.PendingWas`, `RepoCall.pendingWas`), and a stored batch's jobs go
with its request (`Studio.commitCreate_pending`); a failed request leaves the tasks as they
were (`Studio.Fails`, `Studio.commitCreate_fails`). A job stops being held only by being
queued, taken or dropped, which keeps it held, or by a refused queueing or a claim, each of
which moves its task out of pending (`Repository.transition_settles`): identifiers name one
task each, so the failure or the claim finds the task itself.

From a blank studio, with fresh identifiers, every world the service reaches is dispatched
(`World.Reaches.dispatched`). So once its request is done with it, a task has finished, is
processing, or is pending with its job queued, held by a run about to claim it, or dropped
by a cancelled worker, after which no worker runs (`World.pending_job_held`). Only the last
keeps a task pending for good: `World.not_pendingOnItsWay` is a run whose worker is
cancelled with a job in its queue, after which the job's task is pending and no job of it is
left anywhere.
-/

namespace ImageStudio

/-! ## Calls that make no task pending -/

namespace Repository

/-- Every pending task of `r'` is a task of `r`: nothing between them made a task pending. -/
def PendingWas (r r' : Repository) : Prop :=
  ∀ t ∈ r'.tasks, t.status = .pending → t ∈ r.tasks

namespace PendingWas

variable {r r' r'' : Repository}

theorem refl (r : Repository) : PendingWas r r := fun _ ht _ => ht

theorem trans (h : PendingWas r r') (h' : PendingWas r' r'') : PendingWas r r'' :=
  fun t ht hp => h t (h' t ht hp) hp

theorem of_eq (h : r'.tasks = r.tasks) : PendingWas r r' := fun _ ht _ => h ▸ ht

end PendingWas

section Finish

variable {r : Repository} {tasks : List Task} {id : Uuid} {target : TaskStatus}
  {error : Option TaskError} {now : Instant}

/-- Finishing the tasks of one identifier with a status other than pending makes no task
pending. -/
theorem pending_mem_of_finish (htarget : target ≠ .pending)
    (htasks : tasks = r.tasks.map fun u => if u.id == id then u.finish target error now else u) :
    ∀ t ∈ tasks, t.status = .pending → t ∈ r.tasks := by
  intro t ht hpend
  rw [htasks, List.mem_map] at ht
  obtain ⟨u, hu, rfl⟩ := ht
  by_cases hid : u.id = id
  · rw [if_pos (beq_iff_eq.2 hid)] at hpend
    exact absurd hpend htarget
  · rw [if_neg (by simpa using hid)]
    exact hu

/-- After the tasks of one identifier are finished with a status other than pending, none of
them is pending. -/
theorem not_pending_of_finish (htarget : target ≠ .pending)
    (htasks : tasks = r.tasks.map fun u => if u.id == id then u.finish target error now else u) :
    ∀ t ∈ tasks, t.id = id → t.status ≠ .pending := by
  intro t ht hid
  rw [htasks, List.mem_map] at ht
  obtain ⟨u, -, rfl⟩ := ht
  by_cases hu : u.id = id
  · rw [if_pos (beq_iff_eq.2 hu)]
    exact htarget
  · rw [if_neg (by simpa using hu)] at hid
    exact absurd hid hu

end Finish

/-- A timeout sweep makes no task pending. -/
theorem pendingWas_sweep (user : Uuid) (now : Instant) (timeoutMs : Int) :
    ∀ (ids : List Uuid) (r : Repository), PendingWas r (ids.foldl (sweepOne user now timeoutMs) r)
  | [], r => .refl r
  | id :: rest, r => by
    rw [List.foldl_cons]
    refine PendingWas.trans ?_ (pendingWas_sweep user now timeoutMs rest _)
    unfold sweepOne
    split
    · rw [run_finishTask]
      exact pending_mem_of_finish (by decide) rfl
    · exact .refl r

/-- A run of calls none of which makes a task pending makes none pending. -/
theorem Runs.pendingWas {P : RepoCall → Prop} {r r' : Repository} (h : Runs P r r')
    (hP : ∀ c, P c → ∀ r, PendingWas r (c.apply r)) : PendingWas r r' := by
  induction h with
  | refl r => exact .refl r
  | call c hc _ ih => exact (hP c hc _).trans ih
  | tick t _ ih => exact (PendingWas.of_eq rfl).trans ih
  | draw _ ih => exact (PendingWas.of_eq rfl).trans ih

/-- A transition of a user's task that may start from pending and does not lead back to it
leaves no pending task of that user under that identifier, when identifiers name one task
each: it finds the task and moves it, or finds it where `allowed` does not let it move, so
not pending. -/
theorem transition_settles {r : Repository} (hids : (r.tasks.map (·.id)).Nodup)
    {user id : Uuid} {allowed : List TaskStatus} {target : TaskStatus} {error : Option TaskError}
    (hallowed : TaskStatus.pending ∈ allowed) (htarget : target ≠ .pending) :
    ∀ t ∈ ((RepoCall.transition user id allowed target error).apply r).tasks, t.id = id →
      t.user = user → t.status ≠ .pending := by
  intro t ht hid huser hpend
  rw [RepoCall.apply, settle_snd, run_transition] at ht
  rcases hfind : r.task? user id with _ | t₀
  · -- no task of the user has this identifier
    rw [hfind] at ht
    unfold task? at hfind
    have hnot := List.find?_eq_none.1 hfind t ht
    simp [hid, huser] at hnot
  · obtain ⟨ht₀, ht₀id, -⟩ := task?_spec hfind
    rw [hfind] at ht
    dsimp only at ht
    split_ifs at ht with ha
    · exact not_pending_of_finish htarget rfl t ht hid hpend
    · -- the one task of this identifier is `t₀`, which `allowed` did not let move
      have heq : t = t₀ := List.inj_on_of_nodup_map hids ht ht₀ (hid.trans ht₀id.symm)
      subst heq
      exact ha (List.contains_iff_mem.2 (by rw [hpend]; exact hallowed))

/-- A stored batch's new tasks each have a job made for them, of their user: the jobs made
from the batch's generations and their tasks. -/
theorem createBatch_pending {user : Uuid} {nb : NewBatch} {r r' : Repository} {cb : CreatedBatch}
    (h : ExceptT.run (createBatch user nb) r = (.ok cb, r')) (mk : Generation → Uuid → Job)
    (hmk : ∀ g t, (mk g t).user = user ∧ (mk g t).task = t) :
    ∀ t ∈ r'.tasks, t.status = .pending → t ∈ r.tasks ∨
      ∃ job ∈ (cb.generations.zip cb.tasks).map (fun x => mk x.1 x.2),
        job.task = t.id ∧ job.user = t.user := by
  obtain ⟨t₀, -, -, hcb, hr'⟩ := createBatch_ok h
  intro t ht _
  rw [hr'] at ht
  rcases List.mem_append.1 ht with ht | ht
  · exact .inl ht
  · obtain ⟨x, hx, rfl⟩ := List.mem_map.1 ht
    obtain ⟨huser, -⟩ := mem_rowsFrom hx
    refine .inr ⟨mk x.2 x.1.id, ?_, (hmk _ _).2, by rw [(hmk _ _).1, huser]⟩
    rw [hcb]
    simp only [List.zip_map', List.map_map, List.mem_map, Function.comp_apply]
    exact ⟨x, hx, rfl⟩

end Repository

namespace RepoCall

open Repository

/-- Whether a call makes tasks: storing a batch does. -/
def makesTasks : RepoCall → Bool
  | .createBatch .. => true
  | _ => false

/-- A call the service makes, other than storing a batch, makes no task pending: a claim
moves a task to processing, a failure to error, a completion to success, and a sweep fails
tasks in flight. -/
theorem pendingWas {jobs : List Job} (c : RepoCall) (hc : c.ByService jobs)
    (hm : c.makesTasks = false) (r : Repository) : PendingWas r (c.apply r) := by
  cases c.writesTasks r with
  | keep _ he => exact .of_eq he
  | batch => cases hm
  | complete user gen asset file t₀ now _ _ _ he => exact pending_mem_of_finish (by decide) he
  | transition user allowed target error t₀ now _ _ _ he =>
    -- the service moves a task to processing or to error, never back to pending
    have htarget : target ≠ .pending := by
      rcases hc with ⟨-, rfl⟩ | ⟨-, rfl⟩ <;> decide
    exact pending_mem_of_finish htarget he
  | sweep user ids timeoutMs he =>
    rw [he]
    exact (PendingWas.of_eq rfl).trans (pendingWas_sweep user _ timeoutMs ids _)

/-- A call a request makes before it waits makes no task pending. -/
theorem ByRequest.pendingWas {c : RepoCall} (h : c.ByRequest) (r : Repository) :
    PendingWas r (c.apply r) := by
  refine c.pendingWas h.byService ?_ r
  cases c with
  | createBatch => exact h.elim
  | _ => rfl

/-- A call a job makes makes no task pending. -/
theorem OfJob.pendingWas {job : Job} {c : RepoCall} (h : c.OfJob job) (r : Repository) :
    PendingWas r (c.apply r) := by
  refine c.pendingWas h.byService ?_ r
  cases c with
  | createBatch => exact h.elim
  | _ => rfl

end RepoCall

/-! ## What the steps of requests and jobs leave -/

namespace Studio

open Repository

/-- From a studio where `pre` holds, a failure of `m` leaves a studio where `post` holds. -/
def Fails {α : Type} (pre : Studio → Prop) (m : Serve α) (post : Studio → Prop) : Prop :=
  ∀ s, pre s → ∀ e s', m.run.run s = (.error e, s') → post s'

namespace Fails

variable {α β : Type} {pre post : Studio → Prop}

/-- A bind fails where its first part fails, or where its second part fails from what the
first part's success left. -/
theorem bind {x : Serve α} {f : α → Serve β} {mid : α → Studio → Prop} (hx : Fails pre x post)
    (hmid : Ensures pre x mid) (hf : ∀ a, Fails (mid a) (f a) post) : Fails pre (x >>= f) post := by
  intro s hs e s' h
  rw [ExceptT.run_bind, Studio.run_bind] at h
  rcases hrun : x.run.run s with ⟨_ | a, s₁⟩
  · rw [hrun] at h
    cases h
    exact hx s hs _ s₁ hrun
  · rw [hrun] at h
    exact hf a s₁ (hmid s hs a s₁ hrun) e s' h

theorem pure (a : α) : Fails pre (Pure.pure a : Serve α) post := by
  intro s _ e s' h
  cases h

/-- Reading the studio fails where the rest fails from the studio read. -/
theorem get_bind {f : Studio → Serve β} (h : ∀ s₀, Fails (fun s => pre s ∧ s = s₀) (f s₀) post) :
    Fails pre (get >>= f) post :=
  fun s hs e s' hrun => h s s ⟨hs, rfl⟩ e s' hrun

/-- A program that cannot fail leaves nothing on failure. -/
theorem of_ok {m : Serve α} (h : ∀ s, ∃ a, (m.run.run s).1 = .ok a) : Fails pre m post := by
  intro s _ e s' hrun
  obtain ⟨a, ha⟩ := h s
  rw [hrun] at ha
  cases ha

/-- A failed repository operation leaves only its clock readings and its draws. -/
theorem inRepo {m : Repo α}
    (h : ∀ s, pre s → ∀ e r', ExceptT.run m s.repo = (.error e, r') →
      post { s with repo := { s.repo with clock := r'.clock, entropy := r'.entropy } }) :
    Fails pre (Studio.inRepo m) post := by
  intro s hs e s' hrun
  simp only [Studio.inRepo, ExceptT.run_mk, Studio.runRepo_run] at hrun
  rcases hm : ExceptT.run m s.repo with ⟨_ | b, r'⟩
  · rw [Repository.settle_of_error hm] at hrun
    cases hrun
    exact h s hs _ r' hm
  · rw [Repository.settle_of_ok hm] at hrun
    cases hrun

end Fails

/-- A program that leaves the repository as it is keeps what holds of it. -/
theorem Ensures.of_repo {α : Type} {m : Serve α} {p : Repository → Prop}
    (h : ∀ s, (m.run.run s).2.repo = s.repo) : Ensures (fun s => p s.repo) m fun _ s => p s.repo := by
  intro s hs a s' hrun
  have hrepo := h s
  rw [hrun] at hrepo
  show p s'.repo
  rw [show s'.repo = s.repo from hrepo]
  exact hs

/-- A stored batch's tasks go with its jobs: every task pending after a create request stores
its batch was there before, or has a job of the batch, of its own user. -/
theorem commitCreate_pending (plan : CreatePlan) (ts : List Task) :
    Ensures (fun s => s.repo.tasks = ts) (commitCreate plan) fun created s =>
      ∀ t ∈ s.repo.tasks, t.status = .pending → t ∈ ts ∨
        ∃ job ∈ created.2, job.task = t.id ∧ job.user = t.user := by
  unfold commitCreate
  dsimp only
  -- drawing the seeds leaves the repository alone
  split <;>
  refine Ensures.bind (Ensures.of_repo (p := fun r => r.tasks = ts) fun _ => rfl) fun seeds =>
    Ensures.bind (Ensures.inRepo fun s hs cb r' hrun => ?_) fun cb => Ensures.get_pure fun _ h => h
  all_goals
    rw [← hs]
    exact createBatch_pending hrun _ fun _ _ => ⟨rfl, rfl⟩

/-- A create request that fails to store its batch leaves the tasks as they were. -/
theorem commitCreate_fails (plan : CreatePlan) (ts : List Task) :
    Fails (fun s => s.repo.tasks = ts) (commitCreate plan) fun s => s.repo.tasks = ts := by
  unfold commitCreate
  dsimp only
  split <;>
  exact Fails.bind (.of_ok fun _ => ⟨_, rfl⟩) (Ensures.of_repo (p := fun r => r.tasks = ts) fun _ => rfl)
    fun seeds => Fails.bind (Fails.inRepo fun s hs _ _ _ => hs) (Ensures.any _) fun _ =>
      Fails.get_bind fun _ => Fails.pure _

/-- The step of a create request that stores its batch, and leaves the batch's jobs to queue. -/
theorem resumeRequest_commit (plan : CreatePlan) (s : Studio) :
    (resumeRequest (.commit plan)).run s =
      match (commitCreate plan).run.run s with
      | (.ok created, s') => (some (.trigger created.2), s')
      | (.error _, s') => (none, s') := by
  simp only [resumeRequest, Studio.run_bind]
  rcases (commitCreate plan).run.run s with ⟨_ | created, s'⟩ <;> rfl

/-- Storing a batch leaves the queue alone. -/
theorem commitCreate_queue (plan : CreatePlan) (s : Studio) :
    ((commitCreate plan).run.run s).2.queue = s.queue :=
  Keeps.of_calls (commitCreate_calls (P := fun _ => True) plan fun _ => trivial)
    (fun _ _ _ => rfl) s

/-- Queueing a job appends it to the queue, or fails its task and leaves the queue alone. -/
theorem enqueue_cases (job : Job) (s : Studio) :
    (((enqueue job).run s).2.repo = s.repo ∧ ((enqueue job).run s).2.queue = s.queue ++ [job]) ∨
      ((∃ e, ((enqueue job).run s).2.repo =
        (RepoCall.transition job.user job.task [.pending, .processing] .error e).apply s.repo) ∧
        ((enqueue job).run s).2.queue = s.queue) := by
  simp only [enqueue, Studio.run_get_bind]
  split
  · exact .inl ⟨rfl, rfl⟩
  · exact .inr ⟨⟨_, rfl⟩, rfl⟩

/-- The first step of a request makes no task pending. -/
theorem beginRequest_pendingWas (r : Request) (s : Studio) :
    PendingWas s.repo ((beginRequest r).run s).2.repo := by
  obtain ⟨r', hruns, seeds, hs⟩ := beginRequest_calls r s
  rw [hs]
  exact hruns.pendingWas fun _ hc => hc.pendingWas

/-- A step of a job makes no task pending. -/
theorem jobStep_pendingWas (job : Job) (stage : JobStage) (s : Studio) :
    PendingWas s.repo ((jobStep job stage).run s).2.repo :=
  (jobStep_through job stage s).pendingWas fun _ hc => hc.pendingWas

/-- A step of a job leaves the queue alone. -/
theorem jobStep_queue (job : Job) (stage : JobStage) (s : Studio) :
    ((jobStep job stage).run s).2.queue = s.queue :=
  jobStep_keeps (fun s : Studio => s.queue) (fun _ _ _ => rfl) (fun _ _ => rfl) job
    (.inr fun _ _ => rfl) s

/-- A claim leaves its task no longer pending, when identifiers name one task each. -/
theorem jobStep_claim_settles (job : Job) (s : Studio) (hids : (s.repo.tasks.map (·.id)).Nodup) :
    ∀ t ∈ ((jobStep job .claim).run s).2.repo.tasks, t.id = job.task → t.user = job.user →
      t.status ≠ .pending :=
  transition_settles hids (List.mem_singleton_self _) (by decide)

end Studio

/-! ## Every pending task has a job on its way -/

namespace World

open Repository

variable {e₀ : Entropy} {w w' : World} {a : Action}

/-- The world holds a job for its task: the job is on its way to claim it (its request is
about to queue it, it is queued, or a run holds it and has not tried its claim), or it was
dropped with the queue of the cancelled worker. -/
def Holds (w : World) (job : Job) : Prop :=
  (∃ st ∈ w.requests, job ∈ st.jobs) ∨ job ∈ w.studio.queue ∨ (job, JobStage.claim) ∈ w.runs ∨
    job ∈ w.dropped

/-- Every pending task has a job that the world holds for it, of the task's own user. -/
def Dispatched (w : World) : Prop :=
  ∀ t ∈ w.studio.repo.tasks, t.status = .pending →
    ∃ job, w.Holds job ∧ job.task = t.id ∧ job.user = t.user

/-- No task of the job is pending. -/
def Settled (w : World) (job : Job) : Prop :=
  ∀ t ∈ w.studio.repo.tasks, t.id = job.task → t.user = job.user → t.status ≠ .pending

/-- A step that makes no task pending, and after which every job held before is still held
or has its task settled, keeps every pending task dispatched. -/
theorem Dispatched.of_step (h : w.Dispatched) (hpend : PendingWas w.studio.repo w'.studio.repo)
    (hjobs : ∀ job, w.Holds job → w'.Holds job ∨ w'.Settled job) : w'.Dispatched := by
  intro t ht hp
  obtain ⟨job, hjob, htask, huser⟩ := h t (hpend t ht hp) hp
  rcases hjobs job hjob with hjob' | hsettled
  · exact ⟨job, hjob', htask, huser⟩
  · exact absurd hp (hsettled t ht htask.symm huser.symm)

/-- When a request takes a step, a job held is one of that request's, or is still held, when
the step keeps the queue. -/
theorem Holds.resume {pre post : List RequestStage} {st : RequestStage} {job : Job}
    (hreq : w.requests = pre ++ st :: post) (hjob : w.Holds job)
    (hqueue : ∀ j ∈ w.studio.queue, j ∈ (w.resume pre st post).studio.queue) :
    job ∈ st.jobs ∨ (w.resume pre st post).Holds job := by
  rcases hjob with ⟨st', hst', hjob⟩ | hjob | hjob | hjob
  · rw [hreq, List.mem_append, List.mem_cons] at hst'
    rcases hst' with hst' | rfl | hst'
    · exact .inr (.inl ⟨st', List.mem_append_left _ (List.mem_append_left _ hst'), hjob⟩)
    · exact .inl hjob
    · exact .inr (.inl ⟨st', List.mem_append_right _ hst', hjob⟩)
  · exact .inr (.inr (.inl (hqueue job hjob)))
  · exact .inr (.inr (.inr (.inl hjob)))
  · exact .inr (.inr (.inr (.inr hjob)))

/-- A step of a request with no job to queue that leaves the tasks and the queue alone keeps
every pending task dispatched. -/
theorem Dispatched.resume_of_quiet {pre post : List RequestStage} {st : RequestStage}
    (hw : w.Dispatched) (hreq : w.requests = pre ++ st :: post) (hjobs : st.jobs = [])
    (htasks : (w.resume pre st post).studio.repo.tasks = w.studio.repo.tasks)
    (hqueue : (w.resume pre st post).studio.queue = w.studio.queue) :
    (w.resume pre st post).Dispatched := by
  refine hw.of_step (.of_eq htasks) fun j hj => .inl ?_
  rcases hj.resume hreq (fun j hj => by rw [hqueue]; exact hj) with hj | hj
  · rw [hjobs] at hj
    cases hj
  · exact hj

/-- A request that stores its batch leaves the batch's jobs to queue; one that fails leaves
the tasks as they were. -/
theorem Dispatched.commit {pre post : List RequestStage} {plan : Studio.CreatePlan}
    (hw : w.Dispatched) (hreq : w.requests = pre ++ .commit plan :: post) :
    (w.resume pre (.commit plan) post).Dispatched := by
  have ho := Studio.resumeRequest_commit plan w.studio
  have hqueue := Studio.commitCreate_queue plan w.studio
  rcases hrun : (Studio.commitCreate plan).run.run w.studio with ⟨_ | created, s'⟩
  · rw [hrun] at ho hqueue
    have hs : (w.resume pre (.commit plan) post).studio = s' := congrArg Prod.snd ho
    have htasks : s'.repo.tasks = w.studio.repo.tasks :=
      Studio.commitCreate_fails plan _ w.studio rfl _ s' hrun
    exact hw.resume_of_quiet hreq rfl (by rw [hs, htasks]) (by rw [hs, hqueue])
  · rw [hrun] at ho hqueue
    dsimp only at ho
    have hs : (w.resume pre (.commit plan) post).studio = s' := congrArg Prod.snd ho
    have hreqs : (w.resume pre (.commit plan) post).requests =
        pre ++ [.trigger created.2] ++ post :=
      congrArg (fun o : Option RequestStage × Studio => pre ++ o.1.toList ++ post) ho
    intro t ht hp
    rw [hs] at ht
    rcases Studio.commitCreate_pending plan _ w.studio rfl created s' hrun t ht hp with
      hold | ⟨job, hjob, htask, huser⟩
    · obtain ⟨job, hjob, htask, huser⟩ := hw t hold hp
      rcases hjob.resume hreq (fun j hj => by rw [hs, hqueue]; exact hj) with hjob | hjob
      · cases hjob
      · exact ⟨job, hjob, htask, huser⟩
    · -- a new task's job waits to be queued with the rest of the batch's
      refine ⟨job, .inl ⟨.trigger created.2, ?_, hjob⟩, htask, huser⟩
      rw [hreqs]
      exact List.mem_append_left _ (List.mem_append_right _ (List.mem_singleton_self _))

/-- Queueing a job keeps it on its way; a refused queueing fails its task. -/
theorem Dispatched.trigger {pre post : List RequestStage} {job : Job} {jobs : List Job}
    (hw : w.Dispatched) (hids : (w.studio.repo.tasks.map (·.id)).Nodup)
    (hreq : w.requests = pre ++ .trigger (job :: jobs) :: post) :
    (w.resume pre (.trigger (job :: jobs)) post).Dispatched := by
  -- the request keeps the jobs it has not queued yet
  have hrest : ∀ j ∈ jobs, ∃ st ∈ (w.resume pre (.trigger (job :: jobs)) post).requests,
      j ∈ st.jobs := fun j hj =>
    ⟨.trigger jobs, List.mem_append_left _ (List.mem_append_right _ (List.mem_singleton_self _)), hj⟩
  rcases Studio.enqueue_cases job w.studio with ⟨hrepo, hqueue⟩ | ⟨⟨e, hrepo⟩, hqueue⟩
  · have hrepo' : (w.resume pre (.trigger (job :: jobs)) post).studio.repo = w.studio.repo := hrepo
    have hqueue' : (w.resume pre (.trigger (job :: jobs)) post).studio.queue =
        w.studio.queue ++ [job] := hqueue
    refine hw.of_step (.of_eq (by rw [hrepo'])) fun j hj => .inl ?_
    rcases hj.resume hreq (fun j hj => by rw [hqueue']; exact List.mem_append_left _ hj) with
      hj | hj
    · rcases List.mem_cons.1 hj with rfl | hj
      · exact .inr (.inl (by rw [hqueue']; exact List.mem_append_right _ (List.mem_singleton_self _)))
      · exact .inl (hrest j hj)
    · exact hj
  · have hrepo' : (w.resume pre (.trigger (job :: jobs)) post).studio.repo =
        (RepoCall.transition job.user job.task [.pending, .processing] .error e).apply
          w.studio.repo := hrepo
    have hqueue' : (w.resume pre (.trigger (job :: jobs)) post).studio.queue = w.studio.queue :=
      hqueue
    refine hw.of_step ?_ fun j hj => ?_
    · rw [hrepo']
      refine @RepoCall.pendingWas [] _ ?_ rfl _
      exact Or.inr ⟨rfl, rfl⟩
    · rcases hj.resume hreq (fun j hj => by rw [hqueue']; exact hj) with hj | hj
      · rcases List.mem_cons.1 hj with rfl | hj
        · -- the refused job's task failed
          refine .inr fun t ht => ?_
          rw [hrepo'] at ht
          exact transition_settles hids (by simp) (by decide) t ht
        · exact .inl (.inl (hrest j hj))
      · exact .inl hj

/-- Every later step of a request keeps every pending task dispatched. -/
theorem Dispatched.resume {pre post : List RequestStage} {st : RequestStage} (hw : w.Dispatched)
    (hids : (w.studio.repo.tasks.map (·.id)).Nodup) (hreq : w.requests = pre ++ st :: post) :
    (w.resume pre st post).Dispatched := by
  cases st with
  | commit plan => exact hw.commit hreq
  | trigger jobs =>
    cases jobs with
    | nil =>
      -- the request is done, having queued every job of its batch
      exact hw.resume_of_quiet hreq rfl rfl rfl
    | cons job jobs => exact hw.trigger hids hreq
  | purge keys =>
    cases keys with
    | nil => exact hw.resume_of_quiet hreq rfl rfl rfl
    | cons key keys =>
      -- removing an object leaves the repository and the queue alone
      have hs : (w.resume pre (.purge (key :: keys)) post).studio =
          ((Studio.deleteObject key).run w.studio).2 := rfl
      have hqueue : ((Studio.deleteObject key).run w.studio).2.queue = w.studio.queue :=
        (Studio.Keeps.deleteObject (fun _ _ => rfl) key :
          Studio.Keeps (fun s : Studio => s.queue) _) w.studio
      exact hw.resume_of_quiet hreq rfl (by rw [hs, Studio.deleteObject_repo]) (by rw [hs, hqueue])

/-- A run's step keeps every pending task dispatched: a run about to claim that steps claims
its task. -/
theorem Dispatched.advance {pre post : List (Job × JobStage)} {job : Job} {stage : JobStage}
    (hw : w.Dispatched) (hids : (w.studio.repo.tasks.map (·.id)).Nodup)
    (hruns : w.runs = pre ++ (job, stage) :: post) : (w.advance pre job stage post).Dispatched := by
  refine hw.of_step (Studio.jobStep_pendingWas job stage w.studio) fun j hj => ?_
  rcases hj with hj | hj | hj | hj
  · exact .inl (.inl hj)
  · refine .inl (.inr (.inl ?_))
    show j ∈ ((Studio.jobStep job stage).run w.studio).2.queue
    rw [Studio.jobStep_queue]
    exact hj
  · rw [hruns, List.mem_append, List.mem_cons] at hj
    rcases hj with hj | hj | hj
    · exact .inl (.inr (.inr (.inl (List.mem_append_left _ hj))))
    · -- the run that steps was about to claim, and its claim settles its task
      obtain ⟨rfl, rfl⟩ := Prod.mk.inj hj
      exact .inr (Studio.jobStep_claim_settles j w.studio hids)
    · exact .inl (.inr (.inr (.inl (List.mem_append_right _ (List.mem_cons_of_mem _ hj)))))
  · exact .inl (.inr (.inr (.inr hj)))

/-- Every step of the service keeps every pending task dispatched, when identifiers are drawn
fresh. -/
theorem Step.dispatched (h : Step w a w') (hd : w.studio.repo.Drawn e₀)
    (hfresh : (e₀.drawnUntil w'.studio.repo.entropy).Nodup) (hw : w.Dispatched) :
    w'.Dispatched := by
  -- identifiers name one task each, so a claim or a failure finds the task itself
  have hids : (w.studio.repo.tasks.map (·.id)).Nodup :=
    nodup_taskIds (hd.nodup (h.fresh hd hfresh))
  cases h with
  | send r =>
    refine hw.of_step (Studio.beginRequest_pendingWas r w.studio) fun j hj => .inl ?_
    rcases hj with ⟨st, hst, hj⟩ | hj | hj | hj
    · exact .inl ⟨st, List.mem_append_left _ hst, hj⟩
    · refine .inr (.inl ?_)
      show j ∈ ((Studio.beginRequest r).run w.studio).2.queue
      rw [Studio.beginRequest_queue]
      exact hj
    · exact .inr (.inr (.inl hj))
    · exact .inr (.inr (.inr hj))
  | resume pre post st hreq => exact hw.resume hids hreq
  | take job rest hq =>
    refine hw.of_step (.of_eq rfl) fun j hj => .inl ?_
    rcases hj with hj | hj | hj | hj
    · exact .inl hj
    · rw [hq] at hj
      rcases List.mem_cons.1 hj with rfl | hj
      · exact .inr (.inr (.inl (List.mem_append_right _ (List.mem_singleton_self _))))
      · exact .inr (.inl hj)
    · exact .inr (.inr (.inl (List.mem_append_left _ hj)))
    · exact .inr (.inr (.inr hj))
  | rerun job htaken =>
    refine hw.of_step (.of_eq rfl) fun j hj => .inl ?_
    rcases hj with hj | hj | hj | hj
    · exact .inl hj
    · exact .inr (.inl hj)
    · exact .inr (.inr (.inl (List.mem_append_left _ hj)))
    · exact .inr (.inr (.inr hj))
  | advance pre post job stage hruns => exact hw.advance hids hruns
  | cancelWorker =>
    -- the queued jobs are dropped, and stay held as such
    refine hw.of_step (.of_eq rfl) fun j hj => .inl ?_
    rcases hj with hj | hj | hj | hj
    · exact .inl hj
    · exact .inr (.inr (.inr (List.mem_append_right _ hj)))
    · exact .inr (.inr (.inl hj))
    · exact .inr (.inr (.inr (List.mem_append_left _ hj)))
  | store refusePuts refuseDeletes => exact hw.of_step (.of_eq rfl) fun _ hj => .inl hj
  | wait ms => exact hw.of_step (.of_eq rfl) fun _ hj => .inl hj

/-- Every world the service reaches from a blank studio, with fresh draws, is dispatched. -/
theorem Reaches.dispatched {s₀ : Studio} (hblank : s₀.Blank) (h : Reaches { studio := s₀ } w)
    (hfresh : (s₀.repo.entropy.drawnUntil w.studio.repo.entropy).Nodup) : w.Dispatched := by
  induction h with
  | refl =>
    intro t ht
    rw [hblank.tasks] at ht
    cases ht
  | step hr hs ih =>
    have hd := hr.drawn hblank.drawn
    exact hs.dispatched hd hfresh (ih (hs.fresh hd hfresh))

/-- Only the worker's cancellation drops jobs. -/
theorem Step.dropped_of_ne (h : Step w a w') (ha : a ≠ .cancelWorker) : w'.dropped = w.dropped := by
  cases h with
  | cancelWorker => exact absurd rfl ha
  | _ => rfl

/-- A world whose worker still runs has dropped no job: only the cancellation drops jobs, and
it stops the worker for good. -/
theorem Step.dropped_stopped (h : Step w a w')
    (hw : w.dropped = [] ∨ w.studio.workerRunning = false) :
    w'.dropped = [] ∨ w'.studio.workerRunning = false := by
  by_cases ha : a = .cancelWorker
  · subst ha
    cases h
    exact .inr rfl
  · have hworker : w'.studio.workerRunning = w.studio.workerRunning :=
      h.keeps_of_ne (fun _ _ _ => rfl) (fun _ _ => rfl) (fun _ _ => rfl) (fun _ _ => rfl) ha
    rw [h.dropped_of_ne ha, hworker]
    exact hw

theorem Reaches.dropped_stopped {s₀ : Studio} (h : Reaches { studio := s₀ } w) :
    w.dropped = [] ∨ w.studio.workerRunning = false := by
  induction h with
  | refl => exact .inl rfl
  | step _ hs ih => exact hs.dropped_stopped ih

/-- In every run from a blank studio with fresh draws, a task whose request is done queueing
jobs has finished, is processing, or is pending with a job of it, of its user, in the queue,
held by a run that has not tried its claim, or dropped with the queue when the worker was
cancelled, after which no worker runs. -/
theorem pending_job_held {s₀ : Studio} (hblank : s₀.Blank) (hrun : Reaches { studio := s₀ } w)
    (hfresh : (s₀.repo.entropy.drawnUntil w.studio.repo.entropy).Nodup) :
    ∀ t ∈ w.studio.repo.tasks, (∀ st ∈ w.requests, ∀ job ∈ st.jobs, job.task ≠ t.id) →
      t.status.isTerminal = true ∨ t.status = .processing ∨
        (t.status = .pending ∧ ∃ job, job.task = t.id ∧ job.user = t.user ∧
          (job ∈ w.studio.queue ∨ (job, JobStage.claim) ∈ w.runs ∨
            (job ∈ w.dropped ∧ w.studio.workerRunning = false))) := by
  intro t ht hdone
  have hw := Reaches.dispatched hblank hrun hfresh
  cases hs : t.status with
  | pending =>
    obtain ⟨job, hjob, htask, huser⟩ := hw t ht hs
    refine .inr (.inr ⟨rfl, job, htask, huser, ?_⟩)
    rcases hjob with ⟨st, hst, hj⟩ | hq | hclaim | hdropped
    · exact absurd htask (hdone st hst job hj)
    · exact .inl hq
    · exact .inr (.inl hclaim)
    · -- a dropped job means the worker was cancelled
      refine .inr (.inr ⟨hdropped, hrun.dropped_stopped.resolve_left fun hnil => ?_⟩)
      rw [hnil] at hdropped
      cases hdropped
  | processing => exact .inr (.inl rfl)
  | success => exact .inl rfl
  | error => exact .inl rfl

/-- The one-model studio takes a request for an image of a fox, stores its batch and queues
its job; then its worker is cancelled. The request is done, its one task is pending, and its
job is dropped: in no queue and in no run. -/
theorem Reaches.fox_dropped : ∃ w : World, Reaches { studio := Studio.oneModel } w ∧
    (Studio.oneModel.repo.entropy.drawnUntil w.studio.repo.entropy).Nodup ∧
    w.requests = [] ∧ w.studio.queue = [] ∧ w.runs = [] ∧ w.dropped.length = 1 ∧
    w.studio.repo.tasks.length = 1 ∧ ∀ t ∈ w.studio.repo.tasks, t.status = .pending := by
  refine ⟨_, .step (.step (.step (.step (.step .refl (.send _ (.createImage ⟨1⟩ foxRequest)))
    (.resume_head _ (by decide +kernel))) (.resume_head _ (by decide +kernel)))
    (.resume_head _ (by decide +kernel))) (.cancelWorker _), ?_⟩
  decide +kernel

/-- The one-model studio takes a request for an image of a fox, stores its batch and queues
its job; then its worker is cancelled. The request is done, and its one task is pending with
its job dropped, and no worker runs. -/
theorem pending_job_held_after_cancel : ∃ w : World, Reaches { studio := Studio.oneModel } w ∧
    w.requests.length = 0 ∧ w.studio.repo.tasks.length = 1 ∧ w.dropped.length = 1 ∧
    ∀ t ∈ w.studio.repo.tasks, t.status.isTerminal = true ∨ t.status = .processing ∨
      (t.status = .pending ∧ ∃ job, job.task = t.id ∧ job.user = t.user ∧
        (job ∈ w.studio.queue ∨ (job, JobStage.claim) ∈ w.runs ∨
          (job ∈ w.dropped ∧ w.studio.workerRunning = false))) := by
  obtain ⟨w, hrun, hfresh, hreq, -, -, hdropped, hlen, -⟩ := Reaches.fox_dropped
  refine ⟨w, hrun, by rw [hreq]; rfl, hlen, hdropped, fun t ht =>
    pending_job_held Studio.oneModel_blank hrun hfresh t ht ?_⟩
  rw [hreq]
  intro st hst
  cases hst

/-- Once its request is done with it, every task has finished, is processing, or is pending
with a job of it on its way to claim it, in the queue or held by a run that has not tried its
claim: at every point of every run from a blank studio that draws fresh identifiers. -/
def PendingOnItsWay : Prop :=
  ∀ (s₀ : Studio) (w : World), s₀.Blank → Reaches { studio := s₀ } w →
    (s₀.repo.entropy.drawnUntil w.studio.repo.entropy).Nodup →
    ∀ t ∈ w.studio.repo.tasks, (∀ st ∈ w.requests, ∀ job ∈ st.jobs, job.task ≠ t.id) →
      t.status.isTerminal = true ∨ t.status = .processing ∨
        (t.status = .pending ∧ ∃ job, job.task = t.id ∧ job.user = t.user ∧
          (job ∈ w.studio.queue ∨ (job, JobStage.claim) ∈ w.runs))

/-- Cancelling the worker drops the jobs in its queue and leaves their tasks pending: the
one-model studio queues the job of an image of a fox, and its worker is cancelled before
taking it. The request is done, and the fox's task is pending with no job anywhere. -/
theorem not_pendingOnItsWay : ¬ PendingOnItsWay := by
  intro h
  obtain ⟨w, hrun, hfresh, hreq, hqueue, hruns, -, hlen, hpending⟩ := Reaches.fox_dropped
  obtain ⟨t, ht⟩ := List.exists_mem_of_length_pos (by rw [hlen]; exact Nat.one_pos)
  have hpend := hpending t ht
  have hdone : ∀ st ∈ w.requests, ∀ job ∈ st.jobs, job.task ≠ t.id := by
    rw [hreq]
    intro st hst
    cases hst
  rcases h _ w Studio.oneModel_blank hrun hfresh t ht hdone with hterm | hproc | ⟨-, job, -, -, hjob⟩
  · rw [hpend] at hterm
    cases hterm
  · rw [hpend] at hproc
    cases hproc
  · rw [hqueue, hruns] at hjob
    simp at hjob

end World

end ImageStudio
