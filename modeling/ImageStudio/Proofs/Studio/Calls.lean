import ImageStudio.Proofs.Repository.Runs
import ImageStudio.Proofs.Monad
import ImageStudio.Studio.Runs

/-!
# Proofs · Studio · Calls: the repository calls of the service's programs

The service changes its repository only through the repository's operations, its own clock
readings and its own draws. `Studio.Calls P m` says so of a program `m`: run from any
studio, it changes the repository by a run of calls in `P` (`Repository.Runs`), may draw
from the seed source, and changes nothing else. It holds of `pure` and `get`, of a
repository operation whose call is in `P`, and of a bind of such programs, in `StateM` and
in `Serve` alike; a program built from these is checked one bind at a time.

The calls the service makes are `RepoCall.ByService`: it claims a task by moving it from
pending to processing, fails a task in flight, and completes a generation only from the job
of that generation. The requests that make one or two calls are `Calls` programs with no
job (`planCreate_calls` and the rest).
-/

namespace ImageStudio

/-- The calls the service makes while the jobs `jobs` run: a claim moves a pending task to
processing, a failure moves a task in flight to error, and a generation is completed only
by a job of it. Any other call may come with any arguments. -/
def RepoCall.ByService (jobs : List Job) : RepoCall → Prop
  | .transition _ _ allowed target _ =>
    (allowed = [.pending] ∧ target = .processing) ∨
      (allowed = [.pending, .processing] ∧ target = .error)
  | .completeGeneration user gen task _ _ =>
    ∃ job ∈ jobs, job.user = user ∧ job.generation = gen ∧ job.task = task
  | _ => True

/-- A call the service makes while some jobs run it makes while more jobs run. -/
theorem RepoCall.ByService.of_subset {jobs jobs' : List Job} {c : RepoCall} (h : c.ByService jobs)
    (hsub : ∀ job ∈ jobs, job ∈ jobs') : c.ByService jobs' := by
  cases c with
  | completeGeneration user gen task =>
    obtain ⟨job, hjob, hrest⟩ := h
    exact ⟨job, hsub job hjob, hrest⟩
  | _ => exact h

/-- A call the service makes with no job running is one it makes with any jobs running. -/
theorem RepoCall.ByService.mono {jobs : List Job} {c : RepoCall} (h : c.ByService []) :
    c.ByService jobs :=
  h.of_subset fun _ h => absurd h List.not_mem_nil

/-- The calls a job makes: it claims or fails its own task, completes its own generation,
gives its topic a cover, and lets tasks time out while the object store is slow. -/
def RepoCall.OfJob (job : Job) : RepoCall → Prop
  | .transition user task allowed target _ =>
    user = job.user ∧ task = job.task ∧
      ((allowed = [.pending] ∧ target = .processing) ∨
        (allowed = [.pending, .processing] ∧ target = .error))
  | .completeGeneration user gen task _ _ =>
    user = job.user ∧ gen = job.generation ∧ task = job.task
  | .setCoverIfEmpty .. | .failTimedOut .. => True
  | _ => False

/-- A call of a job is a call the service makes while the job runs. -/
theorem RepoCall.OfJob.byService {job : Job} {c : RepoCall} (h : c.OfJob job) :
    c.ByService [job] := by
  cases c with
  | transition user task allowed target e => exact h.2.2
  | completeGeneration user gen task asset file =>
    exact ⟨job, List.mem_singleton_self _, h.1.symm, h.2.1.symm, h.2.2.symm⟩
  | _ => trivial

/-- The calls a request makes before it first waits: it reads, creates and renames topics,
lets one task time out, and deletes rows. -/
def RepoCall.ByRequest : RepoCall → Prop
  | .getTopic .. | .createTopic .. | .updateTopic .. | .failTimedOut .. | .deleteGeneration ..
  | .deleteBatch .. | .deleteTopic .. => True
  | _ => False

/-- A call a request makes before it waits is a call the service makes. -/
theorem RepoCall.ByRequest.byService {c : RepoCall} (h : c.ByRequest) : c.ByService [] := by
  cases c with
  | transition => exact h.elim
  | completeGeneration => exact h.elim
  | _ => trivial

namespace Studio

/-- A program that changes the repository by a run of calls in `P`, may draw seeds, and
changes nothing else. -/
def Calls (P : RepoCall → Prop) {α : Type} (m : StateM Studio α) : Prop :=
  ∀ s, ∃ r', Repository.Runs P s.repo r' ∧ ∃ seeds, (m.run s).2 = { s with repo := r', seeds }

namespace Calls

variable {P : RepoCall → Prop} {α β : Type}

theorem pure (a : α) : Calls P (Pure.pure a) := fun s => ⟨s.repo, .refl _, s.seeds, rfl⟩

theorem get : Calls P (MonadState.get : StateM Studio Studio) :=
  fun s => ⟨s.repo, .refl _, s.seeds, rfl⟩

theorem bind {m : StateM Studio α} {f : α → StateM Studio β} (hm : Calls P m)
    (hf : ∀ a, Calls P (f a)) : Calls P (m >>= f) := by
  intro s
  obtain ⟨r₁, h₁, seeds₁, hs₁⟩ := hm s
  obtain ⟨r₂, h₂, seeds₂, hs₂⟩ := hf (m.run s).1 (m.run s).2
  rw [hs₁] at h₂ hs₂
  exact ⟨r₂, h₁.trans h₂, seeds₂, by rw [Studio.run_bind, hs₁, hs₂]⟩

theorem map {m : StateM Studio α} (hm : Calls P m) (g : α → β) : Calls P (g <$> m) := by
  intro s
  obtain ⟨r', h, seeds, hs⟩ := hm s
  exact ⟨r', h, seeds, by rw [Studio.run_map, hs]⟩

/-- A repository operation, run as the call `c`. -/
theorem runRepo {m : Repo α} (c : RepoCall) (hc : P c)
    (hm : ∀ r, (Repository.settle m r).2 = c.apply r) : Calls P (Studio.runRepo m) :=
  fun s => ⟨c.apply s.repo, .single c hc, s.seeds, by rw [Studio.runRepo_run, hm]⟩

theorem tryRepo {m : Repo α} (c : RepoCall) (hc : P c)
    (hm : ∀ r, (Repository.settle m r).2 = c.apply r) : Calls P (Studio.tryRepo m) :=
  fun s => ⟨c.apply s.repo, .single c hc, s.seeds, by rw [Studio.tryRepo_run, hm]⟩

theorem forM {l : List β} {f : β → StateM Studio PUnit} (h : ∀ b ∈ l, Calls P (f b)) :
    Calls P (l.forM f) := by
  induction l with
  | nil => exact pure _
  | cons b l ih =>
    show Calls P (f b >>= fun _ => l.forM f)
    exact bind (h b (List.mem_cons_self ..)) fun _ => ih fun b' hb' => h b' (List.mem_cons_of_mem _ hb')

theorem freshId : Calls P Studio.freshId := by
  intro s
  refine ⟨{ s.repo with entropy := s.repo.entropy.skip 1 }, .draw (.refl _), s.seeds, ?_⟩
  rfl

theorem now : Calls P Studio.now :=
  fun s => ⟨{ s.repo with clock := s.repo.clock.addMillis 1 }, .tick _ (.refl _), s.seeds, rfl⟩

/-! ### Requests, which may fail -/

theorem epure (a : α) : Calls P (Pure.pure a : Serve α).run := pure _

theorem ethrow (e : PortError) : Calls P (throw e : Serve α).run := pure _

theorem eget : Calls P (MonadState.get : Serve Studio).run := fun s => ⟨s.repo, .refl _, s.seeds, rfl⟩

theorem ebind {x : Serve α} {f : α → Serve β} (hx : Calls P x.run) (hf : ∀ a, Calls P (f a).run) :
    Calls P (x >>= f).run := by
  rw [ExceptT.run_bind]
  refine hx.bind fun e => ?_
  cases e with
  | ok a => exact hf a
  | error e => exact pure _

theorem emap {x : Serve α} (hx : Calls P x.run) (g : α → β) : Calls P (g <$> x).run := by
  rw [ExceptT.run_map]
  exact hx.map _

theorem elift {m : StateM Studio α} (hm : Calls P m) : Calls P (liftM m : Serve α).run :=
  hm.map _

/-- A failure ends the request: nothing after it runs. -/
theorem ethrow_bind (e : PortError) (f : α → Serve β) : Calls P (throw e >>= f).run := pure _

theorem inRepo {m : Repo α} (c : RepoCall) (hc : P c)
    (hm : ∀ r, (Repository.settle m r).2 = c.apply r) : Calls P (Studio.inRepo m).run :=
  runRepo c hc hm

end Calls

/-- A program that changes the repository only by a run of calls in `P`, whatever else it
changes. -/
def Through (P : RepoCall → Prop) {α : Type} (m : StateM Studio α) : Prop :=
  ∀ s, Repository.Runs P s.repo (m.run s).2.repo

namespace Through

variable {P : RepoCall → Prop} {α β : Type}

theorem of_calls {m : StateM Studio α} (h : Calls P m) : Through P m := by
  intro s
  obtain ⟨r', hr, seeds, hs⟩ := h s
  rw [hs]
  exact hr

/-- A program that leaves the repository as it is. -/
theorem of_repo {m : StateM Studio α} (h : ∀ s, (m.run s).2.repo = s.repo) : Through P m :=
  fun s => h s ▸ .refl _

theorem bind {m : StateM Studio α} {f : α → StateM Studio β} (hm : Through P m)
    (hf : ∀ a, Through P (f a)) : Through P (m >>= f) := by
  intro s
  rw [Studio.run_bind]
  exact (hm s).trans (hf _ _)

theorem mono {Q : RepoCall → Prop} {m : StateM Studio α} (hPQ : ∀ c, P c → Q c)
    (h : Through P m) : Through Q m :=
  fun s => (h s).mono hPQ

end Through

end Studio

end ImageStudio

namespace ImageStudio
namespace Studio

open Calls in
/-- Checking a create request reads the caller's topic or makes one, titled from the prompt
of the checked parameters. -/
theorem planCreate_calls_of {P : RepoCall → Prop} (user : Uuid) (req : CreateRequest)
    (hget : ∀ id, P (.getTopic user id))
    (hcreate : ∀ (titles : Option TitleService) (schema : ParamsSchema) (params : ImageParams),
      schema.check req.params = .ok params → P (.createTopic user (topicTitle titles params.prompt))) :
    Calls P (planCreate user req).run := by
  unfold planCreate
  refine ebind eget fun s => ?_
  split
  · -- the model is in the catalog
    dsimp only
    split
    · exact ethrow_bind _ _
    · split
      · next params hcheck =>
        rw [pure_bind]
        split
        · exact ethrow_bind _ _
        · -- the topic: the caller's, or a new one
          split
          · exact ebind (emap (Calls.inRepo (.getTopic user _) (hget _) fun _ => rfl) _) fun _ => epure _
          · exact ebind (emap (Calls.inRepo (.createTopic user _) (hcreate _ _ _ hcheck)
              fun _ => rfl) _) fun _ => epure _
      · exact ethrow_bind _ _
  · exact ethrow _

theorem planCreate_calls {P : RepoCall → Prop} (user : Uuid) (req : CreateRequest)
    (hget : ∀ id, P (.getTopic user id)) (hcreate : ∀ title, P (.createTopic user title)) :
    Calls P (planCreate user req).run :=
  planCreate_calls_of user req hget fun _ _ _ _ => hcreate _

theorem drawSeeds_calls {P : RepoCall → Prop} (count : Nat) (first : Option Int) :
    Calls P (drawSeeds count first) := by
  intro s
  refine ⟨s.repo, .refl _, (uniqueSeeds count first s.seeds).2, ?_⟩
  rfl

open Calls in
theorem commitCreate_calls {P : RepoCall → Prop} (plan : CreatePlan)
    (hbatch : ∀ nb, P (.createBatch plan.user nb)) : Calls P (commitCreate plan).run := by
  unfold commitCreate
  dsimp only
  -- the seeds, drawn when the model takes seeds, then the batch, then the fetch is read
  split
  · refine ebind (emap (elift (drawSeeds_calls _ _)) _) fun _ => ?_
    exact ebind (Calls.inRepo (.createBatch plan.user _) (hbatch _) fun _ => rfl) fun _ =>
      ebind eget fun _ => epure _
  · refine ebind (epure _) fun _ => ?_
    exact ebind (Calls.inRepo (.createBatch plan.user _) (hbatch _) fun _ => rfl) fun _ =>
      ebind eget fun _ => epure _

open Calls in
theorem generationStatus_calls {P : RepoCall → Prop} (user gen task : Uuid)
    (hsweep : ∀ ms, P (.failTimedOut user [task] ms)) :
    Calls P (generationStatus user gen task).run := by
  unfold generationStatus sweepTask readStatus
  refine ebind (ebind eget fun s => ?_) fun _ => ?_
  · dsimp only
    split
    · exact ethrow_bind _ _
    · exact ebind (Calls.inRepo (.failTimedOut user [task] _) (hsweep _) fun _ => rfl) fun _ => epure _
  · refine ebind eget fun s => ?_
    dsimp only
    split
    · split
      · split
        · exact epure _
        · exact ethrow _
      · exact epure _
      · exact epure _
    · exact ethrow _

/-- A timeout sweep of one task fails, writing nothing, when the configured timeout is out of
range, and otherwise makes the sweep call. -/
theorem sweepTask_run (user task : Uuid) (s : Studio) :
    (∃ e, (sweepTask user task).run.run s = (.error e, s)) ∨
      ∃ timeoutMs, (sweepTask user task).run.run s =
        (.ok (), { s with repo := (RepoCall.failTimedOut user [task] timeoutMs).apply s.repo }) := by
  unfold sweepTask
  rw [Serve.run_get_bind]
  dsimp only
  split_ifs
  · exact .inl ⟨_, rfl⟩
  · obtain ⟨n, hrun⟩ := Repository.run_failTimedOut user [task]
      (s.settings.taskTimeoutSecs * 1000) s.repo
    rw [Serve.run_inRepo_bind hrun, Serve.run_pure]
    exact .inr ⟨_, by rw [RepoCall.apply, Repository.settle_of_ok hrun]⟩

open Calls in
theorem dropGeneration_calls {P : RepoCall → Prop} (user id : Uuid)
    (hdelete : P (.deleteGeneration user id)) : Calls P (dropGeneration user id).run := by
  unfold dropGeneration
  refine ebind (Calls.inRepo (.deleteGeneration user id) hdelete fun _ => rfl) fun d => ?_
  split
  · exact epure _
  · exact epure _

open Calls in
theorem dropBatch_calls {P : RepoCall → Prop} (user id : Uuid)
    (hdelete : P (.deleteBatch user id)) : Calls P (dropBatch user id).run := by
  unfold dropBatch
  refine ebind (Calls.inRepo (.deleteBatch user id) hdelete fun _ => rfl) fun d => ?_
  split
  · exact epure _
  · exact ethrow _

open Calls in
/-- Creating a topic makes the call only with a title that trims to something. -/
theorem createTopic_calls_of {P : RepoCall → Prop} (user : Uuid) (title : String)
    (hcreate : (Text.trim title).isEmpty = false → P (.createTopic user (Text.trim title))) :
    Calls P (createTopic user title).run := by
  unfold createTopic
  dsimp only
  split
  · exact ethrow_bind _ _
  · next hfull => exact Calls.inRepo (.createTopic user _) (hcreate (by simpa using hfull)) fun _ => rfl

theorem createTopic_calls {P : RepoCall → Prop} (user : Uuid) (title : String)
    (hcreate : ∀ title, P (.createTopic user title)) : Calls P (createTopic user title).run :=
  createTopic_calls_of user title fun _ => hcreate _

open Calls in
/-- Updating a topic makes the call only when no new title is blank. -/
theorem updateTopic_calls_of {P : RepoCall → Prop} (user id : Uuid) (title cover : Option String)
    (hupdate : title.any Text.isBlankText = false → P (.updateTopic user id title cover)) :
    Calls P (updateTopic user id title cover).run := by
  unfold updateTopic
  dsimp only
  split
  · exact ethrow_bind _ _
  · next hfull =>
    exact Calls.inRepo (.updateTopic user id title cover) (hupdate (by simpa using hfull)) fun _ => rfl

theorem updateTopic_calls {P : RepoCall → Prop} (user id : Uuid) (title cover : Option String)
    (hupdate : P (.updateTopic user id title cover)) : Calls P (updateTopic user id title cover).run :=
  updateTopic_calls_of user id title cover fun _ => hupdate

/-! ### The object store, the queue and the steps of a job -/

open Calls in
theorem expireAll_calls {P : RepoCall → Prop} (hsweep : ∀ user id, P (.failTimedOut user [id] 0)) :
    Calls P expireAll := by
  unfold expireAll
  refine Calls.bind Calls.get fun s => Calls.forM fun t _ => ?_
  exact Calls.bind (Calls.tryRepo (.failTimedOut t.user [t.id] 0) (hsweep _ _) fun _ => rfl)
    fun _ => Calls.pure _

theorem putObject_through {P : RepoCall → Prop} (hsweep : ∀ user id, P (.failTimedOut user [id] 0))
    (key : String) (blob : Blob) (contentType : String) :
    Through P (putObject key blob contentType) := by
  unfold putObject
  refine Through.bind (.of_calls Calls.get) fun x => ?_
  -- a slow store first lets every task in flight time out; the put itself leaves the
  -- repository alone
  split
  · refine Through.bind (.of_calls (expireAll_calls hsweep)) fun _ => .of_repo fun s => ?_
    simp only [Studio.run_get_bind]
    split <;> rfl
  · refine .of_repo fun s => ?_
    simp only [Studio.run_get_bind]
    split <;> rfl

theorem deleteObject_repo (key : String) (s : Studio) : ((deleteObject key).run s).2.repo = s.repo := by
  simp only [deleteObject, Studio.run_get_bind]
  split <;> rfl

theorem enqueue_through {P : RepoCall → Prop} (job : Job)
    (hfail : ∀ e, P (.transition job.user job.task [.pending, .processing] .error (some e))) :
    Through P (enqueue job) := by
  intro s
  simp only [enqueue, Studio.run_get_bind]
  split
  · exact .refl _
  · exact .single (.transition job.user job.task _ _ _) (hfail _)

theorem uploadKeys_calls {P : RepoCall → Prop} (p : Processed) : Calls P (uploadKeys p) := by
  unfold uploadKeys
  refine Calls.bind Calls.freshId fun _ => Calls.bind Calls.now fun _ => ?_
  split
  · exact Calls.pure _
  · exact Calls.pure _

/-! ### Views a program leaves alone -/

/-- A program that leaves a view of the studio alone. -/
def Keeps {β α : Type} (view : Studio → β) (m : StateM Studio α) : Prop :=
  ∀ s, view (m.run s).2 = view s

namespace Keeps

variable {α β γ : Type} {view : Studio → β}

theorem bind {m : StateM Studio α} {f : α → StateM Studio γ} (hm : Keeps view m)
    (hf : ∀ a, Keeps view (f a)) : Keeps view (m >>= f) := by
  intro s
  rw [Studio.run_bind, hf, hm]

theorem pure (a : α) : Keeps view (Pure.pure a : StateM Studio α) := fun _ => rfl

/-- A program that changes only the repository and the seed source keeps every view that
reads neither. -/
theorem of_calls {P : RepoCall → Prop} {m : StateM Studio α} (h : Calls P m)
    (hview : ∀ s r seeds, view { s with repo := r, seeds } = view s) : Keeps view m := by
  intro s
  obtain ⟨r', -, seeds, hs⟩ := h s
  rw [hs, hview]

/-- A put changes the object store, and the repository through a slow store's timeouts,
only. -/
theorem putObject (hview : ∀ s r seeds, view { s with repo := r, seeds } = view s)
    (hbucket : ∀ s b, view { s with bucket := b } = view s) (key : String) (blob : Blob)
    (contentType : String) : Keeps view (Studio.putObject key blob contentType) := by
  unfold Studio.putObject
  refine bind (fun _ => rfl) fun s => ?_
  -- after the timeouts a slow store lets happen, the put itself changes the store only
  split
  · refine bind (of_calls (P := fun _ => True) (expireAll_calls fun _ _ => trivial) hview)
      fun _ s => ?_
    simp only [Studio.run_get_bind]
    split
    · exact hbucket s _
    · rfl
  · intro s
    simp only [Studio.run_get_bind]
    split
    · exact hbucket s _
    · rfl

/-- A deletion changes the object store only. -/
theorem deleteObject (hbucket : ∀ s b, view { s with bucket := b } = view s) (key : String) :
    Keeps view (Studio.deleteObject key) := by
  intro s
  simp only [Studio.deleteObject, Studio.run_get_bind]
  split
  · exact hbucket s _
  · rfl

end Keeps

/-- A job step makes only these calls: it claims its task, fails it, completes its
generation, covers its topic, and lets tasks time out while the object store is slow. -/
theorem jobStep_through_of {P : RepoCall → Prop} (job : Job)
    (hclaim : P (.transition job.user job.task [.pending] .processing none))
    (hfail : ∀ e, P (.transition job.user job.task [.pending, .processing] .error (some e)))
    (hcomplete : ∀ asset file, P (.completeGeneration job.user job.generation job.task asset file))
    (hcover : ∀ key, P (.setCoverIfEmpty job.user job.topic key))
    (hsweep : ∀ user id, P (.failTimedOut user [id] 0)) (stage : JobStage) :
    Through P (jobStep job stage) := by
  cases stage with
  | claim =>
    refine .bind (.of_calls (Calls.tryRepo _ hclaim fun _ => rfl)) fun _ => .of_calls (Calls.pure _)
  | call =>
    refine .of_repo fun s => ?_
    simp only [jobStep, Studio.run_get_bind]
    split
    · rfl
    · simp only [Studio.run_bind, Studio.run_modify]
      split
      · rfl
      · split <;> (try split) <;> rfl
  | loaded image source =>
    refine .of_repo fun s => ?_
    simp only [jobStep]
    split
    · rfl
    · simp only [Studio.run_get_bind]
      split <;> rfl
  | upload image p =>
    refine .bind (.of_calls (uploadKeys_calls p)) fun keys => ?_
    refine .bind (putObject_through hsweep _ _ _) fun raw => ?_
    split
    · exact .of_calls (Calls.pure _)
    · exact .of_calls (Calls.pure _)
  | putThumb image p keys width height raw =>
    exact .bind (putObject_through hsweep _ _ _) fun _ => .of_calls (Calls.pure _)
  | complete image p imageKey thumbKey uploaded =>
    refine .bind (.of_calls (Calls.runRepo _ (hcomplete _ _) fun _ => rfl)) fun completed => ?_
    split
    · exact .of_calls (Calls.pure _)
    · exact .of_calls (Calls.pure _)
  | discard keys next =>
    cases keys with
    | nil => exact .of_calls (Calls.pure _)
    | cons key keys =>
      exact .bind (.of_repo (deleteObject_repo key)) fun _ => .of_calls (Calls.pure _)
  | fail e =>
    refine .bind (.of_calls (Calls.bind (Calls.tryRepo _ (hfail _) fun _ => rfl) fun _ => Calls.pure _))
      fun _ => .of_calls (Calls.pure _)
  | cover key =>
    exact .bind (.of_calls (Calls.tryRepo _ (hcover key) fun _ => rfl)) fun _ => .of_calls (Calls.pure _)
  | done => exact .of_calls (Calls.pure _)

/-- A job step makes only the calls of its job. -/
theorem jobStep_through (job : Job) (stage : JobStage) :
    Through (RepoCall.OfJob job) (jobStep job stage) :=
  jobStep_through_of job ⟨rfl, rfl, .inl ⟨rfl, rfl⟩⟩ (fun _ => ⟨rfl, rfl, .inr ⟨rfl, rfl⟩⟩)
    (fun _ _ => ⟨rfl, rfl, rfl⟩) (fun _ => trivial) (fun _ _ => trivial) stage

/-- A job's step keeps every view that reads neither the repository, the seed source nor the
object store, and, unless the job asks its provider, the log of provider requests. -/
theorem jobStep_keeps {β : Type} (view : Studio → β)
    (hview : ∀ s r seeds, view { s with repo := r, seeds } = view s)
    (hbucket : ∀ s b, view { s with bucket := b } = view s) (job : Job) {stage : JobStage}
    (hcall : stage.isCall = false ∨ ∀ s calls, view { s with calls } = view s) :
    Keeps view (jobStep job stage) := by
  cases stage with
  | claim =>
    exact .of_calls (Calls.bind (Calls.tryRepo (P := RepoCall.ByService [job])
      (.transition job.user job.task _ _ _) (Or.inl ⟨rfl, rfl⟩) fun _ => rfl)
      fun _ => Calls.pure _) hview
  | call =>
    rcases hcall with h | hcalls
    · cases h
    · -- the request is logged, and the rest only reads
      refine Keeps.bind (fun _ => rfl) fun s => ?_
      split
      · exact Keeps.pure _
      · refine Keeps.bind (fun s => hcalls s _) fun _ => ?_
        split
        · exact Keeps.pure _
        · split
          · exact Keeps.pure _
          · split
            · exact Keeps.pure _
            · exact Keeps.pure _
  | loaded image source =>
    intro s
    simp only [jobStep]
    split
    · rfl
    · simp only [Studio.run_get_bind]
      split <;> rfl
  | upload image p =>
    refine Keeps.bind (.of_calls (uploadKeys_calls (P := fun _ => True) p) hview) fun keys =>
      Keeps.bind (.putObject hview hbucket _ _ _) fun raw => ?_
    split
    · exact Keeps.pure _
    · exact Keeps.pure _
  | putThumb image p keys width height raw =>
    exact Keeps.bind (.putObject hview hbucket _ _ _) fun _ => Keeps.pure _
  | complete image p imageKey thumbKey uploaded =>
    refine Keeps.bind (.of_calls (Calls.runRepo (P := RepoCall.ByService [job])
      (.completeGeneration job.user job.generation job.task _ _)
      ⟨job, List.mem_singleton_self _, rfl, rfl, rfl⟩ fun _ => rfl) hview) fun completed => ?_
    split
    · exact Keeps.pure _
    · exact Keeps.pure _
  | discard keys next =>
    cases keys with
    | nil => exact Keeps.pure _
    | cons key keys => exact Keeps.bind (.deleteObject hbucket key) fun _ => Keeps.pure _
  | fail e =>
    exact .of_calls (Calls.bind (Calls.bind (Calls.tryRepo (P := RepoCall.ByService [job])
      (.transition job.user job.task _ _ _) (Or.inr ⟨rfl, rfl⟩) fun _ => rfl)
      fun _ => Calls.pure _) fun _ => Calls.pure _) hview
  | cover key =>
    exact .of_calls (Calls.bind (Calls.tryRepo (P := RepoCall.ByService [job])
      (.setCoverIfEmpty job.user job.topic key) trivial fun _ => rfl) fun _ => Calls.pure _) hview
  | done => exact Keeps.pure _

/-! ### Requests and the steps of a run -/

open Calls in
theorem beginRequest_calls (r : Request) : Calls RepoCall.ByRequest (beginRequest r) := by
  cases r with
  | createImage user req =>
    exact (planCreate_calls user req (fun _ => trivial) fun _ => trivial).bind fun e => by
      cases e <;> exact Calls.pure _
  | status user gen task =>
    exact (generationStatus_calls user gen task fun _ => trivial).bind fun _ => Calls.pure _
  | deleteGeneration user id =>
    exact (dropGeneration_calls user id trivial).bind fun e => by cases e <;> exact Calls.pure _
  | deleteBatch user id =>
    exact (dropBatch_calls user id trivial).bind fun e => by cases e <;> exact Calls.pure _
  | deleteTopic user id =>
    exact (Calls.inRepo (.deleteTopic user id) trivial fun _ => rfl).bind fun e => by
      cases e <;> exact Calls.pure _
  | createTopic user title =>
    exact (createTopic_calls user title fun _ => trivial).bind fun _ => Calls.pure _
  | updateTopic user id title cover =>
    exact (updateTopic_calls user id title cover trivial).bind fun _ => Calls.pure _

/-- The later steps of a request store its batch, fail the tasks it cannot queue, and
remove stored objects. -/
theorem resumeRequest_through_of {P : RepoCall → Prop}
    (hbatch : ∀ user nb, P (.createBatch user nb))
    (hfail : ∀ user task e, P (.transition user task [.pending, .processing] .error (some e)))
    (st : RequestStage) : Through P (resumeRequest st) := by
  cases st with
  | commit plan =>
    exact .of_calls ((commitCreate_calls plan fun _ => hbatch _ _).bind fun e => by
      cases e <;> exact Calls.pure _)
  | trigger jobs =>
    cases jobs with
    | nil => exact .of_calls (Calls.pure _)
    | cons job jobs =>
      exact .bind (enqueue_through job fun _ => hfail _ _ _) fun _ => .of_calls (Calls.pure _)
  | purge keys =>
    cases keys with
    | nil => exact .of_calls (Calls.pure _)
    | cons key keys =>
      exact .bind (.of_repo (deleteObject_repo key)) fun _ => .of_calls (Calls.pure _)

theorem resumeRequest_through (st : RequestStage) :
    Through (RepoCall.ByService []) (resumeRequest st) :=
  resumeRequest_through_of (fun _ _ => trivial) (fun _ _ _ => Or.inr ⟨rfl, rfl⟩) st

end Studio

/-- Every step of the service changes the repository by calls the service makes while the
runs of the world are in flight, clock readings and draws. -/
theorem World.Step.repo_runs {w w' : World} {a : World.Action} (h : World.Step w a w') :
    Repository.Runs (RepoCall.ByService (w.runs.map (·.1))) w.studio.repo w'.studio.repo := by
  cases h with
  | send r =>
    exact (Studio.Through.of_calls (Studio.beginRequest_calls r) w.studio).mono
      fun _ hc => hc.byService.mono
  | resume pre post st _ =>
    exact (Studio.resumeRequest_through st w.studio).mono fun _ hc => RepoCall.ByService.mono hc
  | take => exact .refl _
  | rerun => exact .refl _
  | advance pre post job stage hruns =>
    refine (Studio.jobStep_through job stage w.studio).mono fun _ hc =>
      RepoCall.ByService.of_subset hc.byService ?_
    intro j hj
    rw [List.mem_singleton] at hj
    rw [hj, hruns]
    exact List.mem_map_of_mem (List.mem_append_right _ (List.mem_cons_self ..))
  | cancelWorker => exact .refl _
  | store => exact .refl _
  | wait ms => exact .tick _ (.refl _)

/-- A blank studio owes none of its rows to its source. -/
theorem Studio.Blank.drawn {s : Studio} (h : s.Blank) : s.repo.Drawn s.repo.entropy := by
  refine ⟨0, rfl, ?_⟩
  rw [Repository.rowIds, h.topics, h.batches, h.generations, h.tasks, h.files]
  exact List.Subperm.refl []

namespace World

variable {e₀ : Entropy} {w₀ w w' : World} {a : Action}

/-- Along a step the rows stay named by what the source drew. -/
theorem Step.drawn (h : Step w a w') (hw : w.studio.repo.Drawn e₀) :
    w'.studio.repo.Drawn e₀ :=
  h.repo_runs.drawn hw

/-- A step only moves the source on: what it drew until the step's end includes what it drew
until the step's start. -/
theorem Step.fresh (h : Step w a w') (hw : w.studio.repo.Drawn e₀)
    (hfresh : (e₀.drawnUntil w'.studio.repo.entropy).Nodup) :
    (e₀.drawnUntil w.studio.repo.entropy).Nodup := by
  obtain ⟨j, hj, -⟩ := h.repo_runs.draws
  exact hw.fresh_of_skip hj hfresh

theorem Reaches.trans {w₁ w₂ : World} (h₁ : Reaches w₀ w₁) (h₂ : Reaches w₁ w₂) :
    Reaches w₀ w₂ := by
  induction h₂ with
  | refl => exact h₁
  | step _ hs ih => exact .step ih hs

theorem Reaches.drawn (h : Reaches w₀ w) (hw₀ : w₀.studio.repo.Drawn e₀) :
    w.studio.repo.Drawn e₀ := by
  induction h with
  | refl => exact hw₀
  | step _ hs ih => exact hs.drawn ih

theorem Reaches.fresh (h : Reaches w₀ w) (hw₀ : w₀.studio.repo.Drawn e₀)
    (hfresh : (e₀.drawnUntil w.studio.repo.entropy).Nodup) :
    (e₀.drawnUntil w₀.studio.repo.entropy).Nodup := by
  induction h with
  | refl => exact hfresh
  | step hr hs ih => exact ih (hs.fresh (hr.drawn hw₀) hfresh)

end World

/-! ### What no step changes -/

namespace Studio

/-- Queueing a job changes the queue, and the repository when the job is refused, only. -/
theorem Keeps.enqueue {β : Type} {view : Studio → β}
    (hview : ∀ s r seeds, view { s with repo := r, seeds } = view s)
    (hqueue : ∀ s q, view { s with queue := q } = view s) (job : Job) :
    Keeps view (Studio.enqueue job) := by
  intro s
  simp only [Studio.enqueue, Studio.run_get_bind]
  split
  · exact hqueue s _
  · exact Keeps.of_calls (P := fun _ => True)
      (Calls.bind (Calls.tryRepo (.transition job.user job.task _ _ _) trivial fun _ => rfl)
        fun _ => Calls.pure _) hview s

end Studio

namespace World

section Keeps

/- A view of the studio that reads neither the repository, the seed source, the object store,
the queue nor the log of provider requests. -/
variable {β : Type} {view : Studio → β}
  (hview : ∀ s r seeds, view { s with repo := r, seeds } = view s)
  (hbucket : ∀ s b, view { s with bucket := b } = view s)
  (hqueue : ∀ s q, view { s with queue := q } = view s)
  (hcalls : ∀ s calls, view { s with calls } = view s)

include hview hbucket hqueue hcalls

/-- Every step of the service but the worker's cancellation keeps such a view. -/
theorem Step.keeps_of_ne {w w' : World} {a : Action} (h : Step w a w') (ha : a ≠ .cancelWorker) :
    view w'.studio = view w.studio := by
  cases h with
  | send r => exact Studio.Keeps.of_calls (Studio.beginRequest_calls r) hview w.studio
  | resume pre post st _ =>
    show view ((Studio.resumeRequest st).run w.studio).2 = _
    -- a waiting request stores its batch, queues a job, or removes a stored object
    cases st with
    | commit plan =>
      exact Studio.Keeps.of_calls ((Studio.commitCreate_calls (P := fun _ => True) plan
        fun _ => trivial).bind fun e => by cases e <;> exact Studio.Calls.pure _) hview w.studio
    | trigger jobs =>
      cases jobs with
      | nil => rfl
      | cons job jobs =>
        exact (Studio.Keeps.bind (Studio.Keeps.enqueue hview hqueue job)
          fun _ => Studio.Keeps.pure _) w.studio
    | purge keys =>
      cases keys with
      | nil => rfl
      | cons key keys =>
        exact (Studio.Keeps.bind (Studio.Keeps.deleteObject hbucket key)
          fun _ => Studio.Keeps.pure _) w.studio
  | take job rest _ => exact hqueue _ _
  | rerun => rfl
  | advance pre post job stage _ =>
    exact Studio.jobStep_keeps view hview hbucket job (.inr hcalls) w.studio
  | cancelWorker => exact absurd rfl ha
  | store => exact hbucket _ _
  | wait ms => exact hview _ _ _

variable (hworker : ∀ s b, view { s with workerRunning := b } = view s)

include hworker

/-- Every step of the service keeps such a view when it does not read whether the worker
runs either. -/
theorem Step.keeps {w w' : World} {a : Action} (h : Step w a w') : view w'.studio = view w.studio := by
  by_cases ha : a = .cancelWorker
  · -- the cancellation empties the queue and stops the worker
    subst ha
    cases h
    exact (hworker { w.studio with queue := [] } false).trans (hqueue w.studio [])
  · exact h.keeps_of_ne hview hbucket hqueue hcalls ha

/-- Every run of the service keeps such a view. -/
theorem Reaches.keeps {w w' : World} (h : Reaches w w') : view w'.studio = view w.studio := by
  induction h with
  | refl => rfl
  | step _ hs ih => exact (hs.keeps hview hbucket hqueue hcalls hworker).trans ih

end Keeps

end World

/-! ## A studio with one model -/

/-- A data URL of a lossless WebP image of one pixel. -/
def onePixelWebP : String := "data:image/webp;base64,UklGRhIAAABXRUJQVlA4TAUAAAAvAAAAAAA="

/-- The model `tiny` of provider `test`, which takes a prompt. -/
def tinyCard : ModelCard :=
  { provider := "test", id := "tiny", displayName := "Tiny",
    schema := { properties := [(.prompt, {})] } }

/-- A blank studio offering `tinyCard`, whose provider answers every request with
`onePixelWebP`. -/
def Studio.oneModel : Studio :=
  { repo := Repository.empty default ⟨7, 0⟩, seeds := ChaCha.seedFromU64 1,
    catalog := { cards := [tinyCard] },
    providers := [{ name := "test", fallback := some (.ok { url := onePixelWebP }) }] }

/-- One image of `tiny`, for the prompt `fox`. -/
def foxRequest : CreateRequest :=
  { provider := "test", model := "tiny", imageNum := some 1, params := .obj [("prompt", .str "fox")] }

theorem Studio.oneModel_blank : Studio.oneModel.Blank := ⟨rfl, rfl, rfl, rfl, rfl, rfl, rfl⟩

namespace World

/-- The first request that waits can take its step. -/
theorem Step.resume_head (w : World) (h : 0 < w.requests.length) :
    Step w .resume (w.resume [] (w.requests.head (List.ne_nil_of_length_pos h)) w.requests.tail) :=
  .resume w [] w.requests.tail _ (by rw [List.nil_append, List.cons_head_tail])

/-- The one-model studio makes an image of a fox. The request is sent and takes its three
steps, which leave the task pending and its job queued; the job is then taken and runs its
five steps, which claim the task, ask the provider, store the image and file it. -/
theorem Reaches.fox : ∃ w₁ w₂ : World,
    Reaches { studio := Studio.oneModel } w₁ ∧ Reaches w₁ w₂ ∧
      (Studio.oneModel.repo.entropy.drawnUntil w₂.studio.repo.entropy).Nodup ∧
      w₁.studio.repo.tasks.map (·.status) = [.pending] ∧
      w₂.studio.repo.tasks.map (·.status) = [.success] ∧
      w₂.studio.repo.generations.length = 1 ∧ w₂.studio.repo.files.length = 1 ∧
      w₂.claimed.length = 1 ∧ w₂.asked.length = 1 := by
  refine ⟨_, _,
    .step (.step (.step (.step .refl (.send _ (.createImage ⟨1⟩ foxRequest)))
      (.resume_head _ (by decide +kernel))) (.resume_head _ (by decide +kernel)))
      (.resume_head _ (by decide +kernel)),
    .step (.step (.step (.step (.step (.step .refl (.take _ _ _ rfl))
      (.advance _ [] [] _ _ rfl)) (.advance _ [] [] _ _ rfl)) (.advance _ [] [] _ _ rfl))
      (.advance _ [] [] _ _ rfl)) (.advance _ [] [] _ _ rfl), ?_⟩
  decide +kernel

end World

end ImageStudio
