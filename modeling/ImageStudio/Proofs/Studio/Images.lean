import ImageStudio.Proofs.Studio.Calls
import ImageStudio.Proofs.Repository.Filed

/-!
# Proofs · Studio · Images: a generation's asset, file and task agree in every run

A job completes the generation it was made for, with that generation's task: the jobs of a
batch are made from its generations and their tasks (`commitCreate_jobs`), and a generation
keeps its identifier and its task for as long as it exists. A job that outlives its
generation cannot meet another one under the same identifier, since identifiers are drawn
fresh: the job's identifier was drawn before every later one.

So every call the service makes keeps `Repository.Filed` (`Repository.Filed.apply`), every
run of calls keeps it together with the links of the repository and of the jobs held
(`Repository.Runs.filedWith`), and every step of the service does, as the jobs it holds come
from the batches it stored (`World.Step.filedWith`). From a blank studio, every world the
service reaches keeps its images filed (`World.images_filed`).
-/

namespace ImageStudio

/-! ## What a request leaves when it succeeds -/

namespace Studio

/-- From a studio where `pre` holds, a success of `m` with value `a` leaves a studio where
`post a` holds. -/
def Ensures {α : Type} (pre : Studio → Prop) (m : Serve α) (post : α → Studio → Prop) : Prop :=
  ∀ s, pre s → ∀ a s', m.run.run s = (.ok a, s') → post a s'

namespace Ensures

variable {α β : Type} {pre : Studio → Prop}

theorem bind {x : Serve α} {f : α → Serve β} {mid : α → Studio → Prop}
    {post : β → Studio → Prop} (hx : Ensures pre x mid) (hf : ∀ a, Ensures (mid a) (f a) post) :
    Ensures pre (x >>= f) post := by
  intro s hs b s' h
  rw [ExceptT.run_bind, Studio.run_bind] at h
  rcases hrun : x.run.run s with ⟨_ | a, s₁⟩
  · rw [hrun] at h
    cases h
  · rw [hrun] at h
    exact hf a s₁ (hx s hs a s₁ hrun) b s' h

theorem pure {a : α} {post : α → Studio → Prop} (h : ∀ s, pre s → post a s) :
    Ensures pre (Pure.pure a : Serve α) post := by
  intro s hs b s' hrun
  cases hrun
  exact h s hs

/-- Any request ensures nothing. -/
theorem any (m : Serve α) : Ensures pre m fun _ _ => True := fun _ _ _ _ _ => trivial

/-- A repository operation ensures what its success leaves in the repository. -/
theorem inRepo {m : Repo α} {post : α → Studio → Prop}
    (h : ∀ s, pre s → ∀ a r', ExceptT.run m s.repo = (.ok a, r') → post a { s with repo := r' }) :
    Ensures pre (Studio.inRepo m) post := by
  intro s hs a s' hrun
  simp only [Studio.inRepo, ExceptT.run_mk, Studio.runRepo_run] at hrun
  rcases hm : ExceptT.run m s.repo with ⟨_ | b, r'⟩
  · rw [Repository.settle_of_error hm] at hrun
    cases hrun
  · rw [Repository.settle_of_ok hm] at hrun
    cases hrun
    exact h s hs a r' hm

/-- Reading the studio ensures what the rest ensures from the studio read. -/
theorem get_bind {f : Studio → Serve β} {post : β → Studio → Prop}
    (h : ∀ s₀, Ensures (fun s => pre s ∧ s = s₀) (f s₀) post) : Ensures pre (get >>= f) post :=
  fun s hs b s' hrun => h s s ⟨hs, rfl⟩ b s' hrun

/-- Answering with what is read off the studio ensures what holds of that answer there. -/
theorem get_pure {g : Studio → α} {post : α → Studio → Prop} (h : ∀ s, pre s → post (g s) s) :
    Ensures pre (get >>= fun s => Pure.pure (g s)) post :=
  get_bind fun _ => pure fun s hs => hs.2 ▸ h s hs.1

end Ensures

end Studio

/-! ## Jobs name their generations -/

/-- The jobs a stage of a request is about to queue. -/
def RequestStage.jobs : RequestStage → List Job
  | .trigger jobs => jobs
  | _ => []

/-- The jobs a world holds: those its requests are about to queue, its queue, the jobs the
worker took and those of the job runs. -/
def World.jobs (w : World) : List Job :=
  w.requests.flatMap RequestStage.jobs ++ w.studio.queue ++ w.taken ++ w.runs.map (·.1)

namespace Repository

/-- The jobs `jobs` name generations with their tasks: a generation of a job's identifier
has the job's task. -/
def JobsLinked (jobs : List Job) (r : Repository) : Prop :=
  ∀ job ∈ jobs, ∀ g ∈ r.generations, g.id = job.generation → g.task = some job.task

/-- What a repository keeps while the jobs `jobs` are held, its rows owed to the source `e₀`:
its links, its images filed, and jobs that name their generations with their tasks, by
identifiers drawn before. -/
structure FiledWith (e₀ : Entropy) (jobs : List Job) (r : Repository) : Prop where
  linked : r.Linked
  filed : r.Filed
  jobsLinked : r.JobsLinked jobs
  jobsDrawn : ∀ job ∈ jobs, job.generation ∈ e₀.drawnUntil r.entropy

/-- A file of a generation that a deletion drops is among the files of the dropped ones. -/
theorem mem_lostFiles {gens : List Generation} {p : Generation → Bool} {g : Generation}
    (hg : g ∈ gens) (hp : (!p g) = false) {f : Uuid} (hf : f ∈ g.file) :
    f ∈ ((gens.filter p).filterMap (·.file)).eraseDups := by
  rw [List.mem_eraseDups]
  exact List.mem_filterMap.2 ⟨g, List.mem_filter.2 ⟨hg, by simpa using hp⟩, hf⟩

/-- The jobs made for a stored batch name its generations, each with its own task. -/
theorem createBatch_jobs {user : Uuid} {nb : NewBatch} {r r' : Repository} {cb : CreatedBatch}
    (h : ExceptT.run (createBatch user nb) r = (.ok cb, r')) (mk : Generation → Uuid → Job)
    (hmk : ∀ g t, (mk g t).generation = g.id ∧ (mk g t).task = t) :
    ∀ job ∈ (cb.generations.zip cb.tasks).map (fun x => mk x.1 x.2),
      ∃ g ∈ r'.generations, g.id = job.generation ∧ g.task = some job.task := by
  obtain ⟨t, -, -, hcb, hr'⟩ := createBatch_ok h
  intro job hjob
  rw [hcb] at hjob
  simp only [List.zip_map', List.map_map, List.mem_map, Function.comp_apply] at hjob
  obtain ⟨x, hx, rfl⟩ := hjob
  obtain ⟨-, -, -, -, htask, -, -⟩ := mem_rowsFrom hx
  refine ⟨x.2, ?_, (hmk _ _).1.symm, by rw [htask, (hmk _ _).2]⟩
  rw [hr']
  exact List.mem_append_right _ (List.mem_map_of_mem hx)

end Repository

open Repository in
/-- Every call the service makes keeps the images filed, when the jobs it runs for name their
generations with their tasks and identifiers name one row each before and after it: a
completion then writes the generation of the task it finishes. -/
theorem Repository.Filed.apply {jobs : List Job} {r : Repository} (h : r.Filed) (hl : r.Linked)
    (c : RepoCall) (hc : c.ByService jobs) (hjobs : r.JobsLinked jobs) (hids : r.rowIds.Nodup)
    (hnext : (c.apply r).rowIds.Nodup) : (c.apply r).Filed := by
  cases c with
  | createTopic user title =>
    rw [RepoCall.apply, settle_snd, run_createTopic]
    exact h.of_eq rfl rfl rfl
  | getTopic user id =>
    rw [RepoCall.apply, settle_snd, run_getTopic]
    cases r.topic? user id <;> exact h.of_eq rfl rfl rfl
  | listTopics => exact h
  | updateTopic user id title cover =>
    rw [RepoCall.apply, settle_snd, run_updateTopic]
    cases r.topic? user id <;> exact h.of_eq rfl rfl rfl
  | setCoverIfEmpty user id cover =>
    rw [RepoCall.apply, settle_snd, run_setCoverIfEmpty]
    rcases r.topic? user id with _ | t
    · exact h
    · by_cases hc : t.coverUrl.isNone = true
      · dsimp only
        rw [if_pos hc]
        exact h.of_eq rfl rfl rfl
      · dsimp only
        rw [if_neg hc]
        exact h
  | deleteTopic user id =>
    rw [RepoCall.apply, settle_snd, run_deleteTopic]
    rcases r.topic? user id with _ | t
    · exact h.of_eq rfl rfl rfl
    · dsimp only
      rw [run_purgeOrphans]
      exact h.purge _ _ (fun g hg hkeep _ hf => mem_lostFiles hg hkeep hf) rfl rfl rfl
  | createBatch user nb =>
    rw [RepoCall.apply, settle_snd] at hnext ⊢
    rcases hrun : ExceptT.run (Repository.createBatch user nb) r with ⟨_ | cb, r'⟩
    · exact h.of_eq rfl rfl rfl
    · obtain ⟨t, -, -, -, hr'⟩ := createBatch_ok hrun
      rw [hrun] at hnext
      dsimp only at hnext ⊢
      rw [hr'] at hnext ⊢
      refine h.addBatch hl _ (fun x hx => ?_) rfl rfl rfl (nodup_taskIds hnext)
      obtain ⟨-, hpend, -, -, htask, hfile, hasset⟩ := mem_rowsFrom hx
      exact ⟨hpend, htask, hfile, hasset⟩
  | batchesOf => exact h
  | deleteBatch user id =>
    rw [RepoCall.apply, settle_snd, run_deleteBatch]
    dsimp only
    split_ifs with hgone
    · -- no batch went, so no generation did
      refine h.dropUnfiled _ (fun g _ hkeep => ?_) rfl rfl rfl
      rw [List.length_eq_zero_iff.1 hgone] at hkeep
      cases hkeep
    · rw [run_purgeOrphans]
      exact h.purge _ _ (fun g hg hkeep _ hf => mem_lostFiles hg hkeep hf) rfl rfl rfl
  | getGeneration => exact h
  | findFile => exact h
  | completeGeneration user gen task asset file =>
    rw [RepoCall.apply, settle_snd]
    rcases hp : (r.task? user task).any (·.status == .processing) with _ | _
    · rw [run_completeGeneration_of_idle hp]
      exact h
    · rcases hg : r.generation? user gen with _ | g₀
      · rw [run_completeGeneration_of_missing hp hg]
        exact h.of_eq rfl rfl rfl
      · obtain ⟨hgm, hgid, -⟩ := generation?_spec hg
        obtain ⟨t₀, hfind, hproc⟩ := (Option.any_eq_true _ _).1 hp
        obtain ⟨ht₀, ht₀id, -⟩ := task?_spec hfind
        -- the job that completes names the generation's own task
        obtain ⟨job, hjob, -, hjgen, hjtask⟩ := hc
        have hlink : g₀.task = some t₀.id := by
          rw [hjobs job hjob g₀ hgm (hgid.trans hjgen.symm), hjtask, ht₀id]
        have hgids := nodup_generationIds hids
        have htids := nodup_taskIds hids
        have hfile := run_fileFor user file r
        rcases hf : r.fileWithHash? user file.fileHash with _ | f
        · -- a new file
          rw [hf] at hfile
          dsimp only at hfile
          rw [run_completeGeneration hp (by rw [hg]; rfl) hfile]
          refine h.complete hgm ht₀ hlink (beq_iff_eq.1 hproc) hgids htids asset _ _ _
            (List.mem_append_right _ (List.mem_singleton_self _))
            (fun _ hx => List.mem_append_left _ hx) (fun _ hx => ?_) (by rw [hgid])
            (by rw [ht₀id]) rfl
          rcases List.mem_append.1 hx with hx | hx
          · exact .inl hx
          · exact .inr (List.mem_singleton.1 hx)
        · -- the user's file with the same content
          rw [hf] at hfile
          dsimp only at hfile
          rw [run_completeGeneration hp (by rw [hg]; rfl) hfile]
          obtain ⟨hfm, -, -⟩ := fileWithHash?_spec hf
          exact h.complete hgm ht₀ hlink (beq_iff_eq.1 hproc) hgids htids asset _ _ _ hfm
            (fun _ hx => hx) (fun _ hx => .inl hx) (by rw [hgid]) (by rw [ht₀id]) rfl
  | deleteGeneration user id =>
    rw [RepoCall.apply, settle_snd, run_deleteGeneration]
    rcases hg : r.generation? user id with _ | g
    · exact h
    · obtain ⟨hgm, hgid, -⟩ := generation?_spec hg
      -- the one generation of this identifier is `g`
      have hgone : ∀ g' ∈ r.generations, (g'.id != id) = false → g' = g := by
        intro g' hg' hne
        refine List.inj_on_of_nodup_map (nodup_generationIds hids) hg' hgm ?_
        simpa [hgid] using hne
      dsimp only
      rcases hfile : g.file with _ | f
      · exact h.dropUnfiled _ (fun g' hg' hkeep => by rw [hgone g' hg' hkeep, hfile]) rfl rfl rfl
      · dsimp only
        rw [run_purgeOrphans]
        refine h.purge _ [f] (fun g' hg' hkeep f' hf' => ?_) rfl rfl rfl
        rw [hgone g' hg' hkeep, hfile, Option.mem_def, Option.some.injEq] at hf'
        exact List.mem_singleton.2 hf'.symm
  | getTask => exact h
  | transition user id allowed target error =>
    rw [RepoCall.apply, settle_snd, run_transition]
    rcases hfind : r.task? user id with _ | t₀
    · exact h
    · obtain ⟨ht₀, ht₀id, -⟩ := task?_spec hfind
      by_cases ha : allowed.contains t₀.status = true
      · dsimp only
        rw [if_pos ha]
        -- the service moves a task that did not succeed, to processing or to error
        have hmem := List.contains_iff_mem.1 ha
        have hns : t₀.status ≠ .success ∧ target ≠ .success := by
          rcases hc with ⟨rfl, rfl⟩ | ⟨rfl, rfl⟩
          · rw [List.mem_singleton.1 hmem]
            exact ⟨by decide, by decide⟩
          · rcases List.mem_pair.1 hmem with hs | hs <;> rw [hs] <;> exact ⟨by decide, by decide⟩
        exact h.finishTask (nodup_taskIds hids) ht₀ hns.1 hns.2 _ _ rfl (by rw [ht₀id]) rfl
      · dsimp only
        rw [if_neg ha]
        exact h
  | failTimedOut user ids timeoutMs =>
    rw [RepoCall.apply_failTimedOut]
    exact Filed.sweep user _ timeoutMs ids (h.of_eq rfl rfl rfl) hids

/-! ## Along a run of calls -/

namespace Repository

/-- A call keeps the jobs' generations named with their tasks: a generation of a job's
identifier after the call was there before with the same task, since a new one is named by
a draw after the job's. -/
theorem JobsLinked.apply {jobs : List Job} {e₀ : Entropy} {r : Repository}
    (h : r.JobsLinked jobs) (hdrawn : ∀ job ∈ jobs, job.generation ∈ e₀.drawnUntil r.entropy)
    (hr : r.Drawn e₀) (c : RepoCall) (hfresh : (e₀.drawnUntil (c.apply r).entropy).Nodup) :
    (c.apply r).JobsLinked jobs := by
  obtain ⟨j, hj, hkept⟩ := c.generations_kept r
  rw [hj, hr.drawnUntil_skip] at hfresh
  intro job hjob g' hg' hid
  rcases hkept g' hg' with ⟨g, hg, hgid, hgtask⟩ | hnew
  · rw [← hgtask]
    exact h job hjob g hg (hgid.trans hid)
  · exact absurd rfl ((List.nodup_append.1 hfresh).2.2 _ (hdrawn job hjob) _ (hid ▸ hnew))

/-- A run of calls the service makes for the jobs `jobs`, with fresh draws, keeps the images
filed, together with the links of the repository and of the jobs. -/
theorem Runs.filedWith {jobs : List Job} {e₀ : Entropy} {r r' : Repository}
    (h : Runs (RepoCall.ByService jobs) r r') (hr : r.Drawn e₀)
    (hfresh : (e₀.drawnUntil r'.entropy).Nodup) (hi : r.FiledWith e₀ jobs) :
    r'.FiledWith e₀ jobs := by
  refine h.keeps_drawn (FiledWith e₀ jobs) (fun c r hc hi hr hf => ?_) (fun r t hi => ?_)
    (fun r hi => ?_) hr hfresh hi
  · obtain ⟨j, hj, hsub⟩ := c.draws r
    have hids := hr.nodup (hr.fresh_of_skip hj hf)
    have hnext := (hr.step j hj hsub).nodup hf
    refine ⟨hi.linked.apply c hids hnext, hi.filed.apply hi.linked c hc hi.jobsLinked hids hnext,
      hi.jobsLinked.apply hi.jobsDrawn hr c hf, fun job hjob => ?_⟩
    rw [hj]
    exact Entropy.mem_drawnUntil_skip (hi.jobsDrawn job hjob) j
  · exact ⟨hi.linked.tick t r.entropy, hi.filed.of_eq rfl rfl rfl, hi.jobsLinked, hi.jobsDrawn⟩
  · exact ⟨hi.linked.tick r.clock _, hi.filed.of_eq rfl rfl rfl, hi.jobsLinked,
      fun job hjob => Entropy.mem_drawnUntil_skip (hi.jobsDrawn job hjob) 1⟩

end Repository

/-! ## The jobs a world holds -/

namespace Studio

/-- A batch's jobs name its generations, each with its own task. -/
theorem commitCreate_jobs (plan : CreatePlan) :
    Ensures (fun _ => True) (commitCreate plan) fun created s =>
      ∀ job ∈ created.2, ∃ g ∈ s.repo.generations, g.id = job.generation ∧
        g.task = some job.task := by
  unfold commitCreate
  dsimp only
  -- whatever the seeds, the batch is stored and its jobs are made from its rows
  split <;>
  exact Ensures.bind (Ensures.any _) fun seeds => Ensures.bind (Ensures.inRepo fun s _ cb r' hrun =>
    Repository.createBatch_jobs hrun (plan.job (inlineLocalImages s.fetch plan.params))
      fun _ _ => ⟨rfl, rfl⟩) fun cb => Ensures.get_pure fun _ hs => hs

/-- The first step of a request leaves the queue alone. -/
theorem beginRequest_queue (r : Request) (s : Studio) :
    ((beginRequest r).run s).2.queue = s.queue :=
  Keeps.of_calls (beginRequest_calls r) (fun _ _ _ => rfl) s

/-- The first step of a request leaves no job to queue. -/
theorem beginRequest_jobs (r : Request) (s : Studio) :
    ∀ st ∈ ((beginRequest r).run s).1, st.jobs = [] := by
  intro st hst
  cases r with
  | createImage user req =>
    simp only [beginRequest, Studio.run_bind] at hst
    split at hst
    · cases hst
      rfl
    · cases hst
  | status user gen task => cases hst
  | deleteGeneration user id =>
    simp only [beginRequest, Studio.run_bind] at hst
    split at hst
    · cases hst
      rfl
    · cases hst
  | deleteBatch user id =>
    simp only [beginRequest, Studio.run_bind] at hst
    split at hst
    · cases hst
      rfl
    · cases hst
  | deleteTopic user id =>
    simp only [beginRequest, Studio.run_bind] at hst
    split at hst
    · cases hst
      rfl
    · cases hst
  | createTopic user title => cases hst
  | updateTopic user id title cover => cases hst

/-- A later step of a request queues only the job it was about to queue, and leaves to queue
only jobs it was about to queue or jobs of the batch it stored, which name their
generations with their tasks. -/
theorem resumeRequest_jobs (st : RequestStage) (s : Studio) :
    (∀ job ∈ ((resumeRequest st).run s).2.queue, job ∈ s.queue ∨ job ∈ st.jobs) ∧
      ∀ st' ∈ ((resumeRequest st).run s).1, ∀ job ∈ st'.jobs, job ∈ st.jobs ∨
        ∃ g ∈ ((resumeRequest st).run s).2.repo.generations, g.id = job.generation ∧
          g.task = some job.task := by
  cases st with
  | commit plan =>
    have hqueue : ((resumeRequest (.commit plan)).run s).2.queue = s.queue :=
      Keeps.of_calls ((commitCreate_calls (P := fun _ => True) plan fun _ => trivial).bind fun e => by
        cases e <;> exact Calls.pure _)
        (fun _ _ _ => rfl) s
    refine ⟨fun job hjob => .inl (hqueue ▸ hjob), fun st' hst' job hjob => .inr ?_⟩
    simp only [resumeRequest, Studio.run_bind] at hst' ⊢
    rcases hrun : (commitCreate plan).run.run s with ⟨_ | created, s'⟩
    · rw [hrun] at hst'
      cases hst'
    · rw [hrun] at hst'
      cases hst'
      exact commitCreate_jobs plan s trivial created s' hrun job hjob
  | trigger jobs =>
    cases jobs with
    | nil => exact ⟨fun job hjob => .inl hjob, fun st' hst' => by cases hst'⟩
    | cons job jobs =>
      refine ⟨fun job' hjob' => ?_, fun st' hst' job' hjob' => ?_⟩
      · -- the job is queued, or refused and its task failed
        simp only [resumeRequest, Studio.run_bind, Studio.run_pure, enqueue] at hjob'
        split at hjob'
        · rcases List.mem_append.1 hjob' with h | h
          · exact .inl h
          · exact .inr (List.mem_singleton.1 h ▸ List.mem_cons_self)
        · exact .inl hjob'
      · simp only [resumeRequest, Studio.run_bind, Studio.run_pure] at hst'
        cases hst'
        exact .inl (List.mem_cons_of_mem _ hjob')
  | purge keys =>
    cases keys with
    | nil => exact ⟨fun job hjob => .inl hjob, fun st' hst' => by cases hst'⟩
    | cons key keys =>
      refine ⟨fun job hjob => .inl ?_, fun st' hst' job hjob => ?_⟩
      · have hqueue : ((deleteObject key).run s).2.queue = s.queue :=
          (Keeps.deleteObject (fun _ _ => rfl) key : Keeps (fun s : Studio => s.queue) _) s
        simp only [resumeRequest, Studio.run_bind, Studio.run_pure] at hjob
        rwa [hqueue] at hjob
      · simp only [resumeRequest, Studio.run_bind, Studio.run_pure] at hst'
        cases hst'
        cases hjob

end Studio

namespace World

variable {e₀ : Entropy} {w w' : World} {a : Action}

/-- A job a step leaves in the world was there before, or is a job of a batch the step
stored, which names its generation with its task. -/
theorem Step.jobs (h : Step w a w') : ∀ job ∈ w'.jobs, job ∈ w.jobs ∨
    ∃ g ∈ w'.studio.repo.generations, g.id = job.generation ∧ g.task = some job.task := by
  intro job hjob
  cases h with
  | send r =>
    -- a first step queues nothing and leaves nothing to queue
    have hnone : ((Studio.beginRequest r).run w.studio).1.toList.flatMap RequestStage.jobs = [] := by
      rcases hst : ((Studio.beginRequest r).run w.studio).1 with _ | st
      · rfl
      · simp [Studio.beginRequest_jobs r w.studio st hst]
    left
    simpa only [World.jobs, World.send, List.flatMap_append, hnone, List.append_nil,
      Studio.beginRequest_queue] using hjob
  | resume pre post st hreq =>
    obtain ⟨hqueue, hnew⟩ := Studio.resumeRequest_jobs st w.studio
    -- what the request held, the world held
    have hst : ∀ job ∈ st.jobs, job ∈ w.jobs := fun job hjob => by
      simp only [World.jobs, hreq, List.mem_append, List.mem_flatMap, List.mem_cons]
      exact .inl (.inl (.inl ⟨st, .inr (.inl rfl), hjob⟩))
    simp only [World.jobs, World.resume, List.flatMap_append, List.mem_append] at hjob
    rcases hjob with ((((hpre | hmid) | hpost) | hq) | ht) | hrun
    · left
      simp only [World.jobs, hreq, List.flatMap_append, List.mem_append]
      exact .inl (.inl (.inl (.inl hpre)))
    · obtain ⟨st', hst', hjob⟩ := List.mem_flatMap.1 hmid
      rcases hnew st' (Option.mem_toList.1 hst') job hjob with hold | hlinked
      · exact .inl (hst job hold)
      · exact .inr hlinked
    · left
      simp only [World.jobs, hreq, List.flatMap_append, List.flatMap_cons, List.mem_append]
      exact .inl (.inl (.inl (.inr (.inr hpost))))
    · rcases hqueue job hq with hq | hold
      · left
        simp only [World.jobs, List.mem_append]
        exact .inl (.inl (.inr hq))
      · exact .inl (hst job hold)
    · left
      simp only [World.jobs, List.mem_append]
      exact .inl (.inr ht)
    · left
      simp only [World.jobs, List.mem_append]
      exact .inr hrun
  | take job' rest hq =>
    -- the job moves from the queue to the worker
    left
    simp only [World.jobs, World.take, hq, List.mem_append, List.map_append, List.mem_cons,
      List.map_cons, List.map_nil, List.not_mem_nil, or_false] at hjob ⊢
    tauto
  | rerun job' htaken =>
    left
    simp only [World.jobs, List.mem_append, List.map_append, List.map_cons, List.map_nil,
      List.mem_cons, List.not_mem_nil, or_false] at hjob ⊢
    rcases hjob with hjob | hjob | rfl
    · exact .inl hjob
    · exact .inr hjob
    · exact .inl (.inr htaken)
  | advance pre post job' stage hruns =>
    -- a job's step leaves the queue alone, and the run stays
    have hqueue : ((Studio.jobStep job' stage).run w.studio).2.queue = w.studio.queue :=
      Studio.jobStep_keeps (·.queue) (fun _ _ _ => rfl) (fun _ _ => rfl) job' (.inr fun _ _ => rfl)
        w.studio
    left
    simpa only [World.jobs, World.advance, hruns, hqueue, List.mem_append, List.map_append,
      List.map_cons, List.mem_cons] using hjob
  | cancelWorker =>
    -- the jobs in the queue leave the world with the worker
    left
    simp only [World.jobs, World.cancelWorker, Studio.stopWorker, List.mem_append,
      List.not_mem_nil, or_false] at hjob ⊢
    tauto
  | store => exact .inl hjob
  | wait => exact .inl hjob

/-- A step with fresh draws keeps the images filed, with the links of the repository and of
the jobs the world holds. -/
theorem Step.filedWith (h : Step w a w') (hw : w.studio.repo.Drawn e₀)
    (hfresh : (e₀.drawnUntil w'.studio.repo.entropy).Nodup)
    (hi : w.studio.repo.FiledWith e₀ w.jobs) : w'.studio.repo.FiledWith e₀ w'.jobs := by
  have hruns : Repository.Runs (RepoCall.ByService w.jobs) w.studio.repo w'.studio.repo :=
    h.repo_runs.mono fun _ hc => hc.of_subset fun job hjob => by
      simp only [World.jobs, List.mem_append]
      exact .inr hjob
  have hi' := hruns.filedWith hw hfresh hi
  have hw' := h.drawn hw
  have hgids := Repository.nodup_generationIds (hw'.nodup hfresh)
  refine ⟨hi'.linked, hi'.filed, fun job hjob g hg hid => ?_, fun job hjob => ?_⟩
  · rcases h.jobs job hjob with hold | ⟨g₀, hg₀, hid₀, htask₀⟩
    · exact hi'.jobsLinked job hold g hg hid
    · -- the job of a new batch names its generation, the one of that identifier
      rw [List.inj_on_of_nodup_map hgids hg hg₀ (hid.trans hid₀.symm), htask₀]
  · rcases h.jobs job hjob with hold | ⟨g₀, hg₀, hid₀, -⟩
    · exact hi'.jobsDrawn job hold
    · rw [← hid₀]
      exact hw'.mem_drawnUntil (Repository.mem_rowIds_of_generation hg₀)

/-- A blank studio keeps its images filed: it has no rows and holds no job. -/
theorem filedWith_blank {s₀ : Studio} (hblank : s₀.Blank) :
    s₀.repo.FiledWith s₀.repo.entropy ({ studio := s₀ } : World).jobs where
  linked := {
    batchTopic := by simp [hblank.batches]
    generationBatch := by simp [hblank.generations]
    generationTask := by simp [hblank.generations]
    generationFile := by simp [hblank.generations]
    fileContent := by simp [hblank.files]
    batchSeeds := by simp [hblank.generations] }
  filed := {
    taskOnce := by simp [hblank.generations]
    assetFile := by simp [hblank.generations]
    fileSuccess := by simp [hblank.generations]
    assetKeys := by simp [hblank.generations]
    fileUsed := by simp [hblank.files] }
  jobsLinked := by simp [Repository.JobsLinked, World.jobs, hblank.queue]
  jobsDrawn := by simp [World.jobs, hblank.queue]

/-- Every world the service reaches from a blank studio, with fresh draws, keeps its images
filed. -/
theorem Reaches.filedWith {s₀ : Studio} (hblank : s₀.Blank) (h : Reaches { studio := s₀ } w)
    (hfresh : (s₀.repo.entropy.drawnUntil w.studio.repo.entropy).Nodup) :
    w.studio.repo.FiledWith s₀.repo.entropy w.jobs := by
  induction h with
  | refl => exact filedWith_blank hblank
  | step hr hs ih =>
    have hw := hr.drawn hblank.drawn
    exact hs.filedWith hw hfresh (ih (hs.fresh hw hfresh))

end World

/-- In every world the service reaches from a blank studio, with fresh draws: every
generation names a task that exists, and has an asset exactly when it has a file, and a
file exactly when that task succeeded; a generation's file is a file of its user, whose
keys its asset shows; and every file is some generation's. -/
theorem World.images_filed {s₀ : Studio} (hblank : s₀.Blank) {w : World}
    (h : Reaches { studio := s₀ } w)
    (hfresh : (s₀.repo.entropy.drawnUntil w.studio.repo.entropy).Nodup) :
    (∀ g ∈ w.studio.repo.generations, ∃ t ∈ w.studio.repo.tasks, g.task = some t.id ∧
        (g.asset.isSome = true ↔ g.file.isSome = true) ∧
        (g.file.isSome = true ↔ t.status = .success)) ∧
      (∀ g ∈ w.studio.repo.generations, ∀ id ∈ g.file, ∃ f ∈ w.studio.repo.files,
        f.id = id ∧ f.user = g.user ∧ ∀ a ∈ g.asset, a.url = f.url ∧ a.thumbnailUrl = f.thumbnailKey) ∧
      ∀ f ∈ w.studio.repo.files, ∃ g ∈ w.studio.repo.generations, g.file = some f.id := by
  have hi := h.filedWith hblank hfresh
  have hfids := Repository.nodup_fileIds ((h.drawn hblank.drawn).nodup hfresh)
  refine ⟨fun g hg => ?_, fun g hg id hid => ?_, hi.filed.fileUsed⟩
  · obtain ⟨t, ht, hlink, -⟩ := hi.linked.generationTask g hg
    refine ⟨t, ht, hlink, ?_, hi.filed.fileSuccess g hg t ht hlink⟩
    rw [hi.filed.assetFile g hg]
  · obtain ⟨f, hf, hfid, hown⟩ := hi.linked.generationFile g hg id hid
    refine ⟨f, hf, hfid, hown, fun a ha => ?_⟩
    -- the asset shows the keys of the file its generation names, the one of that identifier
    obtain ⟨f', hf', hfile', hkeys⟩ := hi.filed.assetKeys g hg a ha
    have hsame : f' = f := by
      refine List.inj_on_of_nodup_map hfids hf' hf ?_
      rw [hfid]
      exact Option.some.inj (hfile'.symm.trans hid)
    rw [← hsame]
    exact hkeys

/-- The one-model studio makes an image of a fox: its one generation ends with its task's
success, an asset and a file of its user whose keys the asset shows, and that file is the
generation's. -/
theorem World.images_filed_fox : ∃ w : World, Reaches { studio := Studio.oneModel } w ∧
    (Studio.oneModel.repo.entropy.drawnUntil w.studio.repo.entropy).Nodup ∧
    w.studio.repo.generations.length = 1 ∧ w.studio.repo.files.length = 1 ∧
    (∀ g ∈ w.studio.repo.generations, ∃ t ∈ w.studio.repo.tasks, g.task = some t.id ∧
        (g.asset.isSome = true ↔ g.file.isSome = true) ∧
        (g.file.isSome = true ↔ t.status = .success)) ∧
      (∀ g ∈ w.studio.repo.generations, ∀ id ∈ g.file, ∃ f ∈ w.studio.repo.files,
        f.id = id ∧ f.user = g.user ∧ ∀ a ∈ g.asset, a.url = f.url ∧ a.thumbnailUrl = f.thumbnailKey) ∧
      ∀ f ∈ w.studio.repo.files, ∃ g ∈ w.studio.repo.generations, g.file = some f.id := by
  obtain ⟨w₁, w, h₁, h₂, hfresh, -, -, hgenerations, hfiles, -, -⟩ := Reaches.fox
  exact ⟨w, h₁.trans h₂, hfresh, hgenerations, hfiles,
    World.images_filed Studio.oneModel_blank (h₁.trans h₂) hfresh⟩

end ImageStudio
