import Mathlib
import ImageStudio.Proofs.Studio.Lifecycle

/-!
# Proofs · Studio · Claims: a task is claimed once, and its provider asked once

A job claims its task before it asks its provider, and a claim succeeds only on a pending
task, which it leaves processing (`Studio.jobStep_claim_pending`). Since no task comes back
to pending (`Proofs.Studio.Lifecycle`), and identifiers name one task each, no task is
claimed twice, even when its job is delivered twice.

A job asks its provider once, right after its claim succeeded: `JobStage.callsAhead` counts
the requests a job can still make, one while it waits to ask and none before its claim or
after it asked, and `Studio.jobStep_ledger` says that a step spends what it makes of them.
Over the runs in flight, the requests made for a task plus those still ahead never outnumber
the claims of that task (`World.Sound`). `World.task_lifecycle` puts this together with the
lifecycle of the tasks.
-/

namespace ImageStudio

namespace JobStage

@[simp] theorem isClaim_iff {st : JobStage} : st.isClaim = true ↔ st = .claim := by
  cases st <;> simp [isClaim]

@[simp] theorem isCall_iff {st : JobStage} : st.isCall = true ↔ st = .call := by
  cases st <;> simp [isCall]

end JobStage

namespace JobStage

/-- How many provider requests a job at this stage can still make: one while it waits to
ask its provider, none once it asked or failed. -/
def callsAhead : JobStage → Nat
  | .call => 1
  | .discard _ next => next.callsAhead
  | _ => 0

@[simp] theorem callsAhead_afterUpload (image : ProviderImage) (p : Processed) (keys : UploadedKeys)
    (raw : Except PortError Unit) : (afterUpload image p keys raw).callsAhead = 0 := by
  cases raw <;> rfl

@[simp] theorem callsAhead_afterComplete (completed : Except PortError (Option FileRecord)) :
    (afterComplete completed).callsAhead = 0 := by
  rcases completed with _ | _ | _ <;> rfl

end JobStage

namespace Studio

/-- Only a job that waits to ask its provider adds to the log of provider requests. -/
theorem calls_jobStep (job : Job) {stage : JobStage} (h : stage.isCall = false) (s : Studio) :
    ((jobStep job stage).run s).2.calls = s.calls :=
  jobStep_keeps (·.calls) (fun _ _ _ => rfl) (fun _ _ => rfl) job (.inl h) s

/-- A claim either moves on to the provider or ends the job. -/
theorem jobStep_claim (job : Job) (s : Studio) :
    ((jobStep job .claim).run s).1 = .call ∨ ((jobStep job .claim).run s).1 = .done := by
  simp only [jobStep, Studio.run_bind, Studio.tryRepo_run, Studio.run_pure]
  by_cases hc : ((Repository.settle (Repository.transition job.user job.task [.pending] .processing
    none) s.repo).1.toOption == some true) = true
  · exact .inl (if_pos hc)
  · exact .inr (if_neg hc)

/-- A claim that succeeds found the job's task pending and leaves it processing. -/
theorem jobStep_claim_pending (job : Job) (s : Studio) (h : ((jobStep job .claim).run s).1 = .call) :
    (∃ t ∈ s.repo.tasks, t.id = job.task ∧ t.status = .pending) ∧
      ∃ t ∈ ((jobStep job .claim).run s).2.repo.tasks, t.id = job.task ∧
        t.status = .processing := by
  simp only [jobStep, Studio.run_bind, Studio.tryRepo_run, Studio.run_pure] at h ⊢
  have hrun := Repository.run_transition job.user job.task [.pending] .processing none s.repo
  rcases hfind : s.repo.task? job.user job.task with _ | t₀
  · rw [hfind] at hrun
    dsimp only at hrun
    simp [Repository.settle_of_ok hrun, Except.toOption] at h
  · rw [hfind] at hrun
    dsimp only at hrun
    obtain ⟨ht₀, ht₀id, -⟩ := Repository.task?_spec hfind
    by_cases hp : [TaskStatus.pending].contains t₀.status = true
    · rw [if_pos hp] at hrun
      simp only [Repository.settle_of_ok hrun]
      have hpend : t₀.status = .pending := List.mem_singleton.1 (List.contains_iff_mem.1 hp)
      refine ⟨⟨t₀, ht₀, ht₀id, hpend⟩, _, List.mem_map_of_mem ht₀, ?_⟩
      rw [if_pos (by simp [ht₀id])]
      exact ⟨ht₀id, rfl⟩
    · rw [if_neg hp] at hrun
      simp [Repository.settle_of_ok hrun, Except.toOption] at h

/-- A job that asked its provider has no request left to make. -/
theorem callsAhead_jobStep_call (job : Job) (s : Studio) :
    ((jobStep job .call).run s).1.callsAhead = 0 := by
  simp only [jobStep, Studio.run_get_bind]
  split
  · rfl
  · simp only [Studio.run_bind, Studio.run_modify]
    split
    · rfl
    · split
      · rfl
      · split <;> rfl

/-- Any other step keeps the requests a job can still make. -/
theorem callsAhead_jobStep (job : Job) {stage : JobStage} (h₁ : stage.isClaim = false)
    (h₂ : stage.isCall = false) (s : Studio) :
    ((jobStep job stage).run s).1.callsAhead = stage.callsAhead := by
  cases stage with
  | claim => cases h₁
  | call => cases h₂
  | loaded image source =>
    simp only [jobStep]
    split
    · rfl
    · simp only [Studio.run_get_bind]
      split <;> rfl
  | upload image p =>
    simp only [jobStep, Studio.run_bind]
    split
    · exact JobStage.callsAhead_afterUpload _ _ _ _
    · rfl
  | putThumb image p keys width height raw =>
    simp only [jobStep, Studio.run_bind, Studio.run_pure, JobStage.callsAhead_afterUpload]
    rfl
  | complete image p imageKey thumbKey uploaded =>
    simp only [jobStep, Studio.run_bind]
    split
    · exact JobStage.callsAhead_afterComplete _
    · -- whether the upload was kept or is discarded, what comes next is the same
      split <;> split <;> exact JobStage.callsAhead_afterComplete _
  | discard keys next =>
    cases keys with
    | nil => rfl
    | cons key keys => rfl
  | fail e => rfl
  | cover key => rfl
  | done => rfl

/-- One step of a job spends its provider requests: the requests it makes, plus those it
can still make after it, are at most those it could make before, plus one when the step was
a claim that succeeded. -/
theorem jobStep_ledger (job : Job) (stage : JobStage) (s : Studio) :
    (if ((jobStep job stage).run s).2.calls.length = s.calls.length then 0 else 1) +
        ((jobStep job stage).run s).1.callsAhead ≤
      stage.callsAhead + (if stage.isClaim && ((jobStep job stage).run s).1.isCall then 1 else 0) := by
  cases stage with
  | claim =>
    -- a claim asks nothing, and reaches the provider only when it succeeds
    rw [if_pos (congrArg List.length (calls_jobStep job rfl s))]
    rcases jobStep_claim job s with h | h <;> rw [h] <;> simp [JobStage.callsAhead]
  | call =>
    -- asking spends the one request the claim allowed
    rw [callsAhead_jobStep_call]
    split <;> simp [JobStage.callsAhead]
  | _ =>
    rw [if_pos (congrArg List.length (calls_jobStep job rfl s)), callsAhead_jobStep job rfl rfl s]
    simp

end Studio

/-- With identifiers naming one task each, two tasks of one identifier are one: a task that
left pending has no pending namesake. -/
theorem Repository.not_pending_of_same_id {r : Repository} (hids : (r.tasks.map (·.id)).Nodup)
    {t t' : Task} (ht : t ∈ r.tasks) (ht' : t' ∈ r.tasks) (hid : t'.id = t.id)
    (hp : t.status ≠ .pending) : t'.status ≠ .pending := by
  have heq : t' = t := List.inj_on_of_nodup_map hids ht' ht hid
  rwa [heq]

namespace World

/-- The provider requests that the runs of task `k` can still make. -/
def callsAhead (w : World) (k : Uuid) : Nat :=
  (w.runs.map fun p => if p.1.task = k then p.2.callsAhead else 0).sum

variable {e₀ : Entropy} {w w' : World} {a : Action}

/-- A step records a new claim only when it took a pending task to processing. -/
theorem Step.claimed_cases (h : Step w a w') :
    w'.claimed = w.claimed ∨
      ∃ k, w'.claimed = w.claimed ++ [k] ∧
        (∃ t ∈ w.studio.repo.tasks, t.id = k ∧ t.status = .pending) ∧
        ∃ t ∈ w'.studio.repo.tasks, t.id = k ∧ t.status = .processing := by
  cases h with
  | advance pre post job stage _ =>
    by_cases hc : (stage.isClaim && ((Studio.jobStep job stage).run w.studio).1.isCall) = true
    · -- a claim that moved on to the provider
      obtain ⟨hclaim, hcall⟩ := Bool.and_eq_true _ _ ▸ hc
      rw [JobStage.isClaim_iff] at hclaim
      rw [JobStage.isCall_iff] at hcall
      subst hclaim
      obtain ⟨hpend, hproc⟩ := Studio.jobStep_claim_pending job w.studio hcall
      exact .inr ⟨job.task, by simp only [World.advance, if_pos hc], hpend, hproc⟩
    · exact .inl (by simp only [World.advance, if_neg hc, List.append_nil])
  | _ => exact .inl rfl

/-- A step spends provider requests only as claims allow: the requests made for a task plus
those still ahead grow by no more than its claims. -/
theorem Step.asked_le (h : Step w a w') (k : Uuid) :
    w'.asked.count k + w'.callsAhead k + w.claimed.count k ≤
      w.asked.count k + w.callsAhead k + w'.claimed.count k := by
  cases h with
  | take job rest _ => simp [World.take, World.callsAhead, JobStage.callsAhead]
  | rerun job _ => simp [World.callsAhead, JobStage.callsAhead]
  | advance pre post job stage hruns =>
    have hledger := Studio.jobStep_ledger job stage w.studio
    simp only [World.advance, World.callsAhead, hruns, List.map_append, List.map_cons,
      List.sum_append, List.sum_cons, List.count_append]
    by_cases hk : job.task = k
    · -- the step of a run of task `k`: its ledger, with both logs counted at `k`
      subst hk
      simp only [if_true]
      split_ifs at hledger ⊢ <;> simp at hledger ⊢ <;> omega
    · split_ifs <;> simp [hk]
  | _ => exact Nat.le_refl _

/-- A task that left pending gets no new claim. -/
theorem Step.count_claimed_of_left (h : Step w a w')
    (hids : (w.studio.repo.tasks.map (·.id)).Nodup) {t : Task} (ht : t ∈ w.studio.repo.tasks)
    (hp : t.status ≠ .pending) : w'.claimed.count t.id = w.claimed.count t.id := by
  rcases h.claimed_cases with hc | ⟨k, hc, ⟨t', ht', hid, hpend⟩, -⟩
  · rw [hc]
  · -- the new claim took a pending task, so it is not `t`
    have hne : k ≠ t.id := by
      rintro rfl
      exact Repository.not_pending_of_same_id hids ht ht' hid hp hpend
    rw [hc, List.count_append, List.count_singleton]
    simp [hne]

/-- What the logs of a run keep: each claim that succeeded names a task that left pending,
no task was claimed twice, and the provider requests of a task, made and still ahead, never
outnumber its claims. -/
structure Sound (w : World) : Prop where
  claimed_nodup : w.claimed.Nodup
  claimed_left : ∀ k ∈ w.claimed, ∃ t ∈ w.studio.repo.tasks, t.id = k ∧ t.status ≠ .pending
  asked_le : ∀ k, w.asked.count k + w.callsAhead k ≤ w.claimed.count k

/-- A step with fresh draws keeps the logs sound. -/
theorem Sound.step (hs : w.Sound) (h : Step w a w') (hw : w.studio.repo.Drawn e₀)
    (hfresh : (e₀.drawnUntil w'.studio.repo.entropy).Nodup) : w'.Sound := by
  have hids : (w.studio.repo.tasks.map (·.id)).Nodup :=
    Repository.nodup_taskIds (hw.nodup (h.fresh hw hfresh))
  -- a task that left pending stays so over the step
  have hleft : ∀ k ∈ w.claimed, ∃ t ∈ w'.studio.repo.tasks, t.id = k ∧ t.status ≠ .pending := by
    intro k hk
    obtain ⟨t, ht, rfl, hp⟩ := hs.claimed_left k hk
    obtain ⟨t', ht', hf⟩ := Repository.follows_of_chain (h.movesTasks hw hfresh) t ht
    exact ⟨t', ht', hf.id, hf.not_pending hp⟩
  refine ⟨?_, ?_, fun k => ?_⟩
  · rcases h.claimed_cases with hc | ⟨k, hc, ⟨t, ht, rfl, hpend⟩, -⟩
    · rw [hc]
      exact hs.claimed_nodup
    · -- the task was pending, so no earlier claim took it
      have hnew : t.id ∉ w.claimed := by
        intro hmem
        obtain ⟨t', ht', hid, hp⟩ := hs.claimed_left t.id hmem
        exact Repository.not_pending_of_same_id hids ht' ht hid.symm hp hpend
      rw [hc, List.nodup_append_comm]
      exact List.Nodup.cons hnew hs.claimed_nodup
  · rcases h.claimed_cases with hc | ⟨k, hc, -, t, ht, rfl, hproc⟩
    · rw [hc]
      exact hleft
    · rw [hc]
      intro k hk
      rcases List.mem_append.1 hk with hk | hk
      · exact hleft k hk
      · rw [List.mem_singleton.1 hk]
        exact ⟨t, ht, rfl, by rw [hproc]; decide⟩
  · have hstep := h.asked_le k
    have hinv := hs.asked_le k
    omega

/-- Every run from a blank studio keeps its logs sound, when its draws are fresh. -/
theorem Reaches.sound {s₀ : Studio} (hblank : s₀.Blank) (h : Reaches { studio := s₀ } w)
    (hfresh : (s₀.repo.entropy.drawnUntil w.studio.repo.entropy).Nodup) : w.Sound := by
  induction h with
  | refl => exact ⟨List.nodup_nil, by simp, by simp [World.callsAhead]⟩
  | step hr hs ih =>
    have hw := hr.drawn hblank.drawn
    exact (ih (hs.fresh hw hfresh)).step hs hw hfresh

/-- Over a run with fresh draws, a task that had left pending gets no new claim. -/
theorem Reaches.count_claimed_of_left (h : Reaches w w') (hw : w.studio.repo.Drawn e₀)
    (hfresh : (e₀.drawnUntil w'.studio.repo.entropy).Nodup) {t : Task}
    (ht : t ∈ w.studio.repo.tasks) (hp : t.status ≠ .pending) :
    w'.claimed.count t.id = w.claimed.count t.id := by
  induction h with
  | refl => rfl
  | step hr hs ih =>
    have hmid := hr.drawn hw
    have hfmid := hs.fresh hmid hfresh
    obtain ⟨t₁, ht₁, hf⟩ := Repository.follows_of_chain (hr.movesTasks hw hfmid) t ht
    rw [← ih hfmid, ← hf.id]
    exact hs.count_claimed_of_left (Repository.nodup_taskIds (hmid.nodup hfmid)) ht₁
      (hf.not_pending hp)

end World

/-- Over every run of the service from a blank studio, with fresh draws, and between any two
of its points: the repository goes through states each of which moves each task at most one
edge of its life, so every task follows its life and a finished one keeps its status, error
and duration; a task that had left pending gets no new claim; no task is claimed twice; and
each task's provider is asked at most once, and only after its claim. -/
theorem World.task_lifecycle {s₀ : Studio} (hblank : s₀.Blank) {w₁ w₂ : World}
    (h₁ : Reaches { studio := s₀ } w₁) (h₂ : Reaches w₁ w₂)
    (hfresh : (s₀.repo.entropy.drawnUntil w₂.studio.repo.entropy).Nodup) :
    Relation.ReflTransGen Repository.MovesTasks w₁.studio.repo w₂.studio.repo ∧
      (∀ t ∈ w₁.studio.repo.tasks, ∃ t' ∈ w₂.studio.repo.tasks, t.Follows t') ∧
      (∀ t ∈ w₁.studio.repo.tasks, t.status ≠ .pending →
        w₂.claimed.count t.id = w₁.claimed.count t.id) ∧
      w₂.claimed.Nodup ∧ w₂.asked.Nodup ∧ ∀ k ∈ w₂.asked, k ∈ w₂.claimed := by
  have hw₁ := h₁.drawn hblank.drawn
  have hchain := h₂.movesTasks hw₁ hfresh
  have hsound := (h₁.trans h₂).sound hblank hfresh
  refine ⟨hchain, Repository.follows_of_chain hchain,
    fun t ht hp => h₂.count_claimed_of_left hw₁ hfresh ht hp, hsound.claimed_nodup, ?_, ?_⟩
  · -- a task is asked no more often than claimed, and claimed at most once
    refine List.nodup_iff_count_le_one.2 fun k => ?_
    have hask := hsound.asked_le k
    have hclaim := List.nodup_iff_count_le_one.1 hsound.claimed_nodup k
    omega
  · intro k hk
    have hask := hsound.asked_le k
    have hpos := List.count_pos_iff.2 hk
    exact List.count_pos_iff.1 (by omega)

/-- The one-model studio makes an image of a fox: from the point its task is pending to the
point its job has run, the task follows its life to success, claimed once, and its provider
asked only after the claim. -/
theorem World.task_lifecycle_fox : ∃ w₁ w₂ : World,
    Reaches { studio := Studio.oneModel } w₁ ∧ Reaches w₁ w₂ ∧
      (Studio.oneModel.repo.entropy.drawnUntil w₂.studio.repo.entropy).Nodup ∧
      w₁.studio.repo.tasks.map (·.status) = [.pending] ∧
      w₂.studio.repo.tasks.map (·.status) = [.success] ∧
      (∀ t ∈ w₁.studio.repo.tasks, ∃ t' ∈ w₂.studio.repo.tasks, t.Follows t') ∧
      w₂.claimed.Nodup ∧ w₂.claimed.length = 1 ∧ ∀ k ∈ w₂.asked, k ∈ w₂.claimed := by
  obtain ⟨w₁, w₂, h₁, h₂, hfresh, hpending, hsuccess, -, -, hclaimed, -⟩ := Reaches.fox
  obtain ⟨-, hfollows, -, hnodup, -, hasked⟩ :=
    World.task_lifecycle Studio.oneModel_blank h₁ h₂ hfresh
  exact ⟨w₁, w₂, h₁, h₂, hfresh, hpending, hsuccess, hfollows, hnodup, hclaimed, hasked⟩

end ImageStudio
