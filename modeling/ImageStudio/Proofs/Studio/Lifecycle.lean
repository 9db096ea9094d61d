import ImageStudio.Proofs.Studio.Calls
import ImageStudio.Proofs.Repository.TaskWrites
import Mathlib.Logic.Relation

/-!
# Proofs · Studio · Lifecycle: a task moves forward only, and finishes once

A task starts pending. A worker claims it (processing), and it ends in success or in error;
a pending task can also fail at once. These four moves are the edges of its life
(`TaskStatus.Edge`), and nothing else happens to it: `Task.Moves` says that a task, from
one call on the repository to the next, stays where it is or takes one edge, and that a
finished task keeps its status, its error and its duration.

Every call the service makes moves every task so (`RepoCall.movesTasks`): a claim takes only
a pending task, a failure only a task in flight, the completion of a generation only a
processing task, a timeout sweep only tasks in flight, and each writes the one task it
looked up because identifiers name one task each. A step of the service is a run of such
calls (`World.Step.repo_runs`), so over any run of the service the repository goes from
one state to the next through calls each of which moves each task along at most one edge
(`World.Reaches.movesTasks`), and each task follows a path of edges, a finished one
unchanged (`Task.Follows`, `Repository.follows_of_chain`).
-/

namespace ImageStudio

/-- The edges of a task's life. -/
inductive TaskStatus.Edge : TaskStatus → TaskStatus → Prop where
  | claim : Edge .pending .processing
  | fail : Edge .pending .error
  | succeed : Edge .processing .success
  | abort : Edge .processing .error

namespace TaskStatus.Edge

variable {a b : TaskStatus}

/-- An edge leaves a task in flight. -/
theorem source_in_flight (h : Edge a b) : a.isTerminal = false := by
  cases h <;> rfl

/-- A task in flight can fail. -/
theorem to_error (h : a.isTerminal = false) : Edge a .error := by
  cases a
  · exact .fail
  · exact .abort
  · simp [TaskStatus.isTerminal] at h
  · simp [TaskStatus.isTerminal] at h

/-- No edge leads back to pending. -/
theorem target_ne_pending (h : Edge a b) : b ≠ .pending := by
  cases h <;> simp

end TaskStatus.Edge

/-- How a task may change in one call: its status stays or takes one edge, and a finished
task keeps its status, error and duration. -/
structure Task.Moves (t t' : Task) : Prop where
  id : t'.id = t.id
  status : t'.status = t.status ∨ TaskStatus.Edge t.status t'.status
  finished : t.status.isTerminal = true →
    t'.status = t.status ∧ t'.error = t.error ∧ t'.durationMs = t.durationMs

/-- Every task of `r` is still in `r'`, moved at most one edge. -/
def Repository.MovesTasks (r r' : Repository) : Prop :=
  ∀ t ∈ r.tasks, ∃ t' ∈ r'.tasks, t.Moves t'

namespace Task

theorem Moves.refl (t : Task) : t.Moves t := ⟨rfl, .inl rfl, fun _ => ⟨rfl, rfl, rfl⟩⟩

/-- A task in flight that takes an edge. -/
theorem moves_finish {t : Task} {target : TaskStatus} (h : TaskStatus.Edge t.status target)
    (error : Option TaskError) (now : Instant) : t.Moves (t.finish target error now) where
  id := rfl
  status := .inr h
  finished hterm := by simp [h.source_in_flight] at hterm

/-- What a timeout sweep does to a task: nothing, or it fails the task while in flight. -/
def Swept (t t' : Task) : Prop :=
  t' = t ∨ (t.status.isTerminal = false ∧ t'.status = .error ∧ t'.id = t.id)

/-- A failed task is finished, so a second sweep leaves it alone. -/
theorem Swept.trans {t t' t'' : Task} (h : t.Swept t') (h' : t'.Swept t'') : t.Swept t'' := by
  rcases h with rfl | ⟨hflight, herr, hid⟩
  · exact h'
  · rcases h' with rfl | ⟨hflight', -, -⟩
    · exact .inr ⟨hflight, herr, hid⟩
    · simp [herr, TaskStatus.isTerminal] at hflight'

theorem Swept.moves {t t' : Task} (h : t.Swept t') : t.Moves t' := by
  rcases h with rfl | ⟨hflight, herr, hid⟩
  · exact .refl _
  · exact ⟨hid, .inr (herr ▸ TaskStatus.Edge.to_error hflight),
      fun hterm => by simp [hflight] at hterm⟩

end Task

namespace Repository

theorem MovesTasks.of_subset {r r' : Repository} (h : ∀ t ∈ r.tasks, t ∈ r'.tasks) :
    MovesTasks r r' :=
  fun t ht => ⟨t, h t ht, .refl t⟩

theorem MovesTasks.of_eq {r r' : Repository} (h : r'.tasks = r.tasks) : MovesTasks r r' :=
  .of_subset fun _ ht => h ▸ ht

/-- Writing the one task named `t₀.id` along an edge of its life moves every task at most
one edge, when identifiers name one task each. -/
theorem movesTasks_finish {r : Repository} (tasks : List Task) (hids : (r.tasks.map (·.id)).Nodup)
    {t₀ : Task} (ht₀ : t₀ ∈ r.tasks) {target : TaskStatus} (hedge : TaskStatus.Edge t₀.status target)
    (error : Option TaskError) (now : Instant)
    (htasks : tasks = r.tasks.map fun u => if u.id == t₀.id then u.finish target error now else u) :
    ∀ t ∈ r.tasks, ∃ t' ∈ tasks, t.Moves t' := by
  intro t ht
  refine ⟨if t.id == t₀.id then t.finish target error now else t,
    htasks ▸ List.mem_map_of_mem ht, ?_⟩
  by_cases hid : t.id = t₀.id
  · -- the one task with this identifier is `t₀`
    have heq : t = t₀ := List.inj_on_of_nodup_map hids ht ht₀ hid
    subst heq
    rw [if_pos (beq_self_eq_true _)]
    exact Task.moves_finish hedge error now
  · rw [if_neg (by simpa using hid)]
    exact .refl t

/-- A timeout sweep fails some tasks in flight and changes no other task, and keeps the
identifiers of the tasks. -/
theorem swept_foldl (user : Uuid) (now : Instant) (timeoutMs : Int) :
    ∀ (ids : List Uuid) (r : Repository), (r.tasks.map (·.id)).Nodup →
      (∀ t ∈ r.tasks, ∃ t' ∈ (ids.foldl (sweepOne user now timeoutMs) r).tasks, t.Swept t') ∧
        (ids.foldl (sweepOne user now timeoutMs) r).tasks.map (·.id) = r.tasks.map (·.id)
  | [], r, _ => ⟨fun t ht => ⟨t, ht, .inl rfl⟩, rfl⟩
  | id :: rest, r, hids => by
    -- one sweep: the stale task, if any, fails
    have hone : (∀ t ∈ r.tasks, ∃ t' ∈ (sweepOne user now timeoutMs r id).tasks, t.Swept t') ∧
        (sweepOne user now timeoutMs r id).tasks.map (·.id) = r.tasks.map (·.id) := by
      unfold sweepOne
      split
      · rename_i hstale
        obtain ⟨t₀, hfind, hflight⟩ := staleAt_spec hstale
        obtain ⟨ht₀, ht₀id, -⟩ := task?_spec hfind
        rw [run_finishTask]
        refine ⟨fun t ht => ⟨_, List.mem_map_of_mem ht, ?_⟩, ?_⟩
        · by_cases hid : t.id = id
          · have heq : t = t₀ := List.inj_on_of_nodup_map hids ht ht₀ (hid.trans ht₀id.symm)
            subst heq
            rw [if_pos (by simpa using hid)]
            exact .inr ⟨hflight, rfl, rfl⟩
          · rw [if_neg (by simpa using hid)]
            exact .inl rfl
        · rw [List.map_map]
          exact List.map_congr_left fun t _ => (finish_keeps _ _ _ _ t).1
      · exact ⟨fun t ht => ⟨t, ht, .inl rfl⟩, rfl⟩
    obtain ⟨hmove, hidsEq⟩ := hone
    obtain ⟨hmove', hidsEq'⟩ := swept_foldl user now timeoutMs rest
      (sweepOne user now timeoutMs r id) (hidsEq ▸ hids)
    refine ⟨fun t ht => ?_, hidsEq'.trans hidsEq⟩
    obtain ⟨t₁, ht₁, hs₁⟩ := hmove t ht
    obtain ⟨t₂, ht₂, hs₂⟩ := hmove' t₁ ht₁
    exact ⟨t₂, ht₂, hs₁.trans hs₂⟩

end Repository

open Repository in
/-- Every call the service makes moves every task at most one edge, when identifiers name
one task each. -/
theorem RepoCall.movesTasks {jobs : List Job} (c : RepoCall) (hc : c.ByService jobs)
    {r : Repository} (hids : (r.tasks.map (·.id)).Nodup) : MovesTasks r (c.apply r) := by
  cases c.writesTasks r with
  | keep _ he => exact .of_eq he
  | batch user nb batch now e he =>
    -- the old tasks stay, and new ones come after them
    exact .of_subset fun t ht => he ▸ List.mem_append_left _ ht
  | complete user gen asset file t₀ now ht₀ _ hproc he =>
    have hedge : TaskStatus.Edge t₀.status .success := by
      rw [hproc]
      exact .succeed
    exact movesTasks_finish _ hids ht₀ hedge none now he
  | transition user allowed target error t₀ now ht₀ _ hmem he =>
    -- the service allows a claim only from pending, a failure only from flight
    have hedge : TaskStatus.Edge t₀.status target := by
      rcases hc with ⟨rfl, rfl⟩ | ⟨rfl, rfl⟩
      · rw [List.mem_singleton.1 hmem]
        exact .claim
      · rcases List.mem_pair.1 hmem with hs | hs <;> rw [hs]
        · exact .fail
        · exact .abort
    exact movesTasks_finish _ hids ht₀ hedge error now he
  | sweep user ids timeoutMs he =>
    intro t ht
    obtain ⟨t', ht', hs⟩ := (swept_foldl user _ timeoutMs ids
      { r with clock := r.clock.addMillis 1 } hids).1 t ht
    exact ⟨t', he ▸ ht', hs.moves⟩

/-! ## Along a run -/

/-- How a task may change over many calls: it keeps its identifier, its status goes along
edges of its life, and once finished it keeps its status, error and duration. -/
structure Task.Follows (t t' : Task) : Prop where
  id : t'.id = t.id
  status : Relation.ReflTransGen TaskStatus.Edge t.status t'.status
  finished : t.status.isTerminal = true →
    t'.status = t.status ∧ t'.error = t.error ∧ t'.durationMs = t.durationMs

/-- No path of edges leads back to pending. -/
theorem TaskStatus.path_ne_pending {a b : TaskStatus} (h : Relation.ReflTransGen Edge a b)
    (ha : a ≠ .pending) : b ≠ .pending := by
  induction h with
  | refl => exact ha
  | tail _ hedge _ => exact hedge.target_ne_pending

namespace Task

theorem Moves.follows {t t' : Task} (h : t.Moves t') : t.Follows t' where
  id := h.id
  status := by
    rcases h.status with hs | hs
    · rw [hs]
    · exact .single hs
  finished := h.finished

theorem Follows.trans {t t' t'' : Task} (h : t.Follows t') (h' : t'.Follows t'') :
    t.Follows t'' where
  id := h'.id.trans h.id
  status := h.status.trans h'.status
  finished hterm := by
    obtain ⟨hs, he, hd⟩ := h.finished hterm
    obtain ⟨hs', he', hd'⟩ := h'.finished (hs ▸ hterm)
    exact ⟨hs'.trans hs, he'.trans he, hd'.trans hd⟩

/-- A task that left pending never comes back to it. -/
theorem Follows.not_pending {t t' : Task} (h : t.Follows t') (hp : t.status ≠ .pending) :
    t'.status ≠ .pending :=
  TaskStatus.path_ne_pending h.status hp

end Task

namespace Repository

/-- Over a chain of states each of which moves each task at most one edge, every task
follows its life. -/
theorem follows_of_chain {r r' : Repository} (h : Relation.ReflTransGen MovesTasks r r') :
    ∀ t ∈ r.tasks, ∃ t' ∈ r'.tasks, t.Follows t' := by
  induction h with
  | refl => exact fun t ht => ⟨t, ht, (Task.Moves.refl t).follows⟩
  | tail _ hmove ih =>
    intro t ht
    obtain ⟨t₁, ht₁, hf⟩ := ih t ht
    obtain ⟨t₂, ht₂, hm⟩ := hmove t₁ ht₁
    exact ⟨t₂, ht₂, hf.trans hm.follows⟩

/-- A run of calls the service makes, with fresh draws, goes through states each of which
moves each task at most one edge: the calls do by `RepoCall.movesTasks`, and the clock and
the source leave the tasks alone. -/
theorem Runs.movesTasks {jobs : List Job} {e₀ : Entropy} {r r' : Repository}
    (h : Runs (RepoCall.ByService jobs) r r') (hr : r.Drawn e₀)
    (hfresh : (e₀.drawnUntil r'.entropy).Nodup) : Relation.ReflTransGen MovesTasks r r' :=
  h.keeps (Relation.ReflTransGen MovesTasks r)
    (fun c _ hc hi hids _ => hi.tail (c.movesTasks hc (nodup_taskIds hids)))
    (fun _ _ hi => hi.tail (.of_eq rfl))
    (fun _ hi => hi.tail (.of_eq rfl))
    hr hfresh .refl

end Repository

namespace World

variable {e₀ : Entropy} {w w' : World} {a : Action}

theorem Step.movesTasks (h : Step w a w') (hw : w.studio.repo.Drawn e₀)
    (hfresh : (e₀.drawnUntil w'.studio.repo.entropy).Nodup) :
    Relation.ReflTransGen Repository.MovesTasks w.studio.repo w'.studio.repo :=
  h.repo_runs.movesTasks hw hfresh

/-- Over any run of the service, with fresh draws, the repository goes through states each
of which moves each task at most one edge. -/
theorem Reaches.movesTasks (h : Reaches w w') (hw : w.studio.repo.Drawn e₀)
    (hfresh : (e₀.drawnUntil w'.studio.repo.entropy).Nodup) :
    Relation.ReflTransGen Repository.MovesTasks w.studio.repo w'.studio.repo := by
  induction h with
  | refl => exact .refl
  | step hr hs ih =>
    have hmid := hr.drawn hw
    exact (ih (hs.fresh hmid hfresh)).trans (hs.movesTasks hmid hfresh)

end World

end ImageStudio
