import ImageStudio.Proofs.Repository.Linked

/-!
# Proofs · Repository · TaskWrites: how one call writes the tasks

Of the sixteen operations of the repository, four write tasks: storing a batch adds one
pending task per image after the old ones, completing a generation finishes the processing
task it names with success, a transition moves the task it names to its target when the
task's status is one it allows, and a timeout sweep looks at the listed tasks in turn. Every
other call, and each of these four when it writes nothing, leaves the tasks as they were.

`RepoCall.WritesTasks` lists these five ways, and `RepoCall.writesTasks` puts every call in
one of them. A property of the tasks is then kept by every call when it is kept in each of
the five ways, and its proof is a case analysis over them, not over the operations.
-/

namespace ImageStudio

/-- How one call turns the tasks of `r` into those of `r'`. -/
inductive RepoCall.WritesTasks (r r' : Repository) : RepoCall → Prop
  /-- The call writes no task. -/
  | keep (c : RepoCall) : r'.tasks = r.tasks → WritesTasks r r' c
  /-- A stored batch: one pending task per image, after the old tasks. -/
  | batch (user : Uuid) (nb : NewBatch) (batch : Uuid) (now : Instant) (e : Entropy) :
      r'.tasks = r.tasks ++ (Repository.rowsFrom user batch now e nb.slots).map (·.1) →
      WritesTasks r r' (.createBatch user nb)
  /-- A completion: the user's processing task that it names succeeds. -/
  | complete (user gen : Uuid) (asset : Asset) (file : NewFile) (t₀ : Task) (now : Instant) :
      t₀ ∈ r.tasks → t₀.user = user → t₀.status = .processing →
      r'.tasks = r.tasks.map (fun u => if u.id == t₀.id then u.finish .success none now else u) →
      WritesTasks r r' (.completeGeneration user gen t₀.id asset file)
  /-- A transition: the user's task that it names, in a status it allows, takes the target. -/
  | transition (user : Uuid) (allowed : List TaskStatus) (target : TaskStatus)
      (error : Option TaskError) (t₀ : Task) (now : Instant) :
      t₀ ∈ r.tasks → t₀.user = user → t₀.status ∈ allowed →
      r'.tasks = r.tasks.map (fun u => if u.id == t₀.id then u.finish target error now else u) →
      WritesTasks r r' (.transition user t₀.id allowed target error)
  /-- A timeout sweep: the clock is read once, then each listed task is looked at in turn. -/
  | sweep (user : Uuid) (ids : List Uuid) (timeoutMs : Int) :
      r' = ids.foldl (Repository.sweepOne user (r.clock.addMillis 1) timeoutMs)
        { r with clock := r.clock.addMillis 1 } →
      WritesTasks r r' (.failTimedOut user ids timeoutMs)

open Repository in
/-- Every call writes the tasks in one of the five ways. -/
theorem RepoCall.writesTasks (c : RepoCall) (r : Repository) : c.WritesTasks r (c.apply r) := by
  cases c with
  | createTopic user title =>
    rw [RepoCall.apply, settle_snd, run_createTopic]
    exact .keep _ rfl
  | getTopic user id =>
    rw [RepoCall.apply, settle_snd, run_getTopic]
    cases r.topic? user id <;> exact .keep _ rfl
  | listTopics => exact .keep _ rfl
  | updateTopic user id title cover =>
    rw [RepoCall.apply, settle_snd, run_updateTopic]
    cases r.topic? user id <;> exact .keep _ rfl
  | setCoverIfEmpty user id cover =>
    rw [RepoCall.apply, settle_snd, run_setCoverIfEmpty]
    rcases r.topic? user id with _ | t
    · exact .keep _ rfl
    · dsimp only
      split_ifs
      · exact .keep _ rfl
      · exact .keep _ rfl
  | deleteTopic user id =>
    rw [RepoCall.apply, settle_snd, run_deleteTopic]
    rcases r.topic? user id with _ | t
    · exact .keep _ rfl
    · dsimp only
      rw [run_purgeOrphans]
      exact .keep _ rfl
  | createBatch user nb =>
    rw [RepoCall.apply, settle_snd]
    rcases hrun : ExceptT.run (Repository.createBatch user nb) r with ⟨_ | cb, r'⟩
    · exact .keep _ rfl
    · obtain ⟨t, -, -, -, hr'⟩ := createBatch_ok hrun
      dsimp only
      rw [hr']
      exact .batch user nb _ _ _ rfl
  | batchesOf => exact .keep _ rfl
  | deleteBatch user id =>
    rw [RepoCall.apply, settle_snd, run_deleteBatch]
    dsimp only
    split_ifs
    · exact .keep _ rfl
    · rw [run_purgeOrphans]
      exact .keep _ rfl
  | getGeneration => exact .keep _ rfl
  | findFile => exact .keep _ rfl
  | completeGeneration user gen task asset file =>
    rw [RepoCall.apply, settle_snd]
    rcases hp : (r.task? user task).any (·.status == .processing) with _ | _
    · rw [run_completeGeneration_of_idle hp]
      exact .keep _ rfl
    · rcases hg : r.generation? user gen with _ | g
      · rw [run_completeGeneration_of_missing hp hg]
        exact .keep _ rfl
      · -- the task found is the one named; storing the file leaves the tasks alone
        obtain ⟨t₀, hfind, hproc⟩ := (Option.any_eq_true _ _).1 hp
        obtain ⟨ht₀, rfl, huser⟩ := task?_spec hfind
        obtain ⟨record, clock, entropy, files, hfile⟩ := fileFor_ok user file r
        rw [run_completeGeneration hp (by rw [hg]; rfl) hfile]
        exact .complete user gen asset file t₀ _ ht₀ huser (beq_iff_eq.1 hproc) rfl
  | deleteGeneration user id =>
    rw [RepoCall.apply, settle_snd, run_deleteGeneration]
    rcases r.generation? user id with _ | g
    · exact .keep _ rfl
    · dsimp only
      rcases g.file with _ | f
      · exact .keep _ rfl
      · dsimp only
        rw [run_purgeOrphans]
        exact .keep _ rfl
  | getTask => exact .keep _ rfl
  | transition user id allowed target error =>
    rw [RepoCall.apply, settle_snd, run_transition]
    rcases hfind : r.task? user id with _ | t₀
    · exact .keep _ rfl
    · obtain ⟨ht₀, rfl, huser⟩ := task?_spec hfind
      dsimp only
      split_ifs with ha
      · exact .transition user allowed target error t₀ _ ht₀ huser (List.contains_iff_mem.1 ha) rfl
      · exact .keep _ rfl
  | failTimedOut user ids timeoutMs =>
    rw [RepoCall.apply_failTimedOut]
    exact .sweep user ids timeoutMs rfl

end ImageStudio
