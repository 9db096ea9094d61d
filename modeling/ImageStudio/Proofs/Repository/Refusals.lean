import ImageStudio.Proofs.Repository.Effects
import ImageStudio.Repository.Calls

/-!
# Proofs · Repository · Refusals: a call that refuses, or does nothing, writes no row

Every operation of the repository checks before it writes. An operation that fails has
therefore written nothing: the rows it leaves are the rows it found, and only its clock
readings and the identifiers it drew remain (`Repository.RowsKept`). The same holds of an
operation that answers that it did nothing: a completion whose task is no longer
processing, a deletion of a batch or a generation that is not the caller's, a move of a
task that is in none of the allowed states, a cover for a topic that has one, and a
timeout sweep that failed no task.

These are facts about the operations as they run, before `Repository.settle` drops the
writes of a failed call: the operations never need that rollback. A batch whose seeds
repeat, at whatever positions, is refused as a whole (`createBatch_repeated_seed`), so no
part of it is stored and its topic's update time stays.

`refusals_keep_rows` gathers the operations that can refuse or do nothing.
-/

namespace ImageStudio
namespace Repository

/-- `r'` holds the rows of `r`: at most the clock moved on and identifiers were drawn. -/
def RowsKept (r r' : Repository) : Prop := r' = { r with clock := r'.clock, entropy := r'.entropy }

theorem RowsKept.refl (r : Repository) : RowsKept r r := rfl

/-- An operation keeps the rows when idle: run from any repository, it leaves the rows it
found whenever it fails, or answers with a result that `idle` marks as "nothing done". -/
def KeepsRowsWhenIdle {α : Type} (m : Repo α) (idle : α → Bool) : Prop :=
  ∀ r, (ExceptT.run m r).1.toOption.all idle = true → RowsKept r (ExceptT.run m r).2

section
variable {α : Type} {m : Repo α} {idle : α → Bool}

/-- An operation keeps the rows when idle if, from every repository, it either keeps them
or answers that it did something. -/
theorem keepsRowsWhenIdle_of
    (h : ∀ r, RowsKept r (ExceptT.run m r).2 ∨ ∃ a, (ExceptT.run m r).1 = .ok a ∧ idle a = false) :
    KeepsRowsWhenIdle m idle := by
  intro r hidle
  rcases h r with hkept | ⟨a, ha, hbusy⟩
  · exact hkept
  · rw [ha] at hidle
    change idle a = true at hidle
    rw [hbusy] at hidle
    cases hidle

/-- An operation that never answers idle keeps the rows when idle if it keeps them
whenever it fails. -/
theorem keepsRowsWhenIdle_of_error
    (h : ∀ r e r', ExceptT.run m r = (.error e, r') → RowsKept r r') :
    KeepsRowsWhenIdle m fun _ => false := by
  refine keepsRowsWhenIdle_of fun r => ?_
  rcases hrun : ExceptT.run m r with ⟨_ | a, r'⟩
  · exact .inl (h r _ r' hrun)
  · exact .inr ⟨a, rfl, rfl⟩

end

/-! ## Topics -/

theorem getTopic_keepsRows (user id : Uuid) :
    KeepsRowsWhenIdle (getTopic user id) fun _ => false := by
  intro r _
  rw [run_getTopic]
  exact RowsKept.refl r

theorem updateTopic_keepsRows (user id : Uuid) (title cover : Option String) :
    KeepsRowsWhenIdle (updateTopic user id title cover) fun _ => false := by
  refine keepsRowsWhenIdle_of fun r => ?_
  rw [run_updateTopic]
  rcases r.topic? user id with _ | t
  · exact .inl (RowsKept.refl r)
  · exact .inr ⟨_, rfl, rfl⟩

/-- A topic that is not the caller's is not deleted, and a deletion that finds it always
succeeds. -/
theorem deleteTopic_keepsRows (user id : Uuid) :
    KeepsRowsWhenIdle (deleteTopic user id) fun _ => false := by
  refine keepsRowsWhenIdle_of fun r => ?_
  rw [run_deleteTopic]
  rcases r.topic? user id with _ | t
  · exact .inl (RowsKept.refl r)
  · exact .inr ⟨_, by rw [run_purgeOrphans], rfl⟩

theorem setCoverIfEmpty_keepsRows (user id : Uuid) (cover : String) :
    KeepsRowsWhenIdle (setCoverIfEmpty user id cover) (!·) := by
  refine keepsRowsWhenIdle_of fun r => ?_
  rw [run_setCoverIfEmpty]
  rcases r.topic? user id with _ | t
  · exact .inl (RowsKept.refl r)
  · dsimp only
    split
    · exact .inr ⟨true, rfl, rfl⟩
    · exact .inl (RowsKept.refl r)

/-! ## Batches -/

/-- A refused batch leaves the rows as they were: its checks write nothing, and making its
rows draws identifiers until a seed repeats, and writes nothing before the last row is
made. -/
theorem createBatch_error {user : Uuid} {nb : NewBatch} {r r' : Repository} {e : PortError}
    (h : ExceptT.run (createBatch user nb) r = (.error e, r')) : RowsKept r r' := by
  unfold createBatch at h
  obtain ⟨hstate, -⟩ := run_checkBatch user nb r
  rw [Repo.run_bind] at h
  rcases hc : ExceptT.run (checkBatch user nb) r with ⟨_ | _, r₀⟩
  · -- the checks refused the batch
    rw [hc] at h hstate
    cases h
    rw [show r' = r from hstate]
    exact RowsKept.refl r
  · rw [hc] at h hstate
    dsimp only at h hstate
    rw [hstate] at h
    simp only [Repo.run_bind, run_now, run_freshId] at h
    obtain ⟨k, hk⟩ := makeRows_state user (Uuid.draw r.entropy).1 (r.clock.addMillis 1) [] nb.slots
      { r with clock := r.clock.addMillis 1, entropy := r.entropy.skip 1 }
    rcases hm : ExceptT.run (makeRows user (Uuid.draw r.entropy).1 (r.clock.addMillis 1) [] nb.slots)
      { r with clock := r.clock.addMillis 1, entropy := r.entropy.skip 1 } with ⟨_ | rows, r₂⟩
    · -- a seed repeated: only the clock and the source moved on
      rw [hm] at h hk
      cases h
      dsimp only at hk
      rw [hk]
      rfl
    · -- every row was made: the batch is stored, and the call succeeds
      rw [hm] at h
      simp only [Repo.run_modify, run_touchTopic, Repo.run_pure] at h
      cases h

theorem createBatch_keepsRows (user : Uuid) (nb : NewBatch) :
    KeepsRowsWhenIdle (createBatch user nb) fun _ => false :=
  keepsRowsWhenIdle_of_error fun _ _ _ h => createBatch_error h

/-- A batch whose seeds repeat, at whatever positions, is refused. -/
theorem createBatch_repeated_seed {user : Uuid} {nb : NewBatch} {seeds : List Int}
    (hs : nb.seeds = some seeds) (hdup : ¬seeds.Nodup) (r : Repository) :
    (ExceptT.run (createBatch user nb) r).1.toOption = none := by
  rcases hrun : ExceptT.run (createBatch user nb) r with ⟨_ | cb, r'⟩
  · rfl
  · -- a stored batch has no repeated seed
    obtain ⟨t, -, hfresh, -⟩ := createBatch_ok hrun
    have hnodup := hfresh.1
    rw [NewBatch.slots, hs] at hnodup
    simp only [List.filterMap_map] at hnodup
    exact absurd (by simpa using hnodup) hdup

/-- Deleting a batch that is not the caller's removes no batch, and then no generation:
the filters that remove them keep every row. -/
theorem deleteBatch_keepsRows (user id : Uuid) :
    KeepsRowsWhenIdle (deleteBatch user id) Option.isNone := by
  refine keepsRowsWhenIdle_of fun r => ?_
  rw [run_deleteBatch]
  dsimp only
  split
  · rename_i hnone
    have hgone : r.batches.filter (fun b => b.id == id && b.user == user) = [] := by
      rw [List.length_map, List.length_eq_zero_iff] at hnone
      exact hnone
    have hbatches : r.batches.filter (fun b => !(b.id == id && b.user == user)) = r.batches := by
      refine List.filter_eq_self.2 fun b hb => ?_
      have hkept := List.filter_eq_nil_iff.1 hgone b hb
      rw [Bool.not_eq_true] at hkept
      rw [hkept]
      rfl
    refine .inl ?_
    rw [RowsKept, hgone, hbatches]
    simp
  · exact .inr ⟨_, by rw [run_purgeOrphans]; rfl, rfl⟩

/-! ## Generations and tasks -/

theorem deleteGeneration_keepsRows (user id : Uuid) :
    KeepsRowsWhenIdle (deleteGeneration user id) Option.isNone := by
  refine keepsRowsWhenIdle_of fun r => ?_
  rw [run_deleteGeneration]
  rcases r.generation? user id with _ | g
  · exact .inl (RowsKept.refl r)
  · dsimp only
    rcases g.file with _ | f
    · exact .inr ⟨_, rfl, rfl⟩
    · exact .inr ⟨_, rfl, rfl⟩

/-- A completion whose task is not processing answers nothing and writes nothing; one whose
generation is missing fails before it looks for a file. -/
theorem completeGeneration_keepsRows (user gen task : Uuid) (asset : Asset) (file : NewFile) :
    KeepsRowsWhenIdle (completeGeneration user gen task asset file) Option.isNone := by
  refine keepsRowsWhenIdle_of fun r => ?_
  rcases hp : (r.task? user task).any (·.status == .processing) with _ | _
  · rw [run_completeGeneration_of_idle hp]
    exact .inl (RowsKept.refl r)
  · rcases hg : r.generation? user gen with _ | g
    · rw [run_completeGeneration_of_missing hp hg]
      exact .inl (RowsKept.refl r)
    · rcases hf : ExceptT.run (fileFor user file) r with ⟨_ | record, r₁⟩
      · -- looking for a file never fails
        rw [run_fileFor] at hf
        split at hf <;> cases hf
      · rw [run_completeGeneration hp (by rw [hg]; rfl) hf]
        exact .inr ⟨_, rfl, rfl⟩

theorem transition_keepsRows (user id : Uuid) (allowed : List TaskStatus) (target : TaskStatus)
    (error : Option TaskError) :
    KeepsRowsWhenIdle (transition user id allowed target error) (!·) := by
  refine keepsRowsWhenIdle_of fun r => ?_
  rw [run_transition]
  rcases r.task? user id with _ | t
  · exact .inl (RowsKept.refl r)
  · dsimp only
    split
    · exact .inr ⟨true, rfl, rfl⟩
    · exact .inl (RowsKept.refl r)

/-- A sweep that fails no task writes nothing: each task it fails is counted. The induction
is on the listed tasks; a stale first task makes the count positive. -/
theorem expireEach_zero (user : Uuid) (now : Instant) (timeoutMs : Int) (ids : List Uuid)
    (r : Repository) (h : (ExceptT.run (expireEach user now timeoutMs ids) r).1 = .ok 0) :
    (ExceptT.run (expireEach user now timeoutMs ids) r).2 = r := by
  induction ids generalizing r with
  | nil => rfl
  | cons id rest ih =>
    unfold expireEach at h ⊢
    simp only [Repo.run_get_bind] at h ⊢
    cases hstale : staleAt r user now timeoutMs id
    · simp only [hstale, Bool.false_eq_true, if_false, bind_pure] at h ⊢
      exact ih r h
    · simp only [hstale, if_true, Repo.run_bind, run_finishTask] at h
      rcases hrest : ExceptT.run (expireEach user now timeoutMs rest) _ with ⟨_ | n, r'⟩
      · rw [hrest] at h
        cases h
      · rw [hrest] at h
        cases h

theorem failTimedOut_keepsRows (user : Uuid) (ids : List Uuid) (timeoutMs : Int) :
    KeepsRowsWhenIdle (failTimedOut user ids timeoutMs) (· == 0) := by
  intro r hidle
  unfold failTimedOut at hidle ⊢
  rw [Repo.run_bind, run_now] at hidle ⊢
  dsimp only at hidle ⊢
  rcases hrun : ExceptT.run (expireEach user (r.clock.addMillis 1) timeoutMs ids)
    { r with clock := r.clock.addMillis 1 } with ⟨_ | n, r'⟩
  · obtain ⟨-, n, hn⟩ := expireEach_state user (r.clock.addMillis 1) timeoutMs ids
      { r with clock := r.clock.addMillis 1 }
    rw [hrun] at hn
    cases hn
  · rw [hrun] at hidle
    change (n == 0) = true at hidle
    have hzero := expireEach_zero user (r.clock.addMillis 1) timeoutMs ids
      { r with clock := r.clock.addMillis 1 } (by rw [hrun, beq_iff_eq.1 hidle])
    rw [hrun] at hzero
    dsimp only at hzero ⊢
    rw [hzero]
    rfl

/-! ## Every refusal -/

/-- A call that fails, or that answers it did nothing, leaves every row as it found it:
no topic, batch, generation, task or file is added, removed or changed, whatever the
repository and the arguments. This covers the failures of a batch, of a topic's lookup,
update and deletion and of a completion; a completion of a task no longer processing; the
deletions of a batch or a generation that are not found; a move of a task in none of the
allowed states; a cover for a topic that has one; and a sweep that failed no task. A batch
whose seeds repeat, at whatever positions, is among the refused ones. -/
theorem refusals_keep_rows :
    (∀ user nb, KeepsRowsWhenIdle (createBatch user nb) fun _ => false) ∧
    (∀ user id title cover, KeepsRowsWhenIdle (updateTopic user id title cover) fun _ => false) ∧
    (∀ user id, KeepsRowsWhenIdle (deleteTopic user id) fun _ => false) ∧
    (∀ user id, KeepsRowsWhenIdle (getTopic user id) fun _ => false) ∧
    (∀ user gen task asset file,
      KeepsRowsWhenIdle (completeGeneration user gen task asset file) Option.isNone) ∧
    (∀ user id, KeepsRowsWhenIdle (deleteBatch user id) Option.isNone) ∧
    (∀ user id, KeepsRowsWhenIdle (deleteGeneration user id) Option.isNone) ∧
    (∀ user id allowed target error,
      KeepsRowsWhenIdle (transition user id allowed target error) (!·)) ∧
    (∀ user id cover, KeepsRowsWhenIdle (setCoverIfEmpty user id cover) (!·)) ∧
    (∀ user ids timeoutMs, KeepsRowsWhenIdle (failTimedOut user ids timeoutMs) (· == 0)) ∧
    (∀ user nb seeds r, nb.seeds = some seeds → ¬seeds.Nodup →
      (ExceptT.run (createBatch user nb) r).1.toOption = none ∧
        RowsKept r (ExceptT.run (createBatch user nb) r).2) :=
  ⟨createBatch_keepsRows, updateTopic_keepsRows, deleteTopic_keepsRows, getTopic_keepsRows,
    completeGeneration_keepsRows, deleteBatch_keepsRows, deleteGeneration_keepsRows,
    transition_keepsRows, setCoverIfEmpty_keepsRows, failTimedOut_keepsRows,
    fun user nb _ r hs hdup =>
      have hfail := createBatch_repeated_seed hs hdup r
      ⟨hfail, createBatch_keepsRows user nb r (by rw [hfail]; rfl)⟩⟩

/-- Three images seeded 7, 8 and 7 in a topic of the caller's: the batch is refused, and
the repository keeps only its topic. -/
theorem refusals_keep_rows_seeds_seven_eight_seven :
    (ExceptT.run (createBatch ⟨1⟩
        { topic := (Uuid.draw ⟨7, 0⟩).1, provider := "fal", model := "fal-ai/flux/schnell",
          prompt := "a red fox", config := .null, imageNum := 3, seeds := some [7, 8, 7] })
        (RepoCall.applyAll [.createTopic ⟨1⟩ "foxes"] (empty default ⟨7, 0⟩))).1.toOption = none ∧
      RowsKept (RepoCall.applyAll [.createTopic ⟨1⟩ "foxes"] (empty default ⟨7, 0⟩))
        (ExceptT.run (createBatch ⟨1⟩
          { topic := (Uuid.draw ⟨7, 0⟩).1, provider := "fal", model := "fal-ai/flux/schnell",
            prompt := "a red fox", config := .null, imageNum := 3, seeds := some [7, 8, 7] })
          (RepoCall.applyAll [.createTopic ⟨1⟩ "foxes"] (empty default ⟨7, 0⟩))).2 :=
  refusals_keep_rows.2.2.2.2.2.2.2.2.2.2 ⟨1⟩ _ [7, 8, 7] _ rfl (by decide)

end Repository
end ImageStudio
