import ImageStudio.Proofs.Repository.Runs

/-!
# Proofs · Repository · Filed: a generation's image, file and task agree

A generation gets its image in one write (`completeGeneration`), and only while its task is
processing: the generation gets an asset that shows the keys of a file, and the file, and
the task succeeds. A deletion removes generations and then those of their files that no
generation left uses. `Repository.Filed` says what these writes keep: a generation has an
asset exactly when it has a file, and a file exactly when its task succeeded; the asset
shows the keys of that file; every file is some generation's; and no two generations share a
task, so that the task a completion finishes is the task of the one generation it writes.

Each kind of write keeps `Filed` under the condition the service meets when it makes it:
`Filed.purge` for the deletions, `Filed.addBatch` for a new batch, `Filed.complete` for a
completion of the generation whose task it finishes, and `Filed.finishTask` and
`Filed.sweep` for the moves of a task that did not succeed to a state other than success.
A generation keeps all but its image and file through every call, a batch is never changed,
and a new one of either is named by a new draw (`RepoCall.lineage`, `Repository.Runs.lineage`);
with fresh draws, a row there at both ends of a run is the same row (`Lineage.kept`,
`Lineage.batch_eq`).
-/

namespace ImageStudio
namespace Repository

/-- How a repository keeps its generations' images. -/
structure Filed (r : Repository) : Prop where
  /-- No two generations share a task. -/
  taskOnce : (r.generations.map (·.task)).Nodup
  /-- A generation has an asset exactly when it has a file. -/
  assetFile : ∀ g ∈ r.generations, g.asset.isSome = g.file.isSome
  /-- A generation has a file exactly when its task succeeded. -/
  fileSuccess : ∀ g ∈ r.generations, ∀ t ∈ r.tasks, g.task = some t.id →
    (g.file.isSome = true ↔ t.status = .success)
  /-- An asset shows the keys of the generation's file. -/
  assetKeys : ∀ g ∈ r.generations, ∀ a ∈ g.asset, ∃ f ∈ r.files, g.file = some f.id ∧
    a.url = f.url ∧ a.thumbnailUrl = f.thumbnailKey
  /-- Every file is some generation's. -/
  fileUsed : ∀ f ∈ r.files, ∃ g ∈ r.generations, g.file = some f.id

/-- The files a purge of the identifiers `ids` keeps: those outside `ids`, and those some
generation in `used` still names. -/
theorem mem_purged {files : List FileRecord} {ids used : List Uuid} {f : FileRecord} :
    f ∈ files.filter (fun f => !(files.filter fun f => ids.contains f.id &&
      !used.contains f.id).contains f) ↔ f ∈ files ∧ (f.id ∈ ids → f.id ∈ used) := by
  simp only [List.mem_filter, Bool.and_eq_true, Bool.not_eq_eq_eq_not, Bool.not_true,
    List.contains_eq_mem, decide_eq_true_eq, decide_eq_false_iff_not]
  constructor
  · rintro ⟨hf, hkept⟩
    refine ⟨hf, fun hid => ?_⟩
    by_contra hused
    exact hkept ⟨hf, hid, hused⟩
  · rintro ⟨hf, hkept⟩
    exact ⟨hf, fun ⟨_, hid, hused⟩ => hused (hkept hid)⟩

variable {r r' : Repository}

namespace Filed

/-- Two generations with one task are one. -/
theorem eq_of_task (h : r.Filed) {g g' : Generation} (hg : g ∈ r.generations)
    (hg' : g' ∈ r.generations) (ht : g.task = g'.task) : g = g' :=
  List.inj_on_of_nodup_map h.taskOnce hg hg' ht

/-- A generation whose task did not succeed has no file. -/
theorem file_none (h : r.Filed) {g : Generation} (hg : g ∈ r.generations) {t : Task}
    (ht : t ∈ r.tasks) (hlink : g.task = some t.id) (hns : t.status ≠ .success) :
    g.file = none := by
  have hiff := h.fileSuccess g hg t ht hlink
  cases hfile : g.file with
  | none => rfl
  | some f =>
    rw [hfile] at hiff
    exact absurd (hiff.1 rfl) hns

/-- A write that leaves generations, tasks and files alone keeps the images filed. -/
theorem of_eq (h : r.Filed) (hg : r'.generations = r.generations) (ht : r'.tasks = r.tasks)
    (hf : r'.files = r.files) : r'.Filed where
  taskOnce := by rw [hg]; exact h.taskOnce
  assetFile := by rw [hg]; exact h.assetFile
  fileSuccess := by rw [hg, ht]; exact h.fileSuccess
  assetKeys := by rw [hg, hf]; exact h.assetKeys
  fileUsed := by rw [hg, hf]; exact h.fileUsed

/-- Removing the generations that `keep` drops, then the files among `ids` that no
generation left uses, keeps the images filed when every file a dropped generation used is
among `ids`. -/
theorem purge (h : r.Filed) (keep : Generation → Bool) (ids : List Uuid)
    (hlost : ∀ g ∈ r.generations, keep g = false → ∀ f ∈ g.file, f ∈ ids)
    (hg : r'.generations = r.generations.filter keep) (ht : r'.tasks = r.tasks)
    (hf : r'.files = r.files.filter fun f => !(r.files.filter fun f => ids.contains f.id &&
      !((r.generations.filter keep).filterMap (·.file)).contains f.id).contains f) :
    r'.Filed where
  taskOnce := by
    rw [hg]
    exact h.taskOnce.sublist (List.filter_sublist.map _)
  assetFile g hg' := by
    rw [hg] at hg'
    exact h.assetFile g (List.mem_of_mem_filter hg')
  fileSuccess g hg' := by
    rw [hg] at hg'
    rw [ht]
    exact h.fileSuccess g (List.mem_of_mem_filter hg')
  assetKeys g hg' a ha := by
    rw [hg] at hg'
    obtain ⟨f, hfm, hfile, hkeys⟩ := h.assetKeys g (List.mem_of_mem_filter hg') a ha
    -- the generation stays, so its file is still used
    refine ⟨f, ?_, hfile, hkeys⟩
    rw [hf, mem_purged]
    exact ⟨hfm, fun _ => List.mem_filterMap.2 ⟨g, hg', hfile⟩⟩
  fileUsed f hfm := by
    rw [hf, mem_purged] at hfm
    obtain ⟨hfm, hused⟩ := hfm
    obtain ⟨g, hgm, hfile⟩ := h.fileUsed f hfm
    rw [hg]
    cases hkeep : keep g with
    | true => exact ⟨g, List.mem_filter.2 ⟨hgm, hkeep⟩, hfile⟩
    | false =>
      -- its generation went, so the file was purged unless another one uses it
      obtain ⟨g', hg', hfile'⟩ := List.mem_filterMap.1 (hused (hlost g hgm hkeep f.id hfile))
      exact ⟨g', hg', hfile'⟩

/-- Removing generations that use no file keeps the images filed. -/
theorem dropUnfiled (h : r.Filed) (keep : Generation → Bool)
    (hfree : ∀ g ∈ r.generations, keep g = false → g.file = none)
    (hg : r'.generations = r.generations.filter keep) (ht : r'.tasks = r.tasks)
    (hf : r'.files = r.files) : r'.Filed where
  taskOnce := by
    rw [hg]
    exact h.taskOnce.sublist (List.filter_sublist.map _)
  assetFile g hg' := by
    rw [hg] at hg'
    exact h.assetFile g (List.mem_of_mem_filter hg')
  fileSuccess g hg' := by
    rw [hg] at hg'
    rw [ht]
    exact h.fileSuccess g (List.mem_of_mem_filter hg')
  assetKeys g hg' := by
    rw [hg] at hg'
    rw [hf]
    exact h.assetKeys g (List.mem_of_mem_filter hg')
  fileUsed f hfm := by
    rw [hf] at hfm
    obtain ⟨g, hgm, hfile⟩ := h.fileUsed f hfm
    rw [hg]
    cases hkeep : keep g with
    | true => exact ⟨g, List.mem_filter.2 ⟨hgm, hkeep⟩, hfile⟩
    | false => simp [hfree g hgm hkeep] at hfile

/-- Storing new generations with new pending tasks of their own, no file and no asset,
keeps the images filed when identifiers name one task each. -/
theorem addBatch (h : r.Filed) (hl : r.Linked) (rows : List (Task × Generation))
    (hrows : ∀ x ∈ rows, x.1.status = .pending ∧ x.2.task = some x.1.id ∧ x.2.file = none ∧
      x.2.asset = none)
    (hg : r'.generations = r.generations ++ rows.map (·.2))
    (ht : r'.tasks = r.tasks ++ rows.map (·.1)) (hf : r'.files = r.files)
    (hids : (r'.tasks.map (·.id)).Nodup) : r'.Filed where
  taskOnce := by
    -- the old generations name old tasks, once each, and the new ones the new tasks
    have hold : (r.generations.map (·.task)).Subperm (r.tasks.map fun t => some t.id) := by
      refine h.taskOnce.subperm fun x hx => ?_
      obtain ⟨g, hg, rfl⟩ := List.mem_map.1 hx
      obtain ⟨t, ht, hlink, -⟩ := hl.generationTask g hg
      exact List.mem_map.2 ⟨t, ht, hlink.symm⟩
    have hnew : (rows.map (·.2)).map (·.task) = rows.map fun x => some x.1.id :=
      by simpa [List.map_map] using List.map_congr_left fun x hx => (hrows x hx).2.1
    have hall : ((r.tasks ++ rows.map (·.1)).map fun t => some t.id).Nodup := by
      have hsome := hids.map fun _ _ h => Option.some.inj h
      rw [List.map_map, ht] at hsome
      exact hsome
    obtain ⟨l, hperm, hsub⟩ := (List.subperm_append_right (rows.map fun x => some x.1.id)).2 hold
    rw [hg, List.map_append, hnew]
    rw [List.map_append, List.map_map] at hall
    exact hperm.nodup_iff.1 (hall.sublist hsub)
  assetFile g hg' := by
    rw [hg] at hg'
    rcases List.mem_append.1 hg' with hg' | hg'
    · exact h.assetFile g hg'
    · obtain ⟨x, hx, rfl⟩ := List.mem_map.1 hg'
      rw [(hrows x hx).2.2.1, (hrows x hx).2.2.2]
      rfl
  fileSuccess g hg' t ht' hlink := by
    rw [hg] at hg'
    rw [ht] at ht' hids
    rw [List.map_append] at hids
    rcases List.mem_append.1 hg' with hg' | hg'
    · -- an old generation names an old task, and no new task shares its identifier
      obtain ⟨t₀, ht₀, hlink₀, -⟩ := hl.generationTask g hg'
      have hid : t₀.id = t.id := Option.some.inj (hlink₀.symm.trans hlink)
      rcases List.mem_append.1 ht' with ht' | ht'
      · exact h.fileSuccess g hg' t ht' hlink
      · exact absurd hid ((List.nodup_append.1 hids).2.2 _ (List.mem_map_of_mem ht₀) _
          (List.mem_map_of_mem ht'))
    · -- a new generation has no file, and its task is the new pending one
      obtain ⟨x, hx, rfl⟩ := List.mem_map.1 hg'
      obtain ⟨hpend, htask, hfile, -⟩ := hrows x hx
      have hx₁ : x.1 ∈ r.tasks ++ rows.map (·.1) := List.mem_append_right _ (List.mem_map_of_mem hx)
      have hsame : t = x.1 := by
        rw [← List.map_append] at hids
        exact List.inj_on_of_nodup_map hids ht' hx₁ (Option.some.inj (hlink.symm.trans htask))
      rw [hfile, hsame, hpend]
      simp
  assetKeys g hg' a ha := by
    rw [hg] at hg'
    rw [hf]
    rcases List.mem_append.1 hg' with hg' | hg'
    · exact h.assetKeys g hg' a ha
    · obtain ⟨x, hx, rfl⟩ := List.mem_map.1 hg'
      rw [(hrows x hx).2.2.2] at ha
      cases ha
  fileUsed f hfm := by
    rw [hf] at hfm
    obtain ⟨g, hgm, hfile⟩ := h.fileUsed f hfm
    exact ⟨g, hg ▸ List.mem_append_left _ hgm, hfile⟩

/-- Attaching a stored file to the generation `g₀` of the processing task `t₀`, and
finishing `t₀` with success, keeps the images filed: the generation had no file, since its
task had not succeeded, and every other generation and task stays as it was. -/
theorem complete (h : r.Filed) {g₀ : Generation} (hg₀ : g₀ ∈ r.generations) {t₀ : Task}
    (ht₀ : t₀ ∈ r.tasks) (hlink : g₀.task = some t₀.id) (hproc : t₀.status = .processing)
    (hgids : (r.generations.map (·.id)).Nodup) (htids : (r.tasks.map (·.id)).Nodup)
    (asset : Asset) (record : FileRecord) (now : Instant) (files : List FileRecord)
    (hrec : record ∈ files) (hold : ∀ f ∈ r.files, f ∈ files)
    (hnew : ∀ f ∈ files, f ∈ r.files ∨ f = record)
    (hg : r'.generations = r.generations.map fun g => if g.id == g₀.id then
      { g with asset := some { asset with url := record.url, thumbnailUrl := record.thumbnailKey },
               file := some record.id } else g)
    (ht : r'.tasks = r.tasks.map fun t => if t.id == t₀.id then t.finish .success none now else t)
    (hf : r'.files = files) : r'.Filed where
  taskOnce := by
    rw [hg, List.map_map]
    refine (List.map_congr_left fun g _ => ?_).symm ▸ h.taskOnce
    simp only [Function.comp_apply]
    split <;> rfl
  assetFile g' hg' := by
    rw [hg] at hg'
    obtain ⟨g, hg, rfl⟩ := List.mem_map.1 hg'
    split
    · rfl
    · exact h.assetFile g hg
  fileSuccess g' hg' t' ht' hlink' := by
    rw [hg] at hg'
    rw [ht] at ht'
    obtain ⟨g, hg, rfl⟩ := List.mem_map.1 hg'
    obtain ⟨t, ht, rfl⟩ := List.mem_map.1 ht'
    have htask : (if g.id == g₀.id then
        { g with asset := some { asset with url := record.url, thumbnailUrl := record.thumbnailKey },
                 file := some record.id } else g).task = g.task := by
      split <;> rfl
    have hid : (if t.id == t₀.id then t.finish .success none now else t).id = t.id := by
      split <;> rfl
    rw [htask, hid] at hlink'
    by_cases htt : t.id = t₀.id
    · -- the finished task is `t₀`, whose one generation is `g₀`
      have hteq : t = t₀ := List.inj_on_of_nodup_map htids ht ht₀ htt
      have hgeq : g = g₀ := h.eq_of_task hg hg₀ (by rw [hlink', hlink, hteq])
      subst hteq hgeq
      simp [Task.finish]
    · -- another task: its generation is not `g₀`, and neither changes
      have hgne : g.id ≠ g₀.id := by
        intro hgg
        have hgeq : g = g₀ := List.inj_on_of_nodup_map hgids hg hg₀ hgg
        rw [hgeq, hlink] at hlink'
        exact htt (Option.some.inj hlink').symm
      rw [if_neg (by simpa using hgne), if_neg (by simpa using htt)]
      exact h.fileSuccess g hg t ht hlink'
  assetKeys g' hg' a ha := by
    rw [hg] at hg'
    rw [hf]
    obtain ⟨g, hg, rfl⟩ := List.mem_map.1 hg'
    by_cases hgg : g.id = g₀.id
    · rw [if_pos (by simpa using hgg)] at ha ⊢
      rw [Option.mem_def, Option.some.injEq] at ha
      subst ha
      exact ⟨record, hrec, rfl, rfl, rfl⟩
    · rw [if_neg (by simpa using hgg)] at ha ⊢
      obtain ⟨f, hfm, hkeys⟩ := h.assetKeys g hg a ha
      exact ⟨f, hold f hfm, hkeys⟩
  fileUsed f hfm := by
    rw [hf] at hfm
    rw [hg]
    rcases hnew f hfm with hfm | rfl
    · -- an old file's generation is not `g₀`, which had no file
      obtain ⟨g, hg, hfile⟩ := h.fileUsed f hfm
      have hgne : g.id ≠ g₀.id := by
        intro hgg
        have hgeq : g = g₀ := List.inj_on_of_nodup_map hgids hg hg₀ hgg
        rw [hgeq, h.file_none hg₀ ht₀ hlink (by rw [hproc]; decide)] at hfile
        cases hfile
      exact ⟨g, List.mem_map.2 ⟨g, hg, if_neg (by simpa using hgne)⟩, hfile⟩
    · exact ⟨_, List.mem_map_of_mem hg₀, by rw [if_pos (beq_self_eq_true _)]⟩

/-- Moving a task that did not succeed to a state other than success keeps the images
filed, when identifiers name one task each. -/
theorem finishTask (h : r.Filed) (htids : (r.tasks.map (·.id)).Nodup) {t₀ : Task}
    (ht₀ : t₀ ∈ r.tasks) (hns : t₀.status ≠ .success) {target : TaskStatus}
    (htarget : target ≠ .success) (error : Option TaskError) (now : Instant)
    (hg : r'.generations = r.generations)
    (ht : r'.tasks = r.tasks.map fun t => if t.id == t₀.id then t.finish target error now else t)
    (hf : r'.files = r.files) : r'.Filed where
  taskOnce := by rw [hg]; exact h.taskOnce
  assetFile := by rw [hg]; exact h.assetFile
  fileSuccess g hg' t' ht' hlink := by
    rw [hg] at hg'
    rw [ht] at ht'
    obtain ⟨t, htm, rfl⟩ := List.mem_map.1 ht'
    have hid : (if t.id == t₀.id then t.finish target error now else t).id = t.id := by
      split <;> rfl
    rw [hid] at hlink
    by_cases htt : t.id = t₀.id
    · -- the moved task is `t₀`: it did not succeed before and does not after
      have hteq : t = t₀ := List.inj_on_of_nodup_map htids htm ht₀ htt
      subst hteq
      rw [if_pos (beq_self_eq_true _), h.file_none hg' htm hlink hns]
      simpa [Task.finish] using htarget
    · rw [if_neg (by simpa using htt)]
      exact h.fileSuccess g hg' t htm hlink
  assetKeys := by rw [hg, hf]; exact h.assetKeys
  fileUsed := by rw [hg, hf]; exact h.fileUsed

/-- A timeout sweep keeps the images filed: it fails tasks in flight only, one at a time,
and keeps the identifiers of the rows. -/
theorem sweep (user : Uuid) (now : Instant) (timeoutMs : Int) (ids : List Uuid) :
    r.Filed → r.rowIds.Nodup → (ids.foldl (sweepOne user now timeoutMs) r).Filed := by
  induction ids generalizing r with
  | nil => exact fun h _ => h
  | cons id rest ih =>
    intro h hids
    refine ih ?_ ((sweep_keeps user now timeoutMs [id] r).2 ▸ hids)
    unfold sweepOne
    split
    · rename_i hstale
      obtain ⟨t₀, hfind, hflight⟩ := staleAt_spec hstale
      obtain ⟨ht₀, ht₀id, -⟩ := task?_spec hfind
      -- the stale task is in flight, so it had not succeeded
      have hns : t₀.status ≠ .success := fun hs => by
        rw [hs] at hflight
        cases hflight
      rw [run_finishTask]
      exact h.finishTask (nodup_taskIds hids) ht₀ hns
        (show TaskStatus.error ≠ .success by decide) _ _ rfl (by rw [ht₀id]) rfl
    · exact h

end Filed

end Repository

/-- A generation as a later state shows it: the same row but for the image and the file
that its completion attaches. -/
def Generation.Kept (g g' : Generation) : Prop :=
  ∃ file asset, g' = { g with file := file, asset := asset }

namespace Generation.Kept

theorem refl (g : Generation) : g.Kept g := ⟨g.file, g.asset, rfl⟩

theorem trans {g g' g'' : Generation} (h : g.Kept g') (h' : g'.Kept g'') : g.Kept g'' := by
  obtain ⟨file, asset, rfl⟩ := h
  obtain ⟨file', asset', rfl⟩ := h'
  exact ⟨file', asset', rfl⟩

theorem id {g g' : Generation} (h : g.Kept g') : g'.id = g.id := by
  obtain ⟨file, asset, rfl⟩ := h
  rfl

end Generation.Kept

namespace Repository

/-- A timeout sweep writes the clock and the tasks only. -/
theorem sweep_rows (user : Uuid) (now : Instant) (timeoutMs : Int) (ids : List Uuid)
    (r : Repository) :
    ∃ clock tasks, ids.foldl (sweepOne user now timeoutMs) r = { r with clock, tasks } := by
  induction ids generalizing r with
  | nil => exact ⟨r.clock, r.tasks, rfl⟩
  | cons id rest ih =>
    obtain ⟨clock, tasks, h⟩ := ih (sweepOne user now timeoutMs r id)
    rw [List.foldl_cons, h]
    unfold sweepOne
    split
    · rw [run_finishTask]
      exact ⟨clock, tasks, rfl⟩
    · exact ⟨clock, tasks, rfl⟩

/-- Where the generations and batches of `r'` come from: each generation is one of `r` but
for its image, and each batch one of `r`, or else the row is named by one of the `j`
identifiers drawn from `r`'s source. -/
def Lineage (r r' : Repository) (j : Nat) : Prop :=
  (∀ g' ∈ r'.generations, (∃ g ∈ r.generations, g.Kept g') ∨ g'.id ∈ r.entropy.idsFrom j) ∧
    ∀ b' ∈ r'.batches, b' ∈ r.batches ∨ b'.id ∈ r.entropy.idsFrom j

namespace Lineage

variable {r r' r'' : Repository} {i j : Nat}

theorem of_sub (j : Nat) (hg : ∀ g ∈ r'.generations, g ∈ r.generations)
    (hb : ∀ b ∈ r'.batches, b ∈ r.batches) : Lineage r r' j :=
  ⟨fun g' hg' => .inl ⟨g', hg g' hg', .refl g'⟩, fun b' hb' => .inl (hb b' hb')⟩

theorem of_eq (j : Nat) (hg : r'.generations = r.generations) (hb : r'.batches = r.batches) :
    Lineage r r' j :=
  of_sub j (fun _ h => hg ▸ h) (fun _ h => hb ▸ h)

/-- Two calls in a row keep the rows as the first found them, or name them by the draws of
either. -/
theorem trans (h : Lineage r r' i) (he : r'.entropy = r.entropy.skip i)
    (h' : Lineage r' r'' j) : Lineage r r'' (i + j) := by
  -- a row named by the second call's draws is named by the draws of both together
  have hnew : ∀ x ∈ r'.entropy.idsFrom j, x ∈ r.entropy.idsFrom (i + j) := fun x hx => by
    rw [Entropy.idsFrom_add, ← he]
    exact List.mem_append_right _ hx
  have hold : ∀ x ∈ r.entropy.idsFrom i, x ∈ r.entropy.idsFrom (i + j) := fun x hx => by
    rw [Entropy.idsFrom_add]
    exact List.mem_append_left _ hx
  constructor
  · intro g'' hg''
    rcases h'.1 g'' hg'' with ⟨g', hg', hk'⟩ | hg''
    · rcases h.1 g' hg' with ⟨g, hg, hk⟩ | hg'
      · exact .inl ⟨g, hg, hk.trans hk'⟩
      · exact .inr (hk'.id ▸ hold _ hg')
    · exact .inr (hnew _ hg'')
  · intro b'' hb''
    rcases h'.2 b'' hb'' with hb' | hb''
    · exact (h.2 b'' hb').imp id (hold _)
    · exact .inr (hnew _ hb'')

end Lineage

end Repository

namespace RepoCall

open Repository

/-- A timeout sweep call writes the clock and the tasks only. -/
theorem failTimedOut_rows (user : Uuid) (ids : List Uuid) (timeoutMs : Int) (r : Repository) :
    ∃ clock tasks, (RepoCall.failTimedOut user ids timeoutMs).apply r = { r with clock, tasks } := by
  obtain ⟨n, hrun⟩ := run_failTimedOut user ids timeoutMs r
  obtain ⟨clock, tasks, hsweep⟩ := sweep_rows user (r.clock.addMillis 1) timeoutMs ids
    { r with clock := r.clock.addMillis 1 }
  rw [RepoCall.apply, settle_of_ok hrun, hsweep]
  exact ⟨clock, tasks, rfl⟩

/-- Every call keeps each generation but for its image and each batch as it was, and names
new ones by its draws. -/
theorem lineage (c : RepoCall) (r : Repository) :
    ∃ j, (c.apply r).entropy = r.entropy.skip j ∧ Lineage r (c.apply r) j := by
  obtain ⟨j, hj, -⟩ := c.draws r
  refine ⟨j, hj, ?_⟩
  cases c with
  | createBatch user nb =>
    rw [RepoCall.apply, settle_snd] at hj ⊢
    rcases hrun : ExceptT.run (Repository.createBatch user nb) r with ⟨_ | cb, r'⟩
    · exact .of_eq j rfl rfl
    · obtain ⟨t, -, -, -, hr'⟩ := createBatch_ok hrun
      rw [hrun] at hj
      dsimp only at hj ⊢
      rw [hr'] at hj ⊢
      -- the batch is named by the first draw, its generations by the later ones
      have hjeq : j = 1 + 2 * nb.slots.length := by
        have := congrArg Entropy.position hj
        simp only [Entropy.skip] at this
        omega
      rw [hjeq]
      refine ⟨fun g' hg' => ?_, fun b' hb' => ?_⟩ <;> rw [Entropy.idsFrom_add]
      · rcases List.mem_append.1 hg' with hg' | hg'
        · exact .inl ⟨g', hg', .refl g'⟩
        · right
          have hperm := ids_rowsFrom user (Uuid.draw r.entropy).1 (r.clock.addMillis 1)
            (r.entropy.skip 1) nb.slots
          refine List.mem_append_right _ (hperm.subset (List.mem_append_right _ ?_))
          obtain ⟨x, hx, rfl⟩ := List.mem_map.1 hg'
          exact List.mem_map.2 ⟨x, hx, rfl⟩
      · rcases List.mem_append.1 hb' with hb' | hb'
        · exact .inl hb'
        · rw [List.mem_singleton.1 hb']
          exact .inr (List.mem_append_left _ (List.mem_singleton_self _))
  | completeGeneration user gen task asset file =>
    rw [RepoCall.apply, settle_snd]
    rcases hp : (r.task? user task).any (·.status == .processing) with _ | _
    · rw [run_completeGeneration_of_idle hp]
      exact .of_eq j rfl rfl
    · rcases hgen : r.generation? user gen with _ | g₀
      · rw [run_completeGeneration_of_missing hp hgen]
        exact .of_eq j rfl rfl
      · -- attaching the image keeps the rest of the generation, and storing the file keeps
        -- the batches
        obtain ⟨record, clock, entropy, files, hfile⟩ := fileFor_ok user file r
        rw [run_completeGeneration hp (by rw [hgen]; rfl) hfile]
        refine ⟨fun g' hg' => ?_, fun b hb => .inl hb⟩
        obtain ⟨g, hg, rfl⟩ := List.mem_map.1 hg'
        refine .inl ⟨g, hg, ?_⟩
        split
        · exact ⟨_, _, rfl⟩
        · exact .refl g
  | deleteTopic user id =>
    rw [RepoCall.apply, settle_snd, run_deleteTopic]
    rcases r.topic? user id with _ | t
    · exact .of_eq j rfl rfl
    · dsimp only
      rw [run_purgeOrphans]
      exact .of_sub j (fun _ hg => List.mem_of_mem_filter hg) (fun _ hb => List.mem_of_mem_filter hb)
  | deleteBatch user id =>
    rw [RepoCall.apply, settle_snd, run_deleteBatch]
    dsimp only
    split_ifs
    · exact .of_sub j (fun _ hg => List.mem_of_mem_filter hg) (fun _ hb => List.mem_of_mem_filter hb)
    · rw [run_purgeOrphans]
      exact .of_sub j (fun _ hg => List.mem_of_mem_filter hg) (fun _ hb => List.mem_of_mem_filter hb)
  | deleteGeneration user id =>
    rw [RepoCall.apply, settle_snd, run_deleteGeneration]
    rcases r.generation? user id with _ | g
    · exact .of_eq j rfl rfl
    · dsimp only
      rcases g.file with _ | f
      · exact .of_sub j (fun _ hg => List.mem_of_mem_filter hg) (fun _ hb => hb)
      · dsimp only
        rw [run_purgeOrphans]
        exact .of_sub j (fun _ hg => List.mem_of_mem_filter hg) (fun _ hb => hb)
  | createTopic user title =>
    rw [RepoCall.apply, settle_snd, run_createTopic]
    exact .of_eq j rfl rfl
  | getTopic user id =>
    rw [RepoCall.apply, settle_snd, run_getTopic]
    cases r.topic? user id <;> exact .of_eq j rfl rfl
  | listTopics => exact .of_eq j rfl rfl
  | updateTopic user id title cover =>
    rw [RepoCall.apply, settle_snd, run_updateTopic]
    cases r.topic? user id <;> exact .of_eq j rfl rfl
  | setCoverIfEmpty user id cover =>
    rw [RepoCall.apply, settle_snd, run_setCoverIfEmpty]
    rcases r.topic? user id with _ | t
    · exact .of_eq j rfl rfl
    · by_cases hc : t.coverUrl.isNone = true
      · dsimp only
        rw [if_pos hc]
        exact .of_eq j rfl rfl
      · dsimp only
        rw [if_neg hc]
        exact .of_eq j rfl rfl
  | batchesOf => exact .of_eq j rfl rfl
  | getGeneration => exact .of_eq j rfl rfl
  | findFile => exact .of_eq j rfl rfl
  | getTask => exact .of_eq j rfl rfl
  | transition user id allowed target error =>
    rw [RepoCall.apply, settle_snd, run_transition]
    rcases r.task? user id with _ | t
    · exact .of_eq j rfl rfl
    · by_cases ha : allowed.contains t.status = true
      · dsimp only
        rw [if_pos ha]
        exact .of_eq j rfl rfl
      · dsimp only
        rw [if_neg ha]
        exact .of_eq j rfl rfl
  | failTimedOut user ids timeoutMs =>
    obtain ⟨clock, tasks, hsweep⟩ := failTimedOut_rows user ids timeoutMs r
    rw [hsweep]
    exact .of_eq j rfl rfl

/-- What a call does to the generations: each one after it is a generation from before
with the same identifier and task, or is named by one of the identifiers the call drew. -/
def KeepsGenerations (r r' : Repository) (j : Nat) : Prop :=
  ∀ g' ∈ r'.generations, (∃ g ∈ r.generations, g.id = g'.id ∧ g.task = g'.task) ∨
    g'.id ∈ r.entropy.idsFrom j

/-- Every call keeps the identifier and task of each generation, and names new ones by its
draws. -/
theorem generations_kept (c : RepoCall) (r : Repository) :
    ∃ j, (c.apply r).entropy = r.entropy.skip j ∧ KeepsGenerations r (c.apply r) j := by
  obtain ⟨j, hj, hrows, -⟩ := c.lineage r
  refine ⟨j, hj, fun g' hg' => (hrows g' hg').imp (fun ⟨g, hg, hk⟩ => ?_) id⟩
  obtain ⟨file, asset, rfl⟩ := hk
  exact ⟨g, hg, rfl, rfl⟩

end RepoCall

namespace Repository

variable {e₀ : Entropy} {r r' : Repository} {i : Nat}

/-- A run keeps each generation but for its image and each batch as it was, and names new
ones by its draws. -/
theorem Runs.lineage {P : RepoCall → Prop} (h : Runs P r r') :
    ∃ i, r'.entropy = r.entropy.skip i ∧ Lineage r r' i := by
  induction h with
  | refl r => exact ⟨0, rfl, .of_eq 0 rfl rfl⟩
  | @call r r' c _ _ ih =>
    obtain ⟨j, hj, hc⟩ := c.lineage r
    obtain ⟨i, hi, hrun⟩ := ih
    exact ⟨j + i, by rw [hi, hj, Entropy.skip_skip], hc.trans hj hrun⟩
  | tick t _ ih => exact ih
  | @draw r r' _ ih =>
    obtain ⟨i, hi, hrun⟩ := ih
    have hdraw : Lineage r { r with entropy := r.entropy.skip 1 } 1 := .of_eq 1 rfl rfl
    exact ⟨1 + i, by rw [hi, Entropy.skip_skip], hdraw.trans rfl hrun⟩

/-- An identifier of a row from before a stretch of fresh draws is none of them. -/
theorem Drawn.not_mem_idsFrom (hr : r.Drawn e₀) (he : r'.entropy = r.entropy.skip i)
    (hfresh : (e₀.drawnUntil r'.entropy).Nodup) {x : Uuid} (hx : x ∈ r.rowIds) :
    x ∉ r.entropy.idsFrom i := by
  rw [he, hr.drawnUntil_skip] at hfresh
  exact fun hnew => (List.nodup_append.1 hfresh).2.2 _ (hr.mem_drawnUntil hx) _ hnew rfl

/-- With fresh draws, a generation there before and after a stretch that keeps the rows is
the same row but for its image. -/
theorem Lineage.kept (h : Lineage r r' i) (hr : r.Drawn e₀) (he : r'.entropy = r.entropy.skip i)
    (hfresh : (e₀.drawnUntil r'.entropy).Nodup) {g g' : Generation} (hg : g ∈ r.generations)
    (hg' : g' ∈ r'.generations) (hid : g'.id = g.id) : g.Kept g' := by
  rcases h.1 g' hg' with ⟨g₀, hg₀, hk⟩ | hnew
  · -- the row it was kept from has its identifier, so it is `g`
    have hids := nodup_generationIds (hr.nodup (hr.fresh_of_skip he hfresh))
    rw [List.inj_on_of_nodup_map hids hg₀ hg (hk.id.symm.trans hid)] at hk
    exact hk
  · exact absurd (hid ▸ hnew) (hr.not_mem_idsFrom he hfresh (mem_rowIds_of_generation hg))

/-- With fresh draws, a batch there before and after a stretch that keeps the rows is the
same batch. -/
theorem Lineage.batch_eq (h : Lineage r r' i) (hr : r.Drawn e₀) (he : r'.entropy = r.entropy.skip i)
    (hfresh : (e₀.drawnUntil r'.entropy).Nodup) {b b' : Batch} (hb : b ∈ r.batches)
    (hb' : b' ∈ r'.batches) (hid : b'.id = b.id) : b' = b := by
  rcases h.2 b' hb' with hold | hnew
  · exact List.inj_on_of_nodup_map (nodup_batchIds (hr.nodup (hr.fresh_of_skip he hfresh))) hold hb hid
  · exact absurd (hid ▸ hnew) (hr.not_mem_idsFrom he hfresh (mem_rowIds_of_batch hb))

end Repository

end ImageStudio
