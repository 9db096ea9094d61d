import ImageStudio.Proofs.Repository.Files

/-!
# Proofs · Repository · Deletions: a deletion removes exactly what it names

The service deletes three kinds of row: a generation, a batch with its generations, and a
topic with its batches and their generations. Each deletion then removes the files that the
removed generations named and that no generation left names, and returns them, each once;
no task is ever removed (`Repository.Purged`). A row that is not the caller's is treated as
missing: deleting it changes nothing, and the answer is nothing for a generation or a
batch and a not-found failure for a topic.

The three statements (`deleteGeneration_exact`, `deleteBatch_exact`, `deleteTopic_exact`)
share one argument about the purge (`purged_of_purgeOrphans`): the operations remove
generations by a filter and pass the purge the files those generations named. Identifiers
named once make "the generation `x`" and "the batch `x`" one row each. A topic's batches
are removed by topic and user together, and that removes all of them because every batch
lies in a topic of its own user (`Repository.Linked`).

The service's deletion requests remove the rows and then the stored objects of the files
that went, one key at a time (`Studio.deleteGeneration_run` and its two siblings); a store
that refuses deletions keeps them all (`Bucket.afterDeleting`). `deletions_exact` puts the
six statements together.
-/

namespace ImageStudio

namespace Repository

/-- What a deletion did to the generations and files of `r`, leaving `r'`: it removed the
generations that `gone` selects and kept the others; it removed and returned, once each, the
files that a removed generation named and no remaining one names; it kept every task. -/
structure Purged (r r' : Repository) (gone : Generation → Prop) (files : List FileRecord) :
    Prop where
  generations : ∀ g, g ∈ r'.generations ↔ g ∈ r.generations ∧ ¬gone g
  returned : ∀ f, f ∈ files ↔ f ∈ r.files ∧ (∃ g ∈ r.generations, gone g ∧ g.file = some f.id) ∧
    ∀ g ∈ r'.generations, g.file ≠ some f.id
  once : files.Nodup
  files : ∀ f, f ∈ r'.files ↔ f ∈ r.files ∧ f ∉ files
  tasks : r'.tasks = r.tasks

variable {r r₁ r' : Repository}

/-- A purge description depends on `gone` only at the generations of `r`. -/
theorem Purged.congr {gone gone' : Generation → Prop} {files : List FileRecord}
    (h : Purged r r' gone files) (hg : ∀ g ∈ r.generations, gone g ↔ gone' g) :
    Purged r r' gone' files where
  generations g := by
    rw [h.generations g]
    exact ⟨fun ⟨hm, hn⟩ => ⟨hm, (hg g hm).not.1 hn⟩, fun ⟨hm, hn⟩ => ⟨hm, (hg g hm).not.2 hn⟩⟩
  returned f := by
    rw [h.returned f]
    refine and_congr_right fun _ => and_congr_left fun _ => ?_
    exact ⟨fun ⟨g, hm, hgone, hf⟩ => ⟨g, hm, (hg g hm).1 hgone, hf⟩,
      fun ⟨g, hm, hgone, hf⟩ => ⟨g, hm, (hg g hm).2 hgone, hf⟩⟩
  once := h.once
  files := h.files
  tasks := h.tasks

/-- Removing the generations that `keep` refuses and then purging the files they named: the
purge returns the files that a removed generation named and no remaining one names, once
each when files are named once. -/
theorem purged_of_purgeOrphans {ids : List Uuid} {files : List FileRecord}
    (h : ExceptT.run (purgeOrphans ids) r₁ = (.ok files, r')) (hF : (r.files.map (·.id)).Nodup)
    {keep : Generation → Bool} (hgen : r₁.generations = r.generations.filter keep)
    (hfiles : r₁.files = r.files) (htasks : r₁.tasks = r.tasks)
    (hids : ∀ i, i ∈ ids ↔ ∃ g ∈ r.generations, keep g = false ∧ g.file = some i) :
    Purged r r' (fun g => keep g = false) files := by
  rw [run_purgeOrphans] at h
  obtain ⟨hres, rfl⟩ := Prod.mk.inj h
  cases hres
  have hleft : ∀ g, g ∈ r₁.generations ↔ g ∈ r.generations ∧ ¬keep g = false := by
    intro g
    rw [hgen, List.mem_filter, Bool.not_eq_false]
  -- a file is returned when a removed generation names it and no remaining one does
  have hreturned : ∀ f, f ∈ r₁.files.filter (fun f =>
      ids.contains f.id && !(r₁.generations.filterMap (·.file)).contains f.id) ↔
      f ∈ r.files ∧ (∃ g ∈ r.generations, keep g = false ∧ g.file = some f.id) ∧
        ∀ g ∈ r₁.generations, g.file ≠ some f.id := by
    intro f
    simp only [List.mem_filter, Bool.and_eq_true, Bool.not_eq_true', ← hids, hfiles,
      List.contains_eq_mem, decide_eq_true_eq, decide_eq_false_iff_not, List.mem_filterMap,
      not_exists, not_and]
  refine ⟨hleft, hreturned, ?_, fun f => ?_, htasks⟩
  · rw [hfiles]
    exact (List.Nodup.of_map _ hF).filter _
  · simp only [List.mem_filter, Bool.not_eq_true', hfiles, List.contains_eq_mem,
      decide_eq_false_iff_not]

/-! ## The three deletions -/

/-- Deleting a generation of the caller's removes that generation alone, and then its file
when no other generation names it. A generation that is not the caller's stays, and so does
everything else. -/
theorem deleteGeneration_exact (hids : r.rowIds.Nodup) (u x : Uuid) :
    (r.generation? u x = none → ExceptT.run (deleteGeneration u x) r = (.ok none, r)) ∧
      ∀ g, r.generation? u x = some g → ∃ d r', ExceptT.run (deleteGeneration u x) r =
        (.ok (some d), r') ∧ d.generation = g ∧ Purged r r' (· = g) d.deletedFile.toList ∧
        r'.topics = r.topics ∧ r'.batches = r.batches := by
  refine ⟨fun hg => by rw [run_deleteGeneration, hg], fun g hg => ?_⟩
  obtain ⟨hgm, hgid, -⟩ := generation?_spec hg
  -- the filter that removes generation `x` removes `g` and no other generation
  have hgone : ∀ g' ∈ r.generations, (g'.id != x) = false ↔ g' = g := by
    intro g' hg'
    rw [bne_eq_false_iff_eq]
    exact ⟨fun h => List.inj_on_of_nodup_map (nodup_generationIds hids) hg' hgm (h.trans hgid.symm),
      fun h => h ▸ hgid⟩
  have hnamed : ∀ i, (∃ g' ∈ r.generations, (g'.id != x) = false ∧ g'.file = some i) ↔
      g.file = some i := by
    intro i
    constructor
    · rintro ⟨g', hg', hx, hf⟩
      rwa [← (hgone g' hg').1 hx]
    · exact fun hf => ⟨g, hgm, (hgone g hgm).2 rfl, hf⟩
  rcases hf : g.file with _ | f
  · -- a generation without a file leaves the files alone
    have hrun : ExceptT.run (purgeOrphans [])
        { r with generations := r.generations.filter (·.id != x) } =
        (.ok [], { r with generations := r.generations.filter (·.id != x) }) := by
      rw [run_purgeOrphans]
      simp
    have hp := purged_of_purgeOrphans hrun (nodup_fileIds hids) rfl rfl rfl
      fun i => by rw [hnamed, hf]; simp
    refine ⟨⟨g, none⟩, _, ?_, rfl, hp.congr hgone, rfl, rfl⟩
    rw [run_deleteGeneration, hg]
    simp only [hf]
  · rcases hrun : ExceptT.run (purgeOrphans [f])
        { r with generations := r.generations.filter (·.id != x) } with ⟨_ | fs, r₂⟩
    · rw [run_purgeOrphans] at hrun
      cases hrun
    have heq : ExceptT.run (deleteGeneration u x) r = (.ok (some ⟨g, fs.head?⟩), r₂) := by
      rw [run_deleteGeneration, hg]
      dsimp only
      rw [hf]
      dsimp only
      rw [hrun]
      rfl
    have hp := purged_of_purgeOrphans hrun (nodup_fileIds hids) rfl rfl rfl
      fun i => by rw [hnamed, hf]; simp [eq_comm]
    rw [run_purgeOrphans] at hrun
    dsimp only at hrun
    obtain ⟨hfs, rfl⟩ := Prod.mk.inj hrun
    cases hfs
    refine ⟨_, _, heq, rfl, ?_, rfl, rfl⟩
    -- the purge names one identifier, so it returns one file at most
    dsimp only
    rw [toList_head?_of_id ((nodup_fileIds hids).sublist (List.filter_sublist.map _))
      fun y hy => List.mem_singleton.1 (id_mem_of_purged hy)]
    exact hp.congr hgone

/-- Deleting a batch of the caller's removes that batch alone, all its generations, and then
the files they named that no generation left names. Deleting a batch that is not the
caller's changes nothing. -/
theorem deleteBatch_exact (hids : r.rowIds.Nodup) (u x : Uuid) :
    ((∀ b ∈ r.batches, b.id = x → b.user ≠ u) →
        ExceptT.run (deleteBatch u x) r = (.ok none, r)) ∧
      ∀ b ∈ r.batches, b.id = x → b.user = u → ∃ files r',
        ExceptT.run (deleteBatch u x) r = (.ok (some files), r') ∧
        Purged r r' (·.batch = x) files ∧ (∀ b', b' ∈ r'.batches ↔ b' ∈ r.batches ∧ b' ≠ b) ∧
        r'.topics = r.topics := by
  refine ⟨fun hnone => ?_, fun b hb hbx hbu => ?_⟩
  · -- no batch of the caller's has the identifier: both filters keep every row
    have hkeep : ∀ b ∈ r.batches, (b.id == x && b.user == u) = false := by
      intro b hb
      by_cases hx : b.id = x
      · simp [hx, hnone b hb hx]
      · simp [hx]
    have hgone : r.batches.filter (fun b => b.id == x && b.user == u) = [] :=
      List.filter_eq_nil_iff.2 fun b hb => by rw [hkeep b hb]; decide
    have hkept : r.batches.filter (fun b => !(b.id == x && b.user == u)) = r.batches :=
      List.filter_eq_self.2 fun b hb => by rw [hkeep b hb]; rfl
    rw [run_deleteBatch]
    dsimp only
    rw [hkept, hgone]
    simp
  · -- the batches removed are `b` alone
    have hdoomed : ∀ b', b' ∈ r.batches → ((b'.id == x && b'.user == u) = true ↔ b' = b) := by
      intro b' hb'
      simp only [Bool.and_eq_true, beq_iff_eq]
      exact ⟨fun h => List.inj_on_of_nodup_map (nodup_batchIds hids) hb' hb (h.1.trans hbx.symm),
        fun h => h ▸ ⟨hbx, hbu⟩⟩
    have hgone : ∀ y, y ∈ (r.batches.filter fun b => b.id == x && b.user == u).map (·.id) ↔
        y = x := by
      intro y
      simp only [List.mem_map, List.mem_filter]
      exact ⟨fun ⟨b', ⟨hb', hd⟩, hy⟩ => hy ▸ (hdoomed b' hb').1 hd ▸ hbx,
        fun hy => ⟨b, ⟨hb, (hdoomed b hb).2 rfl⟩, hbx.trans hy.symm⟩⟩
    have hlen : ((r.batches.filter fun b => b.id == x && b.user == u).map (·.id)).length ≠ 0 :=
      fun h => List.ne_nil_of_mem ((hgone x).2 rfl) (List.length_eq_zero_iff.1 h)
    rcases hrun : ExceptT.run (purgeOrphans
        ((r.generations.filter fun g => ((r.batches.filter fun b => b.id == x && b.user == u).map
          (·.id)).contains g.batch).filterMap (·.file)).eraseDups)
        { r with
          batches := r.batches.filter fun b => !(b.id == x && b.user == u)
          generations := r.generations.filter fun g =>
            !((r.batches.filter fun b => b.id == x && b.user == u).map (·.id)).contains g.batch }
        with ⟨_ | fs, r₂⟩
    · rw [run_purgeOrphans] at hrun
      cases hrun
    have heq : ExceptT.run (deleteBatch u x) r = (.ok (some fs), r₂) := by
      rw [run_deleteBatch]
      dsimp only
      rw [if_neg hlen, hrun]
      rfl
    have hp := purged_of_purgeOrphans hrun (nodup_fileIds hids) rfl rfl rfl fun i => by
      simp only [List.mem_eraseDups, List.mem_filterMap, List.mem_filter, Bool.not_eq_eq_eq_not,
        Bool.not_false, and_assoc]
    refine ⟨fs, r₂, heq, hp.congr fun g _ => ?_, fun b' => ?_, ?_⟩
    · rw [Bool.not_eq_eq_eq_not, Bool.not_false, List.contains_iff_mem, hgone]
    · rw [run_purgeOrphans] at hrun
      obtain ⟨-, rfl⟩ := Prod.mk.inj hrun
      simp only [List.mem_filter, Bool.not_eq_true']
      constructor
      · rintro ⟨hb', hd⟩
        exact ⟨hb', fun h => by rw [(hdoomed b' hb').2 h] at hd; cases hd⟩
      · rintro ⟨hb', hne⟩
        exact ⟨hb', Bool.eq_false_iff.2 fun h => hne ((hdoomed b' hb').1 h)⟩
    · rw [run_purgeOrphans] at hrun
      obtain ⟨-, rfl⟩ := Prod.mk.inj hrun
      rfl

/-- Deleting a topic of the caller's removes that topic alone, all its batches, their
generations, and then the files those named that no generation left names. Deleting a
topic that is not the caller's fails and changes nothing. The batches go by topic and user
together, and that takes every batch of the topic: a batch lies in a topic of its own
user. -/
theorem deleteTopic_exact (h : r.Linked) (hids : r.rowIds.Nodup) (u x : Uuid) :
    (r.topic? u x = none → ExceptT.run (deleteTopic u x) r = (.error (topicNotFound x), r)) ∧
      ∀ t, r.topic? u x = some t → ∃ files r', ExceptT.run (deleteTopic u x) r = (.ok files, r') ∧
        Purged r r' (fun g => ∃ b ∈ r.batches, b.topic = x ∧ b.id = g.batch) files ∧
        (∀ t', t' ∈ r'.topics ↔ t' ∈ r.topics ∧ t' ≠ t) ∧
        ∀ b, b ∈ r'.batches ↔ b ∈ r.batches ∧ b.topic ≠ x := by
  refine ⟨fun ht => by rw [run_deleteTopic, ht], fun t ht => ?_⟩
  obtain ⟨htm, htid, htu⟩ := topic?_spec ht
  -- every batch of the topic is the caller's, so the filter by topic and user takes them all
  have hdoomed : ∀ b ∈ r.batches, (b.topic == x && b.user == u) = true ↔ b.topic = x := by
    intro b hb
    simp only [Bool.and_eq_true, beq_iff_eq]
    refine ⟨And.left, fun hbx => ⟨hbx, ?_⟩⟩
    obtain ⟨t', ht', ht'id, ht'u⟩ := h.batchTopic b hb
    rw [← ht'u, List.inj_on_of_nodup_map (nodup_topicIds hids) ht' htm (by rw [ht'id, hbx, htid]),
      htu]
  have hgone : ∀ y, y ∈ (r.batches.filter fun b => b.topic == x && b.user == u).map (·.id) ↔
      ∃ b ∈ r.batches, b.topic = x ∧ b.id = y := by
    intro y
    simp only [List.mem_map, List.mem_filter]
    exact ⟨fun ⟨b, ⟨hb, hd⟩, hy⟩ => ⟨b, hb, (hdoomed b hb).1 hd, hy⟩,
      fun ⟨b, hb, hbx, hy⟩ => ⟨b, ⟨hb, (hdoomed b hb).2 hbx⟩, hy⟩⟩
  rcases hrun : ExceptT.run (purgeOrphans
      ((r.generations.filter fun g => ((r.batches.filter fun b => b.topic == x && b.user == u).map
        (·.id)).contains g.batch).filterMap (·.file)).eraseDups)
      { r with
        topics := r.topics.filter (·.id != x)
        batches := r.batches.filter fun b => !(b.topic == x && b.user == u)
        generations := r.generations.filter fun g =>
          !((r.batches.filter fun b => b.topic == x && b.user == u).map (·.id)).contains g.batch }
      with ⟨_ | fs, r₂⟩
  · rw [run_purgeOrphans] at hrun
    cases hrun
  have heq : ExceptT.run (deleteTopic u x) r = (.ok fs, r₂) := by
    rw [run_deleteTopic, ht]
    exact hrun
  have hp := purged_of_purgeOrphans hrun (nodup_fileIds hids) rfl rfl rfl fun i => by
    simp only [List.mem_eraseDups, List.mem_filterMap, List.mem_filter, Bool.not_eq_eq_eq_not,
      Bool.not_false, and_assoc]
  rw [run_purgeOrphans] at hrun
  obtain ⟨-, rfl⟩ := Prod.mk.inj hrun
  refine ⟨fs, _, heq, hp.congr fun g _ => ?_, fun t' => ?_, fun b => ?_⟩
  · rw [Bool.not_eq_eq_eq_not, Bool.not_false, List.contains_iff_mem, hgone]
  · simp only [List.mem_filter, bne_iff_ne, ne_eq]
    exact and_congr_right fun ht' =>
      ⟨fun hne heq => hne (heq ▸ htid), fun hne hid =>
        hne (List.inj_on_of_nodup_map (nodup_topicIds hids) ht' htm (hid.trans htid.symm))⟩
  · simp only [List.mem_filter, Bool.not_eq_true']
    exact and_congr_right fun hb => by rw [Bool.eq_false_iff]; exact (hdoomed b hb).not

end Repository

/-! ## The deletion requests -/

namespace Bucket

/-- The store after the objects under `keys` were deleted one by one: without them, unless
it refuses deletions, and then as it was. -/
def afterDeleting (b : Bucket) (keys : List String) : Bucket :=
  if b.refuseDeletes then b else { b with objects := b.objects.filter fun o => !keys.contains o.key }

@[simp] theorem afterDeleting_nil (b : Bucket) : b.afterDeleting [] = b := by
  unfold afterDeleting
  split
  · rfl
  · simp

end Bucket

namespace Studio

/-- Deleting objects one by one changes the store only, as `Bucket.afterDeleting` says. -/
theorem deleteObjects_run (keys : List String) (s : Studio) :
    (deleteObjects keys).run s = ((), { s with bucket := s.bucket.afterDeleting keys }) := by
  induction keys generalizing s with
  | nil =>
    simp [deleteObjects, Bucket.afterDeleting]
    rfl
  | cons k ks ih =>
    show StateT.run (deleteObject k >>= fun _ => deleteObjects ks) s = _
    rw [Studio.run_bind, ih]
    -- the first deletion changes the store alone, and only when the store serves deletions
    cases hr : s.bucket.refuseDeletes
    · have hfirst : (deleteObject k).run s =
          ((), { s with bucket := { s.bucket with objects := s.bucket.objects.filter (·.key != k) } }) := by
        simp [deleteObject, Bucket.delete, hr]
        rfl
      rw [hfirst]
      simp [Bucket.afterDeleting, hr, List.filter_filter, Bool.and_comm, bne]
      rfl
    · have hfirst : (deleteObject k).run s = ((), s) := by
        simp [deleteObject, Bucket.delete, hr]
        rfl
      rw [hfirst]
      simp [Bucket.afterDeleting, hr]

/-- Removing the stored objects of files, as the last part of a request. -/
theorem purgeFiles_run (files : List FileRecord) (s : Studio) :
    (liftM (purgeFiles files) : Serve Unit).run.run s =
      (.ok (), { s with bucket := s.bucket.afterDeleting (files.flatMap (·.objectKeys)) }) := by
  simp only [liftM, monadLift, MonadLift.monadLift, ExceptT.lift, ExceptT.run_mk, purgeFiles,
    Studio.run_map, deleteObjects_run]

/-- A generation's deletion request removes the rows, then the stored objects of the file
that went with them, if any. -/
theorem deleteGeneration_run {s : Studio} {u x : Uuid} {d : Option DeletedGeneration}
    {r' : Repository} (h : ExceptT.run (Repository.deleteGeneration u x) s.repo = (.ok d, r')) :
    (deleteGeneration u x).run.run s =
      (.ok (), { s with
        repo := r'
        bucket := s.bucket.afterDeleting ((d.bind (·.deletedFile)).toList.flatMap (·.objectKeys)) }) := by
  have hdrop : (dropGeneration u x).run.run s =
      (.ok (d.bind (·.deletedFile)).toList, { s with repo := r' }) := by
    unfold dropGeneration
    rw [Serve.run_inRepo_bind h]
    cases d <;> rfl
  unfold deleteGeneration
  rw [ExceptT.run_bind, Studio.run_bind, hdrop]
  exact purgeFiles_run _ _

/-- A batch's deletion request removes the rows, then the stored objects of the files that
went with them; it fails when there was no such batch. -/
theorem deleteBatch_run {s : Studio} {u x : Uuid} {res : Option (List FileRecord)}
    {r' : Repository} (h : ExceptT.run (Repository.deleteBatch u x) s.repo = (.ok res, r')) :
    (deleteBatch u x).run.run s =
      res.elim (.error (.notFound ("Batch " ++ x.toText ++ " not found")), { s with repo := r' })
        fun files => (.ok (), { s with
          repo := r'
          bucket := s.bucket.afterDeleting (files.flatMap (·.objectKeys)) }) := by
  unfold deleteBatch dropBatch
  rw [ExceptT.run_bind, Studio.run_bind]
  cases res with
  | none =>
    rw [Serve.run_inRepo_bind h]
    rfl
  | some files =>
    rw [Serve.run_inRepo_bind h]
    exact purgeFiles_run _ _

/-- A topic's deletion request removes the rows, then the stored objects of the files that
went with them. -/
theorem deleteTopic_run {s : Studio} {u x : Uuid} {files : List FileRecord} {r' : Repository}
    (h : ExceptT.run (Repository.deleteTopic u x) s.repo = (.ok files, r')) :
    (deleteTopic u x).run.run s =
      (.ok (), { s with
        repo := r'
        bucket := s.bucket.afterDeleting (files.flatMap (·.objectKeys)) }) := by
  unfold deleteTopic
  rw [Serve.run_inRepo_bind h]
  exact purgeFiles_run _ _

/-- A topic's deletion request whose rows' deletion fails, having written nothing, fails and
changes nothing. -/
theorem deleteTopic_run_error {s : Studio} {u x : Uuid} {e : PortError}
    (h : ExceptT.run (Repository.deleteTopic u x) s.repo = (.error e, s.repo)) :
    (deleteTopic u x).run.run s = (.error e, s) := by
  unfold deleteTopic
  simp only [ExceptT.run_bind, Studio.run_bind, Studio.inRepo, ExceptT.run_mk, Studio.runRepo_run,
    Repository.settle_of_error h]
  rfl

/-! ## What each deletion request does -/

/-- How the request to delete the generation `x` for the user `u` goes. When `u` has no such
generation, the rows answer nothing and the request changes nothing. Otherwise the rows lose
that generation alone, with its file when no other generation names it, and answer both; the
request then deletes the file's stored objects. -/
def DeletesGeneration (s : Studio) (u x : Uuid) : Prop :=
  (s.repo.generation? u x = none →
      ExceptT.run (Repository.deleteGeneration u x) s.repo = (.ok none, s.repo) ∧
        (deleteGeneration u x).run.run s = (.ok (), s)) ∧
    ∀ g, s.repo.generation? u x = some g → ∃ d r',
      ExceptT.run (Repository.deleteGeneration u x) s.repo = (.ok (some d), r') ∧
      d.generation = g ∧ Repository.Purged s.repo r' (· = g) d.deletedFile.toList ∧
      r'.topics = s.repo.topics ∧ r'.batches = s.repo.batches ∧
      (deleteGeneration u x).run.run s =
        (.ok (), { s with
          repo := r'
          bucket := s.bucket.afterDeleting (d.deletedFile.toList.flatMap (·.objectKeys)) })

/-- How the request to delete the batch `x` for the user `u` goes. When `u` has no such
batch, the rows answer nothing and the request fails as not found, changing nothing.
Otherwise the rows lose that batch, its generations and the files only they named, and
answer those files; the request then deletes their stored objects. -/
def DeletesBatch (s : Studio) (u x : Uuid) : Prop :=
  ((∀ b ∈ s.repo.batches, b.id = x → b.user ≠ u) →
      ExceptT.run (Repository.deleteBatch u x) s.repo = (.ok none, s.repo) ∧
        (deleteBatch u x).run.run s =
          (.error (.notFound ("Batch " ++ x.toText ++ " not found")), s)) ∧
    ∀ b ∈ s.repo.batches, b.id = x → b.user = u → ∃ files r',
      ExceptT.run (Repository.deleteBatch u x) s.repo = (.ok (some files), r') ∧
      Repository.Purged s.repo r' (·.batch = x) files ∧
      (∀ b', b' ∈ r'.batches ↔ b' ∈ s.repo.batches ∧ b' ≠ b) ∧ r'.topics = s.repo.topics ∧
      (deleteBatch u x).run.run s =
        (.ok (), { s with
          repo := r'
          bucket := s.bucket.afterDeleting (files.flatMap (·.objectKeys)) })

/-- How the request to delete the topic `x` for the user `u` goes. When `u` has no such
topic, the request fails as the topic not found, changing nothing. Otherwise the rows lose
that topic, its batches, their generations and the files only those named, and answer those
files; the request then deletes their stored objects. -/
def DeletesTopic (s : Studio) (u x : Uuid) : Prop :=
  (s.repo.topic? u x = none →
      ExceptT.run (Repository.deleteTopic u x) s.repo =
          (.error (Repository.topicNotFound x), s.repo) ∧
        (deleteTopic u x).run.run s = (.error (Repository.topicNotFound x), s)) ∧
    ∀ t, s.repo.topic? u x = some t → ∃ files r',
      ExceptT.run (Repository.deleteTopic u x) s.repo = (.ok files, r') ∧
      Repository.Purged s.repo r' (fun g => ∃ b ∈ s.repo.batches, b.topic = x ∧ b.id = g.batch)
        files ∧
      (∀ t', t' ∈ r'.topics ↔ t' ∈ s.repo.topics ∧ t' ≠ t) ∧
      (∀ b, b ∈ r'.batches ↔ b ∈ s.repo.batches ∧ b.topic ≠ x) ∧
      (deleteTopic u x).run.run s =
        (.ok (), { s with
          repo := r'
          bucket := s.bucket.afterDeleting (files.flatMap (·.objectKeys)) })

variable {s : Studio}

theorem deletesGeneration (hids : s.repo.rowIds.Nodup) (u x : Uuid) : s.DeletesGeneration u x := by
  obtain ⟨hnone, hsome⟩ := Repository.deleteGeneration_exact hids u x
  refine ⟨fun hg => ⟨hnone hg, ?_⟩, fun g hg => ?_⟩
  · rw [deleteGeneration_run (hnone hg)]
    simp
  · obtain ⟨d, r', hrun, hd, hp, ht, hb⟩ := hsome g hg
    exact ⟨d, r', hrun, hd, hp, ht, hb, deleteGeneration_run hrun⟩

theorem deletesBatch (hids : s.repo.rowIds.Nodup) (u x : Uuid) : s.DeletesBatch u x := by
  obtain ⟨hnone, hsome⟩ := Repository.deleteBatch_exact hids u x
  refine ⟨fun hb => ⟨hnone hb, ?_⟩, fun b hb hx hu => ?_⟩
  · rw [deleteBatch_run (hnone hb)]
    rfl
  · obtain ⟨files, r', hrun, hp, hbs, ht⟩ := hsome b hb hx hu
    exact ⟨files, r', hrun, hp, hbs, ht, deleteBatch_run hrun⟩

theorem deletesTopic (h : s.repo.Linked) (hids : s.repo.rowIds.Nodup) (u x : Uuid) :
    s.DeletesTopic u x := by
  obtain ⟨hnone, hsome⟩ := Repository.deleteTopic_exact h hids u x
  refine ⟨fun ht => ⟨hnone ht, deleteTopic_run_error (hnone ht)⟩, fun t ht => ?_⟩
  obtain ⟨files, r', hrun, hp, hts, hbs⟩ := hsome t ht
  exact ⟨files, r', hrun, hp, hts, hbs, deleteTopic_run hrun⟩

/-- On linked rows named once each, every deletion removes exactly what it names, for
whatever user and identifier: a generation alone, a batch with its generations, a topic with
its batches and their generations, each with the files no remaining generation names, whose
stored objects the request then deletes; and a request for something the user does not have
changes nothing. -/
theorem deletions_exact (h : s.repo.Linked) (hids : s.repo.rowIds.Nodup) (u x : Uuid) :
    s.DeletesGeneration u x ∧ s.DeletesBatch u x ∧ s.DeletesTopic u x :=
  ⟨deletesGeneration hids u x, deletesBatch hids u x, deletesTopic h hids u x⟩

/-- The calls that open a topic of the user `1` with a batch of two images of a cat. -/
def catCalls : List RepoCall :=
  [.createTopic ⟨1⟩ "cats",
   .createBatch ⟨1⟩
     { topic := (Uuid.draw ⟨7, 0⟩).1, provider := "p", model := "m", prompt := "a cat",
       config := .null, imageNum := 2, seeds := some [1, 2] }]

/-- A cat image, stored as a raw object and a thumbnail. -/
def catFile : NewFile :=
  { name := "cat.png", fileType := "image/png", fileHash := "c4t", size := 4, url := "1/cat.png",
    metadata := { thumbnailKey := some "1/cat_thumb.webp", width := 1, height := 1 } }

/-- The calls that claim the task of each of `user`'s generations in `r` and complete it with
the image `file`. -/
def completeEach (user : Uuid) (asset : Asset) (file : NewFile) (r : Repository) :
    List RepoCall :=
  r.generations.flatMap fun g =>
    (g.task.map fun task =>
      [.transition user task [.pending] .processing none,
       .completeGeneration user g.id task asset file]).getD []

/-- The topic of `catCalls` with both images done, and the same image: the second completion
finds the first one's file by its hash, so the two generations share one file. -/
def catBatch : Studio :=
  let r := RepoCall.applyAll catCalls (Repository.empty default ⟨7, 0⟩)
  { repo := RepoCall.applyAll
      (completeEach ⟨1⟩ { url := "", thumbnailUrl := "", width := 1, height := 1 } catFile r) r
    seeds := default }

/-- The rows of `catBatch` are linked and named once each, and its two generations name its
one file, so its deletions go as `deletions_exact` says: deleting one generation leaves the
file to the other. -/
theorem deletions_exact_catBatch :
    catBatch.repo.Linked ∧ catBatch.repo.rowIds.Nodup ∧ catBatch.repo.files.length = 1 ∧
      catBatch.repo.generations.map (·.file) =
        [catBatch.repo.files.head?.map (·.id), catBatch.repo.files.head?.map (·.id)] ∧
      ∀ u x, catBatch.DeletesGeneration u x ∧ catBatch.DeletesBatch u x ∧
        catBatch.DeletesTopic u x := by
  have hrepo : catBatch.repo = RepoCall.applyAll (catCalls ++ completeEach ⟨1⟩
      { url := "", thumbnailUrl := "", width := 1, height := 1 } catFile
      (RepoCall.applyAll catCalls (Repository.empty default ⟨7, 0⟩)))
      (Repository.empty default ⟨7, 0⟩) := by
    simp only [catBatch, RepoCall.applyAll, List.foldl_append]
  have hl : catBatch.repo.Linked := by
    rw [hrepo]
    exact RepoCall.linked_applyAll_of (Repository.linked_empty _ _) (Repository.drawn_empty _ _) _
      (by decide +kernel)
  have hi : catBatch.repo.rowIds.Nodup := by decide +kernel
  exact ⟨hl, hi, by decide +kernel, by decide +kernel, fun u x => deletions_exact hl hi u x⟩

end Studio

end ImageStudio
