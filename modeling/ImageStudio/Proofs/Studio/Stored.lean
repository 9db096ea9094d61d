import ImageStudio.Proofs.Studio.Objects

/-!
# Proofs · Studio · Stored: the object store holds the files' objects

The keys of the stored objects and the keys the files name are written in separate steps,
so they can only agree at points where nothing is between two such steps. A job is between
them from its first put until it has completed its generation or removed what it put
(`JobStage.uploading`); a deletion is between them from removing its rows until it has
removed their objects (`RequestStage.purging`).

They agree at every such point of a run from a blank studio, under three conditions.

* The object store serves every put and deletion. A refused deletion leaves an object that
  no file names, and a refused thumbnail put leaves a raw image behind a failed job.
* No deletion removes a file that a job found with its image's content and has not
  completed its generation with yet. The completion would name that file's keys again,
  after their objects went.
* Identifiers are drawn fresh, as everywhere else.

The store's two refusals are needed (`World.store_refusals_leave_objects`): after a run from a
blank studio whose store refuses one deletion, or refuses a job's thumbnail after taking its
raw image, no job is busy and no deletion purges while a stored object is named by no file.
A job whose thumbnail is refused fails at once: a job removes what it put only after its
completion, when the completion did not keep it. `World.objects_tracked` is the statement under the three
conditions.

The proof carries `Studio.Accounted` (`Proofs.Studio.Objects`) through every step, with the
keys the jobs and deletions in flight hold (`World.heldKeys`) and the keys the jobs have
chosen (`World.chosenKeys`), together with what each job relies on (`JobStage.Ready`):
`World.Tracked`. A job's step keeps it (`Studio.JobAccounted.jobStep`), and so does every
other step (`World.Tracked.step`). At a point where no job uploads and no deletion purges,
nothing is held, and the stored keys are the files' keys.
-/

namespace ImageStudio

/-- The keys of an upload whose thumbnail is the raw image: one. -/
theorem UploadedKeys.keys_of_eq {keys : UploadedKeys} (h : keys.thumbnail = keys.image) :
    keys.keys = [keys.image] := by
  simp [UploadedKeys.keys, h]

/-- The keys of an upload with a thumbnail of its own: the raw key, then the thumbnail's. -/
theorem UploadedKeys.keys_of_ne {keys : UploadedKeys} (h : keys.image ≠ keys.thumbnail) :
    keys.keys = [keys.image, keys.thumbnail] := by
  simp [UploadedKeys.keys, h]

/-- A stage chosen between two idle ones is idle. -/
theorem JobStage.Idle.ite (c : Prop) [Decidable c] {a b : JobStage} (ha : a.Idle) (hb : b.Idle) :
    (if c then a else b).Idle := by
  split
  · exact ha
  · exact hb

/-- A file names its raw key. -/
theorem FileRecord.url_mem_objectKeys (f : FileRecord) : f.url ∈ f.objectKeys := by
  unfold FileRecord.objectKeys
  split
  · split <;> simp
  · simp

/-- A file recorded for an upload names the upload's keys. -/
theorem FileRecord.objectKeys_eq_keys {f : FileRecord} {keys : UploadedKeys} (hurl : f.url = keys.image)
    (hthumb : f.metadata.thumbnailKey = some keys.thumbnail) : f.objectKeys = keys.keys := by
  unfold FileRecord.objectKeys UploadedKeys.keys
  rw [hthumb, hurl]
  dsimp only
  by_cases heq : keys.thumbnail = keys.image
  · rw [if_pos heq, if_pos (beq_iff_eq.2 heq.symm)]
  · rw [if_neg heq, if_neg fun h => heq (beq_iff_eq.1 h).symm]

/-- What the source drew until a point is fresh when what it drew until a later point is. -/
theorem Repository.Drawn.fresh_of_skip_skip {e₀ : Entropy} {r : Repository} (hr : r.Drawn e₀)
    {i j : Nat} (h : (e₀.drawnUntil ((r.entropy.skip i).skip j)).Nodup) :
    (e₀.drawnUntil (r.entropy.skip i)).Nodup := by
  rw [Entropy.skip_skip, hr.drawnUntil_skip, Entropy.idsFrom_add, ← List.append_assoc] at h
  rw [hr.drawnUntil_skip]
  exact h.sublist (List.sublist_append_left _ _)

/-- Completing a generation moves the source on by some draws. -/
theorem Repository.completeGeneration_skip (user gen task : Uuid) (asset : Asset) (file : NewFile)
    (r : Repository) :
    ∃ j, (Repository.settle (Repository.completeGeneration user gen task asset file) r).2.entropy =
      r.entropy.skip j :=
  let ⟨j, hj, _⟩ := (RepoCall.completeGeneration user gen task asset file).draws r
  ⟨j, hj⟩

namespace Studio

variable {e₀ : Entropy} {s : Studio} {X Y : List String} {α : Type}

/-! ## Programs that write neither files nor objects -/

namespace Quiet

/-- A program that leaves the repository and the object store as they are. -/
theorem of_repo_bucket {m : StateM Studio α}
    (h : ∀ s, (m.run s).2.repo = s.repo ∧ (m.run s).2.bucket = s.bucket) : Quiet m := by
  intro s
  obtain ⟨hrepo, hbucket⟩ := h s
  exact ⟨by rw [hrepo], hbucket, 0, by rw [hrepo]; rfl⟩

/-- A repository call that writes no files, whose failure is only noted. -/
theorem tryRepo {m : Repo α} (c : RepoCall) (hc : c.writesFiles = false)
    (hm : ∀ r, (Repository.settle m r).2 = c.apply r) : Quiet (Studio.tryRepo m) :=
  of_calls (Calls.tryRepo (P := fun c => c.writesFiles = false) c hc hm) fun _ h => h

end Quiet

/-! ## One step of a job -/

/-- What a job leaves in a studio: the accounts, with the keys it holds and has chosen
besides the keys `X` and `Y` of everyone else, and what it relies on. -/
def JobAccounted (e₀ : Entropy) (job : Job) (X Y : List String) (p : JobStage × Studio) : Prop :=
  p.2.Accounted e₀ (X ++ p.1.heldKeys) (Y ++ p.1.chosenKeys) ∧ p.1.Ready job p.2.repo.files

namespace JobAccounted

variable {job : Job}

/-- A step that writes neither files nor objects, between stages that rely on nothing and
hold no key, keeps the accounts. -/
theorem quiet {stage : JobStage} {m : StateM Studio JobStage}
    (h : JobAccounted e₀ job X Y (stage, s)) (hidle : stage.Idle) (hm : Quiet m)
    (hidle' : (m.run s).1.Idle) : JobAccounted e₀ job X Y (m.run s) := by
  obtain ⟨hheld, hchosen⟩ := JobStage.heldKeys_of_uploading hidle.1
  obtain ⟨hheld', hchosen'⟩ := JobStage.heldKeys_of_uploading hidle'.1
  have h₀ : s.Accounted e₀ (X ++ stage.heldKeys) (Y ++ stage.chosenKeys) := h.1
  rw [hheld, hchosen, List.append_nil, List.append_nil] at h₀
  refine ⟨?_, hidle'.ready job _⟩
  rw [hheld', hchosen', List.append_nil, List.append_nil]
  exact h₀.quiet hm

/-- A job that asks its provider touches neither the repository nor the object store, and
goes on to load the image or to fail. -/
theorem call_quiet (job : Job) (s : Studio) :
    ((Studio.jobStep job .call).run s).1.Idle ∧ ((Studio.jobStep job .call).run s).2.repo = s.repo ∧
      ((Studio.jobStep job .call).run s).2.bucket = s.bucket := by
  simp only [Studio.jobStep, Studio.run_get_bind]
  split
  · exact ⟨⟨rfl, rfl⟩, rfl, rfl⟩
  · simp only [Studio.run_bind, Studio.run_modify]
    split
    · exact ⟨⟨rfl, rfl⟩, rfl, rfl⟩
    · split <;> (try split) <;> exact ⟨⟨rfl, rfl⟩, rfl, rfl⟩

/-- A loaded image is processed and looked up by content: a file found goes on to be
reused, as long as it stays. -/
theorem loaded {image : ProviderImage} {source : SourceImage}
    (h : JobAccounted e₀ job X Y (.loaded image source, s)) :
    JobAccounted e₀ job X Y ((Studio.jobStep job (.loaded image source)).run s) := by
  have h₀ : s.Accounted e₀ (X ++ []) (Y ++ []) := h.1
  simp only [Studio.jobStep]
  split
  · exact ⟨h₀, trivial⟩
  · simp only [Studio.run_get_bind]
    split
    · rename_i f hf
      obtain ⟨hmem, huser, hhash⟩ := Repository.fileWithHash?_spec hf
      exact ⟨h₀, f, hmem, rfl, huser, hhash⟩
    · exact ⟨h₀, trivial⟩

/-- An upload chooses fresh keys and puts the raw image under the first; a thumbnail of its
own is left to put. -/
theorem upload {image : ProviderImage} {p : Processed}
    (h : JobAccounted e₀ job X Y (.upload image p, s)) (hd : s.repo.Drawn e₀)
    (hfresh : (e₀.drawnUntil ((Studio.jobStep job (.upload image p)).run s).2.repo.entropy).Nodup) :
    JobAccounted e₀ job X Y ((Studio.jobStep job (.upload image p)).run s) := by
  have h₀ : s.Accounted e₀ X Y := by
    have h₀ : s.Accounted e₀ (X ++ []) (Y ++ []) := h.1
    rwa [List.append_nil, List.append_nil] at h₀
  -- the keys are named by the identifier the upload draws, fresh as the step's end is
  have hdraw : (e₀.drawnUntil (s.repo.entropy.skip 1)).Nodup := by
    obtain ⟨j, hj, -⟩ := (putObject_through (P := fun _ => True) (fun _ _ => trivial)
      ((uploadKeys p).run s).1.image (.bytes p.raw.bytes) p.raw.mime ((uploadKeys p).run s).2).draws
    have hent : ((uploadKeys p).run s).2.repo.entropy = s.repo.entropy.skip 1 := by
      rw [uploadKeys_state]
    simp only [jobStep, Studio.run_bind] at hfresh
    split at hfresh <;>
    (simp only [Studio.run_pure] at hfresh; rw [hj, hent] at hfresh; exact hd.fresh_of_skip_skip hfresh)
  have h₁ := h₀.choose hd hdraw p
  simp only [jobStep, Studio.run_bind]
  generalize hkeys : (uploadKeys p).run s = o₁ at h₁
  obtain ⟨keys, s₁⟩ := o₁
  have hk : keys = ((uploadKeys p).run s).1 := by rw [hkeys]
  dsimp only at h₁ ⊢
  split
  · -- the raw image is its own thumbnail: one key
    rename_i hthumb
    have hsame : keys.keys = [keys.image] := UploadedKeys.keys_of_eq (hk ▸ uploadKeys_same hthumb s)
    rw [hsame] at h₁
    obtain ⟨hok, h₂⟩ := h₁.putObject (.bytes p.raw.bytes) p.raw.mime
    rw [Studio.run_pure, hok]
    exact ⟨by rw [← hsame] at h₂; exact h₂, rfl, rfl⟩
  · -- a thumbnail of its own is still to put
    rename_i w h' hthumb
    have hpair : keys.keys = [keys.image, keys.thumbnail] :=
      UploadedKeys.keys_of_ne (hk ▸ uploadKeys_image_ne_thumbnail hthumb s)
    rw [hpair] at h₁
    obtain ⟨hok, h₂⟩ := h₁.putObject (.bytes p.raw.bytes) p.raw.mime
    rw [Studio.run_pure]
    exact ⟨h₂, hok⟩

/-- The thumbnail's put turns its chosen key into a held one; the job then completes its
generation with both keys. -/
theorem putThumb {image : ProviderImage} {p : Processed} {keys : UploadedKeys} {w h' : Nat}
    {raw : Except PortError Unit} (h : JobAccounted e₀ job X Y (.putThumb image p keys w h' raw, s)) :
    JobAccounted e₀ job X Y ((Studio.jobStep job (.putThumb image p keys w h' raw)).run s) := by
  have h₀ : s.Accounted e₀ (X ++ [keys.image]) (Y ++ [keys.thumbnail]) := h.1
  have hraw : raw = .ok () := h.2
  -- the two keys are distinct, as all accounted keys are
  have hne : keys.image ≠ keys.thumbnail := by
    have hn := h₀.nodup
    rw [List.nodup_append] at hn
    exact hn.2.2 _ (List.mem_append_right _ (List.mem_append_right _ (List.mem_singleton_self _))) _
      (List.mem_append_right _ (List.mem_singleton_self _))
  obtain ⟨hok, h₁⟩ := h₀.putObject (.rendered w h') thumbnailMediaType
  simp only [jobStep, Studio.run_bind, Studio.run_pure, hok, hraw]
  show JobAccounted e₀ job X Y (.complete image p keys.image keys.thumbnail (some keys), _)
  refine ⟨?_, rfl, rfl⟩
  show Accounted e₀ _ (X ++ keys.keys) (Y ++ [])
  rw [UploadedKeys.keys_of_ne hne]
  simpa only [List.append_assoc, List.singleton_append] using h₁

/-- A completion with the keys of the job's own upload: they go to the file it adds, or
are left to remove when it adds none. -/
theorem completeUploaded {image : ProviderImage} {p : Processed} {imageKey thumbKey : String}
    {keys : UploadedKeys}
    (h : JobAccounted e₀ job X Y (.complete image p imageKey thumbKey (some keys), s)) :
    JobAccounted e₀ job X Y ((Studio.jobStep job (.complete image p imageKey thumbKey (some keys))).run s) := by
  obtain ⟨rfl, rfl⟩ : imageKey = keys.image ∧ thumbKey = keys.thumbnail := h.2
  have h₀ : s.Accounted e₀ (X ++ keys.keys) (Y ++ []) := h.1
  obtain ⟨j, hj⟩ := Repository.completeGeneration_skip job.user job.generation job.task
    (jobAsset image p keys.image keys.thumbnail) (jobFile p keys.image keys.thumbnail) s.repo
  have hfiles := Repository.completeGeneration_files job.user job.generation job.task
    (jobAsset image p keys.image keys.thumbnail) (jobFile p keys.image keys.thumbnail) s.repo
  generalize hres : Repository.settle (Repository.completeGeneration job.user job.generation job.task
    (jobAsset image p keys.image keys.thumbnail) (jobFile p keys.image keys.thumbnail)) s.repo = o
    at hfiles hj
  simp only [jobStep, Studio.run_bind, Studio.runRepo_run, Studio.run_pure, hres]
  obtain ⟨completed, r'⟩ := o
  dsimp only at hj hfiles
  rcases hfiles with ⟨hfiles, hret⟩ | ⟨-, f, rfl, hfiles, hurl, hmeta⟩
  · -- no file was added: the upload is left to remove, as a file kept from before names none
    -- of the keys the job holds
    have hdiscard : ∀ f, completed = .ok (some f) → (f.url == keys.image) = false := by
      intro f hf
      refine beq_false_of_ne fun heq => ?_
      have hn := (List.nodup_append.1 h₀.nodup).1
      exact (List.nodup_append.1 hn).2.2 _
        (List.mem_flatMap.2 ⟨f, hret f hf, heq ▸ FileRecord.url_mem_objectKeys f⟩) _
        (List.mem_append_right _ (UploadedKeys.mem_keys.2 (.inl rfl))) rfl
    obtain ⟨hidle, -⟩ := JobStage.heldKeys_of_uploading (JobStage.afterComplete_idle completed).1
    have hacc : Accounted e₀ { s with repo := r' } (X ++ (keys.keys ++ (JobStage.afterComplete completed).heldKeys)) (Y ++ []) := by
      rw [hidle, List.append_nil]
      exact h₀.transfer (List.Perm.of_eq (by simp only [fileKeys, hfiles])) rfl hj
    rcases completed with e | _ | f
    · exact ⟨hacc, JobStage.afterComplete_idle _⟩
    · exact ⟨hacc, JobStage.afterComplete_idle _⟩
    · simp only [hdiscard f rfl, Bool.false_eq_true, if_false]
      exact ⟨hacc, JobStage.afterComplete_idle _⟩
  · -- the job's file was added, naming its keys
    have hkeys : f.objectKeys = keys.keys := FileRecord.objectKeys_eq_keys hurl (by rw [hmeta]; rfl)
    have hkept : (f.url == keys.image) = true := beq_iff_eq.2 hurl
    simp only [hkept, if_true]
    refine ⟨?_, trivial⟩
    show Accounted e₀ _ (X ++ []) (Y ++ [])
    refine h₀.transfer ?_ rfl hj
    simp only [fileKeys, hfiles, List.flatMap_append, List.flatMap_singleton, hkeys, List.append_nil]
    rw [List.append_assoc]
    exact List.perm_append_comm.append_left _

/-- A completion with a file found by content keeps the files: that file is still there,
so the completion finds it again and adds none. -/
theorem completeFound {image : ProviderImage} {p : Processed} {imageKey thumbKey : String}
    (h : JobAccounted e₀ job X Y (.complete image p imageKey thumbKey none, s)) :
    JobAccounted e₀ job X Y ((Studio.jobStep job (.complete image p imageKey thumbKey none)).run s) := by
  obtain ⟨f, hf, -, huser, hhash⟩ := h.2
  have h₀ : s.Accounted e₀ (X ++ []) (Y ++ []) := h.1
  obtain ⟨j, hj⟩ := Repository.completeGeneration_skip job.user job.generation job.task
    (jobAsset image p imageKey thumbKey) (jobFile p imageKey thumbKey) s.repo
  have hfiles := Repository.completeGeneration_files job.user job.generation job.task
    (jobAsset image p imageKey thumbKey) (jobFile p imageKey thumbKey) s.repo
  generalize hres : Repository.settle (Repository.completeGeneration job.user job.generation job.task
    (jobAsset image p imageKey thumbKey) (jobFile p imageKey thumbKey)) s.repo = o at hfiles hj
  simp only [Studio.jobStep, Studio.run_bind, Studio.runRepo_run, Studio.run_pure, hres]
  obtain ⟨completed, r'⟩ := o
  dsimp only at hj hfiles
  rcases hfiles with ⟨hfiles, -⟩ | ⟨hnone, -⟩
  · obtain ⟨hheld, hchosen⟩ :=
      JobStage.heldKeys_of_uploading (JobStage.afterComplete_idle completed).1
    refine ⟨?_, (JobStage.afterComplete_idle completed).ready job _⟩
    show Accounted e₀ _ (X ++ (JobStage.afterComplete completed).heldKeys)
      (Y ++ (JobStage.afterComplete completed).chosenKeys)
    rw [hheld, hchosen]
    exact h₀.transfer (List.Perm.of_eq (by simp only [fileKeys, hfiles])) rfl hj
  · exact absurd ⟨huser, hhash⟩ (Repository.fileWithHash?_none hnone f hf)

/-- A removal settles the job's account for the key it removes; once all are removed, the
job goes on holding nothing. -/
theorem discard {keys : List String} {next : JobStage}
    (h : JobAccounted e₀ job X Y (.discard keys next, s)) :
    JobAccounted e₀ job X Y ((Studio.jobStep job (.discard keys next)).run s) := by
  cases keys with
  | nil =>
    have hnext : next.Idle := h.2
    obtain ⟨hheld, hchosen⟩ := JobStage.heldKeys_of_uploading hnext.1
    have h₀ : s.Accounted e₀ (X ++ ([] ++ next.heldKeys)) (Y ++ []) := h.1
    refine ⟨?_, hnext.ready job _⟩
    show Accounted e₀ s (X ++ next.heldKeys) (Y ++ next.chosenKeys)
    rwa [hchosen, ← List.nil_append next.heldKeys]
  | cons key keys =>
    have h₀ : s.Accounted e₀ (X ++ key :: (keys ++ next.heldKeys)) (Y ++ []) := h.1
    exact ⟨h₀.deleteObject, h.2⟩

/-- Every step of a job keeps the accounts, while the store serves and identifiers are
drawn fresh. -/
theorem jobStep {stage : JobStage} (h : JobAccounted e₀ job X Y (stage, s)) (hd : s.repo.Drawn e₀)
    (hfresh : (e₀.drawnUntil ((Studio.jobStep job stage).run s).2.repo.entropy).Nodup) :
    JobAccounted e₀ job X Y ((Studio.jobStep job stage).run s) := by
  cases stage with
  | claim =>
    refine h.quiet ⟨rfl, rfl⟩ (Quiet.bind (Quiet.tryRepo (.transition job.user job.task _ _ _) rfl
      fun _ => rfl) fun _ => Quiet.pure _) ?_
    exact JobStage.Idle.ite _ ⟨rfl, rfl⟩ ⟨rfl, rfl⟩
  | call =>
    exact h.quiet ⟨rfl, rfl⟩ (Quiet.of_repo_bucket fun s => (call_quiet job s).2)
      (call_quiet job s).1
  | loaded image source => exact h.loaded
  | upload image p => exact h.upload hd hfresh
  | putThumb image p keys w h' raw => exact h.putThumb
  | complete image p imageKey thumbKey uploaded =>
    cases uploaded with
    | none => exact h.completeFound
    | some keys => exact h.completeUploaded
  | discard keys next => exact h.discard
  | fail e =>
    exact h.quiet ⟨rfl, rfl⟩ (Quiet.bind (Quiet.bind (Quiet.tryRepo
      (.transition job.user job.task _ _ _) rfl fun _ => rfl) fun _ => Quiet.pure _) fun _ =>
      Quiet.pure _) ⟨rfl, rfl⟩
  | cover key =>
    exact h.quiet ⟨rfl, rfl⟩ (Quiet.bind (Quiet.tryRepo (.setCoverIfEmpty job.user job.topic key) rfl
      fun _ => rfl) fun _ => Quiet.pure _) ⟨rfl, rfl⟩
  | done => exact h.quiet ⟨rfl, rfl⟩ (Quiet.pure _) ⟨rfl, rfl⟩

end JobAccounted


/-! ## The steps of a request -/

/-- A repository operation run as a step of a request leaves, on success, the files that the
operation leaves, and on failure the files as they were. -/
theorem inRepo_files {β : Type} {m : Repo β} (F : β → List FileRecord)
    (hm : ∀ b r', ExceptT.run m s.repo = (.ok b, r') → (r'.files ++ F b).Perm s.repo.files) :
    (((Studio.inRepo m).run.run s).2.repo.files ++
      (((Studio.inRepo m).run.run s).1.toOption.map F).getD []).Perm s.repo.files := by
  simp only [Studio.inRepo, ExceptT.run_mk, Studio.runRepo_run]
  rcases h : ExceptT.run m s.repo with ⟨_ | b, r'⟩
  · rw [Repository.settle_of_error h]
    exact List.Perm.of_eq (List.append_nil _)
  · rw [Repository.settle_of_ok h]
    exact hm b r' h

theorem dropGeneration_files (user id : Uuid) (hids : (s.repo.files.map (·.id)).Nodup) :
    (((dropGeneration user id).run.run s).2.repo.files ++
      ((dropGeneration user id).run.run s).1.toOption.getD []).Perm s.repo.files := by
  unfold dropGeneration
  simp only [ExceptT.run_bind, Studio.run_bind, Studio.inRepo, ExceptT.run_mk, Studio.runRepo_run]
  rcases h : ExceptT.run (Repository.deleteGeneration user id) s.repo with ⟨_ | d, r'⟩
  · rw [Repository.settle_of_error h]
    exact List.Perm.of_eq (List.append_nil _)
  · rw [Repository.settle_of_ok h]
    have hperm := Repository.deleteGeneration_files hids h
    cases d with
    | none => exact hperm
    | some d => exact hperm

theorem dropBatch_files (user id : Uuid) :
    (((dropBatch user id).run.run s).2.repo.files ++
      ((dropBatch user id).run.run s).1.toOption.getD []).Perm s.repo.files := by
  unfold dropBatch
  simp only [ExceptT.run_bind, Studio.run_bind, Studio.inRepo, ExceptT.run_mk, Studio.runRepo_run]
  rcases h : ExceptT.run (Repository.deleteBatch user id) s.repo with ⟨_ | d, r'⟩
  · rw [Repository.settle_of_error h]
    exact List.Perm.of_eq (List.append_nil _)
  · rw [Repository.settle_of_ok h]
    have hperm := Repository.deleteBatch_files h
    -- a batch that is not there fails the request after deleting nothing
    cases d with
    | none => exact hperm
    | some files => exact hperm

/-- Files that leave, up to order, the ones that stay and the ones returned, take their keys
with them. -/
theorem fileKeys_perm {files files' F : List FileRecord} (h : (files' ++ F).Perm files) :
    (files'.flatMap (·.objectKeys) ++ F.flatMap (·.objectKeys)).Perm (files.flatMap (·.objectKeys)) := by
  rw [← List.flatMap_append]
  exact h.flatMap_right _

/-- The first step of a request leaves the keys of the files it deletes to the deletion, and
otherwise leaves the files as they are. -/
theorem beginRequest_files (r : Request) (hids : (s.repo.files.map (·.id)).Nodup) :
    (((beginRequest r).run s).2.fileKeys ++
      ((beginRequest r).run s).1.toList.flatMap RequestStage.heldKeys).Perm s.fileKeys := by
  -- a first step that writes no files and leaves no deletion behind
  have hquiet : ∀ k : StateM Studio (Option RequestStage), Calls (fun c => c.writesFiles = false) k →
      (k.run s).1.toList.flatMap RequestStage.heldKeys = [] →
      ((k.run s).2.fileKeys ++ (k.run s).1.toList.flatMap RequestStage.heldKeys).Perm s.fileKeys := by
    intro k hk hheld
    obtain ⟨r', hruns, seeds, hs⟩ := hk s
    rw [hheld, List.append_nil, hs]
    exact List.Perm.of_eq (by rw [fileKeys, fileKeys, hruns.files_eq fun _ h => h])
  -- a deletion leaves the keys of the files it returns
  have hdelete : ∀ (m : Serve (List FileRecord))
      (f : Except PortError (List FileRecord) → StateM Studio (Option RequestStage)),
      (((m.run.run s).2.repo.files ++ (m.run.run s).1.toOption.getD []).Perm s.repo.files) →
      (∀ files, f (.ok files) = pure (some (.purge (files.flatMap (·.objectKeys))))) →
      (∀ e, f (.error e) = pure none) →
      ((((m.run >>= f).run s).2.fileKeys ++
        ((m.run >>= f).run s).1.toList.flatMap RequestStage.heldKeys).Perm s.fileKeys) := by
    intro m f hm hok herr
    have hkeys := fileKeys_perm hm
    rw [Studio.run_bind]
    rcases hres : (m.run.run s).1 with e | files
    · rw [hres] at hkeys
      rw [herr, Studio.run_pure]
      simpa [fileKeys, Except.toOption] using hkeys
    · rw [hres] at hkeys
      rw [hok, Studio.run_pure]
      simpa [fileKeys, RequestStage.heldKeys, Except.toOption] using hkeys
  cases r with
  | createImage user req =>
    refine hquiet _ ((@planCreate_calls (fun c => c.writesFiles = false) user req (fun _ => rfl)
      fun _ => rfl).bind fun e => by cases e <;> exact Calls.pure _) ?_
    simp only [beginRequest, Studio.run_bind]
    split <;> rfl
  | status user gen task =>
    exact hquiet _ ((@generationStatus_calls (fun c => c.writesFiles = false) user gen task
      fun _ => rfl).bind fun _ => Calls.pure _) rfl
  | deleteGeneration user id =>
    exact hdelete _ _ (dropGeneration_files user id hids) (fun _ => rfl) fun _ => rfl
  | deleteBatch user id => exact hdelete _ _ (dropBatch_files user id) (fun _ => rfl) fun _ => rfl
  | deleteTopic user id =>
    exact hdelete _ _ (by simpa using inRepo_files (fun files => files) fun _ _ h =>
      Repository.deleteTopic_files h) (fun _ => rfl) fun _ => rfl
  | createTopic user title =>
    -- `rfl` alone would unfold the title's trimming before the bind
    exact hquiet _ ((@createTopic_calls (fun c => c.writesFiles = false) user title
      fun _ => rfl).bind fun _ => Calls.pure _)
      (by simp only [beginRequest, Studio.run_bind, Studio.run_pure]; rfl)
  | updateTopic user id title cover =>
    exact hquiet _ ((@updateTopic_calls (fun c => c.writesFiles = false) user id title cover
      rfl).bind fun _ => Calls.pure _) rfl

/-- A later step of a request keeps the accounts, with the keys the request holds before and
after it: a deletion settles its account for the object it removes, and storing a batch or
queueing a job writes neither files nor objects. -/
theorem Accounted.resumeRequest {st : RequestStage} (h : s.Accounted e₀ (X ++ st.heldKeys) Y) :
    ((Studio.resumeRequest st).run s).2.Accounted e₀
      (X ++ ((Studio.resumeRequest st).run s).1.toList.flatMap RequestStage.heldKeys) Y := by
  cases st with
  | commit plan =>
    have hq : Quiet (Studio.resumeRequest (.commit plan)) :=
      Quiet.of_calls ((@commitCreate_calls (fun c => c.writesFiles = false) plan fun _ => rfl).bind
        fun e => by cases e <;> exact Calls.pure _) fun _ h => h
    have hheld : ((Studio.resumeRequest (.commit plan)).run s).1.toList.flatMap
        RequestStage.heldKeys = [] := by
      simp only [Studio.resumeRequest, Studio.run_bind]
      split <;> rfl
    have h₀ : s.Accounted e₀ (X ++ []) Y := h
    rw [hheld]
    exact h₀.quiet hq
  | trigger jobs =>
    cases jobs with
    | nil => exact h
    | cons job jobs =>
      have hbucket : ∀ s, ((Studio.resumeRequest (.trigger (job :: jobs))).run s).2.bucket = s.bucket := by
        intro s
        simp only [Studio.resumeRequest, Studio.run_bind, enqueue]
        split <;> rfl
      have hq : Quiet (Studio.resumeRequest (.trigger (job :: jobs))) :=
        Quiet.of_through ((enqueue_through job fun _ => rfl).bind fun _ => .of_calls (Calls.pure _))
          (fun _ h => h) hbucket
      have h₀ : s.Accounted e₀ (X ++ []) Y := h
      exact h₀.quiet hq
  | purge keys =>
    cases keys with
    | nil => exact h
    | cons key keys =>
      have h₀ : s.Accounted e₀ (X ++ key :: keys) Y := h
      have h₁ := h₀.deleteObject
      show Accounted e₀ _ (X ++ (keys ++ [])) Y
      rwa [List.append_nil]

end Studio


/-! ## The service, step by step -/

namespace World

variable {e₀ : Entropy} {w w' : World}

/-- The keys the runs and the requests in flight hold. -/
def heldKeys (w : World) : List String :=
  w.runs.flatMap (·.2.heldKeys) ++ w.requests.flatMap RequestStage.heldKeys

/-- The keys the runs have chosen and not put yet. -/
def chosenKeys (w : World) : List String := w.runs.flatMap (·.2.chosenKeys)

/-- Every key of the world is accounted for, and each run can rely on what it relies on. -/
structure Tracked (e₀ : Entropy) (w : World) : Prop where
  accounted : w.studio.Accounted e₀ w.heldKeys w.chosenKeys
  ready : ∀ p ∈ w.runs, p.2.Ready p.1 w.studio.repo.files

/-- A step keeps every file that a run waits to complete its generation with. -/
def Spares (w w' : World) : Prop :=
  ∀ p ∈ w.runs, ∀ k ∈ p.2.reusedKey?, ∀ f ∈ w.studio.repo.files, f.url = k →
    f ∈ w'.studio.repo.files

/-- A step of the service after which the store serves every put and deletion, and which
keeps every file that a run waits to complete its generation with. -/
structure ServedStep (w w' : World) : Prop where
  step : ∃ a, Step w a w'
  serving : w'.studio.Serving
  spares : w.Spares w'

/-- Lists of keys that are one another's rearrangements, by their counts. -/
theorem perm_of_count {l l' : List String} (h : ∀ a, l.count a = l'.count a) : l.Perm l' :=
  List.perm_iff_count.2 h

/-- The runs that stay rely on what they relied on, while the files they wait for stay. -/
theorem Tracked.ready_of_spares (ht : w.Tracked e₀) (hsp : w.Spares w') :
    ∀ p ∈ w.runs, p.2.Ready p.1 w'.studio.repo.files :=
  fun p hp => (ht.ready p hp).of_spared fun k hk f hf hurl => hsp p hp k hk f hf hurl

/-- A run about to claim its task holds and relies on nothing: a world that gains one, with
its files and its accounts as they were, keeps every key accounted for. -/
theorem Tracked.addClaim (ht : w.Tracked e₀) (job : Job)
    (hruns : w'.runs = w.runs ++ [(job, .claim)]) (hrequests : w'.requests = w.requests)
    (hA : w'.studio.Accounted e₀ w.heldKeys w.chosenKeys)
    (hfiles : w'.studio.repo.files = w.studio.repo.files) : w'.Tracked e₀ := by
  have hheld : w'.heldKeys = w.heldKeys := by
    simp [heldKeys, hruns, hrequests, JobStage.heldKeys]
  have hchosen : w'.chosenKeys = w.chosenKeys := by
    simp [chosenKeys, hruns, JobStage.chosenKeys]
  refine ⟨by rw [hheld, hchosen]; exact hA, fun p hp => ?_⟩
  rw [hruns, List.mem_append, List.mem_singleton] at hp
  rcases hp with hp | rfl
  · rw [hfiles]
    exact ht.ready p hp
  · trivial

/-- Every served step keeps every key of the world accounted for, when the identifiers drawn
are fresh. -/
theorem Tracked.step (ht : w.Tracked e₀) (h : ServedStep w w') (hd : w.studio.repo.Drawn e₀)
    (hfresh : (e₀.drawnUntil w'.studio.repo.entropy).Nodup) : w'.Tracked e₀ := by
  obtain ⟨a, hstep⟩ := h.step
  have hready := ht.ready_of_spares h.spares
  have hA := ht.accounted
  cases hstep with
  | send r =>
    -- the keys of the files a deletion removes go to the deletion
    have hids := Repository.nodup_fileIds (hd.nodup (World.Step.fresh (.send w r) hd hfresh))
    have hperm := Studio.beginRequest_files r hids
    obtain ⟨r', hruns, seeds, hs⟩ := Studio.beginRequest_calls r w.studio
    obtain ⟨j, hj, -⟩ := hruns.draws
    refine ⟨hA.transfer ?_ (show ((Studio.beginRequest r).run w.studio).2.bucket = _ by rw [hs])
      (show ((Studio.beginRequest r).run w.studio).2.repo.entropy = _ by rw [hs]; exact hj), hready⟩
    have hcount := List.perm_iff_count.1 hperm
    refine perm_of_count fun k => ?_
    have hk := hcount k
    simp only [World.send, heldKeys, List.flatMap_append, List.count_append] at hk ⊢
    omega
  | resume pre post st hreq =>
    -- the request's keys, set apart from the others'
    have h₀ : w.studio.Accounted e₀ (w.runs.flatMap (·.2.heldKeys) ++
        pre.flatMap RequestStage.heldKeys ++ post.flatMap RequestStage.heldKeys ++ st.heldKeys)
        w.chosenKeys :=
      hA.perm (perm_of_count fun k => by
        simp only [heldKeys, hreq, List.flatMap_append, List.flatMap_cons, List.count_append]
        omega) (List.Perm.refl _)
    refine ⟨h₀.resumeRequest.perm (perm_of_count fun k => ?_) (List.Perm.refl _), hready⟩
    simp only [World.resume, heldKeys, List.flatMap_append, List.count_append]
    omega
  | take job rest hq => exact ht.addClaim job rfl rfl ⟨hA.nodup, hA.stored, hA.named, hA.serving⟩ rfl
  | rerun job htaken => exact ht.addClaim job rfl rfl hA rfl
  | advance pre post job stage hruns =>
    -- the run's keys, set apart from the others'
    have hmem : (job, stage) ∈ w.runs := by
      rw [hruns]
      exact List.mem_append_right _ List.mem_cons_self
    have h₀ : Studio.JobAccounted e₀ job (pre.flatMap (·.2.heldKeys) ++
        post.flatMap (·.2.heldKeys) ++ w.requests.flatMap RequestStage.heldKeys)
        (pre.flatMap (·.2.chosenKeys) ++ post.flatMap (·.2.chosenKeys)) (stage, w.studio) := by
      refine ⟨hA.perm (perm_of_count fun k => ?_) (perm_of_count fun k => ?_), ht.ready _ hmem⟩
      · simp only [heldKeys, hruns, List.flatMap_append, List.flatMap_cons, List.count_append]
        omega
      · simp only [chosenKeys, hruns, List.flatMap_append, List.flatMap_cons, List.count_append]
        omega
    have h₁ := h₀.jobStep hd hfresh
    refine ⟨h₁.1.perm (perm_of_count fun k => ?_) (perm_of_count fun k => ?_), fun p hp => ?_⟩
    · simp only [World.advance, heldKeys, List.flatMap_append, List.flatMap_cons, List.count_append]
      omega
    · simp only [World.advance, chosenKeys, List.flatMap_append, List.flatMap_cons,
        List.count_append]
      omega
    · simp only [World.advance, List.mem_append, List.mem_cons] at hp
      rcases hp with hp | rfl | hp
      · exact hready p (by rw [hruns]; exact List.mem_append_left _ hp)
      · exact h₁.2
      · exact hready p (by rw [hruns]; exact List.mem_append_right _ (List.mem_cons_of_mem _ hp))
  | cancelWorker => exact ⟨⟨hA.nodup, hA.stored, hA.named, hA.serving⟩, hready⟩
  | store refusePuts refuseDeletes => exact ⟨⟨hA.nodup, hA.stored, hA.named, h.serving⟩, hready⟩
  | wait ms => exact ⟨⟨hA.nodup, hA.stored, hA.named, hA.serving⟩, hready⟩

/-- A blank studio whose store serves has every key accounted for: it has none. -/
theorem tracked_blank {s₀ : Studio} (hblank : s₀.Blank) (hserving : s₀.Serving) :
    ({ studio := s₀ } : World).Tracked s₀.repo.entropy where
  accounted := {
    nodup := by simp [Studio.fileKeys, hblank.files, heldKeys, chosenKeys]
    stored := fun k => by
      simp [Studio.storedKeys, Studio.fileKeys, hblank.objects, hblank.files, heldKeys]
    named := fun k hk => by simp [Studio.fileKeys, hblank.files, heldKeys, chosenKeys] at hk
    serving := hserving }
  ready := fun p hp => by simp at hp

/-- A run of served steps is a run of the service. -/
theorem reaches_of_served {w₀ : World} (h : Relation.ReflTransGen ServedStep w₀ w) :
    Reaches w₀ w := by
  induction h with
  | refl => exact .refl
  | tail _ hs ih =>
    obtain ⟨a, hstep⟩ := hs.step
    exact .step ih hstep

/-- Along a served run from a blank studio with fresh draws, every key stays accounted for. -/
theorem Tracked.run {s₀ : Studio} (hblank : s₀.Blank) (hserving : s₀.Serving)
    (h : Relation.ReflTransGen ServedStep { studio := s₀ } w)
    (hfresh : (s₀.repo.entropy.drawnUntil w.studio.repo.entropy).Nodup) :
    w.Tracked s₀.repo.entropy := by
  induction h with
  | refl => exact tracked_blank hblank hserving
  | tail hr hs ih =>
    have hd := (reaches_of_served hr).drawn hblank.drawn
    obtain ⟨a, hstep⟩ := hs.step
    exact (ih (hstep.fresh hd hfresh)).step hs hd hfresh

/-! ## The stored objects are the files' objects -/

/-- In a run from a blank studio where the store serves every put and deletion, no deletion
removes a file that a job waits to complete its generation with, and identifiers are drawn
fresh: at every point where no job is between its first put and its last removal, and no
deletion between removing its rows and removing their objects, the stored objects are
exactly the objects the files name. -/
theorem objects_tracked {s₀ : Studio} (hblank : s₀.Blank) (hserving : s₀.Serving)
    (hrun : Relation.ReflTransGen ServedStep { studio := s₀ } w)
    (hfresh : (s₀.repo.entropy.drawnUntil w.studio.repo.entropy).Nodup)
    (hjobs : ∀ p ∈ w.runs, p.2.uploading = false)
    (hdeletions : ∀ st ∈ w.requests, st.purging = false) :
    ∀ k, k ∈ w.studio.storedKeys ↔ k ∈ w.studio.fileKeys := by
  have ht := Tracked.run hblank hserving hrun hfresh
  -- at such a point nothing is held
  have hheld : w.heldKeys = [] := by
    simp only [heldKeys, List.append_eq_nil_iff, List.flatMap_eq_nil_iff]
    exact ⟨fun p hp => (JobStage.heldKeys_of_uploading (hjobs p hp)).1,
      fun st hst => RequestStage.heldKeys_of_purging (hdeletions st hst)⟩
  intro k
  rw [ht.accounted.stored k, hheld, List.mem_nil_iff, or_false]

/-! ## Runs of the one-model studio -/

variable {a : Action}

/-- A step before which no run waits to complete with a file it found is a served step when
the store serves after it. -/
theorem ServedStep.of_step (h : Step w a w') (hserving : w'.studio.Serving)
    (hnone : ∀ p ∈ w.runs, p.2.reusedKey? = none) : ServedStep w w' :=
  ⟨⟨a, h⟩, hserving, fun p hp k hk => by rw [hnone p hp] at hk; cases hk⟩

/-- The one-model studio makes an image of a fox and files it: its store then holds the
image, which its file names. -/
theorem objects_tracked_fox : ∃ w : World,
    Relation.ReflTransGen ServedStep { studio := Studio.oneModel } w ∧
      (Studio.oneModel.repo.entropy.drawnUntil w.studio.repo.entropy).Nodup ∧
      (∀ p ∈ w.runs, p.2.uploading = false) ∧ (∀ st ∈ w.requests, st.purging = false) ∧
      w.studio.fileKeys.length = 1 ∧ ∀ k, k ∈ w.studio.storedKeys ↔ k ∈ w.studio.fileKeys := by
  obtain ⟨w, hrun, hfresh, hjobs, hdeletions, hfiles⟩ : ∃ w : World,
      Relation.ReflTransGen ServedStep { studio := Studio.oneModel } w ∧
        (Studio.oneModel.repo.entropy.drawnUntil w.studio.repo.entropy).Nodup ∧
        (∀ p ∈ w.runs, p.2.uploading = false) ∧ (∀ st ∈ w.requests, st.purging = false) ∧
        w.studio.fileKeys.length = 1 := by
    refine ⟨_, .tail (.tail (.tail (.tail (.tail (.tail (.tail (.tail (.tail (.tail .refl
      (.of_step (.send _ (.createImage ⟨1⟩ foxRequest)) (by decide +kernel)
        (by decide +kernel)))
      (.of_step (.resume_head _ (by decide +kernel)) (by decide +kernel) (by decide +kernel)))
      (.of_step (.resume_head _ (by decide +kernel)) (by decide +kernel) (by decide +kernel)))
      (.of_step (.resume_head _ (by decide +kernel)) (by decide +kernel) (by decide +kernel)))
      (.of_step (.take _ _ _ rfl) (by decide +kernel) (by decide +kernel)))
      (.of_step (.advance _ [] [] _ _ rfl) (by decide +kernel) (by decide +kernel)))
      (.of_step (.advance _ [] [] _ _ rfl) (by decide +kernel) (by decide +kernel)))
      (.of_step (.advance _ [] [] _ _ rfl) (by decide +kernel) (by decide +kernel)))
      (.of_step (.advance _ [] [] _ _ rfl) (by decide +kernel) (by decide +kernel)))
      (.of_step (.advance _ [] [] _ _ rfl) (by decide +kernel) (by decide +kernel)), ?_⟩
    decide +kernel
  exact ⟨w, hrun, hfresh, hjobs, hdeletions, hfiles,
    objects_tracked Studio.oneModel_blank ⟨rfl, rfl⟩ hrun hfresh hjobs hdeletions⟩


/-- A data URL of a PNG image of `2 × 2` pixels. -/
def twoByTwoPng : String :=
  "data:image/png;base64,iVBORw0KGgoAAAANSUhEUgAAAAIAAAACCAIAAAD91JpzAAAAFklEQVR42mMQl5JVUFZjkFNUUdfSBQAKOgGZEX4qWwAAAABJRU5ErkJggg=="

/-- The one-model studio whose provider answers every request with `twoByTwoPng`, an image
that is not its own thumbnail. -/
def Studio.pngModel : Studio :=
  { Studio.oneModel with
    providers := [{ name := "test", fallback := some (.ok { url := twoByTwoPng }) }] }

/-- A point of a run from `s₀`, with fresh draws, where no job is between its first put and
its last removal and no deletion between removing its rows and removing their objects, and
yet a stored object is named by no file. -/
def Untracked (s₀ : Studio) (w : World) : Prop :=
  (s₀.repo.entropy.drawnUntil w.studio.repo.entropy).Nodup ∧
    (∀ p ∈ w.runs, p.2.uploading = false) ∧ (∀ st ∈ w.requests, st.purging = false) ∧
    ∃ k ∈ w.studio.storedKeys, k ∉ w.studio.fileKeys

/-- Neither refusal of the store can be left out of `objects_tracked`. A store that refuses
deletions keeps the objects of a generation that is deleted: the one-model studio files an
image of a fox, its store starts refusing deletions, and the generation is deleted. A store
that refuses the thumbnail after taking the raw image keeps the raw image of a failed job:
the PNG studio's job for a fox puts its raw image, its store starts refusing puts, and the
job fails at the thumbnail without removing the raw image. Either run ends untracked, with
a store that takes the other kind of work. -/
theorem store_refusals_leave_objects :
    (∃ w : World, Reaches { studio := Studio.oneModel } w ∧ w.studio.bucket.refusePuts = false ∧
      Untracked Studio.oneModel w) ∧
    (∃ w : World, Reaches { studio := Studio.pngModel } w ∧ w.studio.bucket.refuseDeletes = false ∧
      Untracked Studio.pngModel w) := by
  constructor
  · refine ⟨_, .step (.step (.step (.step (.step (.step (.step (.step (.step (.step (.step (.step
      (.step (.step (.step .refl
      (.send _ (.createImage ⟨1⟩ foxRequest)))
      (.resume_head _ (by decide +kernel))) (.resume_head _ (by decide +kernel)))
      (.resume_head _ (by decide +kernel)))
      (.take _ _ _ rfl))
      (.advance _ [] [] _ _ rfl)) (.advance _ [] [] _ _ rfl)) (.advance _ [] [] _ _ rfl))
      (.advance _ [] [] _ _ rfl)) (.advance _ [] [] _ _ rfl)) (.advance _ [] [] _ _ rfl))
      -- the store starts refusing deletions, and the generation is deleted
      (.store _ false true))
      (.send _ (.deleteGeneration ⟨1⟩ (Uuid.draw ((⟨7, 0⟩ : Entropy).skip 3)).1)))
      (.resume_head _ (by decide +kernel))) (.resume_head _ (by decide +kernel)), ?_⟩
    unfold Untracked
    decide +kernel
  · refine ⟨_, .step (.step (.step (.step (.step (.step (.step (.step (.step (.step (.step
      (.step .refl
      (.send _ (.createImage ⟨1⟩ foxRequest)))
      (.resume_head _ (by decide +kernel))) (.resume_head _ (by decide +kernel)))
      (.resume_head _ (by decide +kernel)))
      (.take _ _ _ rfl))
      -- the claim, the provider, the processing, and the put of the raw image
      (.advance _ [] [] _ _ rfl)) (.advance _ [] [] _ _ rfl)) (.advance _ [] [] _ _ rfl))
      (.advance _ [] [] _ _ rfl))
      -- the store starts refusing puts: the thumbnail's is refused, and the job fails
      (.store _ true false))
      (.advance _ [] [] _ _ rfl)) (.advance _ [] [] _ _ rfl), ?_⟩
    unfold Untracked
    decide +kernel

end World

end ImageStudio
