import ImageStudio.Proofs.Repository.Runs

/-!
# Proofs · Repository · Files: the calls that write files, and what a deletion returns

Four of the repository's operations write files: a completion may add one, and each of the
three deletions removes the files it leaves without a generation. Every other call leaves
the files as they are (`RepoCall.files_apply`), and so does every run of such calls
(`Repository.Runs.files_eq`).

A deletion returns the files it removed, and only those: the files before it are, up to
order, the files after it and the ones it returns (`Repository.deleteTopic_files` and its
two siblings). For a generation, whose file is looked up by identifier, this needs the
files to be named once each.
-/

namespace ImageStudio

namespace RepoCall

/-- Whether a call may write files: a completion and the three deletions. -/
def writesFiles : RepoCall → Bool
  | .completeGeneration .. | .deleteTopic .. | .deleteBatch .. | .deleteGeneration .. => true
  | _ => false

open Repository

/-- A timeout sweep writes tasks only. -/
theorem sweep_files (user : Uuid) (now : Instant) (timeoutMs : Int) (ids : List Uuid)
    (r : Repository) : (ids.foldl (sweepOne user now timeoutMs) r).files = r.files := by
  induction ids generalizing r with
  | nil => rfl
  | cons id rest ih =>
    rw [List.foldl_cons, ih]
    unfold sweepOne
    split <;> rfl

/-- A call that writes no files leaves them as they are, whatever its outcome. -/
theorem files_apply (c : RepoCall) (hc : c.writesFiles = false) (r : Repository) :
    (c.apply r).files = r.files := by
  cases c with
  | completeGeneration | deleteTopic | deleteBatch | deleteGeneration => cases hc
  | listTopics | batchesOf | getGeneration | findFile | getTask => rfl
  | createTopic user title => rw [apply, settle_snd, run_createTopic]
  | getTopic user id =>
    rw [apply, settle_snd, run_getTopic]
    cases r.topic? user id <;> rfl
  | updateTopic user id title cover =>
    rw [apply, settle_snd, run_updateTopic]
    cases r.topic? user id <;> rfl
  | setCoverIfEmpty user id cover =>
    rw [apply, settle_snd, run_setCoverIfEmpty]
    rcases r.topic? user id with _ | t
    · rfl
    · by_cases hcover : t.coverUrl.isNone = true
      · dsimp only
        rw [if_pos hcover]
      · dsimp only
        rw [if_neg hcover]
  | transition user id allowed target error =>
    rw [apply, settle_snd, run_transition]
    rcases r.task? user id with _ | t
    · rfl
    · by_cases hallowed : allowed.contains t.status = true
      · dsimp only
        rw [if_pos hallowed]
      · dsimp only
        rw [if_neg hallowed]
  | createBatch user nb =>
    rw [apply, settle_snd]
    rcases hrun : ExceptT.run (Repository.createBatch user nb) r with ⟨_ | cb, r'⟩
    · rfl
    · obtain ⟨t, -, -, -, hr'⟩ := createBatch_ok hrun
      dsimp only
      rw [hr']
  | failTimedOut user ids timeoutMs =>
    rw [RepoCall.apply_failTimedOut, sweep_files]

end RepoCall

namespace Repository

/-- A run of calls that write no files leaves the files as they are. -/
theorem Runs.files_eq {P : RepoCall → Prop} {r r' : Repository} (h : Runs P r r')
    (hP : ∀ c, P c → c.writesFiles = false) : r'.files = r.files := by
  induction h with
  | refl => rfl
  | call c hc _ ih => rw [ih, RepoCall.files_apply c (hP c hc)]
  | tick _ _ ih => exact ih
  | draw _ ih => exact ih

/-! ## What a deletion returns -/

/-- A purge keeps the files it does not return. -/
theorem perm_purge (files : List FileRecord) (p : FileRecord → Bool) :
    (files.filter (fun f => !(files.filter p).contains f) ++ files.filter p).Perm files := by
  have hkept : files.filter (fun f => !(files.filter p).contains f) =
      files.filter (fun f => !p f) := by
    refine List.filter_congr fun f hf => ?_
    have hmem : (files.filter p).contains f = p f := by
      rw [Bool.eq_iff_iff, List.contains_iff_mem, List.mem_filter]
      exact ⟨fun h => h.2, fun h => ⟨hf, h⟩⟩
    rw [hmem]
  rw [hkept]
  exact List.perm_append_comm.trans (List.filter_append_perm p files)

theorem deleteTopic_files {user id : Uuid} {r r' : Repository} {files : List FileRecord}
    (h : ExceptT.run (deleteTopic user id) r = (.ok files, r')) :
    (r'.files ++ files).Perm r.files := by
  rw [run_deleteTopic] at h
  rcases ht : r.topic? user id with _ | t
  · rw [ht] at h
    cases h
  · rw [ht] at h
    dsimp only at h
    rw [run_purgeOrphans] at h
    obtain ⟨hfiles, rfl⟩ := Prod.mk.inj h
    cases hfiles
    exact perm_purge _ _

theorem deleteBatch_files {user id : Uuid} {r r' : Repository} {result : Option (List FileRecord)}
    (h : ExceptT.run (deleteBatch user id) r = (.ok result, r')) :
    (r'.files ++ result.getD []).Perm r.files := by
  rw [run_deleteBatch] at h
  dsimp only at h
  split at h
  · -- no batch went, so no file did
    obtain ⟨hresult, rfl⟩ := Prod.mk.inj h
    cases hresult
    rw [Option.getD_none, List.append_nil]
  · rw [run_purgeOrphans] at h
    obtain ⟨hresult, rfl⟩ := Prod.mk.inj h
    cases hresult
    exact perm_purge _ _

/-- A purge of the identifiers `ids` returns only files named by them. -/
theorem id_mem_of_purged {files : List FileRecord} {ids used : List Uuid} {f : FileRecord}
    (hf : f ∈ files.filter fun f => ids.contains f.id && !used.contains f.id) : f.id ∈ ids := by
  rw [List.mem_filter, Bool.and_eq_true, List.contains_iff_mem] at hf
  exact hf.2.1

/-- Files named by one identifier, named once each, are at most one. -/
theorem toList_head?_of_id {l : List FileRecord} {id : Uuid} (hl : (l.map (·.id)).Nodup)
    (hid : ∀ f ∈ l, f.id = id) : l.head?.toList = l := by
  match l, hl, hid with
  | [], _, _ => rfl
  | [_], _, _ => rfl
  | a :: b :: t, hl, hid =>
    have hab : a.id = b.id := by
      rw [hid a List.mem_cons_self, hid b (List.mem_cons_of_mem _ List.mem_cons_self)]
    rw [List.map_cons, List.map_cons, List.nodup_cons, List.mem_cons] at hl
    exact absurd (Or.inl hab) hl.1

theorem deleteGeneration_files {user id : Uuid} {r r' : Repository}
    {result : Option DeletedGeneration} (hids : (r.files.map (·.id)).Nodup)
    (h : ExceptT.run (deleteGeneration user id) r = (.ok result, r')) :
    (r'.files ++ (result.bind (·.deletedFile)).toList).Perm r.files := by
  rw [run_deleteGeneration] at h
  rcases hg : r.generation? user id with _ | g
  · rw [hg] at h
    obtain ⟨hresult, rfl⟩ := Prod.mk.inj h
    cases hresult
    rw [Option.bind_none, Option.toList_none, List.append_nil]
  · rw [hg] at h
    dsimp only at h
    rcases hf : g.file with _ | f
    · rw [hf] at h
      obtain ⟨hresult, rfl⟩ := Prod.mk.inj h
      cases hresult
      rw [Option.bind_some, Option.toList_none, List.append_nil]
    · rw [hf] at h
      dsimp only at h
      rw [run_purgeOrphans] at h
      obtain ⟨hresult, rfl⟩ := Prod.mk.inj h
      cases hresult
      rw [Option.bind_some]
      -- the file of that identifier is the only one the purge can return
      rw [toList_head?_of_id (hids.sublist (List.Sublist.map _ List.filter_sublist))
        fun x hx => List.mem_singleton.1 (id_mem_of_purged hx)]
      exact perm_purge _ _

/-! ## What a completion adds -/

/-- A completion either keeps the files, and returns one of them if it returns a file, or
finds no file of the user with the content and adds the one it returns. -/
theorem completeGeneration_files (user gen task : Uuid) (asset : Asset) (file : NewFile)
    (r : Repository) :
    ((settle (completeGeneration user gen task asset file) r).2.files = r.files ∧
        ∀ f, (settle (completeGeneration user gen task asset file) r).1 = .ok (some f) →
          f ∈ r.files) ∨
      (r.fileWithHash? user file.fileHash = none ∧ ∃ f,
        (settle (completeGeneration user gen task asset file) r).1 = .ok (some f) ∧
        (settle (completeGeneration user gen task asset file) r).2.files = r.files ++ [f] ∧
        f.url = file.url ∧ f.metadata = file.metadata) := by
  rcases hp : (r.task? user task).any (·.status == .processing) with _ | _
  · -- a task no longer processing completes nothing
    rw [settle_of_ok (run_completeGeneration_of_idle hp)]
    exact .inl ⟨rfl, fun f hf => by cases hf⟩
  · rcases hgen : r.generation? user gen with _ | g₀
    · rw [settle_of_error (run_completeGeneration_of_missing hp hgen)]
      exact .inl ⟨rfl, fun f hf => by cases hf⟩
    · have hfile := run_fileFor user file r
      rcases hfind : r.fileWithHash? user file.fileHash with _ | f
      · -- no file has the content: the completion adds one
        rw [hfind] at hfile
        dsimp only at hfile
        rw [settle_of_ok (run_completeGeneration hp (by rw [hgen]; rfl) hfile)]
        exact .inr ⟨rfl, _, rfl, rfl, rfl, rfl⟩
      · rw [hfind] at hfile
        dsimp only at hfile
        rw [settle_of_ok (run_completeGeneration hp (by rw [hgen]; rfl) hfile)]
        refine .inl ⟨rfl, fun f' hf' => ?_⟩
        cases hf'
        exact (fileWithHash?_spec hfind).1

end Repository

end ImageStudio
