import ImageStudio.Proofs.Repository.Linked

/-!
# Proofs · Repository · Fresh: rows are named by fresh draws, so they stay linked

Every call names the rows it makes by identifiers it draws, and draws nothing else: the
identifiers of the rows after a call are, up to order, some of those before it and some of
the identifiers the call drew (`RepoCall.draws`). From an empty repository, the rows are
therefore named by identifiers the source has produced, at most one row per draw
(`Repository.Drawn`), and fresh draws name every row once.

With that, `Linked.apply` carries the links across each call, and any sequence of calls
from an empty repository leaves it linked (`linked_applyAll`).
-/

namespace ImageStudio
namespace Repository

/-! ## What a call draws -/

section Draws

variable {α : Type}

theorem subperm_keep (l n : List Uuid) : l.Subperm (l ++ n) :=
  (List.sublist_append_left l n).subperm

theorem subperm_filter (key : α → Uuid) (p : α → Bool) (l : List α) :
    ((l.filter p).map key).Subperm (l.map key) :=
  (List.filter_sublist.map key).subperm

theorem subperm_map (key : α → Uuid) (f : α → α) (hf : ∀ a, key (f a) = key a) (l : List α) :
    ((l.map f).map key).Subperm (l.map key) := by
  rw [List.map_map, show key ∘ f = key from funext hf]

theorem subperm_append (key : α → Uuid) (l xs : List α) :
    ((l ++ xs).map key).Subperm (l.map key ++ xs.map key) := by
  rw [List.map_append]

theorem subperm_cat {a b c d : List Uuid} (s₁ : a.Subperm b) (s₂ : c.Subperm d) :
    (a ++ c).Subperm (b ++ d) :=
  ((List.subperm_append_right _).2 s₁).trans ((List.subperm_append_left _).2 s₂)

/-- Table by table: a repository whose identifier lists each keep some old identifiers and
add some new ones keeps, in all, some old identifiers and adds the new ones. -/
theorem rowIds_grow {r r' : Repository} {nT nB nG nK nF : List Uuid}
    (hT : (r'.topics.map (·.id)).Subperm (r.topics.map (·.id) ++ nT))
    (hB : (r'.batches.map (·.id)).Subperm (r.batches.map (·.id) ++ nB))
    (hG : (r'.generations.map (·.id)).Subperm (r.generations.map (·.id) ++ nG))
    (hK : (r'.tasks.map (·.id)).Subperm (r.tasks.map (·.id) ++ nK))
    (hF : (r'.files.map (·.id)).Subperm (r.files.map (·.id) ++ nF)) :
    r'.rowIds.Subperm (r.rowIds ++ (nT ++ nB ++ nG ++ nK ++ nF)) := by
  refine (subperm_cat (subperm_cat (subperm_cat (subperm_cat hT hB) hG) hK) hF).trans
    (List.Perm.subperm ?_)
  rw [List.perm_iff_count]
  intro x
  simp only [rowIds, List.count_append]
  omega

/-- A call that makes no row names its rows by old identifiers, whatever it drew. -/
theorem rowIds_shrink {r r' : Repository}
    (hT : (r'.topics.map (·.id)).Subperm (r.topics.map (·.id)))
    (hB : (r'.batches.map (·.id)).Subperm (r.batches.map (·.id)))
    (hG : (r'.generations.map (·.id)).Subperm (r.generations.map (·.id)))
    (hK : (r'.tasks.map (·.id)).Subperm (r.tasks.map (·.id)))
    (hF : (r'.files.map (·.id)).Subperm (r.files.map (·.id))) (n : List Uuid) :
    r'.rowIds.Subperm (r.rowIds ++ n) := by
  exact (subperm_cat (subperm_cat (subperm_cat (subperm_cat hT hB) hG) hK) hF).trans
    (List.sublist_append_left _ n).subperm

/-- A call that changes no row. -/
theorem rowIds_same {r : Repository} (c : Instant) (e : Entropy) (n : List Uuid) :
    ({ r with clock := c, entropy := e }).rowIds.Subperm (r.rowIds ++ n) :=
  (List.sublist_append_left _ n).subperm

/-- Sweeping stale tasks draws nothing and makes and removes no row. -/
theorem sweep_keeps (user : Uuid) (now : Instant) (timeoutMs : Int) (ids : List Uuid)
    (r : Repository) :
    (ids.foldl (sweepOne user now timeoutMs) r).entropy = r.entropy ∧
      (ids.foldl (sweepOne user now timeoutMs) r).rowIds = r.rowIds := by
  induction ids generalizing r with
  | nil => exact ⟨rfl, rfl⟩
  | cons id rest ih =>
    obtain ⟨he, hids⟩ := ih (sweepOne user now timeoutMs r id)
    rw [List.foldl_cons, he, hids]
    unfold sweepOne
    split
    · rw [run_finishTask]
      refine ⟨rfl, ?_⟩
      simp only [rowIds, List.map_map]
      congr 2
      exact List.map_congr_left fun t _ => (finish_keeps _ _ _ _ t).1
    · exact ⟨rfl, rfl⟩

end Draws

end Repository

namespace RepoCall

open Repository

/-- Every call draws some identifiers, and names the rows after it by identifiers of rows
before it and identifiers it drew. -/
theorem draws (c : RepoCall) (r : Repository) :
    ∃ j, (c.apply r).entropy = r.entropy.skip j ∧
      (c.apply r).rowIds.Subperm (r.rowIds ++ r.entropy.idsFrom j) := by
  have keep : ∀ u : Topic → Topic, (∀ t, (u t).id = t.id) →
      ((r.topics.map u).map (·.id)).Subperm (r.topics.map (·.id)) :=
    fun u hu => subperm_map _ _ hu _
  cases c with
  | createTopic user title =>
    rw [RepoCall.apply, settle_snd, run_createTopic]
    dsimp only
    refine ⟨1, rfl, @rowIds_grow r _ [(Uuid.draw r.entropy).1] [] [] [] [] ?_ ?_ ?_ ?_ ?_⟩
    exacts [subperm_append _ _ [_], subperm_keep _ [], subperm_keep _ [], subperm_keep _ [],
      subperm_keep _ []]
  | getTopic user id =>
    rw [RepoCall.apply, settle_snd, run_getTopic]
    cases r.topic? user id
    · exact ⟨0, rfl, rowIds_same _ _ _⟩
    · exact ⟨0, rfl, rowIds_same r.clock r.entropy _⟩
  | listTopics => exact ⟨0, rfl, rowIds_same r.clock r.entropy _⟩
  | updateTopic user id title cover =>
    rw [RepoCall.apply, settle_snd, run_updateTopic]
    rcases r.topic? user id with _ | t
    · exact ⟨0, rfl, rowIds_same _ _ _⟩
    · dsimp only
      refine ⟨0, rfl, rowIds_shrink ?_ ?_ ?_ ?_ ?_ _⟩
      exacts [keep _ (fun u => by split <;> simp_all), .refl _, .refl _, .refl _, .refl _]
  | setCoverIfEmpty user id cover =>
    rw [RepoCall.apply, settle_snd, run_setCoverIfEmpty]
    rcases r.topic? user id with _ | t
    · exact ⟨0, rfl, rowIds_same r.clock r.entropy _⟩
    · by_cases hc : t.coverUrl.isNone = true
      · dsimp only
        rw [if_pos hc]
        dsimp only
        refine ⟨0, rfl, rowIds_shrink ?_ ?_ ?_ ?_ ?_ _⟩
        exacts [keep _ (fun u => by split <;> simp_all), .refl _, .refl _, .refl _, .refl _]
      · dsimp only
        rw [if_neg hc]
        exact ⟨0, rfl, rowIds_same r.clock r.entropy _⟩
  | deleteTopic user id =>
    rw [RepoCall.apply, settle_snd, run_deleteTopic]
    rcases r.topic? user id with _ | t
    · exact ⟨0, rfl, rowIds_same _ _ _⟩
    · dsimp only
      rw [run_purgeOrphans]
      refine ⟨0, rfl, rowIds_shrink ?_ ?_ ?_ ?_ ?_ _⟩
      exacts [subperm_filter _ _ _, subperm_filter _ _ _, subperm_filter _ _ _, .refl _,
        subperm_filter _ _ _]
  | createBatch user nb =>
    rw [RepoCall.apply, settle_snd]
    rcases hrun : ExceptT.run (Repository.createBatch user nb) r with ⟨_ | cb, r'⟩
    · obtain ⟨j, hj⟩ := createBatch_entropy user nb r
      rw [hrun] at hj
      exact ⟨j, hj, rowIds_same _ _ _⟩
    · obtain ⟨t, -, -, -, hr'⟩ := createBatch_ok hrun
      dsimp only
      rw [hr']
      set rows := rowsFrom user (Uuid.draw r.entropy).1 (r.clock.addMillis 1) (r.entropy.skip 1)
        nb.slots
      refine ⟨1 + 2 * nb.slots.length, rfl, ?_⟩
      refine (@rowIds_grow r _ [] [(Uuid.draw r.entropy).1] ((rows.map (·.2)).map (·.id))
        ((rows.map (·.1)).map (·.id)) [] ?_ ?_ ?_ ?_ ?_).trans ((List.subperm_append_left _).2 ?_)
      · exact (keep _ (fun u => by split <;> simp_all)).trans (subperm_keep _ [])
      · exact subperm_append _ _ _
      · exact subperm_append _ _ _
      · exact subperm_append _ _ _
      · exact subperm_keep _ []
      · -- the batch's identifier, then two per image
        refine List.Perm.subperm ?_
        rw [List.append_nil, List.nil_append, Entropy.idsFrom_add, List.map_map, List.map_map]
        exact List.Perm.cons _ (List.perm_append_comm.trans (ids_rowsFrom user _ _ _ nb.slots))
  | batchesOf => exact ⟨0, rfl, rowIds_same r.clock r.entropy _⟩
  | deleteBatch user id =>
    rw [RepoCall.apply, settle_snd, run_deleteBatch]
    dsimp only
    split_ifs
    · refine ⟨0, rfl, rowIds_shrink ?_ ?_ ?_ ?_ ?_ _⟩
      exacts [.refl _, subperm_filter _ _ _, subperm_filter _ _ _, .refl _, .refl _]
    · rw [run_purgeOrphans]
      refine ⟨0, rfl, rowIds_shrink ?_ ?_ ?_ ?_ ?_ _⟩
      exacts [.refl _, subperm_filter _ _ _, subperm_filter _ _ _, .refl _,
        subperm_filter _ _ _]
  | getGeneration => exact ⟨0, rfl, rowIds_same r.clock r.entropy _⟩
  | findFile => exact ⟨0, rfl, rowIds_same r.clock r.entropy _⟩
  | completeGeneration user gen task asset file =>
    rw [RepoCall.apply, settle_snd]
    have hgens : ∀ record : FileRecord, ∀ g : Generation,
        (if g.id == gen then
          { g with asset := some { asset with url := record.url, thumbnailUrl := record.thumbnailKey },
                   file := some record.id }
        else g).id = g.id := fun _ _ => by split <;> rfl
    rcases hp : (r.task? user task).any (·.status == .processing) with _ | _
    · rw [run_completeGeneration_of_idle hp]
      exact ⟨0, rfl, rowIds_same r.clock r.entropy _⟩
    · rcases hg : r.generation? user gen with _ | g
      · rw [run_completeGeneration_of_missing hp hg]
        exact ⟨0, rfl, rowIds_same _ _ _⟩
      · have hfile := run_fileFor user file r
        rcases hf : r.fileWithHash? user file.fileHash with _ | f
        · -- a new file, named by the one identifier drawn
          rw [hf] at hfile
          rw [run_completeGeneration hp (by rw [hg]; rfl) hfile]
          refine ⟨1, rfl, @rowIds_grow r _ [] [] [] [] [(Uuid.draw r.entropy).1] ?_ ?_ ?_ ?_ ?_⟩
          · exact subperm_keep _ []
          · exact subperm_keep _ []
          · exact (subperm_map _ _ (hgens _) _).trans (subperm_keep _ [])
          · exact (subperm_map _ _ (fun t => (finish_keeps _ _ _ _ t).1) _).trans
              (subperm_keep _ [])
          · exact subperm_append _ _ _
        · rw [hf] at hfile
          rw [run_completeGeneration hp (by rw [hg]; rfl) hfile]
          refine ⟨0, rfl, rowIds_shrink ?_ ?_ ?_ ?_ ?_ _⟩
          exacts [.refl _, .refl _, subperm_map _ _ (hgens _) _,
            subperm_map _ _ (fun t => (finish_keeps _ _ _ _ t).1) _, .refl _]
  | deleteGeneration user id =>
    rw [RepoCall.apply, settle_snd, run_deleteGeneration]
    rcases r.generation? user id with _ | g
    · exact ⟨0, rfl, rowIds_same r.clock r.entropy _⟩
    · dsimp only
      rcases g.file with _ | f
      · refine ⟨0, rfl, rowIds_shrink ?_ ?_ ?_ ?_ ?_ _⟩
        exacts [.refl _, .refl _, subperm_filter _ _ _, .refl _, .refl _]
      · dsimp only
        rw [run_purgeOrphans]
        refine ⟨0, rfl, rowIds_shrink ?_ ?_ ?_ ?_ ?_ _⟩
        exacts [.refl _, .refl _, subperm_filter _ _ _, .refl _, subperm_filter _ _ _]
  | getTask => exact ⟨0, rfl, rowIds_same r.clock r.entropy _⟩
  | transition user id allowed target error =>
    rw [RepoCall.apply, settle_snd, run_transition]
    rcases r.task? user id with _ | t
    · exact ⟨0, rfl, rowIds_same r.clock r.entropy _⟩
    · by_cases ha : allowed.contains t.status = true
      · dsimp only
        rw [if_pos ha]
        refine ⟨0, rfl, rowIds_shrink ?_ ?_ ?_ ?_ ?_ _⟩
        exacts [.refl _, .refl _, .refl _, subperm_map _ _ (fun t => (finish_keeps _ _ _ _ t).1) _,
          .refl _]
      · dsimp only
        rw [if_neg ha]
        exact ⟨0, rfl, rowIds_same r.clock r.entropy _⟩
  | failTimedOut user ids timeoutMs =>
    rw [RepoCall.apply_failTimedOut]
    obtain ⟨he, hids⟩ := sweep_keeps user (r.clock.addMillis 1) timeoutMs ids
      { r with clock := r.clock.addMillis 1 }
    refine ⟨0, he, ?_⟩
    rw [hids]
    exact rowIds_same _ _ _

@[simp] theorem applyAll_nil (r : Repository) : applyAll [] r = r := rfl

@[simp] theorem applyAll_cons (c : RepoCall) (calls : List RepoCall) (r : Repository) :
    applyAll (c :: calls) r = applyAll calls (c.apply r) := rfl

/-- A run of calls only moves the source on. -/
theorem applyAll_skips (calls : List RepoCall) (r : Repository) :
    ∃ j, (applyAll calls r).entropy = r.entropy.skip j := by
  induction calls generalizing r with
  | nil => exact ⟨0, rfl⟩
  | cons c rest ih =>
    obtain ⟨j, he, -⟩ := c.draws r
    obtain ⟨i, hi⟩ := ih (c.apply r)
    exact ⟨j + i, by rw [applyAll_cons, hi, he, Entropy.skip_skip]⟩

/-- Along a run of calls, the rows stay named by identifiers the source has drawn, and the
links hold after every call as long as the run's draws are fresh. The induction carries
both together: the links are kept by a call only when its rows, before and after it, are
named once each, which the rows owing their identifiers to fresh draws provide. -/
theorem linked_applyAll_of {e₀ : Entropy} {r : Repository} (h : r.Linked) (hr : r.Drawn e₀)
    (calls : List RepoCall) (hfresh : (e₀.drawnUntil (applyAll calls r).entropy).Nodup) :
    (applyAll calls r).Linked := by
  induction calls generalizing r with
  | nil => exact h
  | cons c rest ih =>
    rw [applyAll_cons] at hfresh ⊢
    obtain ⟨j, he, hids⟩ := c.draws r
    have hr' : (c.apply r).Drawn e₀ := hr.step j he hids
    obtain ⟨i, hi⟩ := applyAll_skips rest (c.apply r)
    have hfresh' : (e₀.drawnUntil (c.apply r).entropy).Nodup := hr'.fresh_of_skip hi hfresh
    have hfresh₀ : (e₀.drawnUntil r.entropy).Nodup := hr.fresh_of_skip he hfresh'
    exact ih (h.apply c (hr.nodup hfresh₀) (hr'.nodup hfresh')) hr' hfresh

/-- Whatever calls are made, with whatever arguments, from an empty repository whose source
draws fresh identifiers: every batch belongs to a topic of its user, every generation to
a batch and a task of its user, every stored image to a file of its user; no user has two
files of one content, and no two generations of one batch share a seed. -/
theorem applyAll_linked (start : Instant) (e₀ : Entropy) (calls : List RepoCall)
    (hfresh : (e₀.drawnUntil (applyAll calls (Repository.empty start e₀)).entropy).Nodup) :
    (applyAll calls (Repository.empty start e₀)).Linked :=
  linked_applyAll_of (linked_empty start e₀) (drawn_empty start e₀) calls hfresh

/-- A topic and a batch of two seeded images in it: the source draws four distinct
identifiers, and the repository the run leaves, with its two generations, is linked. -/
theorem applyAll_linked_topic_batch :
    ((⟨7, 0⟩ : Entropy).drawnUntil (applyAll
      [.createTopic ⟨1⟩ "cats",
       .createBatch ⟨1⟩
         { topic := (Uuid.draw ⟨7, 0⟩).1, provider := "p", model := "m", prompt := "a cat",
           config := .null, imageNum := 2, seeds := some [1, 2] }]
      (Repository.empty default ⟨7, 0⟩)).entropy).Nodup ∧
    (applyAll
      [.createTopic ⟨1⟩ "cats",
       .createBatch ⟨1⟩
         { topic := (Uuid.draw ⟨7, 0⟩).1, provider := "p", model := "m", prompt := "a cat",
           config := .null, imageNum := 2, seeds := some [1, 2] }]
      (Repository.empty default ⟨7, 0⟩)).generations.length = 2 ∧
    (applyAll
      [.createTopic ⟨1⟩ "cats",
       .createBatch ⟨1⟩
         { topic := (Uuid.draw ⟨7, 0⟩).1, provider := "p", model := "m", prompt := "a cat",
           config := .null, imageNum := 2, seeds := some [1, 2] }]
      (Repository.empty default ⟨7, 0⟩)).Linked :=
  ⟨by decide, by decide, applyAll_linked _ _ _ (by decide)⟩

end RepoCall

end ImageStudio
