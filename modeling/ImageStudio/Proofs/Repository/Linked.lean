import ImageStudio.Proofs.Repository.Effects
import ImageStudio.Repository.Calls
import Mathlib.Data.List.Nodup

/-!
# Proofs · Repository · Linked: the links between rows survive any calls

Rows name other rows: a batch its topic, a generation its batch, its task and its file. A
repository is `Linked` when every such name is the identifier of a row of the same user,
no user has two files with one content hash, and no seed repeats within a batch.

The repository keeps these links by itself, whatever its callers ask: any sequence of
calls with any arguments, from an empty repository, leaves it linked, as long as the
identifiers it draws are fresh (`linked_applyAll`). Freshness enters twice. Rows written
by identifier (a renamed topic, an attached asset, a deleted topic) are one row each, so
the write cannot move another user's row; and the identifiers a new batch draws are new,
so its seeds are not mixed with an older batch's.

The proof is one lemma per operation (`Linked.createTopic`, `Linked.replaceTopic`,
`Linked.deleteTopic`, …), each about the repository the operation's equation in
`Effects` describes, and one lemma that takes a call through them (`Linked.apply`).
-/

namespace ImageStudio
namespace Repository

/-- The links a repository keeps between its rows. -/
structure Linked (r : Repository) : Prop where
  /-- Every batch lies in a topic of its user. -/
  batchTopic : ∀ b ∈ r.batches, ∃ t ∈ r.topics, t.id = b.topic ∧ t.user = b.user
  /-- Every generation belongs to a batch of its user. -/
  generationBatch : ∀ g ∈ r.generations, ∃ b ∈ r.batches, b.id = g.batch ∧ b.user = g.user
  /-- Every generation has a task of its user. -/
  generationTask : ∀ g ∈ r.generations, ∃ t ∈ r.tasks, g.task = some t.id ∧ t.user = g.user
  /-- A generation's file is a file of its user. -/
  generationFile : ∀ g ∈ r.generations, ∀ f ∈ g.file, ∃ x ∈ r.files, x.id = f ∧ x.user = g.user
  /-- No user has two files with one content. -/
  fileContent : r.files.Pairwise fun a b => ¬(a.user = b.user ∧ a.fileHash = b.fileHash)
  /-- No seed repeats among the generations of one batch. -/
  batchSeeds : ∀ b, ((r.generations.filter (·.batch == b)).filterMap (·.seed)).Nodup

theorem linked_empty (start : Instant) (e : Entropy) : (empty start e).Linked where
  batchTopic := by simp [empty]
  generationBatch := by simp [empty]
  generationTask := by simp [empty]
  generationFile := by simp [empty]
  fileContent := List.Pairwise.nil
  batchSeeds := by simp [empty]

/-! ## One row per identifier -/

section Ids

variable {r : Repository}

theorem nodup_topicIds (h : r.rowIds.Nodup) : (r.topics.map (·.id)).Nodup :=
  h.of_append_left.of_append_left.of_append_left.of_append_left

theorem nodup_batchIds (h : r.rowIds.Nodup) : (r.batches.map (·.id)).Nodup :=
  h.of_append_left.of_append_left.of_append_left.of_append_right

theorem nodup_generationIds (h : r.rowIds.Nodup) : (r.generations.map (·.id)).Nodup :=
  h.of_append_left.of_append_left.of_append_right

theorem nodup_taskIds (h : r.rowIds.Nodup) : (r.tasks.map (·.id)).Nodup :=
  h.of_append_left.of_append_right

theorem nodup_fileIds (h : r.rowIds.Nodup) : (r.files.map (·.id)).Nodup :=
  h.of_append_right

theorem mem_rowIds_of_generation {g : Generation} (hg : g ∈ r.generations) : g.id ∈ r.rowIds :=
  List.mem_append_left _ (List.mem_append_left _ (List.mem_append_right _ (List.mem_map_of_mem hg)))

theorem mem_rowIds_of_batch {b : Batch} (hb : b ∈ r.batches) : b.id ∈ r.rowIds :=
  List.mem_append_left _ (List.mem_append_left _ (List.mem_append_left _
    (List.mem_append_right _ (List.mem_map_of_mem hb))))

/-- Every lookup of the repository finds a row by two keys: what it finds is a row of the
table with both keys. -/
theorem find?_keys_spec {α β γ : Type} [BEq β] [LawfulBEq β] [BEq γ] [LawfulBEq γ] {l : List α}
    {key₁ : α → β} {key₂ : α → γ} {b : β} {c : γ} {x : α}
    (h : l.find? (fun y => key₁ y == b && key₂ y == c) = some x) :
    x ∈ l ∧ key₁ x = b ∧ key₂ x = c := by
  have hp := List.find?_some h
  simp only [Bool.and_eq_true, beq_iff_eq] at hp
  exact ⟨List.mem_of_find?_eq_some h, hp⟩

/-- The topic a lookup finds is a topic of the repository, with the identifier and user
looked for. -/
theorem topic?_spec {user id : Uuid} {t : Topic} (h : r.topic? user id = some t) :
    t ∈ r.topics ∧ t.id = id ∧ t.user = user :=
  find?_keys_spec h

theorem generation?_spec {user id : Uuid} {g : Generation} (h : r.generation? user id = some g) :
    g ∈ r.generations ∧ g.id = id ∧ g.user = user :=
  find?_keys_spec h

theorem task?_spec {user id : Uuid} {t : Task} (h : r.task? user id = some t) :
    t ∈ r.tasks ∧ t.id = id ∧ t.user = user :=
  find?_keys_spec h

/-- A task a timeout sweep finds stale is the user's task of that identifier, in flight. -/
theorem staleAt_spec {user id : Uuid} {now : Instant} {timeoutMs : Int}
    (h : r.staleAt user now timeoutMs id = true) :
    ∃ t, r.task? user id = some t ∧ t.status.isTerminal = false := by
  unfold staleAt at h
  rcases ht : r.task? user id with _ | t
  · rw [ht] at h
    cases h
  · rw [ht] at h
    simp only [Bool.and_eq_true, Bool.not_eq_eq_eq_not, Bool.not_true] at h
    exact ⟨t, rfl, h.1⟩

theorem fileWithHash?_spec {user : Uuid} {hash : String} {f : FileRecord}
    (h : r.fileWithHash? user hash = some f) : f ∈ r.files ∧ f.user = user ∧ f.fileHash = hash :=
  find?_keys_spec h

theorem fileWithHash?_none {user : Uuid} {hash : String} (h : r.fileWithHash? user hash = none) :
    ∀ f ∈ r.files, ¬(f.user = user ∧ f.fileHash = hash) := by
  intro f hf hu
  have := List.find?_eq_none.1 h f hf
  simp [hu.1, hu.2] at this

end Ids

/-! ## Each kind of write keeps the links -/

section Writes

variable {r : Repository}

/-- Moving the clock and the source changes no row. -/
theorem Linked.tick (h : r.Linked) (c : Instant) (e : Entropy) :
    ({ r with clock := c, entropy := e }).Linked :=
  ⟨h.batchTopic, h.generationBatch, h.generationTask, h.generationFile, h.fileContent, h.batchSeeds⟩

theorem Linked.createTopic (h : r.Linked) (c : Instant) (e : Entropy) (t : Topic) :
    ({ r with clock := c, entropy := e, topics := r.topics ++ [t] }).Linked where
  batchTopic b hb := by
    obtain ⟨u, hu, hlink⟩ := h.batchTopic b hb
    exact ⟨u, List.mem_append_left _ hu, hlink⟩
  generationBatch := h.generationBatch
  generationTask := h.generationTask
  generationFile := h.generationFile
  fileContent := h.fileContent
  batchSeeds := h.batchSeeds

/-- Writing a topic back under its identifier, with its user, keeps the links: the
identifier names one topic, so no other user's topic is overwritten. -/
theorem Linked.replaceTopic (h : r.Linked) (hids : (r.topics.map (·.id)).Nodup) {t : Topic}
    (ht : t ∈ r.topics) (t' : Topic) (hid : t'.id = t.id) (huser : t'.user = t.user)
    (c : Instant) :
    ({ r with clock := c, topics := r.topics.map fun (u : Topic) => if u.id == t.id then t' else u }).Linked where
  batchTopic b hb := by
    obtain ⟨u, hu, hlink, hown⟩ := h.batchTopic b hb
    by_cases hut : u.id = t.id
    · have hsame : u = t := List.inj_on_of_nodup_map hids hu ht hut
      subst hsame
      exact ⟨t', List.mem_map.2 ⟨u, hu, by simp⟩, hid ▸ hlink, huser ▸ hown⟩
    · exact ⟨u, List.mem_map.2 ⟨u, hu, by simp [hut]⟩, hlink, hown⟩
  generationBatch := h.generationBatch
  generationTask := h.generationTask
  generationFile := h.generationFile
  fileContent := h.fileContent
  batchSeeds := h.batchSeeds

/-- Keeping only some generations keeps the links: every link starts at a generation. -/
theorem Linked.filterGenerations (h : r.Linked) (p : Generation → Bool) :
    ({ r with generations := r.generations.filter p }).Linked where
  batchTopic := h.batchTopic
  generationBatch g hg := h.generationBatch g (List.mem_of_mem_filter hg)
  generationTask g hg := h.generationTask g (List.mem_of_mem_filter hg)
  generationFile g hg := h.generationFile g (List.mem_of_mem_filter hg)
  fileContent := h.fileContent
  batchSeeds b := by
    refine (h.batchSeeds b).sublist (List.Sublist.filterMap _ ?_)
    rw [List.filter_comm]
    exact List.filter_sublist

/-- Removing the batches `doomed` picks together with their generations keeps the links,
when every batch that stays keeps a topic of its user among `ts`. -/
theorem Linked.removeBatches (h : r.Linked) (doomed : Batch → Bool) (ts : List Topic)
    (hts : ∀ b ∈ r.batches, doomed b = false → ∃ t ∈ ts, t.id = b.topic ∧ t.user = b.user) :
    ({ r with
      topics := ts
      batches := r.batches.filter fun b => !doomed b
      generations := r.generations.filter fun g =>
        !((r.batches.filter doomed).map fun (b : Batch) => b.id).contains g.batch }).Linked where
  batchTopic b hb := by
    simp only [List.mem_filter, Bool.not_eq_true'] at hb
    exact hts b hb.1 hb.2
  generationBatch g hg := by
    simp only [List.mem_filter, Bool.not_eq_true', List.contains_eq_mem, decide_eq_false_iff_not,
      List.mem_map] at hg
    obtain ⟨b, hb, hlink, hown⟩ := h.generationBatch g hg.1
    -- the batch of a generation that stays was not removed
    have hkept : doomed b = false := by
      by_contra hd
      exact hg.2 ⟨b, ⟨hb, by simpa using hd⟩, hlink⟩
    exact ⟨b, List.mem_filter.2 ⟨hb, by simp [hkept]⟩, hlink, hown⟩
  generationTask g hg := h.generationTask g (List.mem_of_mem_filter hg)
  generationFile g hg := h.generationFile g (List.mem_of_mem_filter hg)
  fileContent := h.fileContent
  batchSeeds := (h.filterGenerations _).batchSeeds

/-- Removing the files no generation uses keeps the links. -/
theorem Linked.purgeOrphans (h : r.Linked) (ids : List Uuid) :
    ({ r with files := r.files.filter fun (f : FileRecord) =>
        !(r.files.filter fun (f : FileRecord) => ids.contains f.id &&
          !(r.generations.filterMap fun (g : Generation) => g.file).contains f.id).contains f }).Linked where
  batchTopic := h.batchTopic
  generationBatch := h.generationBatch
  generationTask := h.generationTask
  generationFile g hg f hf := by
    obtain ⟨x, hx, hid, hown⟩ := h.generationFile g hg f hf
    refine ⟨x, List.mem_filter.2 ⟨hx, ?_⟩, hid, hown⟩
    -- `x` is used by `g`, so it is no orphan
    simp only [List.contains_eq_mem, List.mem_filter, List.mem_filterMap, Bool.and_eq_true,
      decide_eq_false_iff_not, decide_eq_true_eq, not_and, not_not, Bool.not_eq_eq_eq_not,
      Bool.not_true]
    exact fun _ _ => ⟨g, hg, by rw [hid]; exact hf⟩
  fileContent := h.fileContent.sublist List.filter_sublist
  batchSeeds := h.batchSeeds

/-- Changing tasks without changing their identifiers or users keeps the links. -/
theorem Linked.mapTasks (h : r.Linked) (f : Task → Task)
    (hf : ∀ t, (f t).id = t.id ∧ (f t).user = t.user) (c : Instant) :
    ({ r with clock := c, tasks := r.tasks.map f }).Linked where
  batchTopic := h.batchTopic
  generationBatch := h.generationBatch
  generationTask g hg := by
    obtain ⟨t, ht, hlink, hown⟩ := h.generationTask g hg
    exact ⟨f t, List.mem_map_of_mem ht, by rw [(hf t).1]; exact hlink, by rw [(hf t).2]; exact hown⟩
  generationFile := h.generationFile
  fileContent := h.fileContent
  batchSeeds := h.batchSeeds

/-- Finishing a task keeps its identifier and user. -/
theorem finish_keeps (id : Uuid) (status : TaskStatus) (error : Option TaskError) (now : Instant)
    (t : Task) :
    (if t.id == id then t.finish status error now else t).id = t.id ∧
      (if t.id == id then t.finish status error now else t).user = t.user := by
  split <;> exact ⟨rfl, rfl⟩

/-- The seeds of a batch do not change when generations change neither batch nor seed. -/
theorem batchSeeds_map (f : Generation → Generation)
    (hf : ∀ g, (f g).batch = g.batch ∧ (f g).seed = g.seed) (gens : List Generation) (b : Uuid) :
    ((gens.map f).filter (·.batch == b)).filterMap (·.seed) =
      (gens.filter (·.batch == b)).filterMap (·.seed) := by
  induction gens with
  | nil => rfl
  | cons g gs ih =>
    simp only [List.map_cons, List.filter_cons, (hf g).1]
    split
    · simp only [List.filterMap_cons, (hf g).2, ih]
    · exact ih

/-- Changing generations without changing their users, batches, tasks or seeds keeps the
links, when every file they name is a file of their user. -/
theorem Linked.mapGenerations (h : r.Linked) (f : Generation → Generation)
    (hkeep : ∀ g, (f g).user = g.user ∧ (f g).batch = g.batch ∧ (f g).task = g.task ∧
      (f g).seed = g.seed)
    (hfile : ∀ g ∈ r.generations, ∀ y ∈ (f g).file, ∃ x ∈ r.files, x.id = y ∧ x.user = g.user) :
    ({ r with generations := r.generations.map f }).Linked where
  batchTopic := h.batchTopic
  generationBatch g' hg' := by
    obtain ⟨g, hg, rfl⟩ := List.mem_map.1 hg'
    obtain ⟨b, hb, hlink, hown⟩ := h.generationBatch g hg
    exact ⟨b, hb, by rw [(hkeep g).2.1]; exact hlink, by rw [(hkeep g).1]; exact hown⟩
  generationTask g' hg' := by
    obtain ⟨g, hg, rfl⟩ := List.mem_map.1 hg'
    obtain ⟨t, ht, hlink, hown⟩ := h.generationTask g hg
    exact ⟨t, ht, by rw [(hkeep g).2.2.1]; exact hlink, by rw [(hkeep g).1]; exact hown⟩
  generationFile g' hg' y hy := by
    obtain ⟨g, hg, rfl⟩ := List.mem_map.1 hg'
    rw [(hkeep g).1]
    exact hfile g hg y hy
  fileContent := h.fileContent
  batchSeeds b := by
    rw [batchSeeds_map f (fun g => ⟨(hkeep g).2.1, (hkeep g).2.2.2⟩)]
    exact h.batchSeeds b

/-- Attaching a file of the generation's user to the generation keeps the links, since the
identifier names that one generation. -/
theorem Linked.attach (h : r.Linked) (hids : (r.generations.map (·.id)).Nodup) {g₀ : Generation}
    (hg₀ : g₀ ∈ r.generations) {gen : Uuid} (hgen : g₀.id = gen) (asset : Asset) {x : FileRecord}
    (hx : x ∈ r.files) (hown : x.user = g₀.user) :
    ({ r with generations := r.generations.map fun (g : Generation) =>
        if g.id == gen then { g with asset := some asset, file := some x.id } else g }).Linked := by
  subst hgen
  refine h.mapGenerations _ (fun g => by split <;> exact ⟨rfl, rfl, rfl, rfl⟩) ?_
  intro g hg y hy
  by_cases hsame : g.id = g₀.id
  · -- the attached generation is `g₀` itself
    have hg : g = g₀ := List.inj_on_of_nodup_map hids hg hg₀ hsame
    subst hg
    simp only [beq_self_eq_true, if_true, Option.mem_def, Option.some.injEq] at hy
    exact ⟨x, hx, hy, hown⟩
  · simp only [hsame, beq_iff_eq, if_false] at hy
    exact h.generationFile g hg y hy

/-- Storing a file whose content its user has no file with keeps the links. -/
theorem Linked.addFile (h : r.Linked) (c : Instant) (e : Entropy) (f : FileRecord)
    (hnew : ∀ x ∈ r.files, ¬(x.user = f.user ∧ x.fileHash = f.fileHash)) :
    ({ r with clock := c, entropy := e, files := r.files ++ [f] }).Linked where
  batchTopic := h.batchTopic
  generationBatch := h.generationBatch
  generationTask := h.generationTask
  generationFile g hg y hy := by
    obtain ⟨x, hx, hlink⟩ := h.generationFile g hg y hy
    exact ⟨x, List.mem_append_left _ hx, hlink⟩
  fileContent := List.pairwise_append.2 ⟨h.fileContent, List.pairwise_singleton _ _,
    fun a ha b hb => by rw [List.mem_singleton.1 hb]; exact hnew a ha⟩
  batchSeeds := h.batchSeeds

/-- Storing a batch in a topic of its user, with generations of the user in it that name
new pending tasks of the user and no file, keeps the links when the batch's identifier is
new and its seeds do not repeat. -/
theorem Linked.addBatch (h : r.Linked) {t : Topic} (ht : t ∈ r.topics) (b : Batch)
    (htopic : t.id = b.topic ∧ t.user = b.user) (hnew : b.id ∉ r.batches.map (·.id))
    (rows : List (Task × Generation))
    (hrows : ∀ x ∈ rows, x.1.user = b.user ∧ x.2.user = b.user ∧ x.2.batch = b.id ∧
      x.2.task = some x.1.id ∧ x.2.file = none)
    (hseeds : ((rows.map (·.2)).filterMap (·.seed)).Nodup) (c : Instant) (e : Entropy) :
    ({ r with clock := c, entropy := e, batches := r.batches ++ [b],
              generations := r.generations ++ rows.map fun (x : Task × Generation) => x.2,
              tasks := r.tasks ++ rows.map fun (x : Task × Generation) => x.1 }).Linked where
  batchTopic b' hb' := by
    rcases List.mem_append.1 hb' with hb' | hb'
    · exact h.batchTopic b' hb'
    · rw [List.mem_singleton.1 hb']
      exact ⟨t, ht, htopic⟩
  generationBatch g hg := by
    rcases List.mem_append.1 hg with hg | hg
    · obtain ⟨b', hb', hlink⟩ := h.generationBatch g hg
      exact ⟨b', List.mem_append_left _ hb', hlink⟩
    · obtain ⟨x, hx, rfl⟩ := List.mem_map.1 hg
      obtain ⟨-, huser, hbatch, -⟩ := hrows x hx
      exact ⟨b, List.mem_append_right _ (List.mem_singleton_self b), hbatch.symm, huser.symm⟩
  generationTask g hg := by
    rcases List.mem_append.1 hg with hg | hg
    · obtain ⟨t', ht', hlink⟩ := h.generationTask g hg
      exact ⟨t', List.mem_append_left _ ht', hlink⟩
    · obtain ⟨x, hx, rfl⟩ := List.mem_map.1 hg
      obtain ⟨htuser, hguser, -, htask, -⟩ := hrows x hx
      exact ⟨x.1, List.mem_append_right _ (List.mem_map_of_mem hx), htask, htuser.trans hguser.symm⟩
  generationFile g hg y hy := by
    rcases List.mem_append.1 hg with hg | hg
    · exact h.generationFile g hg y hy
    · obtain ⟨x, hx, rfl⟩ := List.mem_map.1 hg
      rw [(hrows x hx).2.2.2.2] at hy
      cases hy
  fileContent := h.fileContent
  batchSeeds b' := by
    rw [List.filter_append, List.filterMap_append]
    by_cases hb' : b' = b.id
    · -- no older generation lies in the new batch, and every new one does
      subst hb'
      have hold : r.generations.filter (·.batch == b.id) = [] := by
        refine List.filter_eq_nil_iff.2 fun g hg hgb => hnew ?_
        obtain ⟨b', hb', hlink, -⟩ := h.generationBatch g hg
        exact List.mem_map.2 ⟨b', hb', hlink.trans (beq_iff_eq.1 hgb)⟩
      have hall : (rows.map (·.2)).filter (·.batch == b.id) = rows.map (·.2) := by
        refine List.filter_eq_self.2 fun g hg => ?_
        obtain ⟨x, hx, rfl⟩ := List.mem_map.1 hg
        exact beq_iff_eq.2 (hrows x hx).2.2.1
      rw [hold, hall]
      exact hseeds
    · have hnone : (rows.map (·.2)).filter (·.batch == b') = [] := by
        refine List.filter_eq_nil_iff.2 fun g hg hgb => hb' ?_
        obtain ⟨x, hx, rfl⟩ := List.mem_map.1 hg
        exact (beq_iff_eq.1 hgb).symm.trans (hrows x hx).2.2.1
      rw [hnone, List.filterMap_nil, List.append_nil]
      exact h.batchSeeds b'

/-- Deleting a topic of the user keeps the links: the batches of that topic go with it, and
no other batch lay in it, since the identifier names one topic. -/
theorem Linked.deleteTopic (h : r.Linked) (hids : (r.topics.map (·.id)).Nodup) {user id : Uuid}
    {t : Topic} (ht : r.topic? user id = some t) :
    (ExceptT.run (deleteTopic user id) r).2.Linked := by
  obtain ⟨htm, htid, htuser⟩ := topic?_spec ht
  rw [run_deleteTopic, ht]
  refine Linked.purgeOrphans ?_ _
  refine h.removeBatches _ _ fun b hb hkept => ?_
  obtain ⟨u, hu, hlink, hown⟩ := h.batchTopic b hb
  refine ⟨u, List.mem_filter.2 ⟨hu, ?_⟩, hlink, hown⟩
  -- a batch that stays lies in another topic than the deleted one
  by_contra hgone
  have hut : u = t := List.inj_on_of_nodup_map hids hu htm (by simpa [htid] using hgone)
  subst hut
  simp [← hlink, htid, ← hown, htuser] at hkept

/-- A timeout sweep only finishes tasks, so it keeps the links. -/
theorem Linked.sweep (h : r.Linked) (user : Uuid) (now : Instant) (timeoutMs : Int)
    (ids : List Uuid) : (ids.foldl (sweepOne user now timeoutMs) r).Linked := by
  induction ids generalizing r with
  | nil => exact h
  | cons id rest ih =>
    refine ih ?_
    unfold sweepOne
    split
    · rw [run_finishTask]
      exact h.mapTasks _ (finish_keeps _ _ _ _) _
    · exact h

end Writes

/-! ## Every call keeps the links -/

/-- One call of any operation, with any arguments, keeps the links of a repository whose
rows, before and after, are named by distinct identifiers. -/
theorem Linked.apply {r : Repository} (h : r.Linked) (c : RepoCall) (hids : r.rowIds.Nodup)
    (hnext : (c.apply r).rowIds.Nodup) : (c.apply r).Linked := by
  cases c with
  | createTopic user title =>
    rw [RepoCall.apply, settle_snd, run_createTopic]
    exact h.createTopic _ _ _
  | getTopic user id =>
    rw [RepoCall.apply, settle_snd, run_getTopic]
    cases r.topic? user id
    · exact h.tick _ _
    · exact h
  | listTopics => exact h
  | updateTopic user id title cover =>
    rw [RepoCall.apply, settle_snd, run_updateTopic]
    rcases ht : r.topic? user id with _ | t
    · exact h.tick _ _
    · dsimp only
      refine h.replaceTopic (nodup_topicIds hids) (topic?_spec ht).1 _ ?_ ?_ _ <;> rfl
  | setCoverIfEmpty user id cover =>
    rw [RepoCall.apply, settle_snd, run_setCoverIfEmpty]
    rcases ht : r.topic? user id with _ | t
    · exact h
    · by_cases hc : t.coverUrl.isNone = true
      · dsimp only
        rw [if_pos hc]
        refine h.replaceTopic (nodup_topicIds hids) (topic?_spec ht).1 _ ?_ ?_ _ <;> rfl
      · dsimp only
        rw [if_neg hc]
        exact h
  | deleteTopic user id =>
    rw [RepoCall.apply, settle_snd]
    rcases ht : r.topic? user id with _ | t
    · rw [run_deleteTopic, ht]
      exact h.tick _ _
    · have hlinked := h.deleteTopic (nodup_topicIds hids) ht
      rw [run_deleteTopic, ht] at hlinked ⊢
      exact hlinked
  | createBatch user nb =>
    rw [RepoCall.apply, settle_snd] at hnext ⊢
    rcases hrun : ExceptT.run (createBatch user nb) r with ⟨_ | cb, r'⟩
    · exact h.tick _ _
    · obtain ⟨t, ht, hfresh, -, hr'⟩ := createBatch_ok hrun
      rw [hrun] at hnext
      dsimp only at hnext ⊢
      rw [hr'] at hnext ⊢
      obtain ⟨htm, htid, htuser⟩ := topic?_spec ht
      -- the new batch's identifier is new: the batches after the call are named once each
      have hnew : (Uuid.draw r.entropy).1 ∉ r.batches.map (·.id) := by
        have hb := nodup_batchIds hnext
        simp only [List.map_append, List.map_cons, List.map_nil] at hb
        exact fun hm => (List.nodup_append.1 hb).2.2 _ hm _ (List.mem_singleton_self _) rfl
      have hseeds := seeds_rowsFrom user (Uuid.draw r.entropy).1 (r.clock.addMillis 1)
        (r.entropy.skip 1) nb.slots
      have htopics := nodup_topicIds hids
      refine (h.addBatch htm _ ?_ ?_ _ (fun x hx => ?_) ?_ r.clock _).replaceTopic htopics htm _ ?_ ?_ _
      rotate_right 2
      · rfl
      · rfl
      · exact ⟨htid, htuser⟩
      · exact hnew
      · obtain ⟨h1, -, h3, h4, h5, h6, -⟩ := mem_rowsFrom hx
        exact ⟨h1, h3, h4, h5, h6⟩
      · rw [List.filterMap_map]
        have hslots := congrArg (List.filterMap id) hseeds
        rw [List.filterMap_map] at hslots
        rw [show ((·.seed) ∘ (·.2) : Task × Generation → Option Int) = id ∘ (·.2.seed) from rfl, hslots]
        exact hfresh.1
  | batchesOf => exact h
  | deleteBatch user id =>
    rw [RepoCall.apply, settle_snd, run_deleteBatch]
    dsimp only
    split_ifs
    · exact h.removeBatches _ _ fun b hb _ => h.batchTopic b hb
    · rw [run_purgeOrphans]
      exact (h.removeBatches _ _ fun b hb _ => h.batchTopic b hb).purgeOrphans _
  | getGeneration => exact h
  | findFile => exact h
  | completeGeneration user gen task asset file =>
    rw [RepoCall.apply, settle_snd]
    rcases hp : (r.task? user task).any (·.status == .processing) with _ | _
    · rw [run_completeGeneration_of_idle hp]
      exact h
    · rcases hg : r.generation? user gen with _ | g
      · rw [run_completeGeneration_of_missing hp hg]
        exact h.tick _ _
      · obtain ⟨hgm, hgid, hguser⟩ := generation?_spec hg
        have hgens := nodup_generationIds hids
        have hfile := run_fileFor user file r
        rcases hf : r.fileWithHash? user file.fileHash with _ | f
        · -- a new file, of the generation's user
          rw [hf] at hfile
          rw [run_completeGeneration hp (by rw [hg]; rfl) hfile]
          refine ((h.addFile _ _ _ (fileWithHash?_none hf)).attach hgens hgm
            hgid _ (List.mem_append_right _ (List.mem_singleton_self _)) hguser.symm).mapTasks _
            (finish_keeps _ _ _ _) _
        · -- the user's file with the same content
          rw [hf] at hfile
          rw [run_completeGeneration hp (by rw [hg]; rfl) hfile]
          obtain ⟨hfm, hfuser, -⟩ := fileWithHash?_spec hf
          exact (h.attach hgens hgm hgid _ hfm (hfuser.trans hguser.symm)).mapTasks
            _ (finish_keeps _ _ _ _) _
  | deleteGeneration user id =>
    rw [RepoCall.apply, settle_snd, run_deleteGeneration]
    rcases r.generation? user id with _ | g
    · exact h
    · dsimp only
      rcases g.file with _ | f
      · exact h.filterGenerations _
      · dsimp only
        rw [run_purgeOrphans]
        exact (h.filterGenerations _).purgeOrphans _
  | getTask => exact h
  | transition user id allowed target error =>
    rw [RepoCall.apply, settle_snd, run_transition]
    rcases r.task? user id with _ | t
    · exact h
    · by_cases ha : allowed.contains t.status = true
      · dsimp only
        rw [if_pos ha]
        exact h.mapTasks _ (finish_keeps _ _ _ _) _
      · dsimp only
        rw [if_neg ha]
        exact h
  | failTimedOut user ids timeoutMs =>
    rw [RepoCall.apply_failTimedOut]
    exact (h.tick _ r.entropy).sweep _ _ _ _

end Repository
end ImageStudio
