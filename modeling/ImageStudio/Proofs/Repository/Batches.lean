import ImageStudio.Proofs.Studio.Created
import ImageStudio.Proofs.Repository.Refusals

/-!
# Proofs · Repository · Batches: what storing a batch does

A new batch is stored exactly when it is `NewBatch.Storable`: it has an image, as many
seeds as images when seeds are given, a topic of the caller's, and no seed twice. Otherwise
the repository reports the first of these it misses (`NewBatch.Refusal`): two kinds of
invalid input, then the topic not found, then the repeated seed as a conflict.

A stored batch changed the repository as `NewBatch.StoredAs` says: the batch with the new
batch's fields, one generation per image in the order of the slots, each with its slot's
seed and its own task, and those tasks, pending, with no error and no duration; the batch's
topic has a new update time, and nothing else changed. When the identifiers drawn are fresh,
the tasks are distinct, and the feed of the topic shows the batch with exactly its
generations, each with its own task, pending (`CreatedBatch.ShownIn`).

Main statement: `Repository.createBatch_exact`.
-/

namespace ImageStudio

namespace NewBatch

/-- What a new batch needs to be stored for `user` in `r`: at least one image, as many
seeds as images when seeds are given, a topic of the user's, and no seed twice. -/
structure Storable (nb : NewBatch) (r : Repository) (user : Uuid) : Prop where
  imageNum_pos : 0 < nb.imageNum
  seedCount : ∀ seeds, nb.seeds = some seeds → seeds.length = nb.imageNum
  topic : (r.topic? user nb.topic).isSome
  seedsNodup : ∀ seeds, nb.seeds = some seeds → seeds.Nodup

/-- The first need of `Storable` that a new batch misses, with the failure that reports it:
no image, and a seed count that is not the image count, are invalid input; a topic that is
not the user's is not found; a seed that comes twice is a conflict, named with the
identifier drawn for the batch. -/
inductive Refusal (nb : NewBatch) (r : Repository) (user : Uuid) : PortError → Prop
  | noImage (h : nb.imageNum = 0) : Refusal nb r user (.validation "imageNum must be at least 1")
  | seedCount {seeds : List Int} (hpos : 0 < nb.imageNum) (hs : nb.seeds = some seeds)
      (hl : seeds.length ≠ nb.imageNum) :
      Refusal nb r user
        (.validation ("expected " ++ toString nb.imageNum ++ " seeds, got " ++ toString seeds.length))
  | noTopic (hpos : 0 < nb.imageNum)
      (hcount : ∀ seeds, nb.seeds = some seeds → seeds.length = nb.imageNum)
      (ht : r.topic? user nb.topic = none) : Refusal nb r user (Repository.topicNotFound nb.topic)
  | seedTwice {seeds : List Int} {s : Int} (hpos : 0 < nb.imageNum) (hs : nb.seeds = some seeds)
      (hl : seeds.length = nb.imageNum) (ht : (r.topic? user nb.topic).isSome)
      (htwice : [s, s].Sublist seeds) :
      Refusal nb r user (Repository.duplicateSeed s (Uuid.draw r.entropy).1)

/-- What storing a new batch for `user` did, from `r` to `r'`. `cb` holds the batch, of the
user and with the new batch's fields, and one generation per image in it, in the order of
the slots, each with its slot's seed and its own task, with no file and no image. The
repository gained that batch, those generations, and their tasks, pending of the user with
no error and no duration. The batch's topic has a new update time, and nothing else
changed. -/
structure StoredAs (nb : NewBatch) (r : Repository) (user : Uuid) (cb : CreatedBatch)
    (r' : Repository) : Prop where
  batch : cb.batch.user = user ∧ cb.batch.topic = nb.topic ∧ cb.batch.provider = nb.provider ∧
    cb.batch.model = nb.model ∧ cb.batch.prompt = nb.prompt ∧ cb.batch.width = nb.width ∧
    cb.batch.height = nb.height ∧ cb.batch.config = nb.config
  count : cb.generations.length = nb.imageNum
  seeds : cb.generations.map (·.seed) = nb.slots
  taskOf : cb.generations.map (·.task) = cb.tasks.map some
  inBatch : ∀ g ∈ cb.generations,
    g.user = user ∧ g.batch = cb.batch.id ∧ g.file = none ∧ g.asset = none
  batches : r'.batches = r.batches ++ [cb.batch]
  generations : r'.generations = r.generations ++ cb.generations
  tasks : ∃ ts : List Task, r'.tasks = r.tasks ++ ts ∧ ts.map (·.id) = cb.tasks ∧
    ∀ t ∈ ts, t.user = user ∧ t.status = .pending ∧ t.error = none ∧ t.durationMs = none
  topics : ∃ t τ, r.topic? user nb.topic = some t ∧
    r'.topics = r.topics.map fun x => if x.id == t.id then { t with updatedAt := τ } else x
  files : r'.files = r.files

/-- The slots of a new batch repeat no seed exactly when its seeds, if given, are distinct. -/
theorem seedsFresh_slots_iff (nb : NewBatch) :
    Repository.seedsFresh [] nb.slots ↔ ∀ seeds, nb.seeds = some seeds → seeds.Nodup := by
  unfold Repository.seedsFresh NewBatch.slots
  rcases nb.seeds with _ | seeds
  · simp
  · simp [List.filterMap_map]

/-- A new batch has one slot per image when its seeds, if given, are one per image. -/
theorem length_slots {nb : NewBatch}
    (h : ∀ seeds, nb.seeds = some seeds → seeds.length = nb.imageNum) :
    nb.slots.length = nb.imageNum := by
  unfold NewBatch.slots
  rcases hs : nb.seeds with _ | seeds
  · exact List.length_replicate
  · rw [List.length_map, h seeds hs]

end NewBatch

namespace CreatedBatch

/-- How the feed of the user's topic `topic` in `r` shows the stored batch `cb`: with
exactly its generations, each with its seed and its own task, pending, with no error. -/
def ShownIn (cb : CreatedBatch) (r : Repository) (user topic : Uuid) : Prop :=
  ∃ v ∈ r.batchesOf user topic, v.id = cb.batch.id ∧
    (v.generations.map (·.id)).Perm (cb.generations.map (·.id)) ∧
    ∀ gv ∈ v.generations, ∃ g ∈ cb.generations, gv.id = g.id ∧ gv.seed = g.seed ∧
      gv.task = { id := g.task, status := some .pending }

end CreatedBatch

namespace Repository

variable {user : Uuid} {nb : NewBatch} {r r' : Repository}

/-! ## The checks -/

/-- The checks pass exactly when the batch has an image, as many seeds as images when seeds
are given, and a topic of the user's. -/
theorem checkBatch_ok_iff :
    (ExceptT.run (checkBatch user nb) r).1 = .ok () ↔
      0 < nb.imageNum ∧ (∀ seeds, nb.seeds = some seeds → seeds.length = nb.imageNum) ∧
        (r.topic? user nb.topic).isSome := by
  unfold checkBatch
  by_cases h0 : nb.imageNum = 0
  · simp [h0]
  · rcases hs : nb.seeds with _ | seeds
    · cases ht : r.topic? user nb.topic <;> simp [h0, ht, Repo.run_bind, Nat.pos_iff_ne_zero]
    · by_cases hl : seeds.length = nb.imageNum
      · cases ht : r.topic? user nb.topic <;> simp [h0, hl, ht, Repo.run_bind, Nat.pos_iff_ne_zero]
      · simp [h0, hl]

/-- A failed check reports the first of them the batch misses. -/
theorem checkBatch_error {e : PortError} (h : (ExceptT.run (checkBatch user nb) r).1 = .error e) :
    nb.Refusal r user e := by
  unfold checkBatch at h
  by_cases h0 : nb.imageNum = 0
  · simp only [h0, if_true] at h
    cases h
    exact .noImage h0
  have hpos : 0 < nb.imageNum := Nat.pos_of_ne_zero h0
  rcases hs : nb.seeds with _ | seeds
  · -- no seeds: only the topic can be missing
    cases ht : r.topic? user nb.topic <;> simp [h0, hs, ht, Repo.run_bind] at h
    cases h
    exact .noTopic hpos (fun _ h => by rw [hs] at h; cases h) ht
  · by_cases hl : seeds.length = nb.imageNum
    · cases ht : r.topic? user nb.topic <;> simp [h0, hs, hl, ht, Repo.run_bind] at h
      cases h
      exact .noTopic hpos (fun _ h => by rw [hs] at h; cases h; exact hl) ht
    · simp [h0, hs, hl] at h
      cases h
      exact .seedCount hpos hs hl

/-! ## The rows of a batch -/

/-- Making rows fails only at a seed met before: one of `seen`, or one that comes twice
among the slots. -/
theorem makeRows_error {batch : Uuid} {now : Instant} {seen : List Int}
    {slots : List (Option Int)} {e : PortError}
    (h : ExceptT.run (makeRows user batch now seen slots) r = (.error e, r')) :
    ∃ s, e = duplicateSeed s batch ∧ ((s ∈ seen ∧ some s ∈ slots) ∨ [some s, some s].Sublist slots) := by
  induction slots generalizing seen r with
  | nil => cases h
  | cons seed rest ih =>
    rw [run_makeRows_cons] at h
    split at h
    · -- the slot's seed was met before
      rename_i hmet
      cases h
      cases seed with
      | none => simp at hmet
      | some s => exact ⟨s, rfl, .inl ⟨by simpa using hmet, List.mem_cons_self ..⟩⟩
    · rcases hrest : ExceptT.run (makeRows user batch now (seed.toList ++ seen) rest)
        { r with entropy := r.entropy.skip 2 } with ⟨_ | more, r''⟩
      · rw [hrest] at h
        cases h
        obtain ⟨s, rfl, hs⟩ := ih hrest
        refine ⟨s, rfl, ?_⟩
        rcases hs with ⟨hmem, hin⟩ | hsub
        · rcases List.mem_append.1 hmem with hseed | hseen
          · -- the repeated seed is this slot's
            obtain rfl : seed = some s := by simpa using hseed
            exact .inr ((List.singleton_sublist.2 hin).cons_cons _)
          · exact .inl ⟨hseen, List.mem_cons_of_mem _ hin⟩
        · exact .inr (hsub.cons _)
      · rw [hrest] at h
        cases h

/-! ## Stored or refused -/

/-- A refused batch is refused for the first need of `Storable` it misses. -/
theorem createBatch_refusal {e : PortError}
    (h : ExceptT.run (createBatch user nb) r = (.error e, r')) : nb.Refusal r user e := by
  unfold createBatch at h
  obtain ⟨hstate, -⟩ := run_checkBatch user nb r
  rw [Repo.run_bind] at h
  rcases hc : ExceptT.run (checkBatch user nb) r with ⟨_ | _, r₀⟩
  · -- the checks refused the batch
    rw [hc] at h
    cases h
    exact checkBatch_error (by rw [hc])
  obtain ⟨hpos, hcount, htopic⟩ := checkBatch_ok_iff.1 (by rw [hc])
  rw [hc] at h hstate
  dsimp only at h hstate
  rw [hstate] at h
  simp only [Repo.run_bind, run_now, run_freshId] at h
  rcases hm : ExceptT.run (makeRows user (Uuid.draw r.entropy).1 (r.clock.addMillis 1) [] nb.slots)
    { r with clock := r.clock.addMillis 1, entropy := r.entropy.skip 1 } with ⟨_ | rows, r₂⟩
  · -- a seed came twice, so seeds were given, and one of them repeats
    rw [hm] at h
    cases h
    obtain ⟨s, rfl, hs⟩ := makeRows_error hm
    have htwice : [some s, some s].Sublist nb.slots := hs.resolve_left fun h => by simp at h
    unfold NewBatch.slots at htwice
    rcases hseeds : nb.seeds with _ | seeds
    · rw [hseeds] at htwice
      exact absurd (htwice.subset List.mem_cons_self) (by simp)
    · rw [hseeds] at htwice
      obtain ⟨l, hl, hmap⟩ := List.sublist_map_iff.1 htwice
      obtain rfl : l = [s, s] := List.map_injective_iff.2 (Option.some_injective Int) hmap.symm
      exact .seedTwice hpos hseeds (hcount seeds hseeds) htopic hl
  · -- every row was made: the batch is stored
    rw [hm] at h
    simp only [Repo.run_modify, run_touchTopic, Repo.run_pure] at h
    cases h

/-- A stored batch had all that `Storable` asks. -/
theorem storable_of_createBatch {cb : CreatedBatch}
    (h : ExceptT.run (createBatch user nb) r = (.ok cb, r')) : nb.Storable r user := by
  have hchecks : (ExceptT.run (checkBatch user nb) r).1 = .ok () := by
    unfold createBatch at h
    rw [Repo.run_bind] at h
    rcases hc : ExceptT.run (checkBatch user nb) r with ⟨_ | _, r₀⟩
    · rw [hc] at h
      cases h
    · rfl
  obtain ⟨hpos, hcount, htopic⟩ := checkBatch_ok_iff.1 hchecks
  obtain ⟨t, -, hfresh, -⟩ := createBatch_ok h
  exact ⟨hpos, hcount, htopic, nb.seedsFresh_slots_iff.1 hfresh⟩

/-- A batch with all that `Storable` asks is stored. -/
theorem createBatch_of_storable (h : nb.Storable r user) :
    ∃ cb r', ExceptT.run (createBatch user nb) r = (.ok cb, r') :=
  createBatch_succeeds (Nat.pos_iff_ne_zero.1 h.imageNum_pos) h.seedCount h.topic
    (nb.seedsFresh_slots_iff.2 h.seedsNodup)

/-! ## What a stored batch changed -/

/-- A stored batch changed the repository as `StoredAs` says. -/
theorem storedAs_of_createBatch {cb : CreatedBatch}
    (h : ExceptT.run (createBatch user nb) r = (.ok cb, r')) : nb.StoredAs r user cb r' := by
  have hcount := NewBatch.length_slots (storable_of_createBatch h).seedCount
  have hmade := createBatch_made h
  obtain ⟨t, ht, -, rfl, rfl⟩ := createBatch_ok h
  refine ⟨⟨rfl, rfl, rfl, rfl, rfl, rfl, rfl, rfl⟩, ?count, hmade.seeds, hmade.tasks, ?inBatch, rfl,
    rfl, ⟨_, rfl, List.map_map .., ?pending⟩, ⟨t, _, ht, rfl⟩, rfl⟩
  case count =>
    have hlen := congrArg List.length hmade.seeds
    rw [List.length_map] at hlen
    rw [hlen, hcount]
  case inBatch =>
    intro g hg
    obtain ⟨x, hx, rfl⟩ := List.mem_map.1 hg
    obtain ⟨e, seed, rfl⟩ := exists_rowAt_of_mem hx
    exact ⟨rfl, rfl, rfl, rfl⟩
  case pending =>
    intro t ht
    obtain ⟨x, hx, rfl⟩ := List.mem_map.1 ht
    obtain ⟨e, seed, rfl⟩ := exists_rowAt_of_mem hx
    exact ⟨rfl, rfl, rfl, rfl⟩

/-! ## The stored batch in its topic's feed -/

section Fresh

variable {e₀ : Entropy} {cb : CreatedBatch}

theorem mem_rowIds_of_task {t : Task} (ht : t ∈ r.tasks) : t.id ∈ r.rowIds :=
  List.mem_append_left _ (List.mem_append_right _ (List.mem_map_of_mem ht))

/-- With fresh draws, the identifiers a stored batch drew are distinct, and none names a row
that was there before. -/
theorem createBatch_draws_fresh (h : ExceptT.run (createBatch user nb) r = (.ok cb, r'))
    (hr : r.Drawn e₀) (hfresh : (e₀.drawnUntil r'.entropy).Nodup) :
    (r.entropy.idsFrom (1 + 2 * nb.slots.length)).Nodup ∧
      ∀ x ∈ r.rowIds, x ∉ r.entropy.idsFrom (1 + 2 * nb.slots.length) := by
  have he := (createBatch_made h).entropy
  refine ⟨?_, fun x hx => hr.not_mem_idsFrom he hfresh hx⟩
  rw [he, hr.drawnUntil_skip] at hfresh
  exact hfresh.of_append_right

/-- With fresh draws, the tasks of a stored batch are distinct. -/
theorem createBatch_tasks_nodup (h : ExceptT.run (createBatch user nb) r = (.ok cb, r'))
    (hr : r.Drawn e₀) (hfresh : (e₀.drawnUntil r'.entropy).Nodup) : cb.tasks.Nodup := by
  have hnodup := (createBatch_draws_fresh h hr hfresh).1
  rw [Entropy.idsFrom_add] at hnodup
  exact ((createBatch_made h).ids.nodup_iff.2 hnodup.of_append_right).of_append_left

/-- With fresh draws, the tasks of a stored batch are new, and each is found as one of
the pending tasks the batch made. -/
theorem createBatch_find_task (h : ExceptT.run (createBatch user nb) r = (.ok cb, r'))
    (hr : r.Drawn e₀) (hfresh : (e₀.drawnUntil r'.entropy).Nodup) {id : Uuid} (hid : id ∈ cb.tasks) :
    ∃ t, r'.tasks.find? (·.id == id) = some t ∧ t.id = id ∧ t.status = .pending ∧ t.error = none := by
  obtain ⟨ts, hts, hids, hnew⟩ := (storedAs_of_createBatch h).tasks
  -- the task's identifier was drawn for the batch, so no earlier task has it
  have hdrawn : id ∈ r.entropy.idsFrom (1 + 2 * nb.slots.length) := by
    rw [Entropy.idsFrom_add]
    exact List.mem_append_right _ ((createBatch_made h).ids.subset (List.mem_append_left _ hid))
  have hold : r.tasks.find? (·.id == id) = none := List.find?_eq_none.2 fun t ht heq =>
    (createBatch_draws_fresh h hr hfresh).2 t.id (mem_rowIds_of_task ht)
      (by rw [beq_iff_eq.1 heq]; exact hdrawn)
  rw [← hids] at hid
  obtain ⟨t, ht, rfl⟩ := List.mem_map.1 hid
  obtain ⟨t', ht'⟩ : ∃ t', ts.find? (·.id == t.id) = some t' :=
    Option.isSome_iff_exists.1 (List.find?_isSome.2 ⟨t, ht, by simp⟩)
  have hmem := List.mem_of_find?_eq_some ht'
  refine ⟨t', by rw [hts, List.find?_append, hold, ht', Option.none_or], ?_, (hnew t' hmem).2.1,
    (hnew t' hmem).2.2.1⟩
  simpa using List.find?_some ht'

/-- With fresh draws and the links kept, no generation there before belongs to a stored
batch. -/
theorem createBatch_batch_new (h : ExceptT.run (createBatch user nb) r = (.ok cb, r'))
    (hl : r.Linked) (hr : r.Drawn e₀) (hfresh : (e₀.drawnUntil r'.entropy).Nodup) :
    ∀ g ∈ r.generations, g.batch ≠ cb.batch.id := by
  have hnew := (createBatch_draws_fresh h hr hfresh).2
  obtain ⟨t, -, -, rfl, -⟩ := createBatch_ok h
  intro g hg hid
  obtain ⟨b, hb, hbid, -⟩ := hl.generationBatch g hg
  apply hnew b.id (mem_rowIds_of_batch hb)
  rw [Entropy.idsFrom_add, hbid, hid]
  exact List.mem_append_left _ List.mem_cons_self

/-- The generations of a stored batch are exactly those the batch made. -/
theorem createBatch_generations_of_batch (h : ExceptT.run (createBatch user nb) r = (.ok cb, r'))
    (hl : r.Linked) (hr : r.Drawn e₀) (hfresh : (e₀.drawnUntil r'.entropy).Nodup) :
    r'.generations.filter (·.batch == cb.batch.id) = cb.generations := by
  have hstored := storedAs_of_createBatch h
  rw [hstored.generations, List.filter_append, List.filter_eq_nil_iff.2, List.filter_eq_self.2,
    List.nil_append]
  · intro g hg
    simpa using (hstored.inBatch g hg).2.1
  · intro g hg
    simpa using createBatch_batch_new h hl hr hfresh g hg

/-- A generation of a stored batch shows its seed and its own task, pending, with no error
and no image. -/
theorem createBatch_generationView (h : ExceptT.run (createBatch user nb) r = (.ok cb, r'))
    (hr : r.Drawn e₀) (hfresh : (e₀.drawnUntil r'.entropy).Nodup) {g : Generation}
    (hg : g ∈ cb.generations) :
    r'.generationView g =
      { id := g.id, asset := none, seed := g.seed, createdAt := g.createdAt,
        task := { id := g.task, status := some .pending } } := by
  have hstored := storedAs_of_createBatch h
  obtain ⟨id, hid, htask⟩ : ∃ id ∈ cb.tasks, g.task = some id := by
    have hmem : g.task ∈ cb.tasks.map some := hstored.taskOf ▸ List.mem_map_of_mem hg
    obtain ⟨id, hid, heq⟩ := List.mem_map.1 hmem
    exact ⟨id, hid, heq.symm⟩
  obtain ⟨t, hfind, rfl, hpending, herror⟩ := createBatch_find_task h hr hfresh hid
  simp [generationView, htask, hfind, hpending, herror, (hstored.inBatch g hg).2.2.2]

/-- With fresh draws and the links kept, the feed of the batch's topic shows it with exactly
its generations, each with its seed and its own task, pending. -/
theorem createBatch_shownIn (h : ExceptT.run (createBatch user nb) r = (.ok cb, r'))
    (hl : r.Linked) (hr : r.Drawn e₀) (hfresh : (e₀.drawnUntil r'.entropy).Nodup) :
    cb.ShownIn r' user nb.topic := by
  have hstored := storedAs_of_createBatch h
  have hgens := createBatch_generations_of_batch h hl hr hfresh
  obtain ⟨hu, htop, -⟩ := hstored.batch
  refine ⟨r'.batchView cb.batch, ?mem, rfl, ?perm, ?views⟩
  case mem =>
    have hb : cb.batch ∈ r'.batches := by
      rw [hstored.batches]
      exact List.mem_append_right _ (List.mem_singleton_self _)
    exact List.mem_map_of_mem (List.mem_mergeSort.2 (List.mem_filter.2 ⟨hb, by simp [hu, htop]⟩))
  case perm =>
    simp only [batchView, hgens, List.map_map]
    exact (List.mergeSort_perm _ _).map _
  case views =>
    intro gv hgv
    simp only [batchView, hgens, List.mem_map] at hgv
    obtain ⟨g, hg, rfl⟩ := hgv
    have hg' := List.mem_mergeSort.1 hg
    rw [createBatch_generationView h hr hfresh hg']
    exact ⟨g, hg', rfl, rfl, rfl⟩

end Fresh

/-! ## Storing a batch -/

/-- Storing a new batch, from whatever repository, for whatever user. It succeeds exactly
when the batch is `Storable`; a refusal reports the first need it misses, as `Refusal` says;
a success changed the repository as `StoredAs` says. When the repository's links hold and
the identifiers of its rows and of the batch are fresh draws of the source, the batch's
tasks are distinct, and the feed of its topic shows it with exactly its generations, each
with its own task, pending. -/
theorem createBatch_exact (r : Repository) (user : Uuid) (nb : NewBatch) :
    ((∃ cb r', ExceptT.run (createBatch user nb) r = (.ok cb, r')) ↔ nb.Storable r user) ∧
    (∀ e r', ExceptT.run (createBatch user nb) r = (.error e, r') → nb.Refusal r user e) ∧
    ∀ cb r', ExceptT.run (createBatch user nb) r = (.ok cb, r') →
      nb.StoredAs r user cb r' ∧
      ∀ e₀, r.Linked → r.Drawn e₀ → (e₀.drawnUntil r'.entropy).Nodup →
        cb.tasks.Nodup ∧ cb.ShownIn r' user nb.topic :=
  ⟨⟨fun ⟨_, _, h⟩ => storable_of_createBatch h, createBatch_of_storable⟩,
    fun _ _ h => createBatch_refusal h,
    fun _ _ h => ⟨storedAs_of_createBatch h, fun _ hl hr hfresh =>
      ⟨createBatch_tasks_nodup h hr hfresh, createBatch_shownIn h hl hr hfresh⟩⟩⟩

/-- A topic of the user `1`, in an empty repository. -/
def catTopic : Repository :=
  RepoCall.applyAll [.createTopic ⟨1⟩ "cats"] (empty default ⟨7, 0⟩)

/-- Two images of a cat, seeded `1` and `2`, in that topic. -/
def twoCats : NewBatch :=
  { topic := (Uuid.draw ⟨7, 0⟩).1, provider := "p", model := "m", prompt := "a cat",
    config := .null, imageNum := 2, seeds := some [1, 2] }

/-- Two seeded images in a topic of the caller's, in a repository whose links hold and whose
rows owe their identifiers to fresh draws: the batch is stored as `StoredAs` says, its two
tasks are distinct, and the feed of the topic shows it. -/
theorem createBatch_exact_twoCats : catTopic.Linked ∧ catTopic.Drawn ⟨7, 0⟩ ∧
    twoCats.Storable catTopic ⟨1⟩ ∧ ∃ cb r', ExceptT.run (createBatch ⟨1⟩ twoCats) catTopic = (.ok cb, r') ∧
      ((⟨7, 0⟩ : Entropy).drawnUntil r'.entropy).Nodup ∧ twoCats.StoredAs catTopic ⟨1⟩ cb r' ∧
      cb.tasks.Nodup ∧ cb.ShownIn r' ⟨1⟩ twoCats.topic := by
  have hl : catTopic.Linked :=
    RepoCall.linked_applyAll_of (linked_empty _ _) (drawn_empty _ _) _ (by decide +kernel)
  have hr : catTopic.Drawn ⟨7, 0⟩ := by
    obtain ⟨j, he, hids⟩ := (RepoCall.createTopic ⟨1⟩ "cats").draws (empty default ⟨7, 0⟩)
    exact (drawn_empty _ _).step j he hids
  have hok : (ExceptT.run (createBatch ⟨1⟩ twoCats) catTopic).1.isOk = true := by decide +kernel
  have hfresh : ((⟨7, 0⟩ : Entropy).drawnUntil
      (ExceptT.run (createBatch ⟨1⟩ twoCats) catTopic).2.entropy).Nodup := by
    decide +kernel
  rcases hrun : ExceptT.run (createBatch ⟨1⟩ twoCats) catTopic with ⟨_ | cb, r'⟩
  · rw [hrun] at hok
    cases hok
  rw [hrun] at hfresh
  have hexact := createBatch_exact catTopic ⟨1⟩ twoCats
  obtain ⟨hstored, hfeed⟩ := hexact.2.2 cb r' hrun
  exact ⟨hl, hr, hexact.1.1 ⟨cb, r', hrun⟩, cb, r', rfl, hfresh, hstored, hfeed _ hl hr hfresh⟩

end Repository

end ImageStudio
