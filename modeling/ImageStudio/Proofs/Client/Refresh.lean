import ImageStudio.Proofs.Studio.Stored
import ImageStudio.Proofs.Studio.Images
import ImageStudio.Proofs.Studio.Lifecycle
import ImageStudio.Proofs.Studio.Errors
import ImageStudio.Proofs.Client.Watches
import ImageStudio.Web.Views

/-!
# Proofs · Client · Refresh: a merged status agrees with a refreshed feed

A client that polls a generation does not read its topic's feed again on every answer: it
merges the answer into the batches it holds (`GenerationPatch.ofStatus`, `BatchCache.reduce`).
The merge and a full read agree. Take the feed of a topic as read at one point of a run, and
the status of one of its generations as answered at a later point: merging the answer into
the view read first gives the view that the feed shows right after the answer
(`merge_agrees_with_refresh`).

The merge keeps what the answer leaves out: the asset and the seed unless the task
succeeded, and the error unless it failed. What it keeps is still right because of what
every run keeps:
* a generation keeps all but its image, and its batch stays as it was (`Repository.Lineage`);
* its task only moves forward, and an ended task stays as it ended (`Task.Follows`);
* a generation shows an image exactly when its task succeeded (`Repository.Filed`);
* a task carries an error only once it failed (`Repository.ErrorsOnFailure`).

From these, merging one answer into one view is `GenerationPatch.apply_viewWith`. The rest
finds the view in the feed (`World.feed_view`) and in the cache
(`BatchCache.viewIn_updateGeneration_self`), reads the answer (`Studio.generationStatus_ok`),
and follows the generation and its task along the run (`World.Reaches.generation_kept`,
`World.Reaches.task_follows`).
-/

namespace ImageStudio

/-! ### Looking rows up by identifier -/

section Lookup

variable {α β : Type} {k : α → Uuid} {l : List α}

/-- In a list whose items have distinct keys, a test that only items with `a`'s key pass
finds `a`. -/
theorem find?_eq_of_nodup (hl : (l.map k).Nodup) {p : α → Bool} {a : α} (ha : a ∈ l)
    (hpa : p a = true) (hp : ∀ x ∈ l, p x = true → k x = k a) : l.find? p = some a := by
  obtain ⟨x, hx⟩ := Option.isSome_iff_exists.1 (List.find?_isSome.2 ⟨a, ha, hpa⟩)
  have hxl := List.mem_of_find?_eq_some hx
  rw [hx, List.inj_on_of_nodup_map hl hxl ha (hp x hxl (List.find?_some hx))]

/-- In a list whose items have distinct identifiers, a lookup by an item's identifier and
owner finds that item. -/
theorem find?_owned_of_mem {owner : α → Uuid} (hl : (l.map k).Nodup) {a : α} (ha : a ∈ l) :
    l.find? (fun x => k x == k a && owner x == owner a) = some a := by
  refine find?_eq_of_nodup hl ha (by simp) fun x _ hx => ?_
  simp only [Bool.and_eq_true, beq_iff_eq] at hx
  exact hx.1

/-- A lookup by key in a sorted selection of such a list, shown item by item, finds the
item shown. -/
theorem find?_map_mergeSort_filter {f : α → β} {p : β → Bool} {a : α}
    (hp : ∀ x, p (f x) = (k x == k a)) (hl : (l.map k).Nodup) {q : α → Bool} (ha : a ∈ l)
    (hq : q a = true) (le : α → α → Bool) :
    (((l.filter q).mergeSort le).map f).find? p = some (f a) := by
  rw [List.find?_map]
  have hperm := List.mergeSort_perm (l.filter q) le
  refine congrArg (Option.map f) (find?_eq_of_nodup (k := k) ?_ ?_ ?_ fun x _ hx => ?_)
  · exact (hperm.map k).nodup_iff.2 (List.Nodup.sublist ((List.filter_sublist).map k) hl)
  · exact hperm.mem_iff.2 (List.mem_filter.2 ⟨ha, hq⟩)
  · simp [hp]
  · simpa [hp] using hx

end Lookup

/-! ### The feed -/

/-- A generation as the feed shows it when its task is `t`. -/
def Generation.viewWith (g : Generation) (t : Task) : GenerationViewDto :=
  { id := g.id, asset := g.asset, seed := g.seed, createdAt := g.createdAt,
    task := { id := some t.id, status := some t.status, error := t.error.map TaskErrorDto.ofError } }

namespace Repository

variable {r : Repository}

/-- A generation is found by its user and identifier, when identifiers name one generation
each. -/
theorem generation?_of_mem (hids : (r.generations.map (·.id)).Nodup) {g : Generation}
    (hg : g ∈ r.generations) : r.generation? g.user g.id = some g :=
  find?_owned_of_mem hids hg

/-- The feed shows a generation with the task it names. -/
theorem generationView_eq_viewWith (hids : (r.tasks.map (·.id)).Nodup) {g : Generation} {t : Task}
    (ht : t ∈ r.tasks) (hgt : g.task = some t.id) : r.generationView g = g.viewWith t := by
  simp only [generationView, hgt, Option.bind_some]
  rw [find?_eq_of_nodup (p := fun x => x.id == t.id) hids ht (by simp) fun x _ hx => by simpa using hx]
  rfl

/-- The feed of a batch's topic shows each generation of the batch, found by the batch's and
the generation's identifiers. -/
theorem viewIn_batchesOf (hids : r.rowIds.Nodup) {b : Batch} (hb : b ∈ r.batches) {g : Generation}
    (hg : g ∈ r.generations) (hgb : g.batch = b.id) :
    viewIn (r.batchesOf b.user b.topic) b.id g.id = some (r.generationView g) := by
  simp only [viewIn, batchesOf]
  rw [find?_map_mergeSort_filter (p := fun (v : BatchViewDto) => v.id == b.id)
    (k := fun (x : Batch) => x.id) (fun _ => rfl) (nodup_batchIds hids) hb (by simp),
    Option.bind_some]
  exact find?_map_mergeSort_filter (p := fun (v : GenerationViewDto) => v.id == g.id)
    (k := fun (x : Generation) => x.id) (fun _ => rfl) (nodup_generationIds hids) hg (by simp [hgb]) _

end Repository

/-- At every point of a run with fresh draws, the feed of a generation's topic shows it with
its task; it shows an image exactly when the task succeeded, and the task carries an error
only once it failed. -/
theorem World.feed_view {s₀ : Studio} (hblank : s₀.Blank) {w : World}
    (h : World.Reaches { studio := s₀ } w)
    (hfresh : (s₀.repo.entropy.drawnUntil w.studio.repo.entropy).Nodup) {g : Generation}
    (hg : g ∈ w.studio.repo.generations) {b : Batch} (hb : b ∈ w.studio.repo.batches)
    (hbg : b.id = g.batch) :
    ∃ t ∈ w.studio.repo.tasks, g.task = some t.id ∧
      viewIn (w.studio.repo.batchesOf g.user b.topic) g.batch g.id = some (g.viewWith t) ∧
      (g.asset.isSome = true ↔ t.status = .success) ∧ t.ErrorsOnFailure := by
  have hids := (h.drawn hblank.drawn).nodup hfresh
  have hF := h.filedWith hblank hfresh
  obtain ⟨t, ht, hgt, -⟩ := hF.linked.generationTask g hg
  -- the batch the generation names is `b`, a batch of the generation's user
  obtain ⟨b', hb', hb'g, hb'u⟩ := hF.linked.generationBatch g hg
  obtain rfl : b' = b :=
    List.inj_on_of_nodup_map (Repository.nodup_batchIds hids) hb' hb (hb'g.trans hbg.symm)
  refine ⟨t, ht, hgt, ?_, ?_, h.errorsOnFailure hblank.errorsOnFailure t ht⟩
  · rw [← hb'u, ← hb'g, Repository.viewIn_batchesOf hids hb' hg hb'g.symm,
      Repository.generationView_eq_viewWith (Repository.nodup_taskIds hids) ht hgt]
  · rw [hF.filed.assetFile g hg]
    exact hF.filed.fileSuccess g hg t ht hgt

/-- A run keeps each generation but for its image and each batch as it was, and names new
ones by its draws. -/
theorem World.Reaches.lineage {w w' : World} (h : World.Reaches w w') :
    ∃ i, w'.studio.repo.entropy = w.studio.repo.entropy.skip i ∧
      Repository.Lineage w.studio.repo w'.studio.repo i := by
  induction h with
  | refl => exact ⟨0, rfl, .of_eq 0 rfl rfl⟩
  | step _ hs ih =>
    obtain ⟨i, hi, hl⟩ := ih
    obtain ⟨j, hj, hl'⟩ := hs.repo_runs.lineage
    exact ⟨i + j, by rw [hj, hi, Entropy.skip_skip], hl.trans hi hl'⟩

/-- Along a run with fresh draws, a generation there at both ends kept all but its image, and
its batch is still there. -/
theorem World.Reaches.generation_kept {s₀ : Studio} (hblank : s₀.Blank) {w₁ w₂ : World}
    (h₁ : World.Reaches { studio := s₀ } w₁) (h₂ : World.Reaches w₁ w₂)
    (hfresh : (s₀.repo.entropy.drawnUntil w₂.studio.repo.entropy).Nodup) {g g₂ : Generation}
    (hg : g ∈ w₁.studio.repo.generations) (hg₂ : g₂ ∈ w₂.studio.repo.generations)
    (hid : g₂.id = g.id) {b : Batch} (hb : b ∈ w₁.studio.repo.batches) (hbg : b.id = g.batch) :
    g.Kept g₂ ∧ b ∈ w₂.studio.repo.batches := by
  have hd₁ := h₁.drawn hblank.drawn
  obtain ⟨i, hi, hlin⟩ := h₂.lineage
  have hk := hlin.kept hd₁ hi hfresh hg hg₂ hid
  refine ⟨hk, ?_⟩
  -- the batch the generation names after the run is the one it named before
  obtain ⟨file, asset, rfl⟩ := hk
  obtain ⟨b', hb', hb'g, -⟩ := ((h₁.trans h₂).filedWith hblank hfresh).linked.generationBatch _ hg₂
  rwa [hlin.batch_eq hd₁ hi hfresh hb hb' (hb'g.trans hbg.symm)] at hb'

/-- Along a run with fresh draws, the task with a task's identifier at a later point followed
the task's life. -/
theorem World.Reaches.task_follows {e₀ : Entropy} {w₁ w₂ : World} (h : World.Reaches w₁ w₂)
    (hd : w₁.studio.repo.Drawn e₀) (hfresh : (e₀.drawnUntil w₂.studio.repo.entropy).Nodup)
    {t t₂ : Task} (ht : t ∈ w₁.studio.repo.tasks) (ht₂ : t₂ ∈ w₂.studio.repo.tasks)
    (hid : t₂.id = t.id) : t.Follows t₂ := by
  obtain ⟨t', ht', hf⟩ := Repository.follows_of_chain (h.movesTasks hd hfresh) t ht
  have htids := Repository.nodup_taskIds ((h.drawn hd).nodup hfresh)
  rwa [List.inj_on_of_nodup_map htids ht' ht₂ (hf.id.trans hid.symm)] at hf

/-! ### The cache -/

namespace BatchCache

/-- A merge into a generation changes the view the cache holds of it by the patch. -/
theorem viewIn_updateGeneration_self (c : BatchCache) (topic batch gen : Uuid) (p : GenerationPatch) :
    viewIn ((c.reduce (.updateGeneration topic batch gen p)).batches topic) batch gen =
      (viewIn (c.batches topic) batch gen).map p.apply := by
  simp only [reduce]
  rw [batches_modifyTopic_self _ _ rfl, viewIn_modifyFirst_self]
  unfold viewIn
  rw [Option.map_bind]
  congr 1
  funext b
  exact find?_modifyFirst_self (fun x hx => by rw [GenerationPatch.apply_id]; exact hx) _

end BatchCache

/-! ### The status answer -/

namespace Studio

/-- A timeout sweep of one task that goes through leaves the repository as the sweep call
does. -/
theorem sweepTask_ok {user task : Uuid} {s s' : Studio}
    (h : (sweepTask user task).run.run s = (.ok (), s')) :
    ∃ ms, s' = { s with repo := (RepoCall.failTimedOut user [task] ms).apply s.repo } := by
  rcases sweepTask_run user task s with ⟨e, hrun⟩ | ⟨timeoutMs, hrun⟩
  · rw [hrun] at h
    cases h
  · rw [hrun] at h
    cases h
    exact ⟨timeoutMs, rfl⟩

/-- A read of a task's status writes nothing, and answers the task's status, with the
generation on success and the task's error on failure. -/
theorem readStatus_ok {user gen task : Uuid} {s s' : Studio} {A : GenerationStatus}
    (h : (readStatus user gen task).run.run s = (.ok A, s')) :
    s' = s ∧ ∃ t, s.repo.task? user task = some t ∧ A.status = t.status ∧
      A.generation = (if t.status = .success then s.repo.generation? user gen else none) ∧
      A.error = (if t.status = .error then t.error else none) := by
  unfold readStatus at h
  rw [Serve.run_get_bind] at h
  dsimp only at h
  rcases ht : s.repo.task? user task with _ | t
  · rw [ht, Serve.run_throw] at h
    cases h
  · rw [ht] at h
    dsimp only at h
    cases hs : t.status with
    | success =>
      rw [hs] at h
      rcases hg : s.repo.generation? user gen with _ | g
      · rw [hg, Serve.run_throw] at h
        cases h
      · rw [hg, Serve.run_pure] at h
        cases h
        exact ⟨rfl, t, rfl, hs.symm, by simp [hs], by simp [hs]⟩
    | error =>
      rw [hs, Serve.run_pure] at h
      cases h
      exact ⟨rfl, t, rfl, hs.symm, by simp [hs], by simp [hs]⟩
    | pending =>
      rw [hs, Serve.run_pure] at h
      cases h
      exact ⟨rfl, t, rfl, hs.symm, by simp [hs], by simp [hs]⟩
    | processing =>
      rw [hs, Serve.run_pure] at h
      cases h
      exact ⟨rfl, t, rfl, hs.symm, by simp [hs], by simp [hs]⟩

/-- A status request sweeps its task for a timeout and then reads it: it answers the task
as the sweep left it, with the generation on success and the task's error on failure. -/
theorem generationStatus_ok {user gen task : Uuid} {s s' : Studio} {A : GenerationStatus}
    (h : (generationStatus user gen task).run.run s = (.ok A, s')) :
    (∃ ms, s' = { s with repo := (RepoCall.failTimedOut user [task] ms).apply s.repo }) ∧
    ∃ t, s'.repo.task? user task = some t ∧ A.status = t.status ∧
      A.generation = (if t.status = .success then s'.repo.generation? user gen else none) ∧
      A.error = (if t.status = .error then t.error else none) := by
  unfold generationStatus at h
  rw [ExceptT.run_bind, Studio.run_bind] at h
  rcases hsweep : (sweepTask user task).run.run s with ⟨_ | _, s₁⟩
  · rw [hsweep] at h
    cases h
  · rw [hsweep] at h
    obtain ⟨rfl, hread⟩ := readStatus_ok h
    exact ⟨sweepTask_ok hsweep, hread⟩

end Studio

/-! ### Merging one answer -/

/-- Merging the answer about a task into a generation's view from an earlier point gives the
generation's view at the later point, when the task followed its life in between, the
generation kept all but its image, it showed an image exactly when its task succeeded, and
the task carried an error only once failed. -/
theorem GenerationPatch.apply_viewWith {g g' : Generation} {t t' : Task} {A : GenerationStatus}
    (hk : g.Kept g') (hf : t.Follows t') (ha : g.asset.isSome = true ↔ t.status = .success)
    (ha' : g'.asset.isSome = true ↔ t'.status = .success) (he : t.ErrorsOnFailure)
    (he' : t'.ErrorsOnFailure) (hs : A.status = t'.status)
    (hg : A.generation = if t'.status = .success then some g' else none)
    (herr : A.error = if t'.status = .error then t'.error else none) :
    (ofStatus (.ofStatus A)).apply (g.viewWith t) = g'.viewWith t' := by
  obtain ⟨file, asset, rfl⟩ := hk
  -- an end the task had reached earlier is its status later
  have hended : ∀ s, t.status = s → s.isTerminal = true → t'.status = s :=
    fun s h hs => (hf.finished (h ▸ hs)).1.trans h
  -- before a success neither point shows an image, and before a failure neither shows an error
  have hno_image : t'.status ≠ .success → g.asset = none ∧ asset = none := fun hne =>
    ⟨Option.not_isSome_iff_eq_none.1 fun h => hne (hended _ (ha.1 h) rfl),
      Option.not_isSome_iff_eq_none.1 fun h => hne (ha'.1 h)⟩
  have hno_error : t'.status ≠ .error → t.error = none ∧ t'.error = none := fun hne =>
    ⟨he fun h => hne (hended _ h rfl), he' hne⟩
  -- the patch takes its status from the answer, and its image and error by the status
  simp only [GenerationPatch.ofStatus, GenerationStatusDto.ofStatus, Generation.viewWith, hs, hg,
    herr, hf.id]
  cases hst : t'.status with
  | success =>
    obtain ⟨x, rfl⟩ := Option.isSome_iff_exists.1 (ha'.2 hst)
    obtain ⟨-, herr'⟩ := hno_error (by rw [hst]; decide)
    simp [apply, herr', GenerationDto.ofGeneration]
  | error =>
    obtain ⟨hg₀, ha₀⟩ := hno_image (by rw [hst]; decide)
    simp [apply, hg₀, ha₀]
  | pending =>
    obtain ⟨hg₀, ha₀⟩ := hno_image (by rw [hst]; decide)
    obtain ⟨he₀, he'₀⟩ := hno_error (by rw [hst]; decide)
    simp [apply, hg₀, ha₀, he₀, he'₀]
  | processing =>
    obtain ⟨hg₀, ha₀⟩ := hno_image (by rw [hst]; decide)
    obtain ⟨he₀, he'₀⟩ := hno_error (by rw [hst]; decide)
    simp [apply, hg₀, ha₀, he₀, he'₀]

/-! ### The merge against the feed -/

/-- Take the feed of a topic as read at one point of a run from a blank studio, and a
generation of a batch of that topic which is still there at a later point. Merging the
status the service answers about the generation at that later point into the view the
feed showed first gives the view the feed shows right after the answer. -/
theorem merge_agrees_with_refresh {s₀ : Studio} (hblank : s₀.Blank) {w₁ w₂ : World}
    (h₁ : World.Reaches { studio := s₀ } w₁) (h₂ : World.Reaches w₁ w₂) {u t T : Uuid}
    {g : Generation} (hg : g ∈ w₁.studio.repo.generations) (hgu : g.user = u)
    (hgT : g.task = some T) (ht : ∃ b ∈ w₁.studio.repo.batches, b.id = g.batch ∧ b.topic = t)
    (hg₂ : ∃ g₂ ∈ w₂.studio.repo.generations, g₂.id = g.id) {c : BatchCache}
    (hc : c.batches t = w₁.studio.repo.batchesOf u t) {A : GenerationStatus}
    (hA : ((Studio.generationStatus u g.id T).run.run w₂.studio).1 = .ok A)
    (hfresh : (s₀.repo.entropy.drawnUntil
      (w₂.send (.status u g.id T)).studio.repo.entropy).Nodup) :
    (c.reduce (.updateGeneration t g.batch g.id (.ofStatus (.ofStatus A)))).generation? t g.batch g.id =
      viewIn ((w₂.send (.status u g.id T)).studio.repo.batchesOf u t) g.batch g.id := by
  obtain ⟨b, hb, hbg, rfl⟩ := ht
  obtain ⟨g₂, hg₂, hid₂⟩ := hg₂
  subst hgu
  -- what the status request answers, and the studio it leaves
  have hrun : (Studio.generationStatus g.user g.id T).run.run w₂.studio =
      (.ok A, (w₂.send (.status g.user g.id T)).studio) := Prod.ext hA rfl
  obtain ⟨⟨ms, hs₃⟩, t₃, ht₃, hAs, hAg, hAe⟩ := Studio.generationStatus_ok hrun
  have h₁₃ : World.Reaches w₁ (w₂.send (.status g.user g.id T)) := .step h₂ (.send _ _)
  generalize w₂.send (.status g.user g.id T) = w₃ at h₁₃ hfresh hs₃ ht₃ hAg ⊢
  have h₃ := h₁.trans h₁₃
  have hd₁ := h₁.drawn hblank.drawn
  have hids₃ := (h₃.drawn hblank.drawn).nodup hfresh
  -- the generation is still there after the request, kept but for its image, in its batch
  have hg₃ : g₂ ∈ w₃.studio.repo.generations := by
    obtain ⟨clock, tasks, hsweep⟩ := RepoCall.failTimedOut_rows g.user [T] ms w₂.studio.repo
    rw [hs₃, hsweep]
    exact hg₂
  obtain ⟨⟨file, asset, rfl⟩, hb₃⟩ :=
    World.Reaches.generation_kept hblank h₁ h₁₃ hfresh hg hg₃ hid₂ hb hbg
  -- the views the feed shows at the two points
  obtain ⟨t₁, ht₁, hgt₁, hv₁, ha₁, he₁⟩ :=
    World.feed_view hblank h₁ (h₁₃.fresh hd₁ hfresh) hg hb hbg
  obtain ⟨t', ht', hgt', hv₃, ha₃, he₃⟩ := World.feed_view hblank h₃ hfresh hg₃ hb₃ hbg
  dsimp only at hgt' hv₃
  -- the task the answer reads is the one the feed shows, and it followed the earlier one
  obtain ⟨ht₃m, ht₃id, -⟩ := Repository.task?_spec ht₃
  obtain rfl : t' = t₃ := List.inj_on_of_nodup_map (Repository.nodup_taskIds hids₃) ht' ht₃m
    (Option.some.inj (hgt'.symm.trans (hgT.trans (congrArg some ht₃id.symm))))
  have hf := h₁₃.task_follows hd₁ hfresh ht₁ ht' (Option.some.inj (hgt'.symm.trans hgt₁))
  -- the answer shows the generation as it is now
  have hAg' : A.generation =
      if t'.status = .success then some { g with file := file, asset := asset } else none := by
    rw [hAg, Repository.generation?_of_mem (Repository.nodup_generationIds hids₃) hg₃]
  show viewIn ((c.reduce _).batches b.topic) g.batch g.id = _
  rw [BatchCache.viewIn_updateGeneration_self, hc, hv₁, hv₃, Option.map_some]
  exact congrArg some
    (GenerationPatch.apply_viewWith ⟨file, asset, rfl⟩ hf ha₁ ha₃ he₁ he₃ hAs hAg' hAe)

/-- The one-model studio takes a request for an image of a fox, and the feed of the new topic
is read while the generation's task is pending; then the job makes the image. Merging the
answer about the generation, a success, into the view read first gives the view the feed
shows after the answer. -/
theorem merge_agrees_with_refresh_fox : ∃ (w₁ w₂ : World) (g : Generation) (t T : Uuid)
    (A : GenerationStatus),
    World.Reaches { studio := Studio.oneModel } w₁ ∧ World.Reaches w₁ w₂ ∧
      g ∈ w₁.studio.repo.generations ∧ g.user = ⟨1⟩ ∧ g.task = some T ∧
      (∃ b ∈ w₁.studio.repo.batches, b.id = g.batch ∧ b.topic = t) ∧
      (∃ g₂ ∈ w₂.studio.repo.generations, g₂.id = g.id) ∧
      ((Studio.generationStatus ⟨1⟩ g.id T).run.run w₂.studio).1 = .ok A ∧
      (Studio.oneModel.repo.entropy.drawnUntil
        (w₂.send (.status ⟨1⟩ g.id T)).studio.repo.entropy).Nodup ∧
      A.status = .success ∧
      (({ topics := [(t, w₁.studio.repo.batchesOf ⟨1⟩ t)] } : BatchCache).reduce
          (.updateGeneration t g.batch g.id (.ofStatus (.ofStatus A)))).generation? t g.batch g.id =
        viewIn ((w₂.send (.status ⟨1⟩ g.id T)).studio.repo.batchesOf ⟨1⟩ t) g.batch g.id := by
  obtain ⟨w₁, w₂, h₁, h₂, g, hg, hgu, hT, b, hb, hbg, hg₂, hA, hfresh⟩ :
      ∃ w₁ w₂ : World, World.Reaches { studio := Studio.oneModel } w₁ ∧ World.Reaches w₁ w₂ ∧
        ∃ g ∈ w₁.studio.repo.generations, g.user = ⟨1⟩ ∧ g.task.isSome ∧
          ∃ b ∈ w₁.studio.repo.batches, b.id = g.batch ∧
          (∃ g₂ ∈ w₂.studio.repo.generations, g₂.id = g.id) ∧
          ((Studio.generationStatus ⟨1⟩ g.id (g.task.getD default)).run.run w₂.studio).1.toOption.map
            (·.status) = some .success ∧
          (Studio.oneModel.repo.entropy.drawnUntil
            (w₂.send (.status ⟨1⟩ g.id (g.task.getD default))).studio.repo.entropy).Nodup := by
    refine ⟨_, _, .step (.step (.step (.step .refl (.send _ (.createImage ⟨1⟩ foxRequest)))
      (.resume_head _ (by decide +kernel))) (.resume_head _ (by decide +kernel)))
      (.resume_head _ (by decide +kernel)),
      .step (.step (.step (.step (.step (.step .refl (.take _ _ _ rfl))
        (.advance _ [] [] _ _ rfl)) (.advance _ [] [] _ _ rfl)) (.advance _ [] [] _ _ rfl))
        (.advance _ [] [] _ _ rfl)) (.advance _ [] [] _ _ rfl), ?_⟩
    decide +kernel
  obtain ⟨T, hT⟩ := Option.isSome_iff_exists.1 hT
  rw [hT, Option.getD_some] at hA hfresh
  obtain ⟨A, hA, hs⟩ := Option.map_eq_some_iff.1 hA
  have hA' : ((Studio.generationStatus ⟨1⟩ g.id T).run.run w₂.studio).1 = .ok A := by
    revert hA
    cases ((Studio.generationStatus ⟨1⟩ g.id T).run.run w₂.studio).1 <;> simp [Except.toOption]
  exact ⟨w₁, w₂, g, b.topic, T, A, h₁, h₂, hg, hgu, hT, ⟨b, hb, hbg, rfl⟩, hg₂, hA', hfresh, hs,
    merge_agrees_with_refresh Studio.oneModel_blank h₁ h₂ hg hgu hT ⟨b, hb, hbg, rfl⟩ hg₂
      (c := { topics := [(b.topic, w₁.studio.repo.batchesOf ⟨1⟩ b.topic)] }) (by simp [BatchCache.batches])
      hA' hfresh⟩

end ImageStudio
