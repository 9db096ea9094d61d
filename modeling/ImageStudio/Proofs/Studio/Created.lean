import ImageStudio.Proofs.Studio.Create
import ImageStudio.Proofs.Params.Recheck

/-!
# Proofs · Studio · Created: a create request makes what it was asked for

A create request that succeeds made exactly what was asked (`Studio.createImage_as_asked`).
It made between one and the maximum number of generations, as many as asked. Each
generation has its own task, pending when the batch is stored. The batch keeps the checked
prompt and the configuration of the checked parameters, reference images as given. When
the model takes seeds, the seeds are distinct, lie in `[0, maxSeed]`, and the requested
seed comes first; otherwise there are none. Last, one job per generation is queued, in the
generations' order, with the generation's task and the checked parameters carrying the
generation's seed, where only local reference images may be sent otherwise: each as the data
URL of the image the studio's fetch loads from it, or as it is when that fails
(`ImageParams.SentAs`). `Studio.createImage_as_asked_reference` is such a request whose one
local reference image that can be fetched goes inline.

The tasks are distinct because their identifiers are distinct draws of the source, which
the request's freshness assumption gives. The seeds are distinct because a batch with a
repeated seed is refused (`Repository.createBatch_made`). A requested seed is in range
because the check accepts no other (`ParamsSchema.check_seed_range`).
-/

namespace ImageStudio

/-! ## The checked seed -/

namespace ParamsSchema

/-- An accepted seed member is an integer in `[0, maxSeed]`. -/
theorem applyMember_seed {s : ParamsSchema} {q r : ImageParams} {v : Json}
    (h : s.applyMember q ParamKey.seed.name v = .ok r) :
    ∃ i, v = Json.ofInt i ∧ 0 ≤ i ∧ i ≤ maxSeed := by
  unfold applyMember at h
  rw [ParamKey.ofName?_name] at h
  cases hi : integerInRange .seed v ((s.spec? .seed).getD {}) with
  | error e =>
    simp only [hi] at h
    cases h
  | ok i =>
    simp only [hi, bind, Except.bind] at h
    -- a seed above the largest is refused
    split_ifs at h with hmax
    obtain ⟨rfl, h0⟩ := integerInRange_eq_ok hi
    exact ⟨i, rfl, h0, Int.not_lt.1 hmax⟩

/-- A checked seed is in `[0, maxSeed]`. -/
theorem check_seed_range {s : ParamsSchema} {R : Json} {p : ImageParams} {x : Int}
    (h : s.check R = .ok p) (hx : p.seed = some x) : 0 ≤ x ∧ x ≤ maxSeed := by
  obtain ⟨fs, -, ⟨c⟩⟩ := CheckRun.of_check h
  -- the seed entry is the canonical form of the merged seed member
  have hentry := c.entry_eq (k := .seed) (by decide)
  simp only [ImageParams.entry, hx, Option.map_some] at hentry
  rcases hv : Json.lookupField ParamKey.seed.name c.merged with _ | v
  · rw [hv] at hentry
    cases hentry
  · obtain ⟨r, hr⟩ := c.accepted (Json.mem_of_lookupField_eq_some hv) default
    obtain ⟨i, rfl, h0, hmax⟩ := applyMember_seed hr
    rw [hv] at hentry
    have hxi : x = i := by
      simpa [ParamKey.canonical, Json.ofInt] using hentry
    exact hxi ▸ ⟨h0, hmax⟩

end ParamsSchema

/-! ## Reference images as sent -/

/-- How a reference image is sent, links being fetched by `fetch`: one that is not local as
it is; a local one as the data URL of the image loaded from it; and one that cannot be
loaded as it is. -/
def ReferenceSent (fetch : Fetch) (u u' : String) : Prop :=
  (isLocalUrl u = false → u' = u) ∧
    (∀ src, isLocalUrl u = true → loadSource fetch u = .ok src → u' = src.toDataUrl) ∧
    (∀ e, loadSource fetch u = .error e → u' = u)

/-- Parameters sent for `p`: the same but for the reference images, each sent as
`ReferenceSent` says. -/
def ImageParams.SentAs (fetch : Fetch) (p sent : ImageParams) : Prop :=
  { sent with imageUrls := p.imageUrls } = p ∧
    List.Forall₂ (ReferenceSent fetch) p.imageUrls sent.imageUrls

theorem referenceSent_self {fetch : Fetch} {u : String} (hu : isLocalUrl u = false) :
    ReferenceSent fetch u u :=
  ⟨fun _ => rfl, fun _ h => absurd h (by rw [hu]; decide), fun _ _ => rfl⟩

/-- Local reference images go inline when they can be fetched. -/
theorem inlineLocalImages_sentAs (fetch : Fetch) (p : ImageParams) :
    p.SentAs fetch (inlineLocalImages fetch p) := by
  unfold inlineLocalImages
  split
  · next hnone =>
    -- no reference image is local: all are sent as they are
    refine ⟨rfl, List.forall₂_same.2 fun u hu => referenceSent_self ?_⟩
    simpa using (List.any_eq_false.1 (by simpa using hnone)) u hu
  · refine ⟨rfl, List.forall₂_map_right_iff.2 (List.forall₂_same.2 fun u _ => ?_)⟩
    refine ⟨fun hu => by simp [hu], fun src hu hsrc => by simp [hu, hsrc], fun e he => ?_⟩
    cases isLocalUrl u <;> simp [he]

/-! ## A stored batch -/

/-- What storing a batch made, from `r` to `r'`: generations carrying the batch's seed slots,
each with its own pending task of the user, named by the identifiers drawn after the batch's,
and the batch itself with the given prompt and configuration. -/
structure CreatedBatch.Made (user : Uuid) (nb : NewBatch) (r : Repository) (cb : CreatedBatch)
    (r' : Repository) : Prop where
  seeds : cb.generations.map (·.seed) = nb.slots
  tasks : cb.generations.map (·.task) = cb.tasks.map some
  prompt : cb.batch.prompt = nb.prompt
  config : cb.batch.config = nb.config
  stored : cb.batch ∈ r'.batches
  pending : ∀ t ∈ cb.tasks, ∃ task ∈ r'.tasks, task.id = t ∧ task.user = user ∧
    task.status = .pending
  ids : (cb.tasks ++ cb.generations.map (·.id)).Perm
    ((r.entropy.skip 1).idsFrom (2 * nb.slots.length))
  entropy : r'.entropy = r.entropy.skip (1 + 2 * nb.slots.length)
  fresh : Repository.seedsFresh [] nb.slots

namespace Repository

theorem createBatch_made {user : Uuid} {nb : NewBatch} {r r' : Repository} {cb : CreatedBatch}
    (h : ExceptT.run (createBatch user nb) r = (.ok cb, r')) : cb.Made user nb r r' := by
  obtain ⟨t, -, hfresh, rfl, rfl⟩ := createBatch_ok h
  refine ⟨?seeds, ?tasks, rfl, rfl, List.mem_append_right _ (List.mem_singleton_self _), ?pending,
    ?ids, rfl, hfresh⟩
  case seeds =>
    rw [List.map_map]
    exact seeds_rowsFrom ..
  case tasks =>
    simp only [List.map_map]
    exact List.map_congr_left fun x hx => (mem_rowsFrom hx).2.2.2.2.1
  case pending =>
    intro t ht
    obtain ⟨x, hx, rfl⟩ := List.mem_map.1 ht
    have hrow := mem_rowsFrom hx
    exact ⟨x.1, List.mem_append_right _ (List.mem_map_of_mem hx), rfl, hrow.1, hrow.2.1⟩
  case ids =>
    rw [List.map_map]
    exact ids_rowsFrom ..

end Repository

/-! ## The seeds of the generations -/

theorem NewBatch.slots_of_some {nb : NewBatch} {seeds : List Int} (h : nb.seeds = some seeds) :
    nb.slots = seeds.map some := by
  unfold NewBatch.slots
  rw [h]

theorem NewBatch.slots_of_none {nb : NewBatch} (h : nb.seeds = none) :
    nb.slots = List.replicate nb.imageNum none := by
  unfold NewBatch.slots
  rw [h]

/-- The seeds of generations made for a model with checked parameters: when the model takes
seeds, distinct ones in `[0, maxSeed]`, the requested one first; otherwise none. -/
def Seeded (card : ModelCard) (params : ImageParams) (gens : List Generation) : Prop :=
  if card.schema.supports .seed then
    ∃ seeds : List Int, gens.map (·.seed) = seeds.map some ∧ seeds.Nodup ∧
      (∀ x ∈ seeds, 0 ≤ x ∧ x ≤ maxSeed) ∧ ∀ x, params.seed = some x → seeds.head? = some x
  else ∀ g ∈ gens, g.seed = none

namespace Studio

/-- Generations stored with a plan's seeds, when no seed repeats, are seeded as asked. -/
theorem CreatePlan.seeded {plan : CreatePlan} {g : ChaCha} {nb : NewBatch} {gens : List Generation}
    (hpos : 0 < plan.imageNum) (hrange : ∀ x, plan.params.seed = some x → 0 ≤ x ∧ x ≤ maxSeed)
    (hs : nb.seeds = plan.seedsFrom g) (hslots : gens.map (·.seed) = nb.slots)
    (hfresh : Repository.seedsFresh [] nb.slots) : Seeded plan.card plan.params gens := by
  unfold CreatePlan.seedsFrom at hs
  unfold Seeded
  split
  · next hsup =>
    rw [if_pos hsup] at hs
    have hsl := NewBatch.slots_of_some hs
    refine ⟨_, hslots.trans hsl, ?_, fun x hx => ?_, fun x hx => ?_⟩
    · simpa [hsl, List.filterMap_map] using hfresh.1
    · -- a seed is the requested one, or drawn from the range
      rcases mem_uniqueSeeds hx with h | h
      · exact hrange x h
      · exact ⟨h.1, lt_seedRange_iff.1 h.2⟩
    · rw [hx]
      exact uniqueSeeds_head? hpos x g
  · next hsup =>
    rw [if_neg hsup] at hs
    intro gen hgen
    have hmem : gen.seed ∈ nb.slots := hslots ▸ List.mem_map_of_mem hgen
    rw [NewBatch.slots_of_none hs] at hmem
    exact List.eq_of_mem_replicate hmem

end Studio

/-! ## The draws of a request -/

/-- A stretch of a fresh run's draws is fresh. -/
theorem Entropy.nodup_idsFrom_skip {e : Entropy} {a n b : Nat} (h : (e.idsFrom (a + n + b)).Nodup) :
    ((e.skip a).idsFrom n).Nodup := by
  rw [Entropy.idsFrom_add, Entropy.idsFrom_add] at h
  exact (h.sublist (List.sublist_append_left _ _)).sublist (List.sublist_append_right _ _)

namespace Studio

theorem Through.forM {P : RepoCall → Prop} {β : Type} {l : List β} {f : β → StateM Studio PUnit}
    (h : ∀ b ∈ l, Through P (f b)) : Through P (l.forM f) := by
  induction l with
  | nil => exact .of_repo fun _ => rfl
  | cons b l ih =>
    show Through P (f b >>= fun _ => l.forM f)
    exact .bind (h b (List.mem_cons_self ..)) fun _ =>
      ih fun b' hb' => h b' (List.mem_cons_of_mem _ hb')

/-- Queueing jobs draws no more than some identifiers. -/
theorem forM_enqueue_draws (jobs : List Job) (s : Studio) :
    ∃ j, ((jobs.forM enqueue).run s).2.repo.entropy = s.repo.entropy.skip j := by
  have hrun := Through.forM (P := fun _ => True) (l := jobs) (fun job _ => enqueue_through job fun _ => trivial) s
  obtain ⟨j, hj, -⟩ := hrun.draws
  exact ⟨j, hj⟩

end Studio

/-! ## A created batch -/

/-- What a create request made, from the studio `s`, with the model's card `card` and the
checked parameters `params`: as many generations as asked, between one and the maximum, each
with its own task among `tasks`, pending in the studio `committed` where the batch was
stored; the batch with the checked prompt and configuration; and the seeds as asked. -/
structure CreateResult.Made (s : Studio) (user : Uuid) (req : CreateRequest) (card : ModelCard)
    (params : ImageParams) (result : CreateResult) (tasks : List Uuid) (committed : Studio) : Prop where
  count : result.generations.length = req.imageNum.getD s.settings.defaultImageNum
  count_pos : 0 < result.generations.length
  count_le : result.generations.length ≤ s.settings.maxImageNum
  tasksOf : result.generations.map (·.task) = tasks.map some
  tasks_nodup : tasks.Nodup
  pending : ∀ t ∈ tasks, ∃ task ∈ committed.repo.tasks, task.id = t ∧ task.user = user ∧
    task.status = .pending
  stored : result.batch ∈ committed.repo.batches
  prompt : result.batch.prompt = params.prompt
  config : result.batch.config = params.toConfig
  seeded : Seeded card params result.generations

/-- A create request made what it was asked for, from `s` to `s'`: its batch, as
`CreateResult.Made` says, and then one queued job per generation, in order, with the
generation's task and seed and the parameters as sent. -/
def CreateResult.AsAsked (s : Studio) (user : Uuid) (req : CreateRequest) (result : CreateResult)
    (s' : Studio) : Prop :=
  ∃ card params, s.catalog.find? req.provider req.model = some card ∧
    card.schema.check req.params = .ok params ∧
    ∃ tasks committed, result.Made s user req card params tasks committed ∧
      ∃ sent, params.SentAs s.fetch sent ∧
        s' = ((((result.generations.zip tasks).map fun x : Generation × Uuid =>
          ({ user, task := x.2, generation := x.1.id, topic := result.topic,
             provider := req.provider, model := req.model, params := sent.withSeed x.1.seed } : Job)).forM
          Studio.enqueue).run committed).2

namespace Studio

/-- A create request that succeeds made what it was asked for, when the identifiers it drew
are distinct. -/
theorem createImage_as_asked {s s' : Studio} {user : Uuid} {req : CreateRequest}
    {result : CreateResult} (hfresh : (s.repo.entropy.drawnUntil s'.repo.entropy).Nodup)
    (h : (createImage user req).run.run s = (.ok result, s')) : result.AsAsked s user req s' := by
  rw [run_createImage] at h
  rcases hp : (planCreate user req).run.run s with ⟨_ | plan, s₁⟩
  · rw [hp] at h
    cases h
  rw [hp] at h
  dsimp only at h
  rcases hcm : (commitCreate plan).run.run s₁ with ⟨_ | ⟨created, jobs⟩, s₂⟩
  · rw [hcm] at h
    cases h
  rw [hcm] at h
  cases h
  have hc := planCreate_checked hp
  have hcom := commitCreate_committed s₁ plan s₁ rfl _ s₂ hcm
  -- checking the request leaves the fetch alone
  have hfetch : s₁.fetch = s.fetch := by
    have hkeep : ((planCreate user req).run.run s).2.fetch = s.fetch :=
      Keeps.of_calls (planCreate_calls (P := fun _ => True) user req (fun _ => trivial)
        fun _ => trivial) (fun _ _ _ => rfl) s
    rwa [hp] at hkeep
  obtain ⟨nb, -, hprompt, hconfig, hnum, hseeds, hcb⟩ := hcom.stored
  have hmade := Repository.createBatch_made hcb
  have hlen : created.generations.length = plan.imageNum := by
    rw [← List.length_map (f := (·.seed)), hmade.seeds, ← hnum]
    rcases hsd : nb.seeds with _ | seeds
    · rw [NewBatch.slots_of_none hsd, List.length_replicate]
    · rw [NewBatch.slots_of_some hsd, List.length_map]
      rw [hseeds, CreatePlan.seedsFrom] at hsd
      split at hsd
      · cases hsd
        rw [uniqueSeeds_length, hnum]
      · cases hsd
  -- the tasks are named by a stretch of the request's draws
  have htasks : created.tasks.Nodup := by
    obtain ⟨k, hk⟩ : ∃ k, s₁.repo.entropy = s.repo.entropy.skip k :=
      hc.draws.elim (fun h => ⟨0, h⟩) fun h => ⟨1, h⟩
    obtain ⟨j, hj⟩ := forM_enqueue_draws jobs s₂
    have hend : s.repo.entropy.drawnUntil ((jobs.forM enqueue).run s₂).2.repo.entropy =
        s.repo.entropy.idsFrom (k + 1 + 2 * nb.slots.length + j) := by
      rw [hj, hmade.entropy, hk, Entropy.skip_skip, Entropy.skip_skip, Entropy.drawnUntil_skip]
      congr 1
      omega
    have hids := Entropy.nodup_idsFrom_skip (hend ▸ hfresh)
    rw [← Entropy.skip_skip, ← hk] at hids
    exact (hmade.ids.nodup_iff.2 hids).sublist (List.sublist_append_left _ _)
  refine ⟨plan.card, plan.params, hc.card, hc.params, created.tasks, s₂, ⟨?_, ?_, ?_, hmade.tasks,
    htasks, hc.madeFor ▸ hmade.pending, hmade.stored, hmade.prompt.trans hprompt,
    hmade.config.trans hconfig, ?_⟩, inlineLocalImages s.fetch plan.params,
    inlineLocalImages_sentAs _ _, ?_⟩
  · rw [hlen, hc.count]
  · exact hlen ▸ hc.count_pos
  · exact hlen ▸ hc.count_le
  · exact CreatePlan.seeded hc.count_pos
      (fun x hx => ParamsSchema.check_seed_range hc.params hx) hseeds hmade.seeds hmade.fresh
  · -- the jobs are those of the generations and their tasks, in order
    rw [hcom.jobs]
    simp only [CreatePlan.job, hc.madeFor, hc.asked, hfetch]

end Studio

/-- The model `ref` of provider `test`, which takes a prompt and reference images. -/
def refCard : ModelCard :=
  { provider := "test", id := "ref", displayName := "Ref",
    schema := { properties := [(.prompt, {}), (.imageUrls, {})] } }

/-- A fetch that serves four bytes at `http://[::1]/ref.png` and fails everywhere else. -/
def oneReference : Fetch := fun url =>
  if url = "http://[::1]/ref.png" then .ok ⟨#[137, 80, 78, 71]⟩ else Fetch.offline url

/-- The one-model studio offering `refCard`, fetching links by `oneReference`. -/
def Studio.refModel : Studio :=
  { Studio.oneModel with catalog := { cards := [refCard] }, fetch := oneReference }

/-- One image of `ref` for the prompt `fox`, with two local reference images, of which only
the first can be fetched, and one carried in a data URL. -/
def refRequest : CreateRequest :=
  { provider := "test", model := "ref", imageNum := some 1,
    params := .obj [("prompt", .str "fox"), ("imageUrls",
      .arr [.str "http://[::1]/ref.png", .str "http://[::1]/gone.png",
        .str "data:image/gif;base64,R0lG"])] }

namespace Studio

/-- The `ref` studio makes one image of a fox as asked, drawing distinct identifiers: its job
sends the local reference image it can fetch inline, as the data URL of the bytes fetched
from it, and the other two as they are. -/
theorem createImage_as_asked_reference : ∃ result s',
    (createImage ⟨1⟩ refRequest).run.run Studio.refModel = (.ok result, s') ∧
      (Studio.refModel.repo.entropy.drawnUntil s'.repo.entropy).Nodup ∧
      result.AsAsked Studio.refModel ⟨1⟩ refRequest s' ∧
      s'.queue.map (·.params.imageUrls) =
        [["data:image/png;base64,iVBORw==", "http://[::1]/gone.png",
          "data:image/gif;base64,R0lG"]] := by
  rcases hrun : (createImage ⟨1⟩ refRequest).run.run Studio.refModel with ⟨_ | result, s'⟩
  · have hok : ((createImage ⟨1⟩ refRequest).run.run Studio.refModel).1.isOk = true := by
      decide +kernel
    rw [hrun] at hok
    cases hok
  · have hfresh : (Studio.refModel.repo.entropy.drawnUntil
        ((createImage ⟨1⟩ refRequest).run.run Studio.refModel).2.repo.entropy).Nodup := by
      decide +kernel
    have hsent : ((createImage ⟨1⟩ refRequest).run.run Studio.refModel).2.queue.map
        (·.params.imageUrls) = [["data:image/png;base64,iVBORw==", "http://[::1]/gone.png",
          "data:image/gif;base64,R0lG"]] := by
      decide +kernel
    rw [hrun] at hfresh hsent
    exact ⟨result, s', rfl, hfresh, createImage_as_asked hfresh hrun, hsent⟩

end Studio

end ImageStudio
