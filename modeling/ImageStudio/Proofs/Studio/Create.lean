import ImageStudio.Proofs.Studio.Dispatch
import ImageStudio.Proofs.Params.Seeds

/-!
# Proofs · Studio · Create: a create request writes everything or nothing

A create request first checks itself: the model, its provider, the parameters, the number of
images, and the topic it names, which must be the caller's; with no topic named it makes a
new one (`Studio.planCreate`). Then it stores its batch and queues the batch's jobs
(`Studio.commitCreate`). The checks come before the first write, and reading the caller's
topic writes nothing, so a request refused by its checks leaves the service as it was
(`Studio.planCreate_fails`).

A request whose checks passed cannot fail later. Its batch is stored whenever the batch's
topic is the caller's, it has an image, and no two of its seeds are equal
(`Repository.createBatch_succeeds`). The checks leave a topic of the caller's, new or named,
and at least one image (`Studio.CreatePlan.Checked`), and the seeds drawn for a batch are
distinct while the range holds that many (`uniqueSeeds_nodup`). So a refused create request
leaves the service exactly as it found it (`Studio.createImage_error_keeps`): no topic, batch,
generation, task or file, no queued job, no provider request.

A request for more seeded images than there are seeds is left out: the service's draw of
distinct seeds never ends there, so such a request returns nothing.
-/

namespace ImageStudio

/-! ## Steps that fail and steps that succeed -/

namespace Studio

section Helpers

variable {α β : Type} {pre : Studio → Prop}

theorem Ensures.thrown_bind {post : β → Studio → Prop} (e : PortError) (f : α → Serve β) :
    Ensures pre (throw e >>= f) post := by
  intro s _ b s' h
  cases h

theorem Ensures.thrown {post : α → Studio → Prop} (e : PortError) :
    Ensures pre (throw e : Serve α) post := by
  intro s _ b s' h
  cases h

theorem Ensures.map {x : Serve α} {g : α → β} {post : β → Studio → Prop}
    (h : Ensures pre x fun a s => post (g a) s) : Ensures pre (g <$> x) post := by
  intro s hs b s' hrun
  rw [ExceptT.run_map, Studio.run_map] at hrun
  rcases hx : x.run.run s with ⟨_ | a, s₁⟩
  · rw [hx] at hrun
    cases hrun
  · rw [hx] at hrun
    cases hrun
    exact h s hs a s₁ hx

theorem Fails.thrown {post : Studio → Prop} (e : PortError) (h : ∀ s, pre s → post s) :
    Fails pre (throw e : Serve α) post := by
  intro s hs e' s' hrun
  cases hrun
  exact h s hs

theorem Fails.thrown_bind {post : Studio → Prop} (e : PortError) (f : α → Serve β)
    (h : ∀ s, pre s → post s) : Fails pre (throw e >>= f) post := by
  intro s hs e' s' hrun
  cases hrun
  exact h s hs

theorem Fails.map {x : Serve α} {g : α → β} {post : Studio → Prop} (h : Fails pre x post) :
    Fails pre (g <$> x) post := by
  intro s hs e s' hrun
  rw [ExceptT.run_map, Studio.run_map] at hrun
  rcases hx : x.run.run s with ⟨_ | a, s₁⟩
  · rw [hx] at hrun
    cases hrun
    exact h s hs _ s₁ hx
  · rw [hx] at hrun
    cases hrun

end Helpers

/-- A create request checks itself, stores its batch, and queues the batch's jobs; it stops
at the first of the first two that fails. -/
theorem run_createImage (user : Uuid) (req : CreateRequest) (s : Studio) :
    (createImage user req).run.run s =
      match (planCreate user req).run.run s with
      | (.error e, s₁) => (.error e, s₁)
      | (.ok plan, s₁) =>
        match (commitCreate plan).run.run s₁ with
        | (.error e, s₂) => (.error e, s₂)
        | (.ok cj, s₂) =>
          (.ok { topic := plan.topic, batch := cj.1.batch, generations := cj.1.generations },
            ((cj.2.forM enqueue).run s₂).2) := by
  unfold createImage
  rw [ExceptT.run_bind, Studio.run_bind]
  rcases (planCreate user req).run.run s with ⟨_ | plan, s₁⟩
  · rfl
  · dsimp only
    rw [ExceptT.run_bind, Studio.run_bind]
    rcases (commitCreate plan).run.run s₁ with ⟨_ | ⟨created, jobs⟩, s₂⟩ <;> rfl

end Studio

/-! ## The checks -/

theorem Repository.topic?_isSome_append (r : Repository) {user : Uuid} (t : Topic)
    (hu : t.user = user) : ({ r with topics := r.topics ++ [t] } : Repository).topic? user t.id |>.isSome := by
  simp [Repository.topic?, List.find?_append, hu]

namespace Studio

/-- What the checks of a create request establish, from the studio `s₀` they started in:
the plan they made, with the model's card, the checked parameters and a number of images in
range, and the studio `s` they left, which differs from `s₀` at most by a new topic of the
caller's. -/
structure CreatePlan.Checked (s₀ : Studio) (user : Uuid) (req : CreateRequest) (plan : CreatePlan)
    (s : Studio) : Prop where
  card : s₀.catalog.find? req.provider req.model = some plan.card
  provider : (s₀.provider? req.provider).isSome
  params : plan.card.schema.check req.params = .ok plan.params
  count : plan.imageNum = req.imageNum.getD s₀.settings.defaultImageNum
  count_pos : 0 < plan.imageNum
  count_le : plan.imageNum ≤ s₀.settings.maxImageNum
  madeFor : plan.user = user
  asked : plan.request = req
  topic : (s.repo.topic? user plan.topic).isSome
  rest : s = { s₀ with repo := s.repo }
  draws : s.repo.entropy = s₀.repo.entropy ∨ s.repo.entropy = s₀.repo.entropy.skip 1

/-- Checks that pass make a plan for the caller's model and parameters, and leave a topic of
the caller's. -/
theorem planCreate_checked {s₀ s : Studio} {user : Uuid} {req : CreateRequest} {plan : CreatePlan}
    (h : (planCreate user req).run.run s₀ = (.ok plan, s)) : plan.Checked s₀ user req s := by
  unfold planCreate at h
  rw [Serve.run_get_bind] at h
  refine (?_ : Ensures (· = s₀) _ (CreatePlan.Checked s₀ user req)) s₀ rfl plan s h
  split
  · next card hcard =>
    dsimp only
    split
    · exact Ensures.thrown_bind _ _
    · next hprov =>
      split
      · next p hp =>
        refine Ensures.bind
          (Ensures.pure fun s hs => ⟨rfl, hs⟩ : Ensures _ _ fun q s => q = p ∧ s = s₀)
          fun params => ?_
        split
        · exact Ensures.thrown_bind _ _
        · next hnum =>
          have hn : 0 < req.imageNum.getD s₀.settings.defaultImageNum ∧
              req.imageNum.getD s₀.settings.defaultImageNum ≤ s₀.settings.maxImageNum := by omega
          have hprov' : (s₀.provider? req.provider).isSome :=
            Option.ne_none_iff_isSome.1 (by simpa using hprov)
          split
          · next t ht =>
            -- the caller's topic: read, nothing written
            refine Ensures.bind
              (Ensures.map (Ensures.inRepo fun s hs t' r' hrun => ?_) :
                Ensures _ _ fun tid s => params = p ∧ s = s₀ ∧ (s₀.repo.topic? user tid).isSome)
              fun tid =>
                Ensures.pure fun s hs => ⟨hcard, hprov', hs.1 ▸ hp, rfl, hn.1, hn.2, rfl, rfl,
                  hs.2.1 ▸ hs.2.2, hs.2.1 ▸ rfl, .inl (hs.2.1 ▸ rfl)⟩
            obtain ⟨hq, rfl⟩ := hs
            rw [Repository.run_getTopic] at hrun
            rcases htop : s.repo.topic? user t with _ | t₀
            · rw [htop] at hrun
              cases hrun
            · rw [htop] at hrun
              cases hrun
              obtain ⟨-, hid, -⟩ := Repository.topic?_spec htop
              exact ⟨hq, rfl, by rw [hid, htop]; rfl⟩
          · -- a new topic of the caller's
            refine Ensures.bind
              (Ensures.map (Ensures.inRepo fun s hs t' r' hrun => ?_) :
                Ensures _ _ fun tid s => params = p ∧ s = { s₀ with repo := s.repo } ∧
                  (s.repo.topic? user tid).isSome ∧ s.repo.entropy = s₀.repo.entropy.skip 1)
              fun tid =>
                Ensures.pure fun s hs => ⟨hcard, hprov', hs.1 ▸ hp, rfl, hn.1, hn.2, rfl, rfl,
                  hs.2.2.1, hs.2.1, .inr hs.2.2.2⟩
            obtain ⟨hq, rfl⟩ := hs
            rw [Repository.run_createTopic] at hrun
            cases hrun
            exact ⟨hq, rfl, Repository.topic?_isSome_append _ _ rfl, rfl⟩
      · exact Ensures.thrown_bind _ _
  · exact Ensures.thrown _

/-- A create request refused by its checks leaves the studio as it was: every check comes
before the first write, and reading the caller's topic writes nothing. -/
theorem planCreate_fails {s₀ s : Studio} {user : Uuid} {req : CreateRequest} {e : PortError}
    (h : (planCreate user req).run.run s₀ = (.error e, s)) : s = s₀ := by
  unfold planCreate at h
  rw [Serve.run_get_bind] at h
  refine (?_ : Fails (· = s₀) _ (· = s₀)) s₀ rfl e s h
  split
  · dsimp only
    split
    · exact Fails.thrown_bind _ _ fun _ h => h
    · split
      · refine Fails.bind (Fails.pure _) (Ensures.pure fun _ h => h : Ensures _ _ fun _ s => s = s₀)
          fun params => ?_
        split
        · exact Fails.thrown_bind _ _ fun _ h => h
        · split
          · refine Fails.bind (Fails.map (Fails.inRepo fun s hs e r' hrun => ?_)) (Ensures.any _)
              fun _ => Fails.pure _
            obtain rfl := hs
            rw [Repository.run_getTopic] at hrun
            obtain rfl : r' = s.repo := (Prod.mk.inj hrun).2.symm
            rfl
          · -- making a topic never fails
            refine Fails.bind (Fails.map (Fails.inRepo fun s hs e r' hrun => ?_)) (Ensures.any _)
              fun _ => Fails.pure _
            rw [Repository.run_createTopic] at hrun
            cases hrun
      · exact Fails.thrown_bind _ _ fun _ h => h
  · exact Fails.thrown _ fun _ h => h

end Studio

/-! ## Storing the batch -/

namespace Repository

/-- Rows are made for every slot when no seed repeats. -/
theorem makeRows_succeeds (user batch : Uuid) (now : Instant) :
    ∀ (seen : List Int) (slots : List (Option Int)) (r : Repository), seedsFresh seen slots →
      ∃ rows r', ExceptT.run (makeRows user batch now seen slots) r = (.ok rows, r')
  | _, [], r, _ => ⟨[], r, rfl⟩
  | seen, seed :: rest, r, ⟨hnd, hnew⟩ => by
    rw [run_makeRows_cons]
    -- the slot's seed is new, and the later ones are new after it too
    have hfree : seed.any seen.contains = false := by
      cases seed with
      | none => rfl
      | some x => simpa using hnew x (by simp)
    have hrest : seedsFresh (seed.toList ++ seen) rest := by
      cases seed with
      | none => exact ⟨hnd, fun y hy => hnew y hy⟩
      | some x =>
        change (x :: rest.filterMap id).Nodup at hnd
        change ∀ y ∈ x :: rest.filterMap id, y ∉ seen at hnew
        rw [List.nodup_cons] at hnd
        refine ⟨hnd.2, fun y hy hmem => ?_⟩
        rcases List.mem_append.1 hmem with h | h
        · exact hnd.1 (List.mem_singleton.1 h ▸ hy)
        · exact hnew y (List.mem_cons_of_mem _ hy) h
    rw [if_neg (by simp [hfree])]
    obtain ⟨rows, r', hrun⟩ := makeRows_succeeds user batch now _ rest
      { r with entropy := r.entropy.skip 2 } hrest
    rw [hrun]
    exact ⟨_, r', rfl⟩

/-- A batch is stored when it passes its checks and no seed of it repeats. -/
theorem createBatch_succeeds {user : Uuid} {nb : NewBatch} {r : Repository} (hnum : nb.imageNum ≠ 0)
    (hseeds : ∀ seeds, nb.seeds = some seeds → seeds.length = nb.imageNum)
    (htopic : (r.topic? user nb.topic).isSome) (hfresh : seedsFresh [] nb.slots) :
    ∃ cb r', ExceptT.run (createBatch user nb) r = (.ok cb, r') := by
  have hcheck : ExceptT.run (checkBatch user nb) r = (.ok (), r) := by
    unfold checkBatch
    obtain ⟨t, ht⟩ := Option.isSome_iff_exists.1 htopic
    rcases hs : nb.seeds with _ | seeds
    · simp [hnum, ht, Repo.run_bind]
    · simp [hnum, hseeds seeds hs, ht, Repo.run_bind]
  unfold createBatch
  rw [Repo.run_bind, hcheck]
  simp only [Repo.run_bind, run_now, run_freshId]
  obtain ⟨rows, r₂, hm⟩ := makeRows_succeeds user (Uuid.draw r.entropy).1 (r.clock.addMillis 1) []
    nb.slots { r with clock := r.clock.addMillis 1, entropy := r.entropy.skip 1 } hfresh
  rw [hm]
  simp only [Repo.run_modify, run_touchTopic, Repo.run_pure]
  exact ⟨_, _, rfl⟩

end Repository

namespace Studio

/-- The seeds a plan's batch is stored with, drawn from `g` when the model takes seeds. -/
def CreatePlan.seedsFrom (plan : CreatePlan) (g : ChaCha) : Option (List Int) :=
  if plan.card.schema.supports .seed then some (uniqueSeeds plan.imageNum plan.params.seed g).1
  else none

/-- A batch given a plan's seeds has one slot per image, none repeated when the range holds
that many seeds. -/
theorem CreatePlan.slots_seedsFrom (plan : CreatePlan) (g : ChaCha) {nb : NewBatch}
    (hnum : nb.imageNum = plan.imageNum) (hs : nb.seeds = plan.seedsFrom g)
    (hfit : plan.card.schema.supports .seed = true → plan.imageNum ≤ seedRange) :
    (∀ seeds, nb.seeds = some seeds → seeds.length = nb.imageNum) ∧
      Repository.seedsFresh [] nb.slots := by
  unfold CreatePlan.seedsFrom at hs
  unfold NewBatch.slots
  rw [hs]
  split
  · next hsup =>
    refine ⟨fun seeds h => ?_, ?_, by simp⟩
    · rw [Option.some.injEq] at h
      rw [← h, uniqueSeeds_length, hnum]
    · simpa [List.filterMap_map] using uniqueSeeds_nodup (hfit hsup) plan.params.seed g
  · refine ⟨fun seeds h => (nomatch h), ?_⟩
    simp [Repository.seedsFresh]

/-- A plan's batch stored from the studio `s₀`: a batch with the plan's topic, prompt,
configuration, number of images and seeds, which made `created` and left the repository of
`s`. -/
def CreatePlan.Stored (s₀ : Studio) (plan : CreatePlan) (created : CreatedBatch) (s : Studio) :
    Prop :=
  ∃ nb : NewBatch, nb.topic = plan.topic ∧ nb.prompt = plan.params.prompt ∧
    nb.config = plan.params.toConfig ∧ nb.imageNum = plan.imageNum ∧
    nb.seeds = plan.seedsFrom s₀.seeds ∧
    ExceptT.run (Repository.createBatch plan.user nb) s₀.repo = (.ok created, s.repo)

/-- What storing a plan's batch did, from the studio `s₀`: it stored the batch, and made one
job per generation, with the generation's task and the parameters as the studio's fetch
sends them. -/
structure CreatePlan.Committed (s₀ : Studio) (plan : CreatePlan) (created : CreatedBatch)
    (jobs : List Job) (s : Studio) : Prop where
  stored : plan.Stored s₀ created s
  jobs : jobs = (created.generations.zip created.tasks).map fun x =>
    plan.job (inlineLocalImages s₀.fetch plan.params) x.1 x.2

/-- The seeds of a plan are drawn when its model takes seeds, which touches only the seed
source. -/
theorem seeds_drawn {s₀ : Studio} {plan : CreatePlan} (hsup : plan.card.schema.supports .seed = true) :
    Ensures (· = s₀) (some <$> liftM (drawSeeds plan.imageNum plan.params.seed) : Serve _)
      fun seeds s => seeds = plan.seedsFrom s₀.seeds ∧ s.repo = s₀.repo ∧ s.fetch = s₀.fetch := by
  rintro s rfl seeds s' ⟨⟩
  exact ⟨by rw [CreatePlan.seedsFrom, if_pos hsup]; rfl, rfl, rfl⟩

theorem seeds_none {s₀ : Studio} {plan : CreatePlan} (hsup : ¬plan.card.schema.supports .seed = true) :
    Ensures (· = s₀) (pure none : Serve (Option (List Int)))
      fun seeds s => seeds = plan.seedsFrom s₀.seeds ∧ s.repo = s₀.repo ∧ s.fetch = s₀.fetch := by
  rintro s rfl seeds s' ⟨⟩
  exact ⟨by rw [CreatePlan.seedsFrom, if_neg hsup], rfl, rfl⟩

theorem commitCreate_committed (s₀ : Studio) (plan : CreatePlan) :
    Ensures (· = s₀) (commitCreate plan) fun cj s => plan.Committed s₀ cj.1 cj.2 s := by
  unfold commitCreate
  dsimp only
  -- the seeds are drawn, or there are none; either way the batch is stored, and its jobs are
  -- made with the fetch the studio had all along
  split
  all_goals
    refine Ensures.bind
      (?_ : Ensures _ _ fun seeds s => seeds = plan.seedsFrom s₀.seeds ∧ s.repo = s₀.repo ∧
        s.fetch = s₀.fetch) fun seeds =>
      Ensures.bind (show Ensures _ _ fun cb s => plan.Stored s₀ cb s ∧ s.fetch = s₀.fetch from
        Ensures.inRepo fun s hs cb r' hrun => ⟨⟨_, rfl, rfl, rfl, rfl, hs.1, hs.2.1 ▸ hrun⟩, hs.2.2⟩)
      fun cb => Ensures.get_bind fun s₁ => Ensures.pure fun s hs => ⟨hs.1.1, by rw [← hs.2, hs.1.2]⟩
  · next hsup => exact seeds_drawn hsup
  · next hsup => exact seeds_none hsup

/-- A checked plan's batch is always stored: its topic is the caller's, it has an image, and
its seeds are distinct while the range holds that many. -/
theorem commitCreate_succeeds {plan : CreatePlan} {s : Studio}
    (htopic : (s.repo.topic? plan.user plan.topic).isSome) (hpos : 0 < plan.imageNum)
    (hfit : plan.card.schema.supports .seed = true → plan.imageNum ≤ seedRange) :
    ∃ cj s', (commitCreate plan).run.run s = (.ok cj, s') := by
  suffices hf : Fails (· = s) (commitCreate plan) fun _ => False by
    rcases hrun : (commitCreate plan).run.run s with ⟨_ | cj, s'⟩
    · exact (hf s rfl _ _ hrun).elim
    · exact ⟨cj, s', rfl⟩
  -- whichever seeds were drawn, the batch given them is stored
  have hstore : ∀ (nb : NewBatch) (r : Repository), r = s.repo → nb.topic = plan.topic →
      nb.imageNum = plan.imageNum → nb.seeds = plan.seedsFrom s.seeds →
      ∀ e r', ExceptT.run (Repository.createBatch plan.user nb) r ≠ (.error e, r') := by
    rintro nb r rfl htop hnum hseeds e r' hrun
    obtain ⟨hlen, hfresh⟩ := plan.slots_seedsFrom s.seeds hnum hseeds hfit
    obtain ⟨cb, r'', hok⟩ := Repository.createBatch_succeeds (hnum ▸ Nat.pos_iff_ne_zero.1 hpos)
      hlen (htop ▸ htopic) hfresh
    rw [hok] at hrun
    cases hrun
  unfold commitCreate
  dsimp only
  split
  · next hsup =>
    exact Fails.bind (.of_ok fun _ => ⟨_, rfl⟩) (seeds_drawn hsup) fun seeds =>
      Fails.bind (Fails.inRepo fun s' hs e r' hrun => hstore _ _ hs.2.1 rfl rfl hs.1 e r' hrun)
        (Ensures.any _) fun _ => Fails.get_bind fun _ => Fails.pure _
  · next hsup =>
    exact Fails.bind (.of_ok fun _ => ⟨_, rfl⟩) (seeds_none hsup) fun seeds =>
      Fails.bind (Fails.inRepo fun s' hs e r' hrun => hstore _ _ hs.2.1 rfl rfl hs.1 e r' hrun)
        (Ensures.any _) fun _ => Fails.get_bind fun _ => Fails.pure _

end Studio

/-! ## A refused request -/

/-- A create request asks for no more seeded images than there are seeds. Beyond that the
service's draw of distinct seeds never ends, and the request returns nothing. -/
def CreateRequest.SeedsSuffice (s : Studio) (req : CreateRequest) : Prop :=
  ∀ card, s.catalog.find? req.provider req.model = some card → card.schema.supports .seed = true →
    req.imageNum.getD s.settings.defaultImageNum ≤ seedRange

namespace Studio

/-- A refused create request leaves the service exactly as it was: the same topics, batches,
generations, tasks and files, no job queued and no provider asked. Every refusal comes from
the checks, since a request that passed them always stores its batch. -/
theorem createImage_error_keeps {s s' : Studio} {user : Uuid} {req : CreateRequest} {e : PortError}
    (hfit : req.SeedsSuffice s) (h : (createImage user req).run.run s = (.error e, s')) : s' = s := by
  rw [run_createImage] at h
  rcases hp : (planCreate user req).run.run s with ⟨_ | plan, s₁⟩
  · rw [hp] at h
    cases h
    exact planCreate_fails hp
  · rw [hp] at h
    -- the checks passed, so the batch is stored and the request succeeds
    have hc := planCreate_checked hp
    obtain ⟨cj, s₂, hok⟩ := commitCreate_succeeds (hc.madeFor ▸ hc.topic) hc.count_pos
      fun hsup => hc.count ▸ hfit _ hc.card hsup
    dsimp only at h
    rw [hok] at h
    cases h

/-- A request for one image of `tiny` in a topic that does not exist. -/
def missingTopicRequest : CreateRequest := { foxRequest with topic := some ⟨5⟩ }

theorem createImage_error_keeps_missing_topic :
    missingTopicRequest.SeedsSuffice Studio.oneModel ∧
      ∃ e s', (createImage ⟨1⟩ missingTopicRequest).run.run Studio.oneModel = (.error e, s') ∧
        s' = Studio.oneModel := by
  have hfit : missingTopicRequest.SeedsSuffice Studio.oneModel := by
    intro card hcard hsup
    -- `tiny` takes no seed
    obtain rfl : card = tinyCard := by
      simpa [Studio.oneModel, missingTopicRequest, foxRequest, Catalog.find?, tinyCard] using hcard.symm
    exact absurd hsup (by decide)
  have hrun : (createImage ⟨1⟩ missingTopicRequest).run.run Studio.oneModel =
      (.error (Repository.topicNotFound ⟨5⟩), Studio.oneModel) := rfl
  exact ⟨hfit, _, _, hrun, createImage_error_keeps hfit hrun⟩

end Studio

end ImageStudio
