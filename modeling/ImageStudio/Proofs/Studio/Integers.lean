import ImageStudio.Proofs.Studio.Created
import ImageStudio.Proofs.Params.Verdict

/-!
# Proofs · Studio · Integers: the integer parameters, from the request to the batch and the jobs

A check tests each integer member of the merged parameters as a literal that a signed 64-bit
integer holds, not negative, and within the declared bounds once rounded to a double. The
seed keeps the integer as it is. The width, the height and the step count are 32-bit
unsigned fields: they keep the integer reduced modulo `2 ^ 32` (`wrap32`), and nothing bounds
the integer below `2 ^ 32` unless the schema declares a maximum that does
(`ParamsSchema.integersHeld_of_check`). A width of `5000000000` under a schema without a
maximum is accepted as `705032704` (`ParamsSchema.check_width_wraps`).

A create request stores the batch's width and height as signed 32-bit columns
(`storedDimension`), and every job it queues carries the checked width, height and step
count, which the job sends to the provider as they are (`Studio.createImage_integers`).

So a merged integer `i` reaches the parameters and the provider unchanged exactly when
`i < 2 ^ 32` (`ParamsSchema.wrap32_eq_iff`), and the batch's columns exactly when
`i < 2 ^ 31` (`storedDimension_wrap32_eq_iff`).
-/

namespace ImageStudio

/-! ## Reduction to 32 bits -/

namespace ParamsSchema

/-- A non-negative integer is kept by its reduction modulo `2 ^ 32` exactly when it is below
`2 ^ 32`. -/
theorem wrap32_eq_iff {i : Int} (h0 : 0 ≤ i) : (wrap32 i : Int) = i ↔ i < 4294967296 := by
  unfold wrap32
  omega

end ParamsSchema

/-- A merged non-negative integer reaches the batch's column unchanged exactly when it is
below `2 ^ 31`; above, the column holds it reduced modulo `2 ^ 32`, less `2 ^ 32` from
`2 ^ 31` on. -/
theorem storedDimension_wrap32_eq_iff {i : Int} (h0 : 0 ≤ i) :
    storedDimension (ParamsSchema.wrap32 i) = i ↔ i < 2147483648 := by
  have h32 : Nat.pow 2 32 = 4294967296 := rfl
  have h31 : Nat.pow 2 31 = 2147483648 := rfl
  unfold storedDimension ParamsSchema.wrap32
  simp only [h32, h31]
  split <;> omega

/-! ## The integers a check keeps -/

namespace ParamsSchema

variable {s : ParamsSchema} {M : List (String × Json)} {α : Type}

/-- How a field of checked parameters holds the merged member of `k` among `M`: the field is
present exactly when the member is an integer literal `i` that passes the test of its key,
and then it holds `f i`. -/
def HoldsInteger (s : ParamsSchema) (M : List (String × Json)) (k : ParamKey) (f : Int → α)
    (field : Option α) : Prop :=
  ∀ a, field = some a ↔
    ∃ i, Json.lookupField k.name M = some (.num (.int i)) ∧ s.ValueOk k (.num (.int i)) ∧ a = f i

/-- The integer fields of checked parameters: the width, the height and the step count hold
the merged integer reduced modulo `2 ^ 32`, the seed holds it as it is. -/
structure IntegersHeld (s : ParamsSchema) (M : List (String × Json)) (p : ImageParams) : Prop where
  width : s.HoldsInteger M .width wrap32 p.width
  height : s.HoldsInteger M .height wrap32 p.height
  steps : s.HoldsInteger M .steps wrap32 p.steps
  seed : s.HoldsInteger M .seed id p.seed

/-- A field holds the merged member of `k` when its entry, under an injective form, is the
canonical form of the member, every value that passes the test of `k` is an integer literal,
and the canonical form of the literal `i` is the form of `f i`. -/
theorem holdsInteger_of_entry {k : ParamKey} {f : Int → α} {e : α → Json}
    (he : Function.Injective e) {field : Option α}
    (hentry : field.map e = (Json.lookupField k.name M).elim none k.canonical)
    (hcanon : ∀ i, k.canonical (.num (.int i)) = some (e (f i)))
    (hint : ∀ v, s.ValueOk k v → ∃ i, v = .num (.int i))
    (hvalues : ∀ v, Json.lookupField k.name M = some v → s.ValueOk k v) :
    s.HoldsInteger M k f field := by
  intro a
  rcases hv : Json.lookupField k.name M with _ | v
  · -- no member: no field
    rw [hv] at hentry
    simp [Option.map_eq_none_iff.1 hentry]
  · obtain ⟨i, rfl⟩ := hint v (hvalues v hv)
    rw [hv, Option.elim, hcanon] at hentry
    obtain ⟨b, hb, hbe⟩ := Option.map_eq_some_iff.1 hentry
    obtain rfl : b = f i := he hbe
    simp [hb, hvalues _ hv, eq_comm]

theorem ofInt_injective : Function.Injective Json.ofInt := fun _ _ h => by
  simpa [Json.ofInt] using h

theorem ofInt_natCast_injective : Function.Injective fun n : Nat => Json.ofInt n :=
  fun _ _ h => by exact_mod_cast ofInt_injective h

/-- Parameters accepted for an object's members hold its merged integers as `IntegersHeld`
says. -/
theorem Accepts.integersHeld {fs : List (String × Json)} {p : ImageParams} (h : s.Accepts fs p) :
    s.IntegersHeld (s.merged fs) p := by
  have hvalues : ∀ k v, Json.lookupField k.name (s.merged fs) = some v → s.ValueOk k v := h.values
  refine ⟨?width, ?height, ?steps, ?seed⟩
  case width =>
    exact holdsInteger_of_entry ofInt_natCast_injective (h.entries .width (by decide))
      (fun _ => rfl) (fun _ ⟨i, hi, _⟩ => ⟨i, hi⟩) (hvalues .width)
  case height =>
    exact holdsInteger_of_entry ofInt_natCast_injective (h.entries .height (by decide))
      (fun _ => rfl) (fun _ ⟨i, hi, _⟩ => ⟨i, hi⟩) (hvalues .height)
  case steps =>
    exact holdsInteger_of_entry ofInt_natCast_injective (h.entries .steps (by decide))
      (fun _ => rfl) (fun _ ⟨i, hi, _⟩ => ⟨i, hi⟩) (hvalues .steps)
  case seed =>
    exact holdsInteger_of_entry ofInt_injective (h.entries .seed (by decide))
      (fun _ => rfl) (fun _ ⟨⟨i, hi, _⟩, _⟩ => ⟨i, hi⟩) (hvalues .seed)

/-- A check that accepts raw parameters read an object, and its parameters hold the merged
integers: the seed as it is, the width, the height and the step count modulo `2 ^ 32`. -/
theorem integersHeld_of_check {R : Json} {p : ImageParams} (h : s.check R = .ok p) :
    ∃ fs, R = .obj fs ∧ s.IntegersHeld (s.merged fs) p := by
  obtain ⟨fs, hR, ⟨c⟩⟩ := CheckRun.of_check h
  exact ⟨fs, hR, c.accepts.integersHeld⟩

/-- A width of `5000000000`, which a schema without a maximum lets through, is held as
`705032704`. -/
theorem check_width_wraps :
    ParamsSchema.check { properties := [(.prompt, {}), (.width, {})] }
        (.obj [("prompt", .str "a red fox"), ("width", .num (.int 5000000000))]) =
      .ok { prompt := "a red fox", width := some 705032704 } := rfl

end ParamsSchema

/-! ## The integers of a create request -/

namespace Studio

/-- Queueing jobs appends some of them to the queue, in order; the others fail their tasks. -/
theorem forM_enqueue_queue (jobs : List Job) (s : Studio) :
    ∃ queued, queued.Sublist jobs ∧ ((jobs.forM enqueue).run s).2.queue = s.queue ++ queued := by
  induction jobs generalizing s with
  | nil => exact ⟨[], .slnil, (List.append_nil _).symm⟩
  | cons job rest ih =>
    show ∃ queued, _ ∧ ((enqueue job >>= fun _ => rest.forM enqueue).run s).2.queue = _
    rw [Studio.run_bind]
    obtain ⟨queued, hsub, hq⟩ := ih ((enqueue job).run s).2
    rcases enqueue_cases job s with ⟨-, he⟩ | ⟨-, he⟩
    · exact ⟨job :: queued, hsub.cons_cons job, by rw [hq, he, List.append_assoc]; rfl⟩
    · exact ⟨queued, hsub.cons job, by rw [hq, he]⟩

/-- Storing a plan's batch stores the checked width and height as signed 32-bit columns. -/
theorem commitCreate_dimensions (s₀ : Studio) (plan : CreatePlan) :
    Ensures (· = s₀) (commitCreate plan) fun cj _ =>
      cj.1.batch.width = plan.params.width.map storedDimension ∧
        cj.1.batch.height = plan.params.height.map storedDimension := by
  unfold commitCreate
  dsimp only
  -- whatever the seeds, the batch is stored with the plan's columns
  split <;>
  exact Ensures.bind (Ensures.any _) fun seeds => Ensures.bind (Ensures.inRepo fun _ _ cb r' hrun => by
    obtain ⟨t, -, -, rfl, -⟩ := Repository.createBatch_ok hrun
    exact ⟨rfl, rfl⟩) fun cb => Ensures.get_pure fun _ hs => hs

/-- What a create request that succeeds does with the integer parameters. The model's check
accepted the request's members, and the parameters hold the merged integers as
`IntegersHeld` says. The batch stores the checked width and height as signed 32-bit columns.
The request appends jobs to the queue, each carrying the checked width, height and step
count, which its run sends to the provider. -/
theorem createImage_integers {s s' : Studio} {user : Uuid} {req : CreateRequest}
    {result : CreateResult} (h : (createImage user req).run.run s = (.ok result, s')) :
    ∃ card params fs, s.catalog.find? req.provider req.model = some card ∧
      card.schema.check req.params = .ok params ∧ req.params = .obj fs ∧
      card.schema.IntegersHeld (card.schema.merged fs) params ∧
      result.batch.width = params.width.map storedDimension ∧
      result.batch.height = params.height.map storedDimension ∧
      ∃ queued, s'.queue = s.queue ++ queued ∧ ∀ job ∈ queued,
        job.params.width = params.width ∧ job.params.height = params.height ∧
          job.params.steps = params.steps := by
  rw [run_createImage] at h
  rcases hp : (planCreate user req).run.run s with ⟨_ | plan, s₁⟩
  · rw [hp] at h
    cases h
  rw [hp] at h
  dsimp only at h
  rcases hcm : (commitCreate plan).run.run s₁ with ⟨_ | ⟨created, jobs⟩, s₂⟩
  · rw [hcm] at h
    cases h
  rw [hcm] at h
  cases h
  have hc := planCreate_checked hp
  obtain ⟨fs, hR, hheld⟩ := ParamsSchema.integersHeld_of_check hc.params
  obtain ⟨hwidth, hheight⟩ := commitCreate_dimensions s₁ plan s₁ rfl _ s₂ hcm
  -- the request leaves the queue alone until its jobs are queued
  have hq₁ : s₁.queue = s.queue := by
    have hkeep : ((planCreate user req).run.run s).2.queue = s.queue :=
      Keeps.of_calls (planCreate_calls (P := fun _ => True) user req (fun _ => trivial) fun _ => trivial)
        (fun _ _ _ => rfl) s
    rwa [hp] at hkeep
  have hq₂ : s₂.queue = s₁.queue := by
    have hkeep := commitCreate_queue plan s₁
    rwa [hcm] at hkeep
  obtain ⟨queued, hsub, hq⟩ := forM_enqueue_queue jobs s₂
  refine ⟨plan.card, plan.params, fs, hc.card, hc.params, hR, hheld, hwidth, hheight, queued,
    by rw [hq, hq₂, hq₁], fun job hjob => ?_⟩
  -- every job carries the parameters as sent, which differ from the checked ones only in
  -- their reference images
  have hjobs := (commitCreate_committed s₁ plan s₁ rfl _ s₂ hcm).jobs
  dsimp only at hjobs
  rw [hjobs] at hsub
  obtain ⟨x, -, rfl⟩ := List.mem_map.1 (hsub.subset hjob)
  have hsent := (inlineLocalImages_sentAs s₁.fetch plan.params).1
  have hw := congrArg ImageParams.width hsent
  have hh := congrArg ImageParams.height hsent
  have hs := congrArg ImageParams.steps hsent
  exact ⟨hw, hh, hs⟩

end Studio

/-- A card whose schema declares a width without bounds. -/
def wideCard : ModelCard :=
  { provider := "test", id := "wide", displayName := "Wide",
    schema := { properties := [(.prompt, {}), (.width, {})] } }

/-- One image of `wide`, `5000000000` pixels wide. -/
def wideRequest : CreateRequest :=
  { provider := "test", model := "wide", imageNum := some 1,
    params := .obj [("prompt", .str "fox"), ("width", .num (.int 5000000000))] }

namespace Studio

/-- The one-model studio offering `wideCard` takes a request for a width of `5000000000`:
its batch stores `705032704`, and the request's integers go as `createImage_integers` says. -/
theorem createImage_integers_wide : ∃ result s',
    (createImage ⟨1⟩ wideRequest).run.run { Studio.oneModel with catalog := { cards := [wideCard] } } =
      (.ok result, s') ∧ result.batch.width = some 705032704 ∧
      ∃ card params fs,
        ({ Studio.oneModel with catalog := { cards := [wideCard] } } : Studio).catalog.find?
          wideRequest.provider wideRequest.model = some card ∧
        card.schema.check wideRequest.params = .ok params ∧ wideRequest.params = .obj fs ∧
        card.schema.IntegersHeld (card.schema.merged fs) params ∧
        result.batch.width = params.width.map storedDimension ∧
        result.batch.height = params.height.map storedDimension ∧
        ∃ queued, s'.queue = Studio.oneModel.queue ++ queued ∧ ∀ job ∈ queued,
          job.params.width = params.width ∧ job.params.height = params.height ∧
            job.params.steps = params.steps := by
  have hwidth : ((createImage ⟨1⟩ wideRequest).run.run
      { Studio.oneModel with catalog := { cards := [wideCard] } }).1.toOption.map
        (·.batch.width) = some (some 705032704) := by
    decide +kernel
  rcases hrun : (createImage ⟨1⟩ wideRequest).run.run
      { Studio.oneModel with catalog := { cards := [wideCard] } } with ⟨_ | result, s'⟩
  · rw [hrun] at hwidth
    cases hwidth
  · rw [hrun] at hwidth
    exact ⟨result, s', rfl, Option.some.inj hwidth, createImage_integers hrun⟩

end Studio

end ImageStudio
