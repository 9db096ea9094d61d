import ImageStudio.Proofs.Params.Members

/-!
# Proofs · Params · Recheck: checking a stored configuration again

A batch stores the checked parameters as its configuration (`ImageParams.toConfig`), and a
client recreates a batch by sending that configuration again with the same model. The check
then gives back the parameters the batch was made with, with one exception by design: the
configuration leaves out an empty list of reference images, and the check fills a declared
default in for what is left out. So the parameters come back unchanged when they hold
reference images or the schema declares no default for them, and otherwise come back with
that default applied (`ParamsSchema.check_toConfig`); a schema whose default is a list of
images gives the images back where there were none (`ParamsSchema.not_check_toConfig_eq`).
Integer widths, heights and step counts are taken modulo `2^32` after their bounds are
checked, so the statement is made for parameters given no such integer of `2^32` or more.

The argument follows a run of the check (`ParamsSchema.CheckRun`): the members it merged,
the prompt it read and the fold that applied the members. The entries of the checked
parameters are the canonical forms of the merged members (`CheckRun.entry_eq`). Checking the
configuration merges its members over the same defaults (`ParamsSchema.recheckMembers`); a
default stays only where the configuration has no member, which can only be the reference
images (`CheckRun.default_left_out`). Every configuration member is accepted again, since
acceptance depends on the member alone and a canonical form is checked as the member it
came from (`ParamsSchema.applyMember_canonical`), and it gives back its own entry
(`ParamKey.canonical_canonical`).
-/

namespace ImageStudio

namespace ParamsSchema

/-! ## A run of the check -/

/-- The defaults a check merges the given members over, sorted by name. -/
def defaultMembers (s : ParamsSchema) : List (String × Json) := (Json.mkObj s.defaultValues).members

/-- The default a check fills in for a key that the given parameters leave out. -/
def declaredDefault (s : ParamsSchema) (k : ParamKey) : Option Json :=
  Json.lookupField k.name s.defaultMembers

/-- How a check of an object's members reached its parameters: the members it merged and
the prompt it read from them. -/
structure CheckRun (s : ParamsSchema) (fs : List (String × Json)) (p : ImageParams) where
  merged : List (String × Json)
  prompt : String
  merge : s.mergeProvided s.defaultMembers fs = .ok merged
  readPrompt : Json.lookupField "prompt" merged = some (.str prompt)
  notBlank : Text.isBlankText prompt = false
  apply : merged.foldlM (fun q nv => s.applyMember q nv.1 nv.2) { prompt } = .ok p

/-- Once the members are merged and a prompt is read, a check applies the merged members. -/
theorem check_obj {s : ParamsSchema} {fs M : List (String × Json)} {t : String}
    (hM : s.mergeProvided s.defaultMembers fs = .ok M)
    (ht : Json.lookupField "prompt" M = some (.str t)) (hb : Text.isBlankText t = false) :
    s.check (.obj fs) = M.foldlM (fun q nv => s.applyMember q nv.1 nv.2) { prompt := t } := by
  unfold check
  simp only [defaultMembers] at hM
  simp only [bind, Except.bind, pure, Except.pure, hM, ht, hb]
  rfl

/-- A successful check read an object, and its parameters come from a run of the check. -/
theorem CheckRun.of_check {s : ParamsSchema} {R : Json} {p : ImageParams}
    (h : s.check R = .ok p) : ∃ fs, R = .obj fs ∧ Nonempty (CheckRun s fs p) := by
  unfold check at h
  cases R
  case obj fs =>
    refine ⟨fs, rfl, ?_⟩
    simp only [bind, Except.bind, pure, Except.pure] at h
    cases hM : s.mergeProvided s.defaultMembers fs with
    | error e =>
      simp only [defaultMembers] at hM
      rw [hM] at h
      cases h
    | ok M =>
      simp only [defaultMembers] at hM
      rw [hM] at h
      dsimp only at h
      -- the prompt must be a string that is not blank
      cases ht : Json.lookupField "prompt" M with
      | none =>
        rw [ht] at h
        cases h
      | some j =>
        rw [ht] at h
        cases j
        case str t =>
          dsimp only at h
          cases hb : Text.isBlankText t
          · rw [if_neg (by simp [hb])] at h
            exact ⟨⟨M, t, hM, ht, hb, h⟩⟩
          · rw [if_pos hb] at h
            cases h
        all_goals cases h
  all_goals cases h

/-- No integer width, height or step count of `2^32` or more among the given members and the
declared defaults: a check takes those modulo `2^32`. -/
def Unwrapped (s : ParamsSchema) (raw : Json) : Prop :=
  ∀ k ∈ [ParamKey.width, .height, .steps], ∀ i : Int,
    (k.name, Json.ofInt i) ∈ raw.members ∨ (k.name, Json.ofInt i) ∈ s.defaultValues →
      i < 4294967296

/-- The members a check of the configuration of `p` merges: its own, over the defaults. -/
def recheckMembers (s : ParamsSchema) (p : ImageParams) : List (String × Json) :=
  p.toConfig.members.foldl (fun a kv => Json.insertField kv.1 kv.2 a) s.defaultMembers

namespace CheckRun

variable {s : ParamsSchema} {fs : List (String × Json)} {p : ImageParams}

theorem sorted (c : CheckRun s fs p) : Json.Sorted c.merged :=
  sorted_mergeProvided (Json.sorted_mkObj _) c.merge

theorem prompt_eq (c : CheckRun s fs p) : p.prompt = c.prompt :=
  (entry_foldlM (fun _ _ => rfl) c.sorted.nodup_names c.apply).1

/-- The entries of the checked parameters are the canonical forms of the merged members. -/
theorem entry_eq (c : CheckRun s fs p) {k : ParamKey} (hk : k ≠ .prompt) :
    p.entry k = (Json.lookupField k.name c.merged).elim none k.canonical := by
  rw [(entry_foldlM (fun _ _ => rfl) c.sorted.nodup_names c.apply).2 k hk,
    ImageParams.entry_prompt_only hk]

/-- Every merged member is accepted, from any parameters. -/
theorem accepted (c : CheckRun s fs p) {x : String × Json} (hx : x ∈ c.merged) (q : ImageParams) :
    ∃ r, s.applyMember q x.1 x.2 = .ok r := by
  obtain ⟨q₀, r₀, h⟩ := foldlM_step_ok c.apply x hx
  exact applyMember_ok_of_ok h q

/-- Every merged member names a declared key, and was given or is a default. -/
theorem declared (c : CheckRun s fs p) {x : String × Json} (hx : x ∈ c.merged) :
    ∃ k, k.name = x.1 ∧ s.supports k = true ∧ (x ∈ fs ∨ x ∈ s.defaultValues) := by
  rcases mem_mergeProvided c.merge x hx with h | ⟨h, k, hk, hs⟩
  · have h' := Json.mem_of_mem_mkObj h
    obtain ⟨k, hk, hs, -⟩ := mem_defaultValues h'
    exact ⟨k, hk, hs, .inr h'⟩
  · exact ⟨k, hk, hs, .inl h⟩

theorem prompt_mem (c : CheckRun s fs p) : ("prompt", Json.str c.prompt) ∈ c.merged :=
  Json.mem_of_lookupField_eq_some c.readPrompt

/-- Every configuration member of the checked parameters is the prompt read, or the
canonical form of a merged member. -/
theorem config_member (c : CheckRun s fs p) {k : ParamKey} {e : Json} (h : p.entry k = some e) :
    (k = .prompt ∧ e = .str c.prompt) ∨
      (k ≠ .prompt ∧ ∃ v, (k.name, v) ∈ c.merged ∧ k.canonical v = some e) := by
  by_cases hk : k = .prompt
  · subst hk
    refine .inl ⟨rfl, ?_⟩
    simp only [ImageParams.entry, Option.some.injEq] at h
    rw [← h, c.prompt_eq]
  · rw [c.entry_eq hk] at h
    cases hv : Json.lookupField k.name c.merged with
    | none =>
      rw [hv] at h
      cases h
    | some v =>
      rw [hv] at h
      exact .inr ⟨hk, v, Json.mem_of_lookupField_eq_some hv, h⟩

/-- Every key with a configuration member is declared. -/
theorem supports_of_entry (c : CheckRun s fs p) {k : ParamKey} {e : Json} (h : p.entry k = some e) :
    s.supports k = true := by
  obtain ⟨v, hv⟩ : ∃ v, (k.name, v) ∈ c.merged := by
    rcases c.config_member h with ⟨rfl, -⟩ | ⟨-, v, hv, -⟩
    · exact ⟨_, c.prompt_mem⟩
    · exact ⟨v, hv⟩
  obtain ⟨k', hk', hs, -⟩ := c.declared hv
  rwa [ParamKey.name_inj.1 hk'] at hs

/-- A configuration member is accepted from any parameters, when no member merged is an
integer width, height or step count of `2^32` or more. -/
theorem config_accepted (c : CheckRun s fs p) (hfit : s.Unwrapped (.obj fs)) {k : ParamKey} {e : Json}
    (h : p.entry k = some e) (q : ImageParams) : ∃ r, s.applyMember q k.name e = .ok r := by
  rcases c.config_member h with ⟨rfl, -⟩ | ⟨-, v, hv, hc⟩
  · -- the prompt was read before the members were applied
    refine ⟨q, ?_⟩
    unfold applyMember
    rw [ParamKey.ofName?_name]
  · obtain ⟨r₀, hr₀⟩ := c.accepted hv q
    have hfit' : k = .width ∨ k = .height ∨ k = .steps → ∀ i, v = Json.ofInt i → i < 4294967296 := by
      rintro hk i rfl
      obtain ⟨-, -, -, hsrc⟩ := c.declared hv
      exact hfit k (by simpa using hk) i hsrc
    rw [applyMember_canonical hr₀ hc hfit' q]
    exact ⟨r₀, hr₀⟩

/-- A key left out of the configuration has a default only if it is the reference images. -/
theorem default_left_out (c : CheckRun s fs p) {k : ParamKey} {d : Json} (hd : (k.name, d) ∈ s.defaultMembers)
    (h : p.entry k = none) : k = .imageUrls := by
  have hk : k ≠ .prompt := by
    rintro rfl
    cases h
  -- the merge keeps the default's name, so some member of that name was applied
  obtain ⟨v, hv⟩ := Json.exists_mem_of_name_mem
    (name_mem_mergeProvided c.merge k.name (Json.name_mem_of_mem hd))
  rw [c.entry_eq hk, Json.lookupField_of_mem c.sorted hv] at h
  exact ParamKey.eq_imageUrls_of_canonical_eq_none h

/-! ### Checking the configuration again -/

theorem sorted_recheckMembers (s : ParamsSchema) (p : ImageParams) :
    Json.Sorted (s.recheckMembers p) :=
  Json.sorted_foldl_insertField _ (Json.sorted_mkObj _)

theorem mem_recheckMembers_iff {x : String × Json} :
    x ∈ s.recheckMembers p ↔
      x ∈ p.toConfig.members ∨ (x ∈ s.defaultMembers ∧ x.1 ∉ Json.names p.toConfig.members) := by
  refine Json.mem_foldl_insertField (Json.sorted_mkObj _) ?_
  rw [ImageParams.toConfig_eq]
  exact (Json.sorted_mkObj _).nodup_names

/-- Checking the configuration merges its members over the defaults and applies them. -/
theorem check_toConfig_eq (c : CheckRun s fs p) :
    s.check p.toConfig =
      (s.recheckMembers p).foldlM (fun q nv => s.applyMember q nv.1 nv.2) { prompt := p.prompt } := by
  -- every configuration member names a declared key and is not `null`
  have hconf : ∀ x ∈ p.toConfig.members, ∃ k, k.name = x.1 ∧ x.2.isNull = false ∧ s.supports k = true := by
    intro x hx
    obtain ⟨k, e, he, rfl⟩ := ImageParams.mem_toConfig.1 hx
    exact ⟨k, rfl, ImageParams.isNull_of_entry he, c.supports_of_entry he⟩
  have hprompt : Json.lookupField "prompt" (s.recheckMembers p) = some (.str p.prompt) :=
    Json.lookupField_of_mem (sorted_recheckMembers s p)
      (mem_recheckMembers_iff.2 (.inl (ImageParams.mem_toConfig.2 ⟨.prompt, _, rfl, rfl⟩)))
  show s.check (.obj p.toConfig.members) = _
  exact check_obj (mergeProvided_eq_foldl hconf) hprompt (c.prompt_eq ▸ c.notBlank)

/-- A member merged from the configuration is one of its own, or the default of the reference
images when the parameters hold none. -/
theorem mem_recheckMembers (c : CheckRun s fs p) {x : String × Json}
    (hx : x ∈ s.recheckMembers p) :
    x ∈ p.toConfig.members ∨
      (x.1 = "imageUrls" ∧ s.declaredDefault .imageUrls = some x.2 ∧ p.imageUrls = []) := by
  rcases mem_recheckMembers_iff.1 hx with h | ⟨hD, hn⟩
  · exact .inl h
  · obtain ⟨n, d⟩ := x
    obtain ⟨k, rfl, -, -⟩ := mem_defaultValues (Json.mem_of_mem_mkObj hD)
    -- the key of the default has no configuration member
    have hnone : p.entry k = none := by
      cases he : p.entry k with
      | none => rfl
      | some e => exact absurd (Json.name_mem_of_mem (ImageParams.mem_toConfig.2 ⟨k, e, he, rfl⟩)) hn
    obtain rfl := c.default_left_out hD hnone
    refine .inr ⟨rfl, Json.lookupField_of_mem (Json.sorted_mkObj _) hD, ?_⟩
    simpa [ImageParams.entry] using hnone

/-- Looking a key up among the members merged from the configuration finds its entry, unless
it is the reference images, the parameters hold none and a default is declared. -/
theorem lookupField_recheckMembers (c : CheckRun s fs p) {k : ParamKey}
    (h : k ≠ .imageUrls ∨ p.imageUrls ≠ [] ∨ s.declaredDefault .imageUrls = none) :
    Json.lookupField k.name (s.recheckMembers p) = p.entry k := by
  cases he : p.entry k with
  | some e =>
    exact Json.lookupField_of_mem (sorted_recheckMembers s p)
      (mem_recheckMembers_iff.2 (.inl (ImageParams.mem_toConfig.2 ⟨k, e, he, rfl⟩)))
  | none =>
    refine Json.lookupField_eq_none fun hn => ?_
    obtain ⟨w, hw⟩ := Json.exists_mem_of_name_mem hn
    rcases c.mem_recheckMembers hw with hC | ⟨hname, hdef, hempty⟩
    · obtain ⟨k', e', he', heq⟩ := ImageParams.mem_toConfig.1 hC
      obtain ⟨hk, rfl⟩ := Prod.mk.inj heq
      rw [← ParamKey.name_inj.1 hk, he] at he'
      cases he'
    · obtain rfl : k = .imageUrls := ParamKey.name_inj.1 hname
      rcases h with h | h | h
      · exact h rfl
      · exact h hempty
      · rw [h] at hdef
        cases hdef

/-- The entries of a successful check of the configuration: the canonical forms of the
members it merges. -/
theorem entry_of_recheck {r : ImageParams}
    (hr : (s.recheckMembers p).foldlM (fun q nv => s.applyMember q nv.1 nv.2)
      { prompt := p.prompt } = .ok r) :
    r.prompt = p.prompt ∧ ∀ k, k ≠ .prompt →
      r.entry k = (Json.lookupField k.name (s.recheckMembers p)).elim none k.canonical := by
  obtain ⟨hp, he⟩ := entry_foldlM (fun _ _ => rfl) (sorted_recheckMembers s p).nodup_names hr
  exact ⟨hp, fun k hk => by rw [he k hk, ImageParams.entry_prompt_only hk]⟩

/-- A successful check of the configuration gives back every entry it finds. -/
theorem entry_recheck_eq (c : CheckRun s fs p) {r : ImageParams}
    (hr : (s.recheckMembers p).foldlM (fun q nv => s.applyMember q nv.1 nv.2)
      { prompt := p.prompt } = .ok r) {k : ParamKey}
    (h : k ≠ .imageUrls ∨ p.imageUrls ≠ [] ∨ s.declaredDefault .imageUrls = none) :
    r.entry k = p.entry k := by
  by_cases hk : k = .prompt
  · subst hk
    simp [ImageParams.entry, (entry_of_recheck hr).1]
  · rw [(entry_of_recheck hr).2 k hk, c.lookupField_recheckMembers h]
    cases he : p.entry k with
    | none => rfl
    | some e =>
      -- a configuration member is a canonical form, so it is its own
      rcases c.config_member he with ⟨hk', -⟩ | ⟨-, v, -, hc⟩
      · exact absurd hk' hk
      · exact ParamKey.canonical_canonical hc

end CheckRun

/-! ## Checking a stored configuration again -/

/-- Checking the configuration of checked parameters again with the same schema gives them
back, except that a declared default for the reference images is applied when they hold
none. -/
theorem check_toConfig (s : ParamsSchema) {R : Json} {p : ImageParams}
    (hp : s.check R = .ok p) (hfit : s.Unwrapped R) :
    (p.imageUrls ≠ [] ∨ s.declaredDefault .imageUrls = none → s.check p.toConfig = .ok p) ∧
      ∀ d, p.imageUrls = [] → s.declaredDefault .imageUrls = some d →
        s.check p.toConfig = s.applyMember p "imageUrls" d := by
  obtain ⟨fs, rfl, ⟨c⟩⟩ := CheckRun.of_check hp
  rw [c.check_toConfig_eq]
  constructor
  · intro hurls
    -- every member merged from the configuration is one of its own, and is accepted
    have hall : ∀ x ∈ s.recheckMembers p, ∀ q, ∃ r, s.applyMember q x.1 x.2 = .ok r := by
      intro x hx q
      rcases c.mem_recheckMembers hx with hC | ⟨-, hdef, hempty⟩
      · obtain ⟨k, e, he, rfl⟩ := ImageParams.mem_toConfig.1 hC
        exact c.config_accepted hfit he q
      · rcases hurls with h | h
        · exact absurd hempty h
        · rw [h] at hdef
          cases hdef
    obtain ⟨r, hr⟩ := foldlM_ok_of_forall hall { prompt := p.prompt }
    rw [hr, ImageParams.ext_entry fun k => c.entry_recheck_eq hr (.inr hurls)]
  · intro d hempty hdef
    -- the default is merged, since the configuration has no member of that name
    have hmem : ("imageUrls", d) ∈ s.recheckMembers p := by
      refine CheckRun.mem_recheckMembers_iff.2
        (.inr ⟨Json.mem_of_lookupField_eq_some hdef, fun hn => ?_⟩)
      obtain ⟨e, he⟩ := Json.exists_mem_of_name_mem hn
      obtain ⟨k, e', he', heq⟩ := ImageParams.mem_toConfig.1 he
      obtain ⟨hk, rfl⟩ := Prod.mk.inj heq
      obtain rfl : ParamKey.imageUrls = k := ParamKey.name_inj.1 hk
      simp [ImageParams.entry, hempty] at he'
    -- every other member is one of the configuration's own, and is accepted
    have hothers : ∀ x ∈ s.recheckMembers p, x ≠ ("imageUrls", d) →
        ∀ q, ∃ r, s.applyMember q x.1 x.2 = .ok r := by
      intro x hx hne q
      rcases c.mem_recheckMembers hx with hC | ⟨hname, hdef', -⟩
      · obtain ⟨k, e, he, rfl⟩ := ImageParams.mem_toConfig.1 hC
        exact c.config_accepted hfit he q
      · rw [hdef] at hdef'
        exact absurd (Prod.ext hname (Option.some.inj hdef').symm) hne
    rw [applyMember_imageUrls]
    cases hxs : stringList .imageUrls d with
    | error e =>
      exact foldlM_eq_error (fun q => by rw [applyMember_imageUrls, hxs]; rfl) hmem hothers _
    | ok xs =>
      have hstep : s.applyMember p "imageUrls" d = .ok { p with imageUrls := xs } := by
        rw [applyMember_imageUrls, hxs]
        rfl
      have hall : ∀ x ∈ s.recheckMembers p, ∀ q, ∃ r, s.applyMember q x.1 x.2 = .ok r := by
        intro x hx q
        by_cases hne : x = ("imageUrls", d)
        · subst hne
          exact ⟨_, show s.applyMember q "imageUrls" d = _ by rw [applyMember_imageUrls, hxs]; rfl⟩
        · exact hothers x hx hne q
      obtain ⟨r, hr⟩ := foldlM_ok_of_forall hall { prompt := p.prompt }
      obtain ⟨hpp, hpe⟩ := applyMember_entry hstep
      rw [hr]
      refine congrArg Except.ok (ImageParams.ext_entry fun k => ?_)
      by_cases hk : k = .prompt
      · subst hk
        simp [ImageParams.entry, (CheckRun.entry_of_recheck hr).1]
      · rw [hpe k hk]
        by_cases hki : k = .imageUrls
        · -- the check of the configuration applies the default last seen for that name
          subst hki
          have hname : ParamKey.imageUrls.name = "imageUrls" := rfl
          have hlook : Json.lookupField ParamKey.imageUrls.name (s.recheckMembers p) = some d :=
            Json.lookupField_of_mem (CheckRun.sorted_recheckMembers s p) hmem
          rw [if_pos hname, (CheckRun.entry_of_recheck hr).2 _ hk, hlook]
          rfl
        · have hne : ¬ k.name = "imageUrls" := fun h =>
            hki (ParamKey.name_inj.1 (h : k.name = ParamKey.imageUrls.name))
          rw [if_neg hne, c.entry_recheck_eq hr (.inl hki)]

/-- A schema declaring a prompt, a width and a seed, with no bounds and no defaults. -/
def foxSchema : ParamsSchema := { properties := [(.prompt, {}), (.width, {}), (.seed, {})] }

theorem check_toConfig_fox :
    foxSchema.check ({ prompt := "a red fox", width := some 512, seed := some 42 } : ImageParams).toConfig =
      .ok { prompt := "a red fox", width := some 512, seed := some 42 } :=
  (check_toConfig foxSchema
    (show foxSchema.check (.obj [("prompt", .str "a red fox"), ("seed", Json.ofInt 42),
      ("width", Json.ofInt 512)]) = .ok { prompt := "a red fox", width := some 512, seed := some 42 }
      by rfl)
    (by
      intro k hk i hi
      simp only [List.mem_cons, List.not_mem_nil, or_false] at hk
      -- only a width is given, and it is 512
      rcases hk with rfl | rfl | rfl <;>
        simp [foxSchema, defaultValues, Json.members, ParamKey.name, Json.ofInt] at hi
      omega)).1 (.inr rfl)

/-- A schema whose default for the reference images is a list of one image gives that image
back when parameters holding none are checked again. -/
theorem not_check_toConfig_eq :
    ¬ ∀ (s : ParamsSchema) (R : Json) (p : ImageParams), s.check R = .ok p →
      s.check p.toConfig = .ok p := by
  intro h
  have hre := h { properties := [(.prompt, {}),
      (.imageUrls, { default := some (.arr [.str "https://example.com/ref.png"]) })] }
    (.obj [("imageUrls", .arr []), ("prompt", .str "a red fox")]) { prompt := "a red fox" } rfl
  have hdefault : ({ properties := [(.prompt, {}),
      (.imageUrls, { default := some (.arr [.str "https://example.com/ref.png"]) })] } :
        ParamsSchema).check ({ prompt := "a red fox" } : ImageParams).toConfig =
      .ok { prompt := "a red fox", imageUrls := ["https://example.com/ref.png"] } := rfl
  rw [hdefault] at hre
  cases hre

end ParamsSchema

end ImageStudio
