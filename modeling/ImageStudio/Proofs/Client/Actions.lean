import ImageStudio.Proofs.Client.Interleavings

/-!
# Proofs · Client · Actions: what one action changes in the cache

The cache holds batches per topic and changes only through `BatchCache.reduce`. Each action
changes one place and leaves the rest of the cache as it was (`BatchCache.reduce_changes_only`):

* replacing a topic gives it exactly the new batches, and adds its key last when it was not
  held (`BatchCache.batches_replaceTopic`, `BatchCache.keys_replaceTopic`);
* updating a batch puts it in place of the first held batch with its id
  (`BatchCache.batches_updateBatch`);
* merging a patch changes the first generation with its id in the first batch with its id
  (`BatchCache.batches_updateGeneration`), by the merge rules of `GenerationPatch.Merged`,
  which `GenerationPatch.apply` meets and no other generation does
  (`GenerationPatch.merged_iff`); the view of every other generation stays
  (`BatchCache.generation?_updateGeneration_of_ne`);
* the two updates add no topic key (`BatchCache.keys_modifyTopic`), change no other topic
  (`BatchCache.batches_modifyTopic_of_ne`), and change nothing at all when the ids they
  name are not held (`BatchCache.updateBatch_of_not_held`,
  `BatchCache.updateGeneration_of_not_held`).

"The first item with an id" is where ids repeat: `modifyFirst` is `List.modify` at the index
that `List.findIdx` gives (`modifyFirst_eq_modify`), so every other position keeps its item.
-/

namespace ImageStudio

/-! ## Changing the first item a test picks, by position -/

section ModifyFirst

variable {α κ : Type} {p : α → Bool} {f : α → α}

/-- The change falls on the position of the first item the test picks, and on no other. -/
theorem modifyFirst_eq_modify (p : α → Bool) (f : α → α) (l : List α) :
    modifyFirst p f l = l.modify (l.findIdx p) f := by
  induction l with
  | nil => rfl
  | cons a l ih =>
    cases ha : p a
    · rw [modifyFirst_cons_neg p f l ha, ih, List.findIdx_cons, ha, cond_false, List.modify_cons,
        if_neg (Nat.succ_ne_zero _), Nat.add_sub_cancel]
    · rw [modifyFirst_cons_pos p f l ha, List.findIdx_cons, ha, cond_true, List.modify_cons, if_pos rfl]

/-- A change that leaves the picked item as it is leaves the list as it is; so does one that
picks nothing. -/
theorem modifyFirst_eq_self {l : List α} (h : ∀ a, l.find? p = some a → f a = a) :
    modifyFirst p f l = l := by
  induction l with
  | nil => rfl
  | cons a l ih =>
    cases ha : p a
    · rw [modifyFirst_cons_neg p f l ha, ih fun b hb => h b (by simp [ha, hb])]
    · rw [modifyFirst_cons_pos p f l ha, h a (by simp [ha])]

/-- A change that keeps the key keeps the keys of the list, in order. -/
theorem map_modifyFirst (key : α → κ) (hf : ∀ a, key (f a) = key a) (l : List α) :
    (modifyFirst p f l).map key = l.map key := by
  rw [modifyFirst_eq_modify]
  refine List.ext_getElem (by simp) fun i h₁ h₂ => ?_
  simp only [List.getElem_map, List.getElem_modify]
  split <;> simp [hf]

end ModifyFirst

/-! ## The merge rules -/

attribute [ext] GenerationViewDto GenerationTaskDto

/-- `<|>` on options is `Option.or`: the first when it is there, else the second. -/
theorem Option.orElse_eq_or {β : Type} (a b : Option β) : (a <|> b) = a.or b := by
  cases a <;> rfl

namespace GenerationPatch

/-- What merging a patch may make of a generation. The task's status becomes the patch's. A
success takes the patch's asset and seed where it has them and clears the task's error; a
failure takes the patch's error, present or not; a task in flight changes nothing else. The
id, the creation time and the task's id never change. -/
structure Merged (p : GenerationPatch) (old new : GenerationViewDto) : Prop where
  id : new.id = old.id
  createdAt : new.createdAt = old.createdAt
  taskId : new.task.id = old.task.id
  status : new.task.status = some p.status
  success : p.status = .success →
    new.asset = p.asset.or old.asset ∧ new.seed = p.seed.or old.seed ∧ new.task.error = none
  failure : p.status = .error →
    new.task.error = p.error ∧ new.asset = old.asset ∧ new.seed = old.seed
  inFlight : p.status.isTerminal = false →
    new.asset = old.asset ∧ new.seed = old.seed ∧ new.task.error = old.task.error

/-- `apply` merges by the rules. -/
theorem merged_apply (p : GenerationPatch) (g : GenerationViewDto) : p.Merged g (p.apply g) := by
  unfold apply
  cases hs : p.status <;> constructor <;> simp [hs, Option.orElse_eq_or, TaskStatus.isTerminal]

/-- The rules leave one generation: the one `apply` gives. -/
theorem Merged.eq_apply {p : GenerationPatch} {old new : GenerationViewDto} (h : p.Merged old new) :
    new = p.apply old := by
  obtain ⟨id, asset, seed, createdAt, ⟨taskId, status, error⟩⟩ := new
  obtain ⟨hid, hcreated, htask, hstatus, hsuccess, hfailure, hflight⟩ := h
  dsimp only at hid hcreated htask hstatus hsuccess hfailure hflight
  subst hid hcreated htask hstatus
  unfold apply
  cases hs : p.status with
  | success =>
    obtain ⟨rfl, rfl, rfl⟩ := hsuccess hs
    simp [Option.orElse_eq_or]
  | error =>
    obtain ⟨rfl, rfl, rfl⟩ := hfailure hs
    rfl
  | pending | processing =>
    obtain ⟨rfl, rfl, rfl⟩ := hflight (by rw [hs]; rfl)
    rfl

/-- A generation is merged by the rules exactly when it is what `apply` gives. -/
theorem merged_iff {p : GenerationPatch} {old new : GenerationViewDto} :
    p.Merged old new ↔ new = p.apply old :=
  ⟨Merged.eq_apply, fun h => h ▸ merged_apply p old⟩

end GenerationPatch

/-! ## The cache, action by action -/

namespace BatchCache

/-- The topics the cache holds, in the order they were added. -/
def keys (c : BatchCache) : List Uuid := c.topics.map Prod.fst

theorem generation?_eq_viewIn (c : BatchCache) (t b g : Uuid) :
    c.generation? t b g = viewIn (c.batches t) b g := rfl

theorem mem_keys {c : BatchCache} {t : Uuid} : t ∈ c.keys ↔ c.topics.any (·.1 == t) = true := by
  simp [keys]

/-- Changing the batches of a topic keeps the topics held, in order. -/
theorem keys_modifyTopic (c : BatchCache) (t : Uuid) (f : List BatchViewDto → List BatchViewDto) :
    (c.modifyTopic t f).keys = c.keys := by
  unfold keys modifyTopic
  dsimp only
  exact map_modifyFirst Prod.fst (fun ⟨_, _⟩ => rfl) c.topics

/-- Changing the batches of a topic in a way that leaves its batches as they are changes
nothing. -/
theorem modifyTopic_eq_self (c : BatchCache) (t : Uuid) {f : List BatchViewDto → List BatchViewDto}
    (hf : f (c.batches t) = c.batches t) : c.modifyTopic t f = c := by
  unfold modifyTopic
  congr 1
  refine modifyFirst_eq_self fun ⟨k, bs⟩ h => ?_
  -- the entry found is the one `batches` reads
  have hbs : c.batches t = bs := by
    unfold batches
    rw [lookup_eq_find?, h]
    rfl
  subst hbs
  show (k, f (c.batches t)) = _
  rw [hf]

theorem batches_replaceTopic_of_ne (c : BatchCache) {t t' : Uuid} (bs : List BatchViewDto)
    (h : t' ≠ t) : (c.reduce (.replaceTopic t bs)).batches t' = c.batches t' := by
  simp only [reduce]
  split
  · exact batches_modifyTopic_of_ne c _ (Ne.symm h)
  · unfold batches
    rw [lookup_eq_find?, lookup_eq_find?, List.find?_append]
    have hnone : [(t, bs)].find? (·.1 == t') = none := by simp [Ne.symm h]
    cases c.topics.find? (·.1 == t') <;> simp [hnone]

/-- Replacing a topic adds its key last when it was not held, and no other. -/
theorem keys_replaceTopic (c : BatchCache) (t : Uuid) (bs : List BatchViewDto) :
    (c.reduce (.replaceTopic t bs)).keys = if t ∈ c.keys then c.keys else c.keys ++ [t] := by
  simp only [reduce, mem_keys]
  split
  · exact keys_modifyTopic c t _
  · simp [keys]

theorem batches_updateBatch (c : BatchCache) (t : Uuid) (b : BatchViewDto) :
    (c.reduce (.updateBatch t b)).batches t =
      (c.batches t).modify ((c.batches t).findIdx (·.id == b.id)) fun _ => b := by
  simp only [reduce]
  rw [batches_modifyTopic_self c t rfl, modifyFirst_eq_modify]

/-- An update of a batch that no held batch of the topic has the id of changes nothing. -/
theorem updateBatch_of_not_held (c : BatchCache) (t : Uuid) (b : BatchViewDto)
    (h : ∀ x ∈ c.batches t, x.id ≠ b.id) : c.reduce (.updateBatch t b) = c := by
  simp only [reduce]
  refine modifyTopic_eq_self c t (modifyFirst_eq_self fun x hx => ?_)
  have hid : x.id = b.id := by simpa using List.find?_some hx
  exact absurd hid (h x (List.mem_of_find?_eq_some hx))

theorem batches_updateGeneration (c : BatchCache) (t b g : Uuid) (p : GenerationPatch) :
    (c.reduce (.updateGeneration t b g p)).batches t =
      (c.batches t).modify ((c.batches t).findIdx (·.id == b)) fun x =>
        { x with generations := x.generations.modify (x.generations.findIdx (·.id == g)) p.apply } := by
  rw [reduce_updateGeneration, batches_modifyTopic_self c t rfl, onBatches]
  simp only [modifyFirst_eq_modify]

/-- Merging a patch changes the view of its generation as `apply` does. -/
theorem generation?_updateGeneration_self (c : BatchCache) (t b g : Uuid) (p : GenerationPatch) :
    (c.reduce (.updateGeneration t b g p)).generation? t b g = (c.generation? t b g).map p.apply := by
  rw [generation?_eq_viewIn, generation?_eq_viewIn, reduce_updateGeneration,
    batches_modifyTopic_self c t rfl, onBatches, viewIn_modifyFirst_self]
  have hgen : ∀ x : BatchViewDto, (modifyFirst (·.id == g) p.apply x.generations).find? (·.id == g) =
      (x.generations.find? (·.id == g)).map p.apply :=
    fun x => find?_modifyFirst_self (fun y hy => by simpa [GenerationPatch.apply_id] using hy) _
  unfold viewIn
  simp only [hgen]
  cases (c.batches t).find? (·.id == b) <;> rfl

/-- Merging a patch changes the view of no other generation, also where ids repeat. -/
theorem generation?_updateGeneration_of_ne (c : BatchCache) {t b g t' b' g' : Uuid}
    (p : GenerationPatch) (hne : (t', b', g') ≠ (t, b, g)) :
    (c.reduce (.updateGeneration t b g p)).generation? t' b' g' = c.generation? t' b' g' := by
  rw [generation?_eq_viewIn, generation?_eq_viewIn, reduce_updateGeneration]
  by_cases ht : t' = t
  · subst ht
    rw [batches_modifyTopic_self c t' rfl, onBatches]
    by_cases hg : g' = g
    · -- the same generation id in another batch
      have hb : b ≠ b' := fun hb => hne (by rw [hb, hg])
      exact viewIn_modifyFirst_of_ne hb
    · exact viewIn_modifyGeneration_of_ne (fun x hx => by rw [GenerationPatch.apply_id, hx])
        (Ne.symm hg)
  · rw [batches_modifyTopic_of_ne c _ (Ne.symm ht)]

/-- A merge into a generation the cache does not hold changes nothing. -/
theorem updateGeneration_of_not_held (c : BatchCache) (t b g : Uuid) (p : GenerationPatch)
    (h : c.generation? t b g = none) : c.reduce (.updateGeneration t b g p) = c := by
  rw [reduce_updateGeneration]
  refine modifyTopic_eq_self c t (modifyFirst_eq_self fun x hx => ?_)
  -- the batch found holds no generation with the id, so its generations stay
  have hgen : x.generations.find? (·.id == g) = none := by
    rw [generation?, hx, Option.bind_some] at h
    exact h
  show { x with generations := modifyFirst _ _ x.generations } = x
  rw [modifyFirst_eq_self fun y hy => absurd (hgen ▸ hy) (by simp)]

/-- Every action changes the cache at most as it says. Replacing a topic gives it exactly
the new batches, changes no other topic and adds the topic's key last when it was not held.
Updating a batch puts it in place of the first held batch of the topic with its id. Merging
a patch changes, in the first batch with its id, the first generation with its id, by the
merge rules, which `apply` alone meets; the view of every other generation stays as it was.
Neither update changes another topic or the keys held, and each changes nothing when the
ids it names are not held. -/
theorem reduce_changes_only (c : BatchCache) :
    (∀ t bs, (c.reduce (.replaceTopic t bs)).batches t = bs ∧
      (∀ t', t' ≠ t → (c.reduce (.replaceTopic t bs)).batches t' = c.batches t') ∧
      (c.reduce (.replaceTopic t bs)).keys = if t ∈ c.keys then c.keys else c.keys ++ [t]) ∧
    (∀ t b, (c.reduce (.updateBatch t b)).batches t =
        (c.batches t).modify ((c.batches t).findIdx (·.id == b.id)) (fun _ => b) ∧
      (∀ t', t' ≠ t → (c.reduce (.updateBatch t b)).batches t' = c.batches t') ∧
      (c.reduce (.updateBatch t b)).keys = c.keys ∧
      ((∀ x ∈ c.batches t, x.id ≠ b.id) → c.reduce (.updateBatch t b) = c)) ∧
    (∀ t b g p, (c.reduce (.updateGeneration t b g p)).batches t =
        (c.batches t).modify ((c.batches t).findIdx (·.id == b)) (fun x =>
          { x with generations := x.generations.modify (x.generations.findIdx (·.id == g)) p.apply }) ∧
      (∀ t', t' ≠ t → (c.reduce (.updateGeneration t b g p)).batches t' = c.batches t') ∧
      (c.reduce (.updateGeneration t b g p)).keys = c.keys ∧
      (c.reduce (.updateGeneration t b g p)).generation? t b g = (c.generation? t b g).map p.apply ∧
      (∀ t' b' g', (t', b', g') ≠ (t, b, g) →
        (c.reduce (.updateGeneration t b g p)).generation? t' b' g' = c.generation? t' b' g') ∧
      (c.generation? t b g = none → c.reduce (.updateGeneration t b g p) = c)) ∧
    (∀ (p : GenerationPatch) old new, p.Merged old new ↔ new = p.apply old) :=
  ⟨fun t bs => ⟨batches_replaceTopic c t bs, fun _ h => batches_replaceTopic_of_ne c bs h,
      keys_replaceTopic c t bs⟩,
    fun t b => ⟨batches_updateBatch c t b, fun _ h => batches_modifyTopic_of_ne c _ (Ne.symm h),
      keys_modifyTopic c t _, updateBatch_of_not_held c t b⟩,
    fun t b g p => ⟨batches_updateGeneration c t b g p,
      fun _ h => batches_modifyTopic_of_ne c _ (Ne.symm h), keys_modifyTopic c t _,
      generation?_updateGeneration_self c t b g p,
      fun _ _ _ h => generation?_updateGeneration_of_ne c p h, updateGeneration_of_not_held c t b g p⟩,
    fun _ _ _ => GenerationPatch.merged_iff⟩

end BatchCache

end ImageStudio
