import ImageStudio.Proofs.Client.Watches

/-!
# Proofs · Client · Interleavings: merging statuses in any order

Every poller of a generation dispatches its patches to one shared cache. The dispatches of
different pollers interleave in any way, and a poller may dispatch the same patch again on
every tick. Neither changes the cache the pollers end with (`BatchCache.reduce_interleavings`):

* two merges into different generations commute, also when the generations share a topic or
  a batch, and also when a topic, batch or generation id repeats in the cache: each merge
  changes the first item with its id and keeps every id (`BatchCache.reduce_comm`);
* so folding the cache over two sequences of merges that hold the same merges of each
  generation in the same order ends in the same cache (`BatchCache.foldl_reduce_eq_of_filter_eq`);
* and every action, merges, batch updates and topic replacements alike, changes nothing when
  dispatched a second time (`BatchCache.reduce_reduce_self`).

The first fact is one lemma about changing the first item with a key,
`modifyFirst_comm`: two such changes commute when they keep keys and, at one key, commute
as functions. The cache applies it three times, to topics, batches and generations. The
second fact is an argument about sequences only (`foldl_eq_of_filter_eq`): a step is moved
past the steps of other keys to the front, one at a time.
-/

namespace ImageStudio

/-! ## Changing the first item with a key -/

section ModifyFirst

variable {α κ : Type} [DecidableEq κ] {key : α → κ}

@[simp] theorem modifyFirst_nil (p : α → Bool) (f : α → α) : modifyFirst p f [] = [] := rfl

theorem modifyFirst_cons_pos (p : α → Bool) (f : α → α) {a : α} (l : List α) (h : p a = true) :
    modifyFirst p f (a :: l) = f a :: l := if_pos h

theorem modifyFirst_cons_neg (p : α → Bool) (f : α → α) {a : α} (l : List α) (h : p a = false) :
    modifyFirst p f (a :: l) = a :: modifyFirst p f l := if_neg (by simp [h])

/-- Past a stretch that nothing picks, the change goes on in the rest. -/
theorem modifyFirst_append_of_forall_not {p : α → Bool} (f : α → α) {l : List α}
    (h : ∀ a ∈ l, p a = false) (m : List α) :
    modifyFirst p f (l ++ m) = l ++ modifyFirst p f m := by
  induction l with
  | nil => rfl
  | cons a l ih =>
    rw [List.cons_append, modifyFirst_cons_neg p f _ (h a List.mem_cons_self),
      ih fun b hb => h b (List.mem_cons_of_mem _ hb), List.cons_append]

/-- Two changes of the first item with one key, the first keeping the key, are one change
by their composite. -/
theorem modifyFirst_modifyFirst (p : α → Bool) (f g : α → α) (hg : ∀ a, p a = true → p (g a) = true) :
    ∀ l : List α, modifyFirst p f (modifyFirst p g l) = modifyFirst p (f ∘ g) l
  | [] => rfl
  | a :: l => by
    cases ha : p a
    · rw [modifyFirst_cons_neg p g l ha, modifyFirst_cons_neg p f _ ha,
        modifyFirst_cons_neg p _ l ha, modifyFirst_modifyFirst p f g hg l]
    · rw [modifyFirst_cons_pos p g l ha, modifyFirst_cons_pos p f l (hg a ha),
        modifyFirst_cons_pos p _ l ha, Function.comp_apply]

/-- Changes that agree on every item they pick are the same change. -/
theorem modifyFirst_congr (p : α → Bool) {f g : α → α} (h : ∀ a, p a = true → f a = g a) :
    ∀ l : List α, modifyFirst p f l = modifyFirst p g l
  | [] => rfl
  | a :: l => by
    cases ha : p a
    · rw [modifyFirst_cons_neg p f l ha, modifyFirst_cons_neg p g l ha, modifyFirst_congr p h l]
    · rw [modifyFirst_cons_pos p f l ha, modifyFirst_cons_pos p g l ha, h a ha]

/-- A change that keeps the key and does nothing more when done again does nothing more
when done again on the list. -/
theorem modifyFirst_idem (p : α → Bool) {f : α → α} (hp : ∀ a, p a = true → p (f a) = true)
    (hf : ∀ a, p a = true → f (f a) = f a) (l : List α) :
    modifyFirst p f (modifyFirst p f l) = modifyFirst p f l := by
  rw [modifyFirst_modifyFirst p f f hp]
  exact modifyFirst_congr p hf l

/-- Two changes of the first item with a key commute when both keep every key and, should
the keys be one, commute as functions on the items with that key. The proof follows the
list: an item that both pick is changed by both in either order, an item that one picks is
left alone by the other, which then goes on in the rest. -/
theorem modifyFirst_comm (key : α → κ) {k k' : κ} (f f' : α → α) (hf : ∀ a, key (f a) = key a)
    (hf' : ∀ a, key (f' a) = key a) (hcomm : k = k' → ∀ a, key a = k → f (f' a) = f' (f a)) :
    ∀ l : List α, modifyFirst (key · == k) f (modifyFirst (key · == k') f' l) =
      modifyFirst (key · == k') f' (modifyFirst (key · == k) f l)
  | [] => rfl
  | a :: l => by
    -- whether each change picks `a`, also once the other has changed it
    have pick : ∀ {x : α} {j : κ}, key x = j → (key x == j) = true := fun h => beq_iff_eq.2 h
    have skip : ∀ {x : α} {j : κ}, key x ≠ j → (key x == j) = false := fun h => beq_false_of_ne h
    by_cases hk : key a = k <;> by_cases hk' : key a = k'
    · rw [modifyFirst_cons_pos (key · == k') f' l (pick hk'),
        modifyFirst_cons_pos (key · == k) f l (pick ((hf' a).trans hk)),
        modifyFirst_cons_pos (key · == k) f l (pick hk),
        modifyFirst_cons_pos (key · == k') f' l (pick ((hf a).trans hk')),
        hcomm (hk.symm.trans hk') a hk]
    · rw [modifyFirst_cons_neg (key · == k') f' l (skip hk'),
        modifyFirst_cons_pos (key · == k) f _ (pick hk), modifyFirst_cons_pos (key · == k) f l (pick hk),
        modifyFirst_cons_neg (key · == k') f' l (skip (by rw [hf]; exact hk'))]
    · rw [modifyFirst_cons_pos (key · == k') f' l (pick hk'),
        modifyFirst_cons_neg (key · == k) f l (skip (by rw [hf']; exact hk)),
        modifyFirst_cons_neg (key · == k) f l (skip hk), modifyFirst_cons_pos (key · == k') f' _ (pick hk')]
    · rw [modifyFirst_cons_neg (key · == k') f' l (skip hk'), modifyFirst_cons_neg (key · == k) f _ (skip hk),
        modifyFirst_cons_neg (key · == k) f l (skip hk), modifyFirst_cons_neg (key · == k') f' _ (skip hk'),
        modifyFirst_comm key f f' hf hf' hcomm l]

end ModifyFirst

/-! ## Folding steps that commute across keys -/

section Interleavings

variable {σ α κ : Type} [DecidableEq κ] (step : σ → α → σ) (key : α → κ)

/-- A step that commutes with every step of a stretch can be taken before the stretch. -/
theorem foldl_append_cons {a : α} :
    ∀ {u : List α}, (∀ x ∈ u, ∀ s, step (step s x) a = step (step s a) x) →
      ∀ (v : List α) (s : σ), (u ++ a :: v).foldl step s = (u ++ v).foldl step (step s a)
  | [], _, v, s => rfl
  | x :: u, h, v, s => by
    rw [List.cons_append, List.foldl_cons,
      foldl_append_cons fun y hy => h y (List.mem_cons_of_mem _ hy),
      h x List.mem_cons_self, List.cons_append, List.foldl_cons]

/-- Two sequences that hold, key by key, the same steps in the same order end in the same
state, when steps of different keys commute. By induction on the first sequence: its first
step is the first of its key in the second one too, and moves to the front there past steps
of other keys. -/
theorem foldl_eq_of_filter_eq :
    ∀ {l₁ l₂ : List α}, (∀ a ∈ l₁, ∀ b ∈ l₁, key a ≠ key b → ∀ s, step (step s a) b = step (step s b) a) →
      (∀ k, l₁.filter (key · = k) = l₂.filter (key · = k)) →
      ∀ s, l₁.foldl step s = l₂.foldl step s
  | [], l₂, _, h, s => by
    -- the second sequence has no step of any key
    have hnil : l₂ = [] := by
      cases l₂ with
      | nil => rfl
      | cons b l₂ =>
        have hb := h (key b)
        simp at hb
    rw [hnil]
  | a :: r, l₂, hcomm, h, s => by
    have ha := h (key a)
    rw [List.filter_cons_of_pos (by simp)] at ha
    obtain ⟨u, v, rfl, hu, -, hv⟩ := List.filter_eq_cons_iff.1 ha.symm
    have hua : ∀ x ∈ u, key x ≠ key a := fun x hx hxa => hu x hx (by simpa using hxa)
    -- the steps before it in the second sequence are steps of the first
    have hmem : ∀ x ∈ u, x ∈ a :: r := by
      intro x hx
      have hx' : x ∈ (u ++ a :: v).filter (key · = key x) :=
        List.mem_filter.2 ⟨List.mem_append_left _ hx, by simp⟩
      rw [← h (key x)] at hx'
      exact (List.mem_filter.1 hx').1
    rw [List.foldl_cons, foldl_append_cons step fun x hx s' =>
      hcomm x (hmem x hx) a List.mem_cons_self (hua x hx) s']
    refine foldl_eq_of_filter_eq (fun x hx y hy => hcomm x (List.mem_cons_of_mem _ hx) y
      (List.mem_cons_of_mem _ hy)) (fun k => ?_) _
    -- key by key, the rest of the first sequence is the second one less that step
    by_cases hak : key a = k
    · subst hak
      have hnil : u.filter (key · = key a) = [] :=
        List.filter_eq_nil_iff.2 fun x hx => by simpa using hua x hx
      rw [List.filter_append, hnil, List.nil_append, hv]
    · have hk := h k
      rw [List.filter_cons_of_neg (by simpa using hak), List.filter_append,
        List.filter_cons_of_neg (by simpa using hak), ← List.filter_append] at hk
      exact hk

end Interleavings

/-! ## The cache -/

namespace GenerationPatch

/-- Merging a patch twice merges it once: what it sets it sets again, and what it keeps it
keeps. -/
@[simp] theorem apply_apply (p : GenerationPatch) (g : GenerationViewDto) :
    p.apply (p.apply g) = p.apply g := by
  unfold apply
  cases p.status <;> cases p.asset <;> cases p.seed <;> rfl

end GenerationPatch

namespace BatchAction

/-- The generation an action merges a status into: its topic, batch and generation ids. -/
def target : BatchAction → Option (Uuid × Uuid × Uuid)
  | .updateGeneration topic batch generation _ => some (topic, batch, generation)
  | _ => none

end BatchAction

namespace BatchCache

/-- What a merge does to the batches of its topic. -/
def onBatches (batch generation : Uuid) (p : GenerationPatch) : List BatchViewDto → List BatchViewDto :=
  modifyFirst (·.id == batch) fun b =>
    { b with generations := modifyFirst (·.id == generation) p.apply b.generations }

theorem reduce_updateGeneration (c : BatchCache) (topic batch generation : Uuid) (p : GenerationPatch) :
    c.reduce (.updateGeneration topic batch generation p) =
      c.modifyTopic topic (onBatches batch generation p) := rfl

theorem modifyTopic_modifyTopic (c : BatchCache) (topic : Uuid) (f g : List BatchViewDto → List BatchViewDto) :
    (c.modifyTopic topic g).modifyTopic topic f = c.modifyTopic topic (f ∘ g) := by
  unfold modifyTopic
  congr 1
  dsimp only
  refine (modifyFirst_modifyFirst _ _ _ (fun _ h => ?_) _).trans
    (modifyFirst_congr _ (fun ⟨_, _⟩ _ => rfl) _)
  exact h

/-- Changing the batches of a held topic keeps which topics are held. -/
theorem any_modifyTopic (c : BatchCache) (topic topic' : Uuid) (f : List BatchViewDto → List BatchViewDto) :
    (c.modifyTopic topic f).topics.any (·.1 == topic') = c.topics.any (·.1 == topic') := by
  unfold modifyTopic
  dsimp only
  induction c.topics with
  | nil => rfl
  | cons x l ih =>
    cases hx : x.1 == topic
    · rw [modifyFirst_cons_neg (fun y : Uuid × List BatchViewDto => y.1 == topic) _ _ hx,
        List.any_cons, List.any_cons, ih]
    · rw [modifyFirst_cons_pos (fun y : Uuid × List BatchViewDto => y.1 == topic) _ _ hx]
      rfl

/-- Merges into different generations commute. Where the two share a topic, and then a batch,
the merges meet; the first id where they part tells them apart. -/
theorem reduce_comm (c : BatchCache) {topic batch generation topic' batch' generation' : Uuid}
    (hne : (topic, batch, generation) ≠ (topic', batch', generation')) (p p' : GenerationPatch) :
    (c.reduce (.updateGeneration topic batch generation p)).reduce
        (.updateGeneration topic' batch' generation' p') =
      (c.reduce (.updateGeneration topic' batch' generation' p')).reduce
        (.updateGeneration topic batch generation p) := by
  simp only [reduce_updateGeneration, modifyTopic]
  congr 1
  refine modifyFirst_comm (Prod.fst : Uuid × List BatchViewDto → Uuid) _ _ (fun _ => ?_) (fun _ => ?_)
    ?_ _
  · rfl
  · rfl
  rintro rfl ⟨t, bs⟩ -
  -- one topic: the merges into its batches commute
  show (t, onBatches batch' generation' p' (onBatches batch generation p bs)) =
    (t, onBatches batch generation p (onBatches batch' generation' p' bs))
  congr 1
  refine modifyFirst_comm BatchViewDto.id _ _ (fun _ => ?_) (fun _ => ?_) ?_ _
  · rfl
  · rfl
  rintro rfl b -
  -- one batch: the merges into its generations commute, the generations being different
  have hgen : generation ≠ generation' := fun h => hne (by rw [h])
  show { b with generations := _ } = { b with generations := _ }
  congr 1
  exact modifyFirst_comm GenerationViewDto.id _ _ (GenerationPatch.apply_id p')
    (GenerationPatch.apply_id p) (fun h => absurd h.symm hgen) _

/-- A merge done twice on the batches of a topic is done once: the merged generation
merges to itself. -/
theorem onBatches_onBatches (batch generation : Uuid) (p : GenerationPatch) (bs : List BatchViewDto) :
    onBatches batch generation p (onBatches batch generation p bs) = onBatches batch generation p bs := by
  have hgens : ∀ gs : List GenerationViewDto,
      modifyFirst (·.id == generation) p.apply (modifyFirst (·.id == generation) p.apply gs) =
        modifyFirst (·.id == generation) p.apply gs :=
    modifyFirst_idem _ (fun g h => by rw [GenerationPatch.apply_id]; exact h)
      (fun g _ => GenerationPatch.apply_apply p g)
  unfold onBatches
  refine modifyFirst_idem _ (fun b h => ?_) (fun b _ => ?_) bs
  · exact h
  · show { b with generations := _ } = { b with generations := _ }
    rw [hgens]

/-- Every action, dispatched a second time, changes nothing more. -/
theorem reduce_reduce_self (c : BatchCache) (a : BatchAction) : (c.reduce a).reduce a = c.reduce a := by
  cases a with
  | updateGeneration topic batch generation p =>
    rw [reduce_updateGeneration, reduce_updateGeneration, modifyTopic_modifyTopic]
    exact congrArg _ (funext (onBatches_onBatches batch generation p))
  | updateBatch topic batch =>
    simp only [reduce, modifyTopic_modifyTopic]
    refine congrArg _ (funext fun bs => ?_)
    exact modifyFirst_idem (fun x : BatchViewDto => x.id == batch.id)
      (fun _ _ => beq_self_eq_true batch.id) (fun _ _ => rfl) bs
  | replaceTopic topic batches =>
    by_cases hany : c.topics.any (·.1 == topic) = true
    · -- a held topic stays held, and its batches are replaced by the same ones
      have hany' := (any_modifyTopic c topic topic fun _ => batches).trans hany
      simp only [reduce, hany, hany', if_true, modifyTopic_modifyTopic]
      rfl
    · -- a new topic is added last, where replacing it again finds it
      have hnot : ∀ x ∈ c.topics, (x.1 == topic) = false := fun x hx => by
        cases hx' : x.1 == topic
        · rfl
        · exact absurd (List.any_eq_true.2 ⟨x, hx, hx'⟩) hany
      have hany' : (c.topics ++ [(topic, batches)]).any (·.1 == topic) = true := by simp
      simp only [reduce, hany, hany', if_true, if_false, Bool.false_eq_true]
      simp only [modifyTopic, modifyFirst_append_of_forall_not _ hnot]
      simp [modifyFirst]

/-- Merges into different generations commute, in the terms of their targets. -/
theorem reduce_comm_of_target_ne (c : BatchCache) {a b : BatchAction} (ha : a.target.isSome)
    (hb : b.target.isSome) (hne : a.target ≠ b.target) : (c.reduce a).reduce b = (c.reduce b).reduce a := by
  cases a with
  | updateGeneration topic batch generation p =>
    cases b with
    | updateGeneration topic' batch' generation' p' =>
      exact (reduce_comm c (fun h => hne (by rw [BatchAction.target, BatchAction.target, h])) p' p).symm
    | _ => cases hb
  | _ => cases ha

/-- Folding the cache over two sequences of merges that hold, generation by generation, the
same merges in the same order gives one cache. -/
theorem foldl_reduce_eq_of_filter_eq (c : BatchCache) {l₁ l₂ : List BatchAction}
    (hupd : ∀ a ∈ l₁, a.target.isSome)
    (horder : ∀ k, l₁.filter (·.target = k) = l₂.filter (·.target = k)) :
    l₁.foldl reduce c = l₂.foldl reduce c :=
  foldl_eq_of_filter_eq reduce BatchAction.target
    (fun a ha b hb hne s => reduce_comm_of_target_ne s (hupd a ha) (hupd b hb) hne) horder c

/-- Pollers of distinct generations reach one cache whatever the interleaving of their
dispatches and however often each repeats its last one. Folding the cache over two
sequences of merges gives one cache when the sequences hold, generation by generation, the
same merges in the same order; and every action, of any kind, dispatched twice in a row
changes the cache as it does once. -/
theorem reduce_interleavings :
    (∀ (c : BatchCache) (l₁ l₂ : List BatchAction), (∀ a ∈ l₁, a.target.isSome) →
      (∀ k, l₁.filter (·.target = k) = l₂.filter (·.target = k)) →
      l₁.foldl reduce c = l₂.foldl reduce c) ∧
    ∀ (c : BatchCache) (a : BatchAction), (c.reduce a).reduce a = c.reduce a :=
  ⟨fun c _ _ hupd horder => foldl_reduce_eq_of_filter_eq c hupd horder, reduce_reduce_self⟩

/-- Two pollers of one batch: one merges a success into generation `⟨3⟩` twice, around the
other's error for `⟨4⟩`; in the other order the error comes first. The folds agree, and the
error merged twice is merged once. -/
theorem reduce_interleavings_two_pollers :
    let c : BatchCache := ⟨[(⟨1⟩, Watches.pairFeed .processing .pending)]⟩
    let a : BatchAction := .updateGeneration ⟨1⟩ ⟨2⟩ ⟨3⟩ { status := .success }
    let b : BatchAction := .updateGeneration ⟨1⟩ ⟨2⟩ ⟨4⟩ { status := .error }
    (∀ x ∈ [a, b, a], x.target.isSome) ∧
      (∀ k, [a, b, a].filter (·.target = k) = [b, a, a].filter (·.target = k)) ∧
      [a, b, a].foldl reduce c = [b, a, a].foldl reduce c ∧ (c.reduce b).reduce b = c.reduce b := by
  intro c a b
  have hupd : ∀ x ∈ [a, b, a], x.target.isSome := by decide
  have horder : ∀ k, [a, b, a].filter (·.target = k) = [b, a, a].filter (·.target = k) := by
    intro k
    by_cases ha : a.target = k <;> by_cases hb : b.target = k
    · exact absurd (ha.trans hb.symm) (by decide)
    all_goals simp [ha, hb]
  exact ⟨hupd, horder, reduce_interleavings.1 c _ _ hupd horder, reduce_interleavings.2 c b⟩

end BatchCache

end ImageStudio
