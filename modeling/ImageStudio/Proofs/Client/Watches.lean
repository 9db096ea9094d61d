import Mathlib.Logic.Relation
import ImageStudio.Client.Watches

/-!
# Proofs · Client · Watches: what the cache shows once every watch has finished

A watch's last act is to replace its topic in the cache with the batches the server sent
after the task ended; the server shows the generation as it ended, and keeps showing it so.
But the batches that another watch asked for earlier may arrive later still, and put back
a view from before the task ended: with answers in any order, a finished watch can leave
its generation in the cache as it stood before (`Watches.not_converges_anyOrder`). When the
answers to refresh calls arrive in the order the calls were sent, none can: every watch
leaves its generation in the cache as its task ended (`Watches.converges_inOrder`).

The argument is an invariant of every state the loops reach, `Watches.Sound`. What a loop
has seen end, the server still shows. A refresh the server answered after a loop saw its
task end shows that end: the loop's own, any sent after it, and any answered once the loop
has finished. And a loop that got its batches finds its end in the cache. Every event keeps
it (`Watches.Sound.step`); the one that needs the order is a refresh landing, which must
find no call out that was sent before it.
-/

namespace ImageStudio

/-! ## Changing the first item a test picks -/

section ModifyFirst

variable {α : Type} {p q : α → Bool} {f : α → α}

/-- Changing the first item a test picks, so that the test still picks it, changes the item
a lookup by that test finds. -/
theorem find?_modifyFirst_self (hf : ∀ x, p x = true → p (f x) = true) (l : List α) :
    (modifyFirst p f l).find? p = (l.find? p).map f := by
  induction l with
  | nil => rfl
  | cons a l ih =>
    by_cases ha : p a = true
    · simp [modifyFirst, ha, hf a ha]
    · simp [modifyFirst, ha, ih]

/-- Changing an item that a lookup passes over, so that it still passes over it, keeps
what the lookup finds. -/
theorem find?_modifyFirst_of_not {l : List α}
    (h : ∀ x ∈ l, q x = true → p x = false ∧ p (f x) = false) :
    (modifyFirst q f l).find? p = l.find? p := by
  induction l with
  | nil => rfl
  | cons a l ih =>
    have ih' := ih fun x hx => h x (List.mem_cons_of_mem _ hx)
    by_cases hq : q a = true
    · obtain ⟨hpa, hpf⟩ := h a List.mem_cons_self hq
      simp [modifyFirst, hq, hpa, hpf]
    · by_cases hp : p a = true
      · simp [modifyFirst, hq, hp]
      · simp [modifyFirst, hq, hp, ih']

end ModifyFirst

/-! ## Views of generations in batches -/

section Views

variable {bs : List BatchViewDto}

theorem GenerationPatch.apply_id (p : GenerationPatch) (g : GenerationViewDto) :
    (p.apply g).id = g.id := by
  unfold GenerationPatch.apply
  split <;> rfl

/-- Giving one batch new generations changes no view in another batch. -/
theorem viewIn_modifyFirst_of_ne {batch batch' gen : Uuid}
    {gens : BatchViewDto → List GenerationViewDto} (hne : batch ≠ batch') :
    viewIn (modifyFirst (·.id == batch) (fun b => { b with generations := gens b }) bs) batch' gen =
      viewIn bs batch' gen := by
  unfold viewIn
  rw [find?_modifyFirst_of_not fun b _ hb => ?_]
  have hb' : b.id = batch := by simpa using hb
  simp [hb', hne]

/-- Giving a batch new generations shows in the views of that batch. -/
theorem viewIn_modifyFirst_self {batch gen : Uuid} {gens : BatchViewDto → List GenerationViewDto} :
    viewIn (modifyFirst (·.id == batch) (fun b => { b with generations := gens b }) bs) batch gen =
      (bs.find? (·.id == batch)).bind fun b => (gens b).find? (·.id == gen) := by
  unfold viewIn
  rw [find?_modifyFirst_self fun b hb => by exact hb]
  cases bs.find? (·.id == batch) <;> rfl

/-- Changing a generation of a batch, keeping its id, changes no view of another
generation. -/
theorem viewIn_modifyGeneration_of_ne {batch gen : Uuid} {g : GenerationViewDto → GenerationViewDto}
    (hg : ∀ x, x.id = gen → (g x).id = gen) {batch' gen' : Uuid} (hne : gen ≠ gen') :
    viewIn (modifyFirst (·.id == batch)
      (fun b => { b with generations := modifyFirst (·.id == gen) g b.generations }) bs)
      batch' gen' = viewIn bs batch' gen' := by
  by_cases hb : batch = batch'
  · subst hb
    rw [viewIn_modifyFirst_self]
    unfold viewIn
    congr 1
    funext b
    refine find?_modifyFirst_of_not fun x _ hx => ?_
    have hx' : x.id = gen := by simpa using hx
    simp [hx', hg x hx', hne]
  · exact viewIn_modifyFirst_of_ne hb

/-- A view put in place of a generation's is the view found for it. -/
theorem viewIn_putView_self {batch gen : Uuid} {old v : GenerationViewDto}
    (hold : viewIn bs batch gen = some old) (hid : v.id = gen) :
    viewIn (putView bs batch gen v) batch gen = some v := by
  unfold putView
  rw [viewIn_modifyFirst_self]
  unfold viewIn at hold
  obtain ⟨b, hb, hgen⟩ := Option.bind_eq_some_iff.1 hold
  rw [hb, Option.bind_some, find?_modifyFirst_self (fun _ _ => by simp [hid]), hgen]
  rfl

/-- Once a list of batches shows a watched task ended, a forward move of any view keeps
showing it so. -/
theorem WatchTarget.statusIn_putView (t : WatchTarget) {batch gen : Uuid} {old v : GenerationViewDto}
    (hold : viewIn bs batch gen = some old) (hid : v.id = gen)
    (hfwd : ∀ s, old.task.status = some s → ∃ s', v.task.status = some s' ∧ s.advancesTo s' = true)
    {s : TaskStatus} (hs : t.statusIn bs = some s) (hend : s.isTerminal = true) :
    t.statusIn (putView bs batch gen v) = some s := by
  by_cases hg : gen = t.generation
  · by_cases hb : batch = t.batch
    · -- the view moved is the watched one: an ended task stays as it ended
      subst hg hb
      unfold WatchTarget.statusIn at hs ⊢
      rw [hold, Option.bind_some] at hs
      rw [viewIn_putView_self hold hid, Option.bind_some]
      obtain ⟨s', hv, hadv⟩ := hfwd s hs
      rw [hv]
      cases s <;> cases s' <;> simp_all [TaskStatus.advancesTo, TaskStatus.isTerminal]
    · unfold WatchTarget.statusIn putView
      rw [viewIn_modifyFirst_of_ne hb]
      exact hs
  · unfold WatchTarget.statusIn putView
    rw [viewIn_modifyGeneration_of_ne (fun _ _ => hid) hg]
    exact hs

end Views

/-! ## The cache's batches of a topic -/

namespace BatchCache

theorem lookup_eq_find? (l : List (Uuid × List BatchViewDto)) (t : Uuid) :
    l.lookup t = (l.find? (·.1 == t)).map (·.2) := by
  induction l with
  | nil => rfl
  | cons x l ih =>
    obtain ⟨k, bs⟩ := x
    by_cases hk : k = t
    · subst hk
      simp
    · have htk : (t == k) = false := beq_false_of_ne (Ne.symm hk)
      have hkt : (k == t) = false := beq_false_of_ne hk
      simp only [List.lookup_cons, htk, List.find?_cons, hkt, ih]

/-- Changing the batches of a topic changes what the cache holds for it. -/
theorem batches_modifyTopic_self (c : BatchCache) (t : Uuid)
    {f : List BatchViewDto → List BatchViewDto} (hf : f [] = []) :
    (c.modifyTopic t f).batches t = f (c.batches t) := by
  unfold modifyTopic batches
  rw [lookup_eq_find?, lookup_eq_find?, find?_modifyFirst_self fun x h => by
    obtain ⟨_, _⟩ := x
    exact h]
  cases c.topics.find? (·.1 == t) with
  | none => exact hf.symm
  | some x =>
    obtain ⟨_, _⟩ := x
    rfl

theorem batches_modifyTopic_of_ne (c : BatchCache) {t t' : Uuid} (f : List BatchViewDto → List BatchViewDto)
    (h : t ≠ t') : (c.modifyTopic t f).batches t' = c.batches t' := by
  unfold modifyTopic batches
  rw [lookup_eq_find?, lookup_eq_find?, find?_modifyFirst_of_not fun x _ hx => ?_]
  obtain ⟨k, _⟩ := x
  have hk : k = t := by simpa using hx
  simp [hk, h]

/-- Replacing a topic leaves the cache holding exactly those batches for it. -/
theorem batches_replaceTopic (c : BatchCache) (t : Uuid) (bs : List BatchViewDto) :
    (c.reduce (.replaceTopic t bs)).batches t = bs := by
  simp only [reduce]
  split
  · rename_i hany
    obtain ⟨x, hx⟩ := Option.isSome_iff_exists.1 (List.find?_isSome.2 (List.any_eq_true.1 hany))
    simp only [modifyTopic, batches]
    rw [lookup_eq_find?, find?_modifyFirst_self (fun y h => by obtain ⟨_, _⟩ := y; exact h), hx]
    obtain ⟨_, _⟩ := x
    rfl
  · rename_i hany
    have hnone : c.topics.find? (·.1 == t) = none :=
      List.find?_eq_none.2 fun x hx hxt => hany (List.any_eq_true.2 ⟨x, hx, hxt⟩)
    unfold batches
    rw [lookup_eq_find?, List.find?_append, hnone]
    simp

/-- Merging a status into one generation changes the view of no other. -/
theorem viewIn_updateGeneration_of_ne (c : BatchCache) (topic batch gen : Uuid) (p : GenerationPatch)
    {t : WatchTarget} (hg : gen ≠ t.generation) :
    viewIn ((c.reduce (.updateGeneration topic batch gen p)).batches t.topic) t.batch t.generation =
      viewIn (c.batches t.topic) t.batch t.generation := by
  simp only [reduce]
  by_cases htopic : topic = t.topic
  · subst htopic
    rw [batches_modifyTopic_self _ _ rfl]
    exact viewIn_modifyGeneration_of_ne (fun x hx => by rw [GenerationPatch.apply_id, hx]) hg
  · rw [batches_modifyTopic_of_ne _ _ htopic]

end BatchCache

/-! ## The loops' invariant -/

namespace LoopStage

/-- The end a loop has seen the server show: the status of an answer that ended the task,
or the status the loop refreshes on or finished on. -/
def seen : LoopStage → Option TaskStatus
  | .polling (some (.ok st)) => if st.status.isTerminal then some st.status else none
  | .refreshing s _ _ => some s
  | .finished s _ => some s
  | _ => none

/-- A status answer has seen an end only when it reports one. -/
theorem seen_polling_eq_some {a : Except ClientError GenerationStatusDto} {s : TaskStatus}
    (h : (LoopStage.polling (some a)).seen = some s) :
    ∃ st, a = .ok st ∧ st.status = s ∧ s.isTerminal = true := by
  cases a with
  | error e => cases h
  | ok st =>
    simp only [seen] at h
    split at h
    · cases h
      exact ⟨st, rfl, rfl, by assumption⟩
    · cases h

end LoopStage

namespace Watches

variable {n : Nat} {w : Watches n}

/-- The loops watch distinct generations of one topic. -/
structure OneTopic (targets : Fin n → WatchTarget) : Prop where
  topic : ∀ i j, (targets i).topic = (targets j).topic
  distinct : ∀ i j, (targets i).generation = (targets j).generation → i = j

@[simp] theorem setStage_targets (w : Watches n) (i : Fin n) (st : LoopStage) :
    (w.setStage i st).targets = w.targets := rfl

@[simp] theorem setStage_server (w : Watches n) (i : Fin n) (st : LoopStage) :
    (w.setStage i st).server = w.server := rfl

@[simp] theorem setStage_cache (w : Watches n) (i : Fin n) (st : LoopStage) :
    (w.setStage i st).cache = w.cache := rfl

@[simp] theorem setStage_sent (w : Watches n) (i : Fin n) (st : LoopStage) :
    (w.setStage i st).sent = w.sent := rfl

@[simp] theorem setStage_self (w : Watches n) (i : Fin n) (st : LoopStage) :
    (w.setStage i st).stage i = st := if_pos rfl

theorem setStage_of_ne (w : Watches n) {i j : Fin n} (st : LoopStage) (h : j ≠ i) :
    (w.setStage i st).stage j = w.stage j := if_neg h

/-- A stage other than the one loop `i` moved to was there before. -/
theorem stage_of_setStage {i j : Fin n} {st x : LoopStage} (hx : st ≠ x)
    (h : (w.setStage i st).stage j = x) : w.stage j = x := by
  by_cases hji : j = i
  · subst hji
    rw [setStage_self] at h
    exact absurd h hx
  · rwa [setStage_of_ne _ _ hji] at h

theorem cached_eq (w : Watches n) (i : Fin n) :
    w.cached i = (w.targets i).statusIn (w.cache.batches (w.targets i).topic) := rfl

/-- What every state the loops reach keeps, when refresh answers arrive in order. -/
structure Sound (w : Watches n) : Prop where
  /-- An end a loop has seen is an end, and the server still shows it. -/
  seen : ∀ i s, (w.stage i).seen = some s →
    s.isTerminal = true ∧ (w.targets i).statusIn w.server = some s
  /-- Refresh calls out are numbered below the count of calls sent, -/
  numbered : ∀ i s σ a, w.stage i = .refreshing s σ a → σ < w.sent
  /-- each number one loop's. -/
  once : ∀ i j s s' σ a a', w.stage i = .refreshing s σ a → w.stage j = .refreshing s' σ a' →
    i = j
  /-- A refresh answered, sent no earlier than a loop's own, shows that loop's end. -/
  later : ∀ i j s s' σ σ' a bs, w.stage i = .refreshing s σ a →
    w.stage j = .refreshing s' σ' (some (.ok bs)) → σ ≤ σ' → (w.targets i).statusIn bs = some s
  /-- A refresh answered shows the end of every loop that has finished. -/
  afterEnd : ∀ i j s b s' σ' bs, w.stage i = .finished s b →
    w.stage j = .refreshing s' σ' (some (.ok bs)) → (w.targets i).statusIn bs = some s
  /-- A loop that got its batches finds its end in the cache. -/
  kept : ∀ i s, w.stage i = .finished s true → w.cached i = some s

theorem sound_start (targets : Fin n → WatchTarget) (server : List BatchViewDto)
    (cache : BatchCache) : (start targets server cache).Sound where
  seen _ _ h := nomatch h
  numbered _ _ _ _ h := nomatch h
  once _ _ _ _ _ _ _ h := nomatch h
  later _ _ _ _ _ _ _ _ h := nomatch h
  afterEnd _ _ _ _ _ _ _ h := nomatch h
  kept _ _ h := nomatch h

namespace Sound

variable {i : Fin n}

/-- Moving a loop to a stage that neither refreshes nor has finished, and whose end, if it
has seen one, the server shows. -/
theorem setStage_polling (hs : w.Sound) {st : LoopStage} (hr : ∀ s σ a, st ≠ .refreshing s σ a)
    (hf : ∀ s b, st ≠ .finished s b)
    (hseen : ∀ s, st.seen = some s →
      s.isTerminal = true ∧ (w.targets i).statusIn w.server = some s) :
    (w.setStage i st).Sound := by
  refine ⟨fun j s h => ?_, fun j s σ a h => hs.numbered j s σ a (stage_of_setStage (hr _ _ _) h),
    fun j k s s' σ a a' hj hk => hs.once j k s s' σ a a' (stage_of_setStage (hr _ _ _) hj)
      (stage_of_setStage (hr _ _ _) hk),
    fun j k s s' σ σ' a bs hj hk => hs.later j k s s' σ σ' a bs
      (stage_of_setStage (hr _ _ _) hj) (stage_of_setStage (hr _ _ _) hk),
    fun j k s b s' σ' bs hj hk => hs.afterEnd j k s b s' σ' bs (stage_of_setStage (hf _ _) hj)
      (stage_of_setStage (hr _ _ _) hk),
    fun j s h => hs.kept j s (stage_of_setStage (hf _ _) h)⟩
  by_cases hji : j = i
  · subst hji
    rw [setStage_self] at h
    exact hseen s h
  · rw [setStage_of_ne _ _ hji] at h
    exact hs.seen j s h

/-- Moving a loop to a stage that has seen no end, with nothing else changed. -/
theorem setStage_quiet (hs : w.Sound) {st : LoopStage} (hq : st.seen = none) :
    (w.setStage i st).Sound :=
  hs.setStage_polling (fun _ _ _ h => by rw [h] at hq; cases hq)
    (fun _ _ h => by rw [h] at hq; cases hq) (fun _ h => by rw [hq] at h; cases h)

/-- The server answers loop `i`'s status call with the status it holds. -/
theorem answer (hs : w.Sound) {a : Except ClientError GenerationStatusDto}
    (ha : ∀ st, a = .ok st → (w.targets i).statusIn w.server = some st.status) :
    (w.setStage i (.polling (some a))).Sound := by
  refine hs.setStage_polling (fun _ _ _ => by simp) (fun _ _ => by simp) fun s h => ?_
  obtain ⟨st, rfl, rfl, hend⟩ := LoopStage.seen_polling_eq_some h
  exact ⟨hend, ha st rfl⟩

/-- A new cache that shows every loop that got its batches as the old one did. -/
theorem withCache (hs : w.Sound) {c : BatchCache}
    (hc : ∀ i s, w.stage i = .finished s true →
      (w.targets i).statusIn (c.batches (w.targets i).topic) =
        (w.targets i).statusIn (w.cache.batches (w.targets i).topic)) :
    ({ w with cache := c } : Watches n).Sound where
  seen := hs.seen
  numbered := hs.numbered
  once := hs.once
  later := hs.later
  afterEnd := hs.afterEnd
  kept j s h := by
    rw [cached_eq]
    exact (hc j s h).trans (hs.kept j s h)

/-- Merging loop `i`'s status into the cache changes what no other loop sees there. -/
theorem withUpdate (hs : w.Sound) (ht : OneTopic w.targets) (hi : ∀ s b, w.stage i ≠ .finished s b)
    (p : GenerationPatch) :
    ({ w with cache := w.cache.reduce (.updateGeneration (w.targets i).topic (w.targets i).batch
        (w.targets i).generation p) } : Watches n).Sound := by
  refine hs.withCache fun j s hj => ?_
  have hji : (w.targets i).generation ≠ (w.targets j).generation := fun heq => by
    rw [ht.distinct i j heq] at hi
    exact hi s true hj
  unfold WatchTarget.statusIn
  rw [BatchCache.viewIn_updateGeneration_of_ne _ _ _ _ _ hji]


/-- Loop `i`, told that its task ended, sends its refresh call, numbered after every call
still out. -/
theorem send (hs : w.Sound) {st : GenerationStatusDto} (h : w.stage i = .polling (some (.ok st)))
    (hterm : st.status.isTerminal = true) :
    ({ w.setStage i (.refreshing st.status w.sent none) with sent := w.sent + 1 } :
      Watches n).Sound := by
  have hseen := hs.seen i st.status (by rw [h]; simp [LoopStage.seen, hterm])
  have hnew : ∀ {s σ a}, (LoopStage.refreshing st.status w.sent none) = .refreshing s σ a →
      σ = w.sent := by
    intro s σ a h
    cases h
    rfl
  refine ⟨fun j s hj => ?_, fun j s σ a hj => ?_, fun j k s s' σ a a' hj hk => ?_,
    fun j k s s' σ σ' a bs hj hk hle => ?_, fun j k s b s' σ' bs hj hk => ?_, fun j s hj => ?_⟩
  · -- `seen`: the new stage has seen the end the status answer reported
    dsimp only at hj ⊢
    by_cases hji : j = i
    · subst hji
      rw [setStage_self] at hj
      cases hj
      exact hseen
    · rw [setStage_of_ne _ _ hji] at hj
      exact hs.seen j s hj
  · -- `numbered`: the new call takes number `w.sent`
    dsimp only at hj ⊢
    by_cases hji : j = i
    · subst hji
      rw [setStage_self] at hj
      rw [hnew hj]
      exact Nat.lt_succ_self _
    · rw [setStage_of_ne _ _ hji] at hj
      exact Nat.lt_succ_of_lt (hs.numbered j s σ a hj)
  · -- `once`: no call out before carries the new number
    dsimp only at hj hk
    by_cases hji : j = i <;> by_cases hki : k = i
    · exact hji.trans hki.symm
    · subst hji
      rw [setStage_self] at hj
      rw [setStage_of_ne _ _ hki, hnew hj] at hk
      exact absurd (hs.numbered k _ _ _ hk) (Nat.lt_irrefl _)
    · subst hki
      rw [setStage_self] at hk
      rw [setStage_of_ne _ _ hji, hnew hk] at hj
      exact absurd (hs.numbered j _ _ _ hj) (Nat.lt_irrefl _)
    · rw [setStage_of_ne _ _ hji] at hj
      rw [setStage_of_ne _ _ hki] at hk
      exact hs.once j k s s' σ a a' hj hk
  · -- `later`: the answered call was sent before the new one
    dsimp only at hj hk
    have hk' := stage_of_setStage (by simp) hk
    by_cases hji : j = i
    · subst hji
      rw [setStage_self] at hj
      rw [hnew hj] at hle
      exact absurd (hs.numbered k _ _ _ hk') (Nat.not_lt.2 hle)
    · rw [setStage_of_ne _ _ hji] at hj
      exact hs.later j k s s' σ σ' a bs hj hk'
        hle
  · dsimp only at hj hk
    exact hs.afterEnd j k s b s' σ' bs (stage_of_setStage (by simp) hj)
      (stage_of_setStage (by simp) hk)
  · exact hs.kept j s (stage_of_setStage (by simp) hj)

/-- Loop `i` gets its status answer. -/
theorem hear (hs : w.Sound) (ht : OneTopic w.targets) {a : Except ClientError GenerationStatusDto}
    (h : w.stage i = .polling (some a)) : (w.hear i a).Sound := by
  cases a with
  | error e => exact hs.setStage_quiet (by split <;> rfl)
  | ok st =>
    have hw := hs.withUpdate ht (fun s b => by rw [h]; simp) (.ofStatus st)
    simp only [Watches.hear]
    split
    · exact hw.send h (by assumption)
    · exact hw.setStage_quiet rfl

/-- The server answers loop `i`'s refresh call with the batches it holds. -/
theorem serve (hs : w.Sound) {s₀ : TaskStatus} {σ₀ : Nat} {a₀ : Except ClientError (List BatchViewDto)}
    (h : w.stage i = .refreshing s₀ σ₀ none) (ha : ∀ bs, a₀ = .ok bs → bs = w.server) :
    (w.setStage i (.refreshing s₀ σ₀ (some a₀))).Sound := by
  -- a loop refreshing now was refreshing with the same status and number before
  have back : ∀ {j s σ a}, (w.setStage i (.refreshing s₀ σ₀ (some a₀))).stage j =
      .refreshing s σ a → ∃ a', w.stage j = .refreshing s σ a' := by
    intro j s σ a hj
    by_cases hji : j = i
    · subst hji
      rw [setStage_self] at hj
      cases hj
      exact ⟨none, h⟩
    · rw [setStage_of_ne _ _ hji] at hj
      exact ⟨a, hj⟩
  -- what the server holds shows the end of every loop refreshing or finished
  have shown : ∀ {j s}, (w.stage j).seen = some s → (w.targets j).statusIn w.server = some s :=
    fun hj => (hs.seen _ _ hj).2
  refine ⟨fun j s hj => ?_, fun j s σ a hj => ?_, fun j k s s' σ a a' hj hk => ?_,
    fun j k s s' σ σ' a bs hj hk hle => ?_, fun j k s b s' σ' bs hj hk => ?_, fun j s hj => ?_⟩
  · by_cases hji : j = i
    · subst hji
      rw [setStage_self] at hj
      exact hs.seen j s (by rw [h]; exact hj)
    · rw [setStage_of_ne _ _ hji] at hj
      exact hs.seen j s hj
  · obtain ⟨a', hj'⟩ := back hj
    exact hs.numbered j s σ a' hj'
  · obtain ⟨a₁, hj'⟩ := back hj
    obtain ⟨a₂, hk'⟩ := back hk
    exact hs.once j k s s' σ a₁ a₂ hj' hk'
  · obtain ⟨a₁, hj'⟩ := back hj
    by_cases hki : k = i
    · -- the call just answered: its batches are what the server holds
      subst hki
      rw [setStage_self] at hk
      cases hk
      rw [ha bs rfl]
      exact shown (by rw [hj']; rfl)
    · rw [setStage_of_ne _ _ hki] at hk
      exact hs.later j k s s' σ σ' a₁ bs hj' hk hle
  · have hj' := stage_of_setStage (by simp) hj
    by_cases hki : k = i
    · subst hki
      rw [setStage_self] at hk
      cases hk
      rw [ha bs rfl]
      exact shown (by rw [hj']; rfl)
    · rw [setStage_of_ne _ _ hki] at hk
      exact hs.afterEnd j k s b s' σ' bs hj' hk
  · exact hs.kept j s (stage_of_setStage (by simp) hj)

/-- Loop `i` stops on its end with a cache that shows every loop that got its batches its
end, when no refresh call sent before its own is still out. -/
theorem finish (hs : w.Sound) {s₀ : TaskStatus} {σ₀ : Nat}
    {a₀ : Option (Except ClientError (List BatchViewDto))} (h : w.stage i = .refreshing s₀ σ₀ a₀)
    (ho : ∀ j s σ a, w.stage j = .refreshing s σ a → σ₀ ≤ σ) (b : Bool) (c : BatchCache)
    (hc : ∀ j s, (w.setStage i (.finished s₀ b)).stage j = .finished s true →
      (w.targets j).statusIn (c.batches (w.targets j).topic) = some s) :
    ({ w.setStage i (.finished s₀ b) with cache := c } : Watches n).Sound := by
  have hr : ∀ {s σ a}, LoopStage.finished s₀ b ≠ .refreshing s σ a := by simp
  refine ⟨fun j s hj => ?_, fun j s σ a hj => hs.numbered j s σ a (stage_of_setStage hr hj),
    fun j k s s' σ a a' hj hk => hs.once j k s s' σ a a' (stage_of_setStage hr hj)
      (stage_of_setStage hr hk),
    fun j k s s' σ σ' a bs hj hk => hs.later j k s s' σ σ' a bs (stage_of_setStage hr hj)
      (stage_of_setStage hr hk),
    fun j k s b' s' σ' bs hj hk => ?_, fun j s hj => hc j s hj⟩
  · dsimp only at hj ⊢
    by_cases hji : j = i
    · subst hji
      rw [setStage_self] at hj
      exact hs.seen j s (by rw [h]; exact hj)
    · rw [setStage_of_ne _ _ hji] at hj
      exact hs.seen j s hj
  · -- a call answered while `i` finishes was sent after `i`'s own
    dsimp only at hj hk
    have hk' := stage_of_setStage hr hk
    by_cases hji : j = i
    · subst hji
      rw [setStage_self] at hj
      cases hj
      exact hs.later j k s₀ s' σ₀ σ' a₀ bs h hk' (ho k s' σ' _ hk')
    · rw [setStage_of_ne _ _ hji] at hj
      exact hs.afterEnd j k s b' s' σ' bs hj hk'

/-- Loop `i` gets the answer to its refresh call, when no call sent before its own is still
out. -/
theorem land (hs : w.Sound) (ht : OneTopic w.targets) {s₀ : TaskStatus} {σ₀ : Nat}
    {a₀ : Except ClientError (List BatchViewDto)} (h : w.stage i = .refreshing s₀ σ₀ (some a₀))
    (ho : ∀ j s σ a, w.stage j = .refreshing s σ a → σ₀ ≤ σ) : (w.land i s₀ a₀).Sound := by
  cases a₀ with
  | error e =>
    refine hs.finish h ho false w.cache fun j s hj => ?_
    by_cases hji : j = i
    · subst hji
      rw [setStage_self] at hj
      cases hj
    · rw [setStage_of_ne _ _ hji] at hj
      exact hs.kept j s hj
  | ok bs =>
    -- the batches replace the topic every loop watches
    refine hs.finish h ho true _ fun j s hj => ?_
    rw [ht.topic j i, BatchCache.batches_replaceTopic]
    by_cases hji : j = i
    · subst hji
      rw [setStage_self] at hj
      cases hj
      exact hs.later j j s₀ s₀ σ₀ σ₀ _ bs h h (Nat.le_refl σ₀)
    · rw [setStage_of_ne _ _ hji] at hj
      exact hs.afterEnd j i s true s₀ σ₀ bs hj h

/-- The server moves a generation's view forward: the ends it showed stay shown. -/
theorem advance (hs : w.Sound) {batch gen : Uuid} {old v : GenerationViewDto}
    (hold : viewIn w.server batch gen = some old) (hid : v.id = gen)
    (hfwd : ∀ s, old.task.status = some s →
      ∃ s', v.task.status = some s' ∧ s.advancesTo s' = true) :
    ({ w with server := putView w.server batch gen v } : Watches n).Sound where
  seen j s hj := by
    obtain ⟨hend, hshown⟩ := hs.seen j s hj
    exact ⟨hend, WatchTarget.statusIn_putView _ hold hid hfwd hshown hend⟩
  numbered := hs.numbered
  once := hs.once
  later := hs.later
  afterEnd := hs.afterEnd
  kept := hs.kept

/-- Every event of the system, with refresh answers in order, keeps it sound. -/
theorem step (hs : w.Sound) (ht : OneTopic w.targets) {w' : Watches n}
    (h : Step .inOrder w w') : w'.Sound := by
  cases h with
  | tick i _ => exact hs.setStage_quiet rfl
  | answer i a _ ha => exact hs.answer ha
  | hear i a h => exact hs.hear ht h
  | serve i s σ a h ha => exact hs.serve h ha
  | land i s σ a h ho => exact hs.land ht h (ho rfl)
  | advance batch gen old v hold hid hfwd => exact hs.advance hold hid hfwd

end Sound

/-- No event changes what the loops watch. -/
theorem Step.targets_eq {d : Delivery} {w' : Watches n} (h : Step d w w') :
    w'.targets = w.targets := by
  cases h with
  | hear i a _ =>
    cases a with
    | error e => rfl
    | ok st =>
      simp only [Watches.hear]
      split <;> rfl
  | land i s σ a _ _ => cases a <;> rfl
  | _ => rfl

/-- Every state reached in order from a sound one, whose loops watch distinct generations of
one topic, is sound. -/
theorem Sound.reaches (hs : w.Sound) (ht : OneTopic w.targets) {w' : Watches n}
    (h : Relation.ReflTransGen (Step .inOrder) w w') : w'.Sound ∧ w'.targets = w.targets := by
  induction h with
  | refl => exact ⟨hs, rfl⟩
  | tail _ hstep ih =>
    obtain ⟨hs', htargets⟩ := ih
    exact ⟨hs'.step (htargets ▸ ht) hstep, (Step.targets_eq hstep).trans htargets⟩

/-! ## Two loops on one batch -/

/-- A view of generation `id`, its task `task` with status `s`. -/
def pairView (id task : Uuid) (s : TaskStatus) : GenerationViewDto :=
  { id, asset := none, seed := none, createdAt := default,
    task := { id := some task, status := some s } }

/-- Batch `⟨2⟩` with generations `⟨3⟩` and `⟨4⟩`, their tasks with statuses `a` and `b`. -/
def pairFeed (a b : TaskStatus) : List BatchViewDto :=
  [{ id := ⟨2⟩, provider := "fal", model := "flux", prompt := "two foxes", width := none,
     height := none, config := .null, createdAt := default,
     generations := [pairView ⟨3⟩ ⟨5⟩ a, pairView ⟨4⟩ ⟨6⟩ b] }]

/-- Loops on the two generations of `pairFeed`, in topic `⟨1⟩`. -/
def pairTargets : Fin 2 → WatchTarget
  | 0 => { topic := ⟨1⟩, batch := ⟨2⟩, generation := ⟨3⟩, task := ⟨5⟩ }
  | 1 => { topic := ⟨1⟩, batch := ⟨2⟩, generation := ⟨4⟩, task := ⟨6⟩ }

theorem pairTargets_oneTopic : OneTopic pairTargets := ⟨by decide, by decide⟩

/-- A task in flight may end in success. -/
theorem processing_advancesTo_success (id task : Uuid) :
    ∀ s, (pairView id task .processing).task.status = some s →
      ∃ s', (pairView id task .success).task.status = some s' ∧ s.advancesTo s' = true :=
  fun _ h => ⟨.success, rfl, by cases h; rfl⟩

/-! ## Whether the cache ends with the loops' ends -/

/-- Loops on distinct generations of one topic, run from any server and cache: once every
loop has stopped on its end with its batches in, the cache shows each generation with the
status its loop stopped on. -/
def Converges (d : Delivery) : Prop :=
  ∀ (n : Nat) (targets : Fin n → WatchTarget) (server : List BatchViewDto) (cache : BatchCache)
    (w : Watches n), OneTopic targets →
    Relation.ReflTransGen (Step d) (start targets server cache) w →
    (∀ i, ∃ s, w.stage i = .finished s true) →
    ∀ i s, w.stage i = .finished s true → w.cached i = some s

/-- With refresh answers arriving in the order their calls were sent, the cache ends with
every loop's end; each loop that got its batches shows it even before the others stop. -/
theorem converges_inOrder : Converges .inOrder := by
  intro n targets server cache w ht hreach _ i s hi
  exact ((sound_start targets server cache).reaches ht hreach).1.kept i s hi

/-- Two loops on `pairFeed`: loop 1's task ends and its refresh is served, then loop 0's; the
answers land in the order the calls were sent, and the cache shows both successes. -/
theorem converges_inOrder_pair :
    ∃ w, Relation.ReflTransGen (Step .inOrder)
        (start pairTargets (pairFeed .processing .processing)
          ⟨[(⟨1⟩, pairFeed .processing .processing)]⟩) w ∧
      (∀ i, ∃ s, w.stage i = .finished s true) ∧
      w.cached 0 = some .success ∧ w.cached 1 = some .success := by
  have hrun := (Relation.ReflTransGen.refl : Relation.ReflTransGen (Step .inOrder)
      (start pairTargets (pairFeed .processing .processing)
        ⟨[(⟨1⟩, pairFeed .processing .processing)]⟩) _)
    |>.tail (Step.advance _ ⟨2⟩ ⟨4⟩ _ (pairView ⟨4⟩ ⟨6⟩ .success) rfl rfl
      (processing_advancesTo_success _ _))
    |>.tail (Step.tick _ 1 rfl)
    |>.tail (Step.answer _ 1 (.ok { status := .success }) rfl fun _ h => by cases h; rfl)
    |>.tail (Step.hear _ 1 _ rfl)
    |>.tail (Step.serve _ 1 .success 0 (.ok _) rfl fun _ h => (Except.ok.inj h).symm)
    |>.tail (Step.advance _ ⟨2⟩ ⟨3⟩ _ (pairView ⟨3⟩ ⟨5⟩ .success) rfl rfl
      (processing_advancesTo_success _ _))
    |>.tail (Step.tick _ 0 rfl)
    |>.tail (Step.answer _ 0 (.ok { status := .success }) rfl fun _ h => by cases h; rfl)
    |>.tail (Step.hear _ 0 _ rfl)
    |>.tail (Step.serve _ 0 .success 1 (.ok _) rfl fun _ h => (Except.ok.inj h).symm)
    -- call 0 lands first; call 1 then finds no earlier call out
    |>.tail (Step.land _ 1 .success 0 _ rfl fun _ _ _ _ _ _ => Nat.zero_le _)
    |>.tail (Step.land _ 0 .success 1 _ rfl fun _ j _ _ _ h => by
      rcases j with ⟨_ | _ | k, hj⟩
      · cases h
        exact Nat.le_refl _
      · cases h
      · omega)
  obtain ⟨w, hw, hrun⟩ : ∃ w, w = _ ∧ Relation.ReflTransGen (Step .inOrder) _ w := ⟨_, rfl, hrun⟩
  have hend : ∀ i, w.stage i = .finished .success true := by
    subst hw
    exact Fin.forall_fin_two.2 ⟨rfl, rfl⟩
  have hfin : ∀ i, ∃ s, w.stage i = .finished s true := fun i => ⟨_, hend i⟩
  exact ⟨w, hrun, hfin, converges_inOrder 2 _ _ _ w pairTargets_oneTopic hrun hfin 0 .success (hend 0),
    converges_inOrder 2 _ _ _ w pairTargets_oneTopic hrun hfin 1 .success (hend 1)⟩


/-! ## Refresh answers out of order -/

/-- With refresh answers in any order, the cache may end with a loop's generation in flight
after that loop stopped on its end. Loop 1's task ends first, and its refresh is served while
loop 0's task is in flight. Then loop 0's task ends, and its refresh is served and lands; loop
1's older answer lands after it and puts loop 0's generation back in flight. -/
theorem not_converges_anyOrder : ¬ Converges .anyOrder := by
  intro h
  have hrun := (Relation.ReflTransGen.refl : Relation.ReflTransGen (Step .anyOrder)
      (start pairTargets (pairFeed .processing .processing)
        ⟨[(⟨1⟩, pairFeed .processing .processing)]⟩) _)
    |>.tail (Step.advance _ ⟨2⟩ ⟨4⟩ _ (pairView ⟨4⟩ ⟨6⟩ .success) rfl rfl
      (processing_advancesTo_success _ _))
    |>.tail (Step.tick _ 1 rfl)
    |>.tail (Step.answer _ 1 (.ok { status := .success }) rfl fun _ h => by cases h; rfl)
    |>.tail (Step.hear _ 1 _ rfl)
    |>.tail (Step.serve _ 1 .success 0 (.ok _) rfl fun _ h => (Except.ok.inj h).symm)
    |>.tail (Step.advance _ ⟨2⟩ ⟨3⟩ _ (pairView ⟨3⟩ ⟨5⟩ .success) rfl rfl
      (processing_advancesTo_success _ _))
    |>.tail (Step.tick _ 0 rfl)
    |>.tail (Step.answer _ 0 (.ok { status := .success }) rfl fun _ h => by cases h; rfl)
    |>.tail (Step.hear _ 0 _ rfl)
    |>.tail (Step.serve _ 0 .success 1 (.ok _) rfl fun _ h => (Except.ok.inj h).symm)
    |>.tail (Step.land _ 0 .success 1 _ rfl nofun)
    |>.tail (Step.land _ 1 .success 0 _ rfl nofun)
  have hend := h 2 _ _ _ _ pairTargets_oneTopic hrun (fun i => ⟨.success, match i with | 0 => rfl | 1 => rfl⟩)
    0 .success rfl
  revert hend
  decide

end Watches

end ImageStudio
