import ImageStudio.Proofs.Monad
import ImageStudio.Proofs.Ids
import ImageStudio.Repository.Calls

/-!
# Proofs · Repository · Effects: what each operation does to the repository

One equation per operation of the repository: the result it returns and the repository it
leaves, stated as records built from the repository it started from. The lemmas about runs
of the repository rewrite with these and never unfold an operation.

An operation that branches on what it looks up gets one equation with a `match` on the
lookup, or one equation per branch when the branches are few and the result of the lookup
is reused (`run_completeGeneration` and its two siblings). The two recursive operations
get their closed forms by induction: making the rows of a batch draws two identifiers per
image and stops at the first repeated seed (`makeRows_ok`, `makeRows_state`); a timeout
sweep is a fold over the listed tasks (`expireEach_state`).
-/

namespace ImageStudio
namespace Repository

/-! ## The clock and the source of identifiers -/

theorem run_now (r : Repository) :
    ExceptT.run now r = (.ok (r.clock.addMillis 1), { r with clock := r.clock.addMillis 1 }) := rfl

theorem run_freshId (r : Repository) :
    ExceptT.run freshId r = (.ok (Uuid.draw r.entropy).1, { r with entropy := r.entropy.skip 1 }) := rfl

/-! ## Topics -/

theorem run_getTopic (user id : Uuid) (r : Repository) :
    ExceptT.run (getTopic user id) r =
      ((r.topic? user id).elim (.error (topicNotFound id)) .ok, r) := by
  unfold getTopic
  simp only [Repo.run_get_bind]
  cases r.topic? user id <;> rfl

theorem run_createTopic (user : Uuid) (title : String) (r : Repository) :
    ExceptT.run (createTopic user title) r =
      (.ok { id := (Uuid.draw r.entropy).1, user, title, createdAt := r.clock.addMillis 1,
             updatedAt := r.clock.addMillis 1 },
       { r with clock := r.clock.addMillis 1, entropy := r.entropy.skip 1,
                topics := r.topics ++
                  [{ id := (Uuid.draw r.entropy).1, user, title, createdAt := r.clock.addMillis 1,
                     updatedAt := r.clock.addMillis 1 }] }) := rfl

theorem run_updateTopic (user id : Uuid) (title cover : Option String) (r : Repository) :
    ExceptT.run (updateTopic user id title cover) r =
      match r.topic? user id with
      | some t =>
        let t' := { t with title := title.getD t.title, coverUrl := cover <|> t.coverUrl,
                           updatedAt := r.clock.addMillis 1 }
        (.ok t', { r with clock := r.clock.addMillis 1,
                          topics := r.topics.map fun u => if u.id == t.id then t' else u })
      | none => (.error (topicNotFound id), r) := by
  unfold updateTopic
  rw [Repo.run_bind, run_getTopic]
  cases r.topic? user id <;> rfl

theorem run_setCoverIfEmpty (user id : Uuid) (cover : String) (r : Repository) :
    ExceptT.run (setCoverIfEmpty user id cover) r =
      match r.topic? user id with
      | some t =>
        if t.coverUrl.isNone then
          (.ok true,
            { r with
              clock := r.clock.addMillis 1
              topics := r.topics.map fun u => if u.id == t.id then
                { t with coverUrl := some cover, updatedAt := r.clock.addMillis 1 } else u })
        else (.ok false, r)
      | none => (.ok false, r) := by
  unfold setCoverIfEmpty
  simp only [Repo.run_get_bind]
  rcases r.topic? user id with _ | t
  · rfl
  · dsimp only
    cases t.coverUrl.isNone <;> rfl

theorem run_touchTopic (user id : Uuid) (r : Repository) :
    ExceptT.run (touchTopic user id) r =
      (.ok (),
        match r.topic? user id with
        | some t =>
          { r with
            clock := r.clock.addMillis 1
            topics := r.topics.map fun u => if u.id == t.id then
              { t with updatedAt := r.clock.addMillis 1 } else u }
        | none => r) := by
  unfold touchTopic
  simp only [Repo.run_get_bind]
  rcases r.topic? user id with _ | t <;> rfl

/-! ## Removing rows

Removing batches takes their generations with them; the files those generations used go
too when no remaining generation uses them. -/

theorem run_removeBatches (doomed : Batch → Bool) (r : Repository) :
    ExceptT.run (removeBatches doomed) r =
      let gone := (r.batches.filter doomed).map (·.id)
      (.ok (gone.length, ((r.generations.filter fun g => gone.contains g.batch).filterMap (·.file)).eraseDups),
       { r with batches := r.batches.filter fun b => !doomed b,
                generations := r.generations.filter fun g => !gone.contains g.batch }) := rfl

theorem run_purgeOrphans (ids : List Uuid) (r : Repository) :
    ExceptT.run (purgeOrphans ids) r =
      let orphans := r.files.filter fun f =>
        ids.contains f.id && !(r.generations.filterMap (·.file)).contains f.id
      (.ok orphans, { r with files := r.files.filter fun f => !orphans.contains f }) := rfl

theorem run_deleteTopic (user id : Uuid) (r : Repository) :
    ExceptT.run (deleteTopic user id) r =
      match r.topic? user id with
      | some _ =>
        let gone := (r.batches.filter fun b => b.topic == id && b.user == user).map (·.id)
        ExceptT.run
          (purgeOrphans ((r.generations.filter fun g => gone.contains g.batch).filterMap (·.file)).eraseDups)
          { r with
            topics := r.topics.filter (·.id != id)
            batches := r.batches.filter fun b => !(b.topic == id && b.user == user)
            generations := r.generations.filter fun g => !gone.contains g.batch }
      | none => (.error (topicNotFound id), r) := by
  unfold deleteTopic
  rw [Repo.run_bind, run_getTopic]
  rcases r.topic? user id with _ | t
  · rfl
  · rfl

theorem run_deleteBatch (user id : Uuid) (r : Repository) :
    ExceptT.run (deleteBatch user id) r =
      let gone := (r.batches.filter fun b => b.id == id && b.user == user).map (·.id)
      let r₁ := { r with batches := r.batches.filter fun b => !(b.id == id && b.user == user),
                         generations := r.generations.filter fun g => !gone.contains g.batch }
      let files := ((r.generations.filter fun g => gone.contains g.batch).filterMap (·.file)).eraseDups
      if gone.length = 0 then (.ok none, r₁)
      else ((ExceptT.run (purgeOrphans files) r₁).1.map some, (ExceptT.run (purgeOrphans files) r₁).2) := by
  unfold deleteBatch
  rw [Repo.run_bind, run_removeBatches]
  dsimp only
  split <;> simp only [Repo.run_pure, Repo.run_map]

theorem run_deleteGeneration (user id : Uuid) (r : Repository) :
    ExceptT.run (deleteGeneration user id) r =
      match r.generation? user id with
      | none => (.ok none, r)
      | some g =>
        let r₁ := { r with generations := r.generations.filter (·.id != id) }
        match g.file with
        | none => (.ok (some { generation := g, deletedFile := none }), r₁)
        | some f =>
          ((ExceptT.run (purgeOrphans [f]) r₁).1.map fun fs =>
              some { generation := g, deletedFile := fs.head? },
            (ExceptT.run (purgeOrphans [f]) r₁).2) := by
  unfold deleteGeneration
  simp only [Repo.run_get_bind]
  rcases r.generation? user id with _ | g
  · rfl
  · rcases hf : g.file with _ | f
    · simp only [Repo.run_modify_bind, hf]
      rfl
    · simp only [hf, Repo.run_bind, Repo.run_map]
      rfl

/-! ## Making a batch -/

/-- The pending task and the generation made for one slot, from the source `e`. -/
def rowAt (user batch : Uuid) (now : Instant) (e : Entropy) (seed : Option Int) : Task × Generation :=
  ({ id := (Uuid.draw e).1, user, status := .pending, createdAt := now, updatedAt := now },
   { id := (Uuid.draw (e.skip 1)).1, user, batch, task := some (Uuid.draw e).1, seed,
     createdAt := now })

/-- The rows made for the slots, two identifiers per slot. -/
def rowsFrom (user batch : Uuid) (now : Instant) (e : Entropy) : List (Option Int) → List (Task × Generation)
  | [] => []
  | seed :: rest => rowAt user batch now e seed :: rowsFrom user batch now (e.skip 2) rest

/-- Every row made for a batch is the row made for one slot, from some point of the
source. -/
theorem exists_rowAt_of_mem {user batch : Uuid} {now : Instant} {e : Entropy}
    {slots : List (Option Int)} {x : Task × Generation} (hx : x ∈ rowsFrom user batch now e slots) :
    ∃ e' seed, x = rowAt user batch now e' seed := by
  induction slots generalizing e with
  | nil => cases hx
  | cons seed rest ih =>
    rcases List.mem_cons.1 hx with rfl | hx
    · exact ⟨e, seed, rfl⟩
    · exact ih hx

/-- Every row made for a batch is a pending task of the user, and a generation of the user in
the batch with that task, no file and no asset. -/
theorem mem_rowsFrom {user batch : Uuid} {now : Instant} {e : Entropy}
    {slots : List (Option Int)} {x : Task × Generation} (hx : x ∈ rowsFrom user batch now e slots) :
    x.1.user = user ∧ x.1.status = .pending ∧ x.2.user = user ∧ x.2.batch = batch ∧
      x.2.task = some x.1.id ∧ x.2.file = none ∧ x.2.asset = none := by
  obtain ⟨e', seed, rfl⟩ := exists_rowAt_of_mem hx
  exact ⟨rfl, rfl, rfl, rfl, rfl, rfl, rfl⟩

/-- The generations of a batch carry its slots as their seeds, in order. -/
theorem seeds_rowsFrom (user batch : Uuid) (now : Instant) (e : Entropy)
    (slots : List (Option Int)) : (rowsFrom user batch now e slots).map (·.2.seed) = slots := by
  induction slots generalizing e with
  | nil => rfl
  | cons seed rest ih => simp only [rowsFrom, List.map_cons, ih]; rfl

/-- The rows of a batch are named by the identifiers drawn for them, two per slot. -/
theorem ids_rowsFrom (user batch : Uuid) (now : Instant) (e : Entropy)
    (slots : List (Option Int)) :
    ((rowsFrom user batch now e slots).map (·.1.id) ++ (rowsFrom user batch now e slots).map (·.2.id)).Perm
      (e.idsFrom (2 * slots.length)) := by
  induction slots generalizing e with
  | nil => exact List.Perm.refl []
  | cons seed rest ih =>
    rw [List.length_cons, show 2 * (rest.length + 1) = 2 + 2 * rest.length by omega,
      Entropy.idsFrom_add]
    simp only [rowsFrom, rowAt, List.map_cons, List.cons_append]
    refine List.Perm.cons _ (List.perm_middle.trans (List.Perm.cons _ ?_))
    exact ih (e.skip 2)

/-- Whether no present seed of the slots repeats one of `seen` or an earlier one. -/
def seedsFresh (seen : List Int) (slots : List (Option Int)) : Prop :=
  (slots.filterMap id).Nodup ∧ ∀ s ∈ slots.filterMap id, s ∉ seen

theorem run_makeRows_cons (user batch : Uuid) (now : Instant) (seen : List Int)
    (seed : Option Int) (rest : List (Option Int)) (r : Repository) :
    ExceptT.run (makeRows user batch now seen (seed :: rest)) r =
      if seed.any seen.contains then (.error (duplicateSeed (seed.getD 0) batch), r)
      else
        match ExceptT.run (makeRows user batch now (seed.toList ++ seen) rest)
            { r with entropy := r.entropy.skip 2 } with
        | (.ok more, r') => (.ok (rowAt user batch now r.entropy seed :: more), r')
        | (.error e, r') => (.error e, r') := by
  simp only [makeRows]
  rcases seed with _ | s
  · simp only [Option.any_none, Bool.false_eq_true, if_false, Repo.run_bind, run_freshId,
      Entropy.skip_skip]
    rcases ExceptT.run (makeRows user batch now (none.toList ++ seen) rest) _ with ⟨_ | _, _⟩ <;> rfl
  · dsimp only
    simp only [Option.any_some]
    by_cases h : seen.contains s = true
    · rw [if_pos h, if_pos h]
      rfl
    · rw [if_neg h, if_neg h]
      simp only [Repo.run_bind, run_freshId, Entropy.skip_skip]
      rcases ExceptT.run (makeRows user batch now ((some s).toList ++ seen) rest) _
        with ⟨_ | _, _⟩ <;> rfl

/-- Making rows only draws identifiers: two for each slot it got to. -/
theorem makeRows_state (user batch : Uuid) (now : Instant) (seen : List Int)
    (slots : List (Option Int)) (r : Repository) :
    ∃ k, (ExceptT.run (makeRows user batch now seen slots) r).2 =
      { r with entropy := r.entropy.skip (2 * k) } := by
  induction slots generalizing seen r with
  | nil => exact ⟨0, rfl⟩
  | cons seed rest ih =>
    rw [run_makeRows_cons]
    split
    · exact ⟨0, rfl⟩
    · obtain ⟨k, hk⟩ := ih (seed.toList ++ seen) { r with entropy := r.entropy.skip 2 }
      refine ⟨k + 1, ?_⟩
      rcases h : ExceptT.run (makeRows user batch now (seed.toList ++ seen) rest)
        { r with entropy := r.entropy.skip 2 } with ⟨_ | _, r'⟩ <;>
      · rw [h] at hk
        simp only at hk
        rw [hk, Entropy.skip_skip, show 2 + 2 * k = 2 * (k + 1) by omega]

/-- Rows are made when no seed repeats, and then they are `rowsFrom` the source. -/
theorem makeRows_ok (user batch : Uuid) (now : Instant) (seen : List Int)
    (slots : List (Option Int)) (r r' : Repository) (rows : List (Task × Generation))
    (h : ExceptT.run (makeRows user batch now seen slots) r = (.ok rows, r')) :
    rows = rowsFrom user batch now r.entropy slots ∧
      r' = { r with entropy := r.entropy.skip (2 * slots.length) } ∧ seedsFresh seen slots := by
  induction slots generalizing seen r rows with
  | nil =>
    cases h
    exact ⟨rfl, rfl, by simp [seedsFresh]⟩
  | cons seed rest ih =>
    rw [run_makeRows_cons] at h
    split at h
    · cases h
    · rename_i hfree
      rcases hrest : ExceptT.run (makeRows user batch now (seed.toList ++ seen) rest)
        { r with entropy := r.entropy.skip 2 } with ⟨_ | more, r''⟩
      · rw [hrest] at h
        cases h
      · rw [hrest] at h
        cases h
        obtain ⟨hmore, hstate, hnodup, hnew⟩ := ih _ _ _ hrest
        refine ⟨by rw [hmore]; rfl, ?_, ?_, ?_⟩
        · rw [hstate, Entropy.skip_skip, List.length_cons, show 2 + 2 * rest.length = 2 * (rest.length + 1) by omega]
        · cases seed with
          | none => simpa using hnodup
          | some s =>
            show (s :: rest.filterMap id).Nodup
            rw [List.nodup_cons]
            exact ⟨fun hs => hnew s hs (by simp), hnodup⟩
        · intro x hx hxs
          cases seed with
          | none => exact hnew x (by simpa using hx) (by simpa using hxs)
          | some s =>
            change x ∈ s :: rest.filterMap id at hx
            rcases List.mem_cons.1 hx with rfl | hx
            · exact hfree (by simpa using hxs)
            · exact hnew x hx (by simp [hxs])

theorem run_checkBatch (user : Uuid) (nb : NewBatch) (r : Repository) :
    (ExceptT.run (checkBatch user nb) r).2 = r ∧
      ((ExceptT.run (checkBatch user nb) r).1 = .ok () → (r.topic? user nb.topic).isSome) := by
  unfold checkBatch
  by_cases h0 : nb.imageNum = 0
  · simp [h0]
  · rcases nb.seeds with _ | seeds
    · cases ht : r.topic? user nb.topic <;> simp [h0, ht, Repo.run_bind]
    · by_cases hl : seeds.length = nb.imageNum
      · cases ht : r.topic? user nb.topic <;> simp [h0, hl, ht, Repo.run_bind]
      · simp [h0, hl]

theorem createBatch_ok {user : Uuid} {nb : NewBatch} {r r' : Repository} {cb : CreatedBatch}
    (h : ExceptT.run (createBatch user nb) r = (.ok cb, r')) :
    ∃ t, r.topic? user nb.topic = some t ∧ seedsFresh [] nb.slots ∧
      let now := r.clock.addMillis 1
      let rows := rowsFrom user (Uuid.draw r.entropy).1 now (r.entropy.skip 1) nb.slots
      let batch : Batch :=
        { id := (Uuid.draw r.entropy).1, user, topic := nb.topic, provider := nb.provider,
          model := nb.model, prompt := nb.prompt, width := nb.width, height := nb.height,
          config := nb.config, createdAt := now }
      cb = { batch, generations := rows.map (·.2), tasks := rows.map (·.1.id) } ∧
      r' = { r with
        clock := now.addMillis 1
        entropy := r.entropy.skip (1 + 2 * nb.slots.length)
        topics := r.topics.map fun u => if u.id == t.id then { t with updatedAt := now.addMillis 1 } else u
        batches := r.batches ++ [batch]
        generations := r.generations ++ rows.map (·.2)
        tasks := r.tasks ++ rows.map (·.1) } := by
  unfold createBatch at h
  obtain ⟨hstate, hok⟩ := run_checkBatch user nb r
  rw [Repo.run_bind] at h
  rcases hc : ExceptT.run (checkBatch user nb) r with ⟨_ | _, r₀⟩
  · rw [hc] at h
    cases h
  · rw [hc] at h hstate hok
    dsimp only at h hstate hok
    rw [hstate] at h
    obtain ⟨t, ht⟩ := Option.isSome_iff_exists.1 (hok rfl)
    simp only [Repo.run_bind, run_now, run_freshId] at h
    rcases hm : ExceptT.run (makeRows user (Uuid.draw r.entropy).1 (r.clock.addMillis 1) [] nb.slots)
      { r with clock := r.clock.addMillis 1, entropy := r.entropy.skip 1 } with ⟨_ | rows, r₂⟩
    · rw [hm] at h
      cases h
    · rw [hm] at h
      obtain ⟨hrows, hr₂, hfresh⟩ := makeRows_ok _ _ _ _ _ _ _ _ hm
      subst hrows hr₂
      simp only [Repo.run_modify, run_touchTopic] at h
      simp only [topic?] at ht h
      rw [ht] at h
      cases h
      refine ⟨t, ht, hfresh, rfl, ?_⟩
      rw [Entropy.skip_skip]

/-- Whatever its outcome, storing a batch only draws identifiers from the source. -/
theorem createBatch_entropy (user : Uuid) (nb : NewBatch) (r : Repository) :
    ∃ j, (ExceptT.run (createBatch user nb) r).2.entropy = r.entropy.skip j := by
  rcases hrun : ExceptT.run (createBatch user nb) r with ⟨_ | cb, r'⟩
  · -- a failure: either the checks refused the batch, or a seed repeated
    unfold createBatch at hrun
    obtain ⟨hstate, -⟩ := run_checkBatch user nb r
    rw [Repo.run_bind] at hrun
    rcases hc : ExceptT.run (checkBatch user nb) r with ⟨_ | _, r₀⟩
    · rw [hc] at hrun hstate
      cases hrun
      exact ⟨0, by rw [← hstate]; rfl⟩
    · rw [hc] at hrun hstate
      dsimp only at hrun hstate
      rw [hstate] at hrun
      simp only [Repo.run_bind, run_now, run_freshId] at hrun
      obtain ⟨k, hk⟩ := makeRows_state user (Uuid.draw r.entropy).1 (r.clock.addMillis 1) [] nb.slots
        { r with clock := r.clock.addMillis 1, entropy := r.entropy.skip 1 }
      rcases hm : ExceptT.run (makeRows user (Uuid.draw r.entropy).1 (r.clock.addMillis 1) [] nb.slots)
        { r with clock := r.clock.addMillis 1, entropy := r.entropy.skip 1 } with ⟨_ | rows, r₂⟩
      · rw [hm] at hrun hk
        cases hrun
        exact ⟨1 + 2 * k, by rw [hk, Entropy.skip_skip]⟩
      · rw [hm] at hrun
        simp only [Repo.run_modify, run_touchTopic, Repo.run_pure] at hrun
        cases hrun
  · obtain ⟨t, -, -, -, hr'⟩ := createBatch_ok hrun
    exact ⟨1 + 2 * nb.slots.length, by rw [hr']⟩

/-! ## Tasks -/

theorem run_finishTask (id : Uuid) (status : TaskStatus) (error : Option TaskError) (r : Repository) :
    ExceptT.run (finishTask id status error) r =
      (.ok (), { r with clock := r.clock.addMillis 1,
                        tasks := r.tasks.map fun t =>
                          if t.id == id then t.finish status error (r.clock.addMillis 1) else t }) :=
  rfl

theorem run_transition (user id : Uuid) (allowed : List TaskStatus) (target : TaskStatus)
    (error : Option TaskError) (r : Repository) :
    ExceptT.run (transition user id allowed target error) r =
      match r.task? user id with
      | some t =>
        if allowed.contains t.status then
          (.ok true, { r with clock := r.clock.addMillis 1,
                              tasks := r.tasks.map fun u =>
                                if u.id == id then u.finish target error (r.clock.addMillis 1) else u })
        else (.ok false, r)
      | none => (.ok false, r) := by
  unfold transition
  simp only [Repo.run_get_bind]
  rcases r.task? user id with _ | t
  · rfl
  · dsimp only
    cases allowed.contains t.status <;> rfl

/-- The repository after one listed task was looked at by a timeout sweep. -/
def sweepOne (user : Uuid) (now : Instant) (timeoutMs : Int) (r : Repository) (id : Uuid) : Repository :=
  if staleAt r user now timeoutMs id then (ExceptT.run (finishTask id .error (some (timeoutError timeoutMs))) r).2
  else r

theorem expireEach_state (user : Uuid) (now : Instant) (timeoutMs : Int) (ids : List Uuid)
    (r : Repository) :
    (ExceptT.run (expireEach user now timeoutMs ids) r).2 = ids.foldl (sweepOne user now timeoutMs) r ∧
      ∃ n, (ExceptT.run (expireEach user now timeoutMs ids) r).1 = .ok n := by
  induction ids generalizing r with
  | nil => exact ⟨rfl, 0, rfl⟩
  | cons id rest ih =>
    unfold expireEach
    simp only [Repo.run_get_bind, List.foldl_cons]
    rw [sweepOne]
    cases staleAt r user now timeoutMs id
    · simp only [Bool.false_eq_true, if_false, bind_pure]
      exact ih r
    · simp only [if_true, Repo.run_bind, run_finishTask]
      obtain ⟨hstate, n, hn⟩ := ih
        { r with clock := r.clock.addMillis 1,
                 tasks := r.tasks.map fun t => if t.id == id then
                   t.finish .error (some (timeoutError timeoutMs)) (r.clock.addMillis 1) else t }
      rcases h : ExceptT.run (expireEach user now timeoutMs rest) _ with ⟨_ | m, r'⟩
      · rw [h] at hn
        cases hn
      · rw [h] at hstate
        exact ⟨hstate, m + 1, rfl⟩

/-- A timeout sweep reads the clock, then looks at each listed task in turn; it never fails. -/
theorem run_failTimedOut (user : Uuid) (ids : List Uuid) (timeoutMs : Int) (r : Repository) :
    ∃ n, ExceptT.run (failTimedOut user ids timeoutMs) r =
      (.ok n, ids.foldl (sweepOne user (r.clock.addMillis 1) timeoutMs)
        { r with clock := r.clock.addMillis 1 }) := by
  obtain ⟨hstate, n, hn⟩ := expireEach_state user (r.clock.addMillis 1) timeoutMs ids
    { r with clock := r.clock.addMillis 1 }
  refine ⟨n, ?_⟩
  rw [failTimedOut, Repo.run_bind, run_now]
  exact Prod.ext hn hstate

/-! ## Completing a generation -/

theorem run_fileFor (user : Uuid) (file : NewFile) (r : Repository) :
    ExceptT.run (fileFor user file) r =
      match r.fileWithHash? user file.fileHash with
      | some f => (.ok f, r)
      | none =>
        let f : FileRecord :=
          { id := (Uuid.draw r.entropy).1, user, name := file.name, fileType := file.fileType,
            fileHash := file.fileHash, size := file.size, url := file.url,
            metadata := file.metadata, createdAt := r.clock.addMillis 1 }
        (.ok f, { r with clock := r.clock.addMillis 1, entropy := r.entropy.skip 1,
                         files := r.files ++ [f] }) := by
  unfold fileFor
  simp only [Repo.run_get_bind]
  rcases r.fileWithHash? user file.fileHash with _ | f <;> rfl

/-- Finding or storing a file never fails, and writes the clock, the source and the files
only. -/
theorem fileFor_ok (user : Uuid) (file : NewFile) (r : Repository) :
    ∃ record clock entropy files, ExceptT.run (fileFor user file) r =
      (.ok record, { r with clock, entropy, files }) := by
  rw [run_fileFor]
  split
  · exact ⟨_, r.clock, r.entropy, r.files, rfl⟩
  · exact ⟨_, _, _, _, rfl⟩

theorem run_attachAsset (gen : Uuid) (asset : Asset) (record : FileRecord) (r : Repository) :
    ExceptT.run (attachAsset gen asset record) r =
      (.ok (), { r with generations := r.generations.map fun g =>
        if g.id == gen then
          { g with asset := some { asset with url := record.url, thumbnailUrl := record.thumbnailKey },
                   file := some record.id }
        else g }) := rfl

theorem run_completeGeneration_of_idle {user gen task : Uuid} {asset : Asset} {file : NewFile}
    {r : Repository} (hp : (r.task? user task).any (·.status == .processing) = false) :
    ExceptT.run (completeGeneration user gen task asset file) r = (.ok none, r) := by
  unfold completeGeneration
  simp only [Repo.run_get_bind]
  rcases h : r.task? user task with _ | t
  · rfl
  · rw [h] at hp
    simp only [Option.any_some] at hp
    simp only [hp]
    rfl

theorem run_completeGeneration_of_missing {user gen task : Uuid} {asset : Asset} {file : NewFile}
    {r : Repository} (hp : (r.task? user task).any (·.status == .processing) = true)
    (hg : r.generation? user gen = none) :
    ExceptT.run (completeGeneration user gen task asset file) r =
      (.error (.notFound ("Generation " ++ gen.toText ++ " not found")), r) := by
  unfold completeGeneration
  simp only [Repo.run_get_bind]
  rcases h : r.task? user task with _ | t
  · rw [h] at hp
    cases hp
  · rw [h] at hp
    simp only [Option.any_some] at hp
    simp only [hp, hg]
    rfl

theorem run_completeGeneration {user gen task : Uuid} {asset : Asset} {file : NewFile}
    {r r₁ : Repository} {record : FileRecord}
    (hp : (r.task? user task).any (·.status == .processing) = true)
    (hg : (r.generation? user gen).isSome = true)
    (hf : ExceptT.run (fileFor user file) r = (.ok record, r₁)) :
    ExceptT.run (completeGeneration user gen task asset file) r =
      (.ok (some record),
        { r₁ with
          clock := r₁.clock.addMillis 1
          generations := r₁.generations.map fun g =>
            if g.id == gen then
              { g with asset := some { asset with url := record.url, thumbnailUrl := record.thumbnailKey },
                       file := some record.id }
            else g
          tasks := r₁.tasks.map fun t =>
            if t.id == task then t.finish .success none (r₁.clock.addMillis 1) else t }) := by
  unfold completeGeneration
  simp only [Repo.run_get_bind]
  rcases h : r.task? user task with _ | t
  · rw [h] at hp
    cases hp
  · rw [h] at hp
    simp only [Option.any_some] at hp
    rcases hgen : r.generation? user gen with _ | g
    · rw [hgen] at hg
      cases hg
    · simp only [hp, Option.isNone_some, if_true, Bool.false_eq_true, if_false, Repo.run_bind, hf]
      rfl

end Repository

/-- A timeout sweep call reads the clock, then looks at each listed task in turn. -/
theorem RepoCall.apply_failTimedOut (user : Uuid) (ids : List Uuid) (timeoutMs : Int)
    (r : Repository) :
    (RepoCall.failTimedOut user ids timeoutMs).apply r =
      ids.foldl (Repository.sweepOne user (r.clock.addMillis 1) timeoutMs)
        { r with clock := r.clock.addMillis 1 } := by
  obtain ⟨n, hrun⟩ := Repository.run_failTimedOut user ids timeoutMs r
  rw [RepoCall.apply, Repository.settle_of_ok hrun]

end ImageStudio
