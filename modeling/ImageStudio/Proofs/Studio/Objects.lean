import ImageStudio.Proofs.Studio.Claims
import ImageStudio.Proofs.Repository.Files
import ImageStudio.Proofs.Storage.Keys

/-!
# Proofs · Studio · Objects: every stored object is accounted for

The object store and the files are written in separate steps. A job puts its objects,
then completes its generation with a file that names them, or removes them again when the
completion kept another file or none; a deletion removes its rows, then the objects of the
files that went, one by one. Between these steps an object is *held*: by the job that put
it (`JobStage.heldKeys`) or by the deletion about to remove it (`RequestStage.heldKeys`). A
job that has chosen a thumbnail's key and not put it yet has *chosen* it
(`JobStage.chosenKeys`).

`Studio.Accounted` is the invariant: the keys of the files, the held keys and the chosen
keys are pairwise distinct, each named by an identifier the source drew, and the stored
objects are exactly those of the files and the held keys. Each kind of change keeps it: a
program that writes neither files nor objects (`Accounted.quiet`), moving keys between the
files and the holders (`Accounted.transfer`), choosing fresh keys (`Accounted.choose`),
putting a chosen key (`Accounted.putObject`) and removing a held one
(`Accounted.deleteObject`). These hold only while the store serves every put and deletion:
a refused put leaves a raw image without its thumbnail, and a refused deletion leaves an
object that no file names.
-/

namespace ImageStudio

namespace JobStage

/-- The objects a job has put and still answers for: stored, named by no file of its own yet,
and not removed. -/
def heldKeys : JobStage → List String
  | .putThumb _ _ keys _ _ _ => [keys.image]
  | .complete _ _ _ _ (some keys) => keys.keys
  | .discard keys next => keys ++ next.heldKeys
  | _ => []

/-- The key a job has chosen and not put yet: a separate thumbnail's. -/
def chosenKeys : JobStage → List String
  | .putThumb _ _ keys _ _ _ => [keys.thumbnail]
  | _ => []

/-- Whether a job is between its first put and the end of its removals. -/
def uploading : JobStage → Bool
  | .putThumb .. => true
  | .complete _ _ _ _ (some _) => true
  | .discard .. => true
  | _ => false

/-- The key of the stored file a job waits to complete its generation with. -/
def reusedKey? : JobStage → Option String
  | .complete _ _ imageKey _ none => some imageKey
  | _ => none

/-- What a job at this stage relies on: the raw image it put, while it waits to put the
thumbnail; the keys it put, while it waits to complete with them; the stored file it found,
while it waits to complete with that; and, while it removes objects, that it goes on to a
stage that neither holds nor waits for any. -/
def Ready (job : Job) (files : List FileRecord) : JobStage → Prop
  | .putThumb _ _ _ _ _ raw => raw = .ok ()
  | .complete _ p imageKey thumbKey uploaded =>
    match uploaded with
    | some keys => imageKey = keys.image ∧ thumbKey = keys.thumbnail
    | none => ∃ f ∈ files, f.url = imageKey ∧ f.user = job.user ∧ f.fileHash = p.raw.hash
  | .discard _ next => next.uploading = false ∧ next.reusedKey? = none
  | _ => True

/-- A job that answers for no object and waits for no stored file. -/
def Idle (st : JobStage) : Prop := st.uploading = false ∧ st.reusedKey? = none

theorem heldKeys_of_uploading {st : JobStage} (h : st.uploading = false) :
    st.heldKeys = [] ∧ st.chosenKeys = [] := by
  cases st with
  | putThumb | discard => cases h
  | complete image p imageKey thumbKey uploaded =>
    cases uploaded with
    | none => exact ⟨rfl, rfl⟩
    | some keys => cases h
  | _ => exact ⟨rfl, rfl⟩

/-- An idle job relies on nothing. -/
theorem Idle.ready {st : JobStage} (h : st.Idle) (job : Job) (files : List FileRecord) :
    st.Ready job files := by
  cases st with
  | putThumb | discard => cases h.1
  | complete image p imageKey thumbKey uploaded =>
    cases uploaded with
    | none => cases h.2
    | some keys => cases h.1
  | _ => trivial

/-- Whatever a completion answers, the job goes on idle. -/
theorem afterComplete_idle (c : Except PortError (Option FileRecord)) : (afterComplete c).Idle := by
  rcases c with _ | _ | _ <;> exact ⟨rfl, rfl⟩

/-- What a job relies on stays as long as the file it found for reuse does. -/
theorem Ready.of_spared {job : Job} {files files' : List FileRecord} {st : JobStage}
    (h : st.Ready job files) (hspared : ∀ k ∈ st.reusedKey?, ∀ f ∈ files, f.url = k → f ∈ files') :
    st.Ready job files' := by
  cases st with
  | complete image p imageKey thumbKey uploaded =>
    cases uploaded with
    | none =>
      obtain ⟨f, hf, hurl, hown⟩ := h
      exact ⟨f, hspared imageKey rfl f hf hurl, hurl, hown⟩
    | some keys => exact h
  | _ => exact h

end JobStage

namespace RequestStage

/-- The objects a deletion still has to remove. -/
def heldKeys : RequestStage → List String
  | .purge keys => keys
  | _ => []

/-- Whether a deletion is between removing its rows and removing their objects. -/
def purging : RequestStage → Bool
  | .purge _ => true
  | _ => false

theorem heldKeys_of_purging {st : RequestStage} (h : st.purging = false) : st.heldKeys = [] := by
  cases st with
  | purge => cases h
  | _ => rfl

end RequestStage

/-- An upload holds one key, or two when the thumbnail is stored apart. -/
theorem UploadedKeys.mem_keys {keys : UploadedKeys} {k : String} :
    k ∈ keys.keys ↔ k = keys.image ∨ k = keys.thumbnail := by
  unfold UploadedKeys.keys
  split
  · rename_i heq
    rw [beq_iff_eq] at heq
    rw [List.mem_singleton, ← heq, or_self]
  · rw [List.mem_cons, List.mem_singleton]

theorem UploadedKeys.nodup_keys (keys : UploadedKeys) : keys.keys.Nodup := by
  unfold UploadedKeys.keys
  split
  · exact List.nodup_singleton _
  · rename_i hne
    rw [beq_iff_eq] at hne
    exact List.nodup_cons.2 ⟨fun h => hne (List.mem_singleton.1 h), List.nodup_singleton _⟩

namespace Studio

/-- The keys of the stored objects. -/
def storedKeys (s : Studio) : List String := s.bucket.objects.map (·.key)

/-- The keys of the objects the files name. -/
def fileKeys (s : Studio) : List String := s.repo.files.flatMap (·.objectKeys)

/-- Whether the object store serves every put and deletion. -/
def Serving (s : Studio) : Prop := s.bucket.refusePuts = false ∧ s.bucket.refuseDeletes = false

instance (s : Studio) : Decidable s.Serving := inferInstanceAs (Decidable (_ ∧ _))

/-- The keys of a studio are accounted for, with the keys `held` by the jobs and deletions
in flight and the keys `chosen` by jobs that have not put them: all are distinct and named
by identifiers the source drew from `e₀`, and the stored objects are exactly the files' and
the held ones. -/
structure Accounted (e₀ : Entropy) (s : Studio) (held chosen : List String) : Prop where
  nodup : (s.fileKeys ++ held ++ chosen).Nodup
  stored : ∀ k, k ∈ s.storedKeys ↔ k ∈ s.fileKeys ∨ k ∈ held
  named : ∀ k ∈ s.fileKeys ++ held ++ chosen, ∃ u ∈ e₀.drawnUntil s.repo.entropy, u.Names k
  serving : s.Serving

/-- A program that writes neither files nor objects, and only moves the source on. -/
def Quiet {α : Type} (m : StateM Studio α) : Prop :=
  ∀ s, (m.run s).2.repo.files = s.repo.files ∧ (m.run s).2.bucket = s.bucket ∧
    ∃ j, (m.run s).2.repo.entropy = s.repo.entropy.skip j

namespace Quiet

variable {α β : Type}

theorem pure (a : α) : Quiet (Pure.pure a : StateM Studio α) := fun _ => ⟨rfl, rfl, 0, rfl⟩

theorem bind {m : StateM Studio α} {f : α → StateM Studio β} (hm : Quiet m)
    (hf : ∀ a, Quiet (f a)) : Quiet (m >>= f) := by
  intro s
  obtain ⟨hfiles₁, hbucket₁, j₁, hent₁⟩ := hm s
  obtain ⟨hfiles₂, hbucket₂, j₂, hent₂⟩ := hf (m.run s).1 (m.run s).2
  rw [Studio.run_bind]
  refine ⟨hfiles₂.trans hfiles₁, hbucket₂.trans hbucket₁, j₁ + j₂, ?_⟩
  rw [hent₂, hent₁, Entropy.skip_skip]

/-- A program whose calls write no files writes neither files nor objects. -/
theorem of_through {P : RepoCall → Prop} {m : StateM Studio α} (h : Through P m)
    (hP : ∀ c, P c → c.writesFiles = false) (hbucket : ∀ s, (m.run s).2.bucket = s.bucket) :
    Quiet m := by
  intro s
  obtain ⟨j, hj, -⟩ := (h s).draws
  exact ⟨(h s).files_eq hP, hbucket s, j, hj⟩

theorem of_calls {P : RepoCall → Prop} {m : StateM Studio α} (h : Calls P m)
    (hP : ∀ c, P c → c.writesFiles = false) : Quiet m := by
  refine of_through (.of_calls h) hP fun s => ?_
  obtain ⟨r', -, seeds, hs⟩ := h s
  rw [hs]

end Quiet

/-! ### The object store's two writes, when it serves them -/

/-- A key other than the removed one stays stored. -/
theorem mem_keys_filter {objects : List StoredObject} {k k' : String} :
    k' ∈ (objects.filter (·.key != k)).map (·.key) ↔ k' ∈ objects.map (·.key) ∧ k' ≠ k := by
  simp only [List.mem_map, List.mem_filter, bne_iff_ne, ne_eq]
  constructor
  · rintro ⟨o, ⟨ho, hne⟩, rfl⟩
    exact ⟨⟨o, ho, rfl⟩, hne⟩
  · rintro ⟨⟨o, ho, rfl⟩, hne⟩
    exact ⟨o, ⟨ho, hne⟩, rfl⟩

theorem deleteObject_run {s : Studio} (hs : s.Serving) (k : String) :
    (deleteObject k).run s =
      ((), { s with bucket := { s.bucket with objects := s.bucket.objects.filter (·.key != k) } }) := by
  simp only [deleteObject, Studio.run_get_bind, Bucket.delete, hs.2]
  rfl

/-- A put that the store serves adds its key to the stored ones, after the timeouts a slow
store lets happen, which write neither files nor objects. -/
theorem putObject_run {s : Studio} (hs : s.Serving) (k : String) (blob : Blob) (contentType : String) :
    ∃ s₁ : Studio, (s₁.repo.files = s.repo.files ∧ s₁.bucket = s.bucket ∧
      ∃ j, s₁.repo.entropy = s.repo.entropy.skip j) ∧
      (putObject k blob contentType).run s = (.ok (), { s₁ with bucket := { s₁.bucket with
        objects := s₁.bucket.objects.filter (·.key != k) ++ [{ key := k, blob, contentType }] } }) := by
  have hexpire : Quiet expireAll := Quiet.of_calls (expireAll_calls (P := fun c => c.writesFiles = false)
    fun _ _ => rfl) fun _ hc => hc
  unfold putObject
  rw [Studio.run_get_bind]
  -- the store serves the put from wherever the timeouts left it, with the bucket as it was
  by_cases hslow : s.bucket.slowPuts = true
  · obtain ⟨hfiles, hbucket, j, hent⟩ := hexpire s
    refine ⟨(expireAll.run s).2, ⟨hfiles, hbucket, j, hent⟩, ?_⟩
    have hrefuse : (expireAll.run s).2.bucket.refusePuts = false := by rw [hbucket]; exact hs.1
    rw [if_pos hslow, Studio.run_bind]
    simp only [Studio.run_get_bind, Bucket.put, hrefuse]
    rfl
  · refine ⟨s, ⟨rfl, rfl, 0, rfl⟩, ?_⟩
    rw [if_neg hslow]
    simp only [Studio.run_get_bind, Bucket.put, hs.1]
    rfl

namespace Accounted

variable {e₀ : Entropy} {s s' : Studio} {held chosen : List String}

/-- The held and chosen keys may be listed in any order. -/
theorem perm (h : s.Accounted e₀ held chosen) {held' chosen' : List String}
    (hheld : held.Perm held') (hchosen : chosen.Perm chosen') : s.Accounted e₀ held' chosen' := by
  have hall : (s.fileKeys ++ held ++ chosen).Perm (s.fileKeys ++ held' ++ chosen') :=
    (hheld.append_left s.fileKeys).append hchosen
  refine ⟨hall.nodup_iff.1 h.nodup, fun k => ?_, fun k hk => h.named k (hall.mem_iff.2 hk), h.serving⟩
  rw [h.stored k, hheld.mem_iff]

/-- Keys that move between the files and the holders stay accounted for, when the objects
stay as they are and the source only moves on. -/
theorem transfer (h : s.Accounted e₀ held chosen) {held' : List String}
    (hperm : (s'.fileKeys ++ held').Perm (s.fileKeys ++ held)) (hbucket : s'.bucket = s.bucket)
    {j : Nat} (hent : s'.repo.entropy = s.repo.entropy.skip j) : s'.Accounted e₀ held' chosen := by
  have hall := hperm.append_right chosen
  refine ⟨hall.nodup_iff.2 h.nodup, fun k => ?_, fun k hk => ?_, ?_⟩
  · have hstored : s'.storedKeys = s.storedKeys := by rw [storedKeys, storedKeys, hbucket]
    rw [hstored, h.stored k, ← List.mem_append, ← List.mem_append, hperm.mem_iff]
  · obtain ⟨u, hu, hname⟩ := h.named k (hall.mem_iff.1 hk)
    refine ⟨u, ?_, hname⟩
    rw [hent]
    exact Entropy.mem_drawnUntil_skip hu j
  · rw [Serving, hbucket]
    exact h.serving

/-- A program that writes neither files nor objects keeps the accounts. -/
theorem quiet (h : s.Accounted e₀ held chosen) {α : Type} {m : StateM Studio α} (hm : Quiet m) :
    (m.run s).2.Accounted e₀ held chosen := by
  obtain ⟨hfiles, hbucket, j, hent⟩ := hm s
  exact h.transfer (List.Perm.of_eq (by rw [fileKeys, fileKeys, hfiles])) hbucket hent

/-- Removing a held object settles the holder's account for it. -/
theorem deleteObject {X Y : List String} {k : String} (h : s.Accounted e₀ (X ++ k :: Y) chosen) :
    ((Studio.deleteObject k).run s).2.Accounted e₀ (X ++ Y) chosen := by
  rw [deleteObject_run h.serving]
  have hsub : (s.fileKeys ++ (X ++ Y) ++ chosen).Sublist (s.fileKeys ++ (X ++ k :: Y) ++ chosen) :=
    (((List.sublist_cons_self k Y).append_left X).append_left s.fileKeys).append_right chosen
  -- the key is held once: no file names it and no other holder holds it
  have hk : k ∉ s.fileKeys ++ (X ++ Y) := by
    have hperm : (s.fileKeys ++ (X ++ k :: Y) ++ chosen).Perm
        (k :: (s.fileKeys ++ (X ++ Y)) ++ chosen) :=
      ((List.perm_middle.append_left _).append_right _).trans (List.perm_middle.append_right _)
    have hn := hperm.nodup_iff.1 h.nodup
    rw [List.cons_append, List.nodup_cons] at hn
    exact fun hmem => hn.1 (List.mem_append_left _ hmem)
  refine ⟨h.nodup.sublist hsub, fun k' => ?_, fun k' hk' => h.named k' (hsub.subset hk'), h.serving⟩
  show k' ∈ (s.bucket.objects.filter (·.key != k)).map (·.key) ↔ _
  rw [mem_keys_filter, ← storedKeys, h.stored k']
  constructor
  · rintro ⟨hF | hheld, hne⟩
    · exact .inl hF
    · right
      rw [List.mem_append, List.mem_cons] at hheld
      rw [List.mem_append]
      rcases hheld with hX | rfl | hY
      · exact .inl hX
      · exact absurd rfl hne
      · exact .inr hY
  · intro hk'
    refine ⟨?_, fun heq => hk (heq ▸ List.mem_append.2 hk')⟩
    rcases hk' with hF | hheld
    · exact .inl hF
    · right
      rw [List.mem_append] at hheld ⊢
      rcases hheld with hX | hY
      · exact .inl hX
      · exact .inr (List.mem_cons_of_mem _ hY)

/-- Keys named by an identifier drawn fresh are no one else's, and can be chosen. -/
theorem choose (h : s.Accounted e₀ held chosen) (hd : s.repo.Drawn e₀)
    (hfresh : (e₀.drawnUntil (s.repo.entropy.skip 1)).Nodup) (p : Processed) :
    ((uploadKeys p).run s).2.Accounted e₀ held (chosen ++ ((uploadKeys p).run s).1.keys) := by
  have hdrawn : e₀.drawnUntil (s.repo.entropy.skip 1) =
      e₀.drawnUntil s.repo.entropy ++ [(Uuid.draw s.repo.entropy).1] := hd.drawnUntil_skip 1
  rw [hdrawn, List.nodup_append] at hfresh
  -- the identifier the new keys are named by was not drawn before
  have hu : (Uuid.draw s.repo.entropy).1 ∉ e₀.drawnUntil s.repo.entropy :=
    fun hmem => hfresh.2.2 _ hmem _ (List.mem_singleton_self _) rfl
  have hnames : ∀ k ∈ ((uploadKeys p).run s).1.keys, (Uuid.draw s.repo.entropy).1.Names k := by
    intro k hk
    rcases UploadedKeys.mem_keys.1 hk with rfl | rfl
    · exact (uploadKeys_names p s).1
    · exact (uploadKeys_names p s).2
  have hfiles : ((uploadKeys p).run s).2.fileKeys = s.fileKeys := by rw [uploadKeys_state]; rfl
  have hstored : ((uploadKeys p).run s).2.storedKeys = s.storedKeys := by
    rw [uploadKeys_state]; rfl
  refine ⟨?_, fun k => ?_, fun k hk => ?_, ?_⟩
  · rw [hfiles, ← List.append_assoc, List.nodup_append]
    refine ⟨h.nodup, UploadedKeys.nodup_keys _, fun a ha b hb hab => ?_⟩
    obtain ⟨u, hu', hname⟩ := h.named a ha
    rw [hab] at hname
    have hsame := (hnames b hb).unique hname
    rw [hsame] at hu
    exact hu hu'
  · rw [hstored, hfiles]
    exact h.stored k
  · rw [hfiles, ← List.append_assoc, List.mem_append] at hk
    rw [uploadKeys_state]
    show ∃ u ∈ e₀.drawnUntil (s.repo.entropy.skip 1), u.Names k
    rw [hdrawn]
    rcases hk with hold | hnew
    · obtain ⟨u, hu', hname⟩ := h.named k hold
      exact ⟨u, List.mem_append_left _ hu', hname⟩
    · exact ⟨_, List.mem_append_right _ (List.mem_singleton_self _), hnames k hnew⟩
  · rw [uploadKeys_state]
    exact h.serving

/-- A put that the store serves turns a chosen key into a held one. -/
theorem putObject {C₁ C₂ : List String} {k : String} (h : s.Accounted e₀ held (C₁ ++ k :: C₂))
    (blob : Blob) (contentType : String) :
    ((Studio.putObject k blob contentType).run s).1 = .ok () ∧
      ((Studio.putObject k blob contentType).run s).2.Accounted e₀ (held ++ [k]) (C₁ ++ C₂) := by
  obtain ⟨s₁, ⟨hfiles, hbucket, j, hent⟩, hrun⟩ := putObject_run h.serving k blob contentType
  rw [hrun]
  refine ⟨rfl, ?_⟩
  -- the timeouts of a slow store change no key
  have h₁ : s₁.Accounted e₀ held (C₁ ++ k :: C₂) :=
    h.transfer (List.Perm.of_eq (by rw [fileKeys, fileKeys, hfiles])) hbucket hent
  have hperm : (s₁.fileKeys ++ held ++ (C₁ ++ k :: C₂)).Perm
      (s₁.fileKeys ++ (held ++ [k]) ++ (C₁ ++ C₂)) :=
    (List.perm_middle.append_left _).trans (List.Perm.of_eq (by simp only [List.append_assoc,
      List.cons_append, List.nil_append]))
  refine ⟨hperm.nodup_iff.1 h₁.nodup, fun k' => ?_, fun k' hk' => h₁.named k' (hperm.mem_iff.2 hk'),
    h₁.serving⟩
  -- the key joins the stored ones, replacing an object under it if there was one
  show k' ∈ (s₁.bucket.objects.filter (fun o : StoredObject => o.key != k) ++
      [({ key := k, blob, contentType } : StoredObject)]).map (·.key) ↔
    k' ∈ s₁.fileKeys ∨ k' ∈ held ++ [k]
  rw [List.map_append, List.mem_append, mem_keys_filter, ← storedKeys, h₁.stored k',
    List.map_singleton, List.mem_singleton, List.mem_append, List.mem_singleton]
  by_cases hk : k' = k
  · simp only [hk, or_true]
  · simp only [hk, ne_eq, not_false_eq_true, and_true, or_false]

end Accounted

end Studio

end ImageStudio
