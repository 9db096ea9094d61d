import ImageStudio.Proofs.Repository.Fresh
import ImageStudio.Proofs.Repository.Refusals

/-!
# Proofs · Repository · Isolation: a call sees and changes the caller's rows only

Every call is made for one user, and every lookup it makes by identifier is filtered by that
user. `Repository.restrictTo r keep` is the repository with only the rows of the users that
`keep` selects. A call for `u` *acts for* `u` from `r` (`Repository.ActsFor`) when it leaves
the rows of every other user as they were, every row it returns is a row of `u`, and, run
on the rows of `u` alone, it answers the same and leaves the same rows of `u`. So the other
users' rows make no difference to it: an identifier of another user's row behaves as an
identifier that names nothing.

Some lookups do not check the user again. A batch's generations are found by the batch's
identifier, a generation's task by the task's, and a deletion purges the files that no
generation of any user still names. There the links between rows (`Repository.Linked`)
and identifiers named once take the place of the check: a generation lies in a batch of its
user, and a generation that names a file names one of its user's.

`Repository.ActsFor` is closed under `pure`, `throw`, `bind` and the reads of the clock, the
source and the state (`ActsFor.bind`, `ActsFor.get_bind`), so each operation is checked one
step at a time. Every call acts for its user on a linked repository whose rows are named
once (`RepoCall.actsFor`), hence on every repository that calls with fresh identifiers can
build (`RepoCall.isolated`).
-/

namespace ImageStudio

/-- What a call answers: the result of its operation. -/
inductive RepoReply where
  | topic (t : Topic)
  | topics (ts : List Topic)
  | flag (b : Bool)
  | files (fs : List FileRecord)
  | created (cb : CreatedBatch)
  | feed (bs : List BatchViewDto)
  | removed (fs : Option (List FileRecord))
  | generation (g : Option Generation)
  | file (f : Option FileRecord)
  | deleted (d : Option DeletedGeneration)
  | task (t : Option Task)
  | count (n : Nat)

/-- The users of the rows a reply carries. A feed carries views, which name no user; a
created batch names its tasks by identifier only. -/
def RepoReply.owners : RepoReply → List Uuid
  | .topic t => [t.user]
  | .topics ts => ts.map (·.user)
  | .flag _ => []
  | .files fs => fs.map (·.user)
  | .created cb => cb.batch.user :: cb.generations.map (·.user)
  | .feed _ => []
  | .removed fs => (fs.getD []).map (·.user)
  | .generation g => g.toList.map (·.user)
  | .file f => f.toList.map (·.user)
  | .deleted d => d.toList.flatMap fun d => d.generation.user :: d.deletedFile.toList.map (·.user)
  | .task t => t.toList.map (·.user)
  | .count _ => []

namespace RepoCall

/-- The user a call is made for. -/
def user : RepoCall → Uuid
  | .createTopic user _ | .getTopic user _ | .listTopics user | .updateTopic user _ _ _
  | .setCoverIfEmpty user _ _ | .deleteTopic user _ | .createBatch user _ | .batchesOf user _
  | .deleteBatch user _ | .getGeneration user _ | .findFile user _
  | .completeGeneration user _ _ _ _ | .deleteGeneration user _ | .getTask user _
  | .transition user _ _ _ _ | .failTimedOut user _ _ => user

open Repository (settle) in
/-- What a call answers, and the repository after it. -/
def run : RepoCall → Repository → Except PortError RepoReply × Repository
  | .createTopic user title, r => settle (.topic <$> Repository.createTopic user title) r
  | .getTopic user id, r => settle (.topic <$> Repository.getTopic user id) r
  | .listTopics user, r => (.ok (.topics (r.topicsOf user)), r)
  | .updateTopic user id title cover, r =>
    settle (.topic <$> Repository.updateTopic user id title cover) r
  | .setCoverIfEmpty user id cover, r =>
    settle (.flag <$> Repository.setCoverIfEmpty user id cover) r
  | .deleteTopic user id, r => settle (.files <$> Repository.deleteTopic user id) r
  | .createBatch user nb, r => settle (.created <$> Repository.createBatch user nb) r
  | .batchesOf user topic, r => (.ok (.feed (r.batchesOf user topic)), r)
  | .deleteBatch user id, r => settle (.removed <$> Repository.deleteBatch user id) r
  | .getGeneration user id, r => (.ok (.generation (r.generation? user id)), r)
  | .findFile user hash, r => (.ok (.file (r.fileWithHash? user hash)), r)
  | .completeGeneration user gen task asset file, r =>
    settle (.file <$> Repository.completeGeneration user gen task asset file) r
  | .deleteGeneration user id, r => settle (.deleted <$> Repository.deleteGeneration user id) r
  | .getTask user id, r => (.ok (.task (r.task? user id)), r)
  | .transition user id allowed target error, r =>
    settle (.flag <$> Repository.transition user id allowed target error) r
  | .failTimedOut user ids timeoutMs, r =>
    settle (.count <$> Repository.failTimedOut user ids timeoutMs) r

end RepoCall

namespace Repository

/-- The repository with only the rows of the users that `keep` selects; the clock and the
source stay. -/
def restrictTo (r : Repository) (keep : Uuid → Bool) : Repository :=
  { r with
    topics := r.topics.filter (keep ·.user)
    batches := r.batches.filter (keep ·.user)
    generations := r.generations.filter (keep ·.user)
    tasks := r.tasks.filter (keep ·.user)
    files := r.files.filter (keep ·.user) }

theorem settle_map {α β : Type} (g : α → β) (m : Repo α) (r : Repository) :
    settle (g <$> m) r = ((settle m r).1.map g, (settle m r).2) := by
  unfold settle
  rw [Repo.run_map]
  rcases ExceptT.run m r with ⟨_ | _, _⟩ <;> rfl

theorem RowsKept.trans {r r' r'' : Repository} (h₁ : RowsKept r r') (h₂ : RowsKept r' r'') :
    RowsKept r r'' := by
  unfold RowsKept at h₁ h₂ ⊢
  rw [h₂, h₁]

/-! ## Rows of one user in a table -/

section Rows

variable {α : Type} (owner : α → Uuid) (u : Uuid)

/-- Rows of `u` appended to a table are rows of `u`, and no other user's. -/
theorem filter_append_own {l xs : List α} (hxs : ∀ x ∈ xs, owner x = u) :
    (l ++ xs).filter (fun x => owner x == u) = l.filter (fun x => owner x == u) ++ xs ∧
      (l ++ xs).filter (fun x => owner x != u) = l.filter (fun x => owner x != u) := by
  have hkeep : xs.filter (fun x => owner x == u) = xs :=
    List.filter_eq_self.2 fun x hx => by simp [hxs x hx]
  have hdrop : xs.filter (fun x => owner x != u) = [] :=
    List.filter_eq_nil_iff.2 fun x hx => by simp [hxs x hx]
  rw [List.filter_append, List.filter_append, hkeep, hdrop, List.append_nil]
  exact ⟨rfl, rfl⟩

/-- A change that touches rows of `u` only, and leaves them rows of `u`, changes the rows of
`u` alike and keeps every other row. -/
theorem filter_map_own {l : List α} {f : α → α}
    (hf : ∀ x ∈ l, f x = x ∨ (owner x = u ∧ owner (f x) = u)) :
    (l.map f).filter (fun x => owner x == u) = (l.filter (fun x => owner x == u)).map f ∧
      (l.map f).filter (fun x => owner x != u) = l.filter (fun x => owner x != u) := by
  induction l with
  | nil => exact ⟨rfl, rfl⟩
  | cons x l ih =>
    obtain ⟨ih₁, ih₂⟩ := ih fun y hy => hf y (List.mem_cons_of_mem _ hy)
    rcases hf x List.mem_cons_self with hx | ⟨hx, hfx⟩
    · by_cases hxu : owner x = u <;> simp [hx, hxu, ih₁, ih₂]
    · simp [hx, hfx, ih₁, ih₂]

/-- Removing rows with a test that keeps every other user's row, and that `q'` agrees with on
the rows of `u`, removes the same rows of `u` and keeps every other row. -/
theorem filter_filter_own {l : List α} {q q' : α → Bool}
    (hq : ∀ x ∈ l, owner x ≠ u → q x = true) (hq' : ∀ x ∈ l, owner x = u → q' x = q x) :
    (l.filter q).filter (fun x => owner x == u) = (l.filter (fun x => owner x == u)).filter q' ∧
      (l.filter q).filter (fun x => owner x != u) = l.filter (fun x => owner x != u) := by
  induction l with
  | nil => exact ⟨rfl, rfl⟩
  | cons x l ih =>
    obtain ⟨ih₁, ih₂⟩ := ih (fun y hy => hq y (List.mem_cons_of_mem _ hy))
      (fun y hy => hq' y (List.mem_cons_of_mem _ hy))
    by_cases hxu : owner x = u
    · have hqx' := hq' x List.mem_cons_self hxu
      cases hqx : q x <;> simp [hqx, hqx', hxu, ih₁, ih₂]
    · simp [hq x List.mem_cons_self hxu, hxu, ih₁, ih₂]

/-- Selecting rows with a test that selects rows of `u` only, and that `p'` agrees with on the
rows of `u`, selects the same rows among the rows of `u` alone. -/
theorem filter_own_of_select {l : List α} {p p' : α → Bool}
    (hp : ∀ x ∈ l, p x = true → owner x = u) (hp' : ∀ x ∈ l, owner x = u → p' x = p x) :
    (l.filter (fun x => owner x == u)).filter p' = l.filter p := by
  induction l with
  | nil => rfl
  | cons x l ih =>
    have ih' := ih (fun y hy => hp y (List.mem_cons_of_mem _ hy))
      (fun y hy => hp' y (List.mem_cons_of_mem _ hy))
    by_cases hxu : owner x = u
    · rw [List.filter_cons, if_pos (by simpa using hxu), List.filter_cons, List.filter_cons,
        hp' x List.mem_cons_self hxu, ih']
    · have hpx : p x = false := by
        cases hpx : p x
        · rfl
        · exact absurd (hp x List.mem_cons_self hpx) hxu
      rw [List.filter_cons, if_neg (by simpa using hxu), List.filter_cons, hpx, ih']
      rfl

/-- A lookup that only finds rows of `u` finds the same row among the rows of `u` alone. -/
theorem find?_filter_own {l : List α} {p : α → Bool} (hp : ∀ x ∈ l, p x = true → owner x = u) :
    (l.filter (fun x => owner x == u)).find? p = l.find? p := by
  induction l with
  | nil => rfl
  | cons x l ih =>
    have ih' := ih fun y hy => hp y (List.mem_cons_of_mem _ hy)
    by_cases hpx : p x = true
    · simp [hpx, hp x List.mem_cons_self hpx]
    · by_cases hxu : owner x = u <;> simp [hpx, hxu, ih']

/-- In a table whose rows are named once, the rows named like a row of `u` are of `u`. -/
theorem owner_of_nodup {key : α → Uuid} {l : List α} (hids : (l.map key).Nodup) {y : α}
    (hy : y ∈ l) (hyu : owner y = u) : ∀ x ∈ l, key x = key y → owner x = u := by
  intro x hx hxy
  rw [List.inj_on_of_nodup_map hids hx hy hxy, hyu]

/-- A lookup that finds rows of `u` only answers rows of `u`. -/
theorem toList_owned {o : Option α} (h : ∀ x, o = some x → owner x = u) :
    ∀ v ∈ o.toList.map owner, v = u := by
  intro v hv
  obtain ⟨x, hx, rfl⟩ := List.mem_map.1 hv
  exact h x (Option.mem_toList.1 hx)

end Rows

/-! ## Acting for one user -/

/-- Run from `r`, the operation `m` acts for `u`: it leaves the rows of every other user,
every row it returns is of `u` (`owners` names the users of the rows in a result), and run
on the rows of `u` alone it answers the same and leaves the same rows of `u`. -/
structure ActsFor (u : Uuid) (r : Repository) {α : Type} (m : Repo α) (owners : α → List Uuid) :
    Prop where
  others : RowsKept (r.restrictTo (· != u)) ((ExceptT.run m r).2.restrictTo (· != u))
  returns : ∀ a ∈ (ExceptT.run m r).1.toOption, ∀ v ∈ owners a, v = u
  alone : ExceptT.run m (r.restrictTo (· == u)) =
    ((ExceptT.run m r).1, (ExceptT.run m r).2.restrictTo (· == u))

namespace ActsFor

variable {u : Uuid} {r : Repository} {α β : Type}

theorem pure (a : α) (owners : α → List Uuid) (h : ∀ v ∈ owners a, v = u) :
    ActsFor u r (Pure.pure a : Repo α) owners where
  others := RowsKept.refl _
  returns a' ha' := by
    cases ha'
    exact h
  alone := rfl

theorem throw (e : PortError) (owners : α → List Uuid) :
    ActsFor u r (MonadExcept.throw e : Repo α) owners where
  others := RowsKept.refl _
  returns _ h := nomatch h
  alone := rfl

theorem now : ActsFor u r Repository.now fun _ => [] where
  others := rfl
  returns _ _ _ h := nomatch h
  alone := rfl

theorem freshId : ActsFor u r Repository.freshId fun _ => [] where
  others := rfl
  returns _ _ _ h := nomatch h
  alone := rfl

/-- A bind acts for `u` when its first part does, and its second part does from wherever the
first part left off, with whatever rows of `u` it answered. -/
theorem bind {m : Repo α} {f : α → Repo β} {ownsM : α → List Uuid} {owns : β → List Uuid}
    (hm : ActsFor u r m ownsM)
    (hf : ∀ a r', ExceptT.run m r = (.ok a, r') → (∀ v ∈ ownsM a, v = u) → ActsFor u r' (f a) owns) :
    ActsFor u r (m >>= f) owns := by
  have hothers := hm.others
  have hret := hm.returns
  have halone := hm.alone
  rcases hrun : ExceptT.run m r with ⟨_ | a, r'⟩
  · rw [hrun] at hothers halone
    refine ⟨?_, ?_, ?_⟩
    · rw [Repo.run_bind, hrun]
      exact hothers
    · rw [Repo.run_bind, hrun]
      intro _ h
      cases h
    · rw [Repo.run_bind, Repo.run_bind, halone, hrun]
  · rw [hrun] at hothers hret halone
    have hfa := hf a r' hrun (hret a rfl)
    refine ⟨?_, ?_, ?_⟩
    · rw [Repo.run_bind, hrun]
      exact hothers.trans hfa.others
    · rw [Repo.run_bind, hrun]
      exact hfa.returns
    · rw [Repo.run_bind, Repo.run_bind, halone, hrun]
      exact hfa.alone

/-- Reading the state acts for `u` when what follows does, and reads the rows of `u` alone as
it reads the whole repository. -/
theorem get_bind {f : Repository → Repo α} {owns : α → List Uuid}
    (hf : ActsFor u r (f r) owns) (heq : f (r.restrictTo (· == u)) = f r) :
    ActsFor u r (get >>= f) owns := by
  refine ⟨?_, ?_, ?_⟩
  · rw [Repo.run_get_bind]
    exact hf.others
  · rw [Repo.run_get_bind]
    exact hf.returns
  · rw [Repo.run_get_bind, Repo.run_get_bind, heq]
    exact hf.alone

theorem map {m : Repo α} {owns : β → List Uuid} (g : α → β) (h : ActsFor u r m (owns ∘ g)) :
    ActsFor u r (g <$> m) owns := by
  have halone := h.alone
  refine ⟨?_, ?_, ?_⟩
  · rw [Repo.run_map]
    exact h.others
  · rw [Repo.run_map]
    have hret := h.returns
    rcases hrun : ExceptT.run m r with ⟨_ | a, r'⟩
    · intro _ hb
      cases hb
    · intro b hb
      cases hb
      rw [hrun] at hret
      exact hret a rfl
  · rw [Repo.run_map, Repo.run_map, halone]

/-- A check that fails or lets the operation go on changes nothing. -/
theorem check (c : Prop) [Decidable c] (e : PortError) :
    ActsFor u r (if c then MonadExcept.throw e else Pure.pure () : Repo Unit) fun _ => [] := by
  split
  · exact throw _ _
  · exact pure _ _ (fun _ h => nomatch h)

/-- A check that fails, or goes on with `k` from where it stood. -/
theorem check_then {c : Prop} [Decidable c] {e : PortError} {k : Unit → Repo α}
    {owns : α → List Uuid} (hk : ActsFor u r (k ()) owns) :
    ActsFor u r (if c then MonadExcept.throw e >>= k else k ()) owns := by
  split
  · exact bind (throw e fun _ => []) fun _ _ h _ => nomatch h
  · exact hk

/-- Fewer rows returned are still rows of `u`. -/
theorem owners_sub {m : Repo α} {owns owns' : α → List Uuid} (h : ActsFor u r m owns)
    (hsub : ∀ a, ∀ v ∈ owns' a, v ∈ owns a) : ActsFor u r m owns' :=
  ⟨h.others, fun a ha v hv => h.returns a ha v (hsub a v hv), h.alone⟩

/-- A settled operation that acts for `u` keeps to its rows too: a failure keeps only the
clock and the source, which both runs share. -/
theorem settle {m : Repo α} {owns : α → List Uuid} (h : ActsFor u r m owns) :
    RowsKept (r.restrictTo (· != u)) ((Repository.settle m r).2.restrictTo (· != u)) ∧
      (∀ a ∈ (Repository.settle m r).1.toOption, ∀ v ∈ owns a, v = u) ∧
      Repository.settle m (r.restrictTo (· == u)) =
        ((Repository.settle m r).1, (Repository.settle m r).2.restrictTo (· == u)) := by
  have hothers := h.others
  have hret := h.returns
  have halone := h.alone
  rcases hrun : ExceptT.run m r with ⟨_ | a, r'⟩
  · rw [hrun] at hothers hret halone
    rw [settle_of_error hrun, settle_of_error halone]
    refine ⟨rfl, ?_, rfl⟩
    intro _ h
    cases h
  · rw [hrun] at hothers hret halone
    rw [settle_of_ok hrun, settle_of_ok halone]
    exact ⟨hothers, hret, rfl⟩

end ActsFor

/-! ## Lookups by the caller -/

/-- Two repositories are equal when their tables, clocks and sources are. -/
theorem ext_tables {r r' : Repository} (hT : r.topics = r'.topics) (hB : r.batches = r'.batches)
    (hG : r.generations = r'.generations) (hK : r.tasks = r'.tasks) (hF : r.files = r'.files)
    (hc : r.clock = r'.clock) (he : r.entropy = r'.entropy) : r = r' := by
  cases r
  cases r'
  simp_all

section Lookups

variable (r : Repository) (u : Uuid)

theorem topic?_restrictTo (id : Uuid) : (r.restrictTo (· == u)).topic? u id = r.topic? u id := by
  refine find?_filter_own Topic.user u fun t _ h => ?_
  simp only [Bool.and_eq_true, beq_iff_eq] at h
  exact h.2

theorem generation?_restrictTo (id : Uuid) :
    (r.restrictTo (· == u)).generation? u id = r.generation? u id := by
  refine find?_filter_own Generation.user u fun g _ h => ?_
  simp only [Bool.and_eq_true, beq_iff_eq] at h
  exact h.2

theorem task?_restrictTo (id : Uuid) : (r.restrictTo (· == u)).task? u id = r.task? u id := by
  refine find?_filter_own Task.user u fun t _ h => ?_
  simp only [Bool.and_eq_true, beq_iff_eq] at h
  exact h.2

theorem fileWithHash?_restrictTo (hash : String) :
    (r.restrictTo (· == u)).fileWithHash? u hash = r.fileWithHash? u hash := by
  refine find?_filter_own FileRecord.user u fun f _ h => ?_
  simp only [Bool.and_eq_true, beq_iff_eq] at h
  exact h.1

theorem staleAt_restrictTo (now : Instant) (timeoutMs : Int) (id : Uuid) :
    (r.restrictTo (· == u)).staleAt u now timeoutMs id = r.staleAt u now timeoutMs id := by
  unfold staleAt
  rw [task?_restrictTo]

theorem topicsOf_restrictTo : (r.restrictTo (· == u)).topicsOf u = r.topicsOf u := by
  simp only [topicsOf, restrictTo, List.filter_filter, Bool.and_self]

end Lookups

/-! ## Writes of one user's rows -/

section Writes

variable {u : Uuid} {r : Repository}

theorem run_putTopic (t : Topic) (r : Repository) :
    ExceptT.run (putTopic t) r =
      (.ok (), { r with topics := r.topics.map fun x => if x.id == t.id then t else x }) := rfl

/-- Writing back a topic of `u` under an identifier that only topics of `u` have. -/
theorem putTopic_actsFor {t : Topic} (ht : t.user = u)
    (hone : ∀ x ∈ r.topics, x.id = t.id → x.user = u) : ActsFor u r (putTopic t) fun _ => [] := by
  have hf : ∀ x ∈ r.topics, (if x.id == t.id then t else x) = x ∨
      (x.user = u ∧ (if x.id == t.id then t else x).user = u) := by
    intro x hx
    by_cases hid : x.id = t.id
    · exact .inr ⟨hone x hx hid, by simp [hid, ht]⟩
    · exact .inl (by simp [hid])
  obtain ⟨hkeep, hother⟩ := filter_map_own Topic.user u hf
  refine ⟨?_, (fun _ _ _ h => nomatch h), ?_⟩
  · rw [run_putTopic]
    exact ext_tables hother rfl rfl rfl rfl rfl rfl
  · rw [run_putTopic, run_putTopic]
    exact Prod.ext rfl (ext_tables hkeep.symm rfl rfl rfl rfl rfl rfl)

/-- Finishing a task under an identifier that only tasks of `u` have. -/
theorem finishTask_actsFor {id : Uuid} (status : TaskStatus) (error : Option TaskError)
    (hone : ∀ x ∈ r.tasks, x.id = id → x.user = u) :
    ActsFor u r (finishTask id status error) fun _ => [] := by
  have hf : ∀ x ∈ r.tasks, (if x.id == id then x.finish status error (r.clock.addMillis 1) else x) = x ∨
      (x.user = u ∧ (if x.id == id then x.finish status error (r.clock.addMillis 1) else x).user = u) := by
    intro x hx
    by_cases hid : x.id = id
    · exact .inr ⟨hone x hx hid, by simp [hid, Task.finish, hone x hx hid]⟩
    · exact .inl (by simp [hid])
  obtain ⟨hkeep, hother⟩ := filter_map_own Task.user u hf
  refine ⟨?_, (fun _ _ _ h => nomatch h), ?_⟩
  · rw [run_finishTask]
    exact ext_tables rfl rfl rfl hother rfl rfl rfl
  · rw [run_finishTask, run_finishTask]
    exact Prod.ext rfl (ext_tables rfl rfl rfl hkeep.symm rfl rfl rfl)

/-- Attaching an image to a generation under an identifier that only generations of `u` have. -/
theorem attachAsset_actsFor {gen : Uuid} (asset : Asset) (record : FileRecord)
    (hone : ∀ g ∈ r.generations, g.id = gen → g.user = u) :
    ActsFor u r (attachAsset gen asset record) fun _ => [] := by
  have hf : ∀ g ∈ r.generations, (if g.id == gen then
        { g with asset := some { asset with url := record.url, thumbnailUrl := record.thumbnailKey },
                 file := some record.id } else g) = g ∨
      (g.user = u ∧ (if g.id == gen then
        { g with asset := some { asset with url := record.url, thumbnailUrl := record.thumbnailKey },
                 file := some record.id } else g).user = u) := by
    intro g hg
    by_cases hid : g.id = gen
    · exact .inr ⟨hone g hg hid, by simp [hid, hone g hg hid]⟩
    · exact .inl (by simp [hid])
  obtain ⟨hkeep, hother⟩ := filter_map_own Generation.user u hf
  refine ⟨?_, (fun _ _ _ h => nomatch h), ?_⟩
  · rw [run_attachAsset]
    exact ext_tables rfl rfl hother rfl rfl rfl rfl
  · rw [run_attachAsset, run_attachAsset]
    exact Prod.ext rfl (ext_tables rfl rfl hkeep.symm rfl rfl rfl rfl)

/-- Removing the topics with an identifier that only topics of `u` have. -/
theorem dropTopic_actsFor {id : Uuid} (hone : ∀ x ∈ r.topics, x.id = id → x.user = u) :
    ActsFor u r (modify fun r => { r with topics := r.topics.filter (·.id != id) }) fun _ => [] := by
  obtain ⟨hkeep, hother⟩ := @filter_filter_own _ Topic.user u r.topics _ (fun x => x.id != id)
    (fun x hx hxu => by
      by_cases hid : x.id = id
      · exact absurd (hone x hx hid) hxu
      · simp [hid]) (fun _ _ _ => rfl)
  refine ⟨?_, (fun _ _ _ h => nomatch h), ?_⟩
  · exact ext_tables hother rfl rfl rfl rfl rfl rfl
  · exact Prod.ext rfl (ext_tables hkeep.symm rfl rfl rfl rfl rfl rfl)

/-- Removing the generations with an identifier that only generations of `u` have. -/
theorem dropGeneration_actsFor {id : Uuid} (hone : ∀ g ∈ r.generations, g.id = id → g.user = u) :
    ActsFor u r (modify fun r => { r with generations := r.generations.filter (·.id != id) })
      fun _ => [] := by
  obtain ⟨hkeep, hother⟩ := @filter_filter_own _ Generation.user u r.generations _
    (fun g => g.id != id)
    (fun g hg hgu => by
      by_cases hid : g.id = id
      · exact absurd (hone g hg hid) hgu
      · simp [hid]) (fun _ _ _ => rfl)
  refine ⟨?_, (fun _ _ _ h => nomatch h), ?_⟩
  · exact ext_tables rfl rfl hother rfl rfl rfl rfl
  · exact Prod.ext rfl (ext_tables rfl rfl hkeep.symm rfl rfl rfl rfl)

/-- Removing batches of `u` with their generations, when every generation in them is of `u`:
the batches that go, and so the generations that go, are the same among the rows of `u`
alone. -/
theorem removeBatches_actsFor {doomed : Batch → Bool}
    (hdoomed : ∀ b ∈ r.batches, doomed b = true → b.user = u)
    (hgens : ∀ g ∈ r.generations, ∀ b ∈ r.batches, doomed b = true → b.id = g.batch → g.user = u) :
    ActsFor u r (removeBatches doomed) fun _ => [] := by
  have hgone : ((r.batches.filter fun b => b.user == u).filter doomed).map (·.id) =
      (r.batches.filter doomed).map (·.id) := by
    rw [filter_own_of_select Batch.user u hdoomed fun _ _ _ => rfl]
  have hlost : ∀ g ∈ r.generations,
      ((r.batches.filter doomed).map (·.id)).contains g.batch = true → g.user = u := by
    intro g hg hc
    simp only [List.contains_eq_mem, decide_eq_true_eq, List.mem_map, List.mem_filter] at hc
    obtain ⟨b, ⟨hb, hd⟩, hid⟩ := hc
    exact hgens g hg b hb hd hid
  have hlost₀ : (r.generations.filter fun g => g.user == u).filter
        (fun g => ((r.batches.filter doomed).map (·.id)).contains g.batch) =
      r.generations.filter fun g => ((r.batches.filter doomed).map (·.id)).contains g.batch :=
    filter_own_of_select Generation.user u hlost fun _ _ _ => rfl
  obtain ⟨hbkeep, hbother⟩ := @filter_filter_own _ Batch.user u r.batches (fun b => !doomed b)
    (fun b => !doomed b)
    (fun b hb hbu => by
      cases hd : doomed b
      · rfl
      · exact absurd (hdoomed b hb hd) hbu) (fun _ _ _ => rfl)
  obtain ⟨hgkeep, hgother⟩ := @filter_filter_own _ Generation.user u r.generations
    (fun g => !((r.batches.filter doomed).map (·.id)).contains g.batch)
    (fun g => !((r.batches.filter doomed).map (·.id)).contains g.batch)
    (fun g hg hgu => by
      cases hc : ((r.batches.filter doomed).map (·.id)).contains g.batch
      · rfl
      · exact absurd (hlost g hg hc) hgu) (fun _ _ _ => rfl)
  refine ⟨?_, (fun _ _ _ h => nomatch h), ?_⟩
  · rw [run_removeBatches]
    exact ext_tables rfl hbother hgother rfl rfl rfl rfl
  · rw [run_removeBatches, run_removeBatches]
    dsimp only [restrictTo]
    rw [hgone, hlost₀]
    exact Prod.ext rfl (ext_tables rfl hbkeep.symm hgkeep.symm rfl rfl rfl rfl)

/-- Purging files by identifiers that only files of `u` have, when every generation that
names a file is of the file's user: whether a generation still names a file of `u` does not
depend on the other users' generations. -/
theorem purgeOrphans_actsFor {ids : List Uuid}
    (hfiles : ∀ f ∈ r.files, f.id ∈ ids → f.user = u)
    (hrefs : ∀ g ∈ r.generations, ∀ f ∈ r.files, g.file = some f.id → g.user = f.user) :
    ActsFor u r (purgeOrphans ids) (List.map (·.user)) := by
  have hnamed : ∀ f ∈ r.files, f.user = u →
      ((r.generations.filter fun g => g.user == u).filterMap (·.file)).contains f.id =
        (r.generations.filterMap (·.file)).contains f.id := by
    intro f hf hfu
    have hiff : f.id ∈ (r.generations.filter fun g => g.user == u).filterMap (·.file) ↔
        f.id ∈ r.generations.filterMap (·.file) := by
      simp only [List.mem_filterMap, List.mem_filter, beq_iff_eq]
      exact ⟨fun ⟨g, ⟨hg, _⟩, hgf⟩ => ⟨g, hg, hgf⟩,
        fun ⟨g, hg, hgf⟩ => ⟨g, ⟨hg, (hrefs g hg f hf hgf).trans hfu⟩, hgf⟩⟩
    simp only [List.contains_eq_mem, hiff]
  have horphan : ∀ f ∈ r.files,
      (ids.contains f.id && !(r.generations.filterMap (·.file)).contains f.id) = true → f.user = u := by
    intro f hf h
    simp only [Bool.and_eq_true, List.contains_eq_mem, decide_eq_true_eq] at h
    exact hfiles f hf h.1
  have horphans₀ : (r.files.filter fun f => f.user == u).filter
        (fun f => ids.contains f.id &&
          !((r.generations.filter fun g => g.user == u).filterMap (·.file)).contains f.id) =
      r.files.filter fun f => ids.contains f.id && !(r.generations.filterMap (·.file)).contains f.id :=
    filter_own_of_select FileRecord.user u horphan fun f hf hfu => by rw [hnamed f hf hfu]
  have hmem : ∀ f ∈ r.files.filter (fun f => ids.contains f.id &&
      !(r.generations.filterMap (·.file)).contains f.id), f.user = u := by
    intro f hf
    rw [List.mem_filter] at hf
    exact horphan f hf.1 hf.2
  obtain ⟨hkeep, hother⟩ := @filter_filter_own _ FileRecord.user u r.files
    (fun f => !(r.files.filter fun f => ids.contains f.id &&
      !(r.generations.filterMap (·.file)).contains f.id).contains f)
    (fun f => !(r.files.filter fun f => ids.contains f.id &&
      !(r.generations.filterMap (·.file)).contains f.id).contains f)
    (fun f _ hfu => by
      cases hc : (r.files.filter fun f => ids.contains f.id &&
          !(r.generations.filterMap (·.file)).contains f.id).contains f
      · rfl
      · rw [List.contains_eq_mem, decide_eq_true_eq] at hc
        exact absurd (hmem f hc) hfu) (fun _ _ _ => rfl)
  refine ⟨?_, ?_, ?_⟩
  · rw [run_purgeOrphans]
    exact ext_tables rfl rfl rfl rfl hother rfl rfl
  · rw [run_purgeOrphans]
    intro a ha v hv
    cases ha
    obtain ⟨f, hf, rfl⟩ := List.mem_map.1 hv
    exact hmem f hf
  · rw [run_purgeOrphans, run_purgeOrphans]
    dsimp only [restrictTo]
    rw [horphans₀]
    exact Prod.ext rfl (ext_tables rfl rfl rfl rfl hkeep.symm rfl rfl)

/-- The file of the content: the caller's own, or a new one of the caller's. -/
theorem fileFor_actsFor (file : NewFile) : ActsFor u r (fileFor u file) fun f => [f.user] := by
  have hnew := @filter_append_own _ FileRecord.user u r.files
  refine ⟨?_, ?_, ?_⟩
  · rw [run_fileFor]
    split
    · exact RowsKept.refl _
    · exact ext_tables rfl rfl rfl rfl (hnew fun x hx => by rw [List.mem_singleton.1 hx]).2 rfl rfl
  · rw [run_fileFor]
    split
    · rename_i f hf
      intro a ha v hv
      cases ha
      rw [List.mem_singleton.1 hv]
      exact (fileWithHash?_spec hf).2.1
    · intro a ha v hv
      cases ha
      exact List.mem_singleton.1 hv
  · rw [run_fileFor, run_fileFor, fileWithHash?_restrictTo]
    split
    · rfl
    · exact Prod.ext rfl
        (ext_tables rfl rfl rfl rfl (hnew fun x hx => by rw [List.mem_singleton.1 hx]).1.symm rfl rfl)

/-- Adding a topic of `u`. -/
theorem addTopic_actsFor {t : Topic} (ht : t.user = u) :
    ActsFor u r (modify fun r => { r with topics := r.topics ++ [t] }) fun _ => [] := by
  have hnew := @filter_append_own _ Topic.user u r.topics [t] fun x hx => by
    rw [List.mem_singleton.1 hx, ht]
  refine ⟨?_, (fun _ _ _ h => nomatch h), ?_⟩
  · exact ext_tables hnew.2 rfl rfl rfl rfl rfl rfl
  · exact Prod.ext rfl (ext_tables hnew.1.symm rfl rfl rfl rfl rfl rfl)

end Writes

/-! ## The operations one by one -/

section Operations

variable {u : Uuid} {r : Repository}

theorem getTopic_ok {id : Uuid} {t : Topic} {r' : Repository}
    (h : ExceptT.run (getTopic u id) r = (.ok t, r')) : r.topic? u id = some t ∧ r' = r := by
  rw [run_getTopic] at h
  rcases ht : r.topic? u id with _ | t'
  · rw [ht] at h
    cases h
  · rw [ht] at h
    cases h
    exact ⟨rfl, rfl⟩

theorem getTopic_actsFor (id : Uuid) : ActsFor u r (getTopic u id) fun t => [t.user] := by
  refine ⟨?_, ?_, ?_⟩
  · rw [run_getTopic]
    exact RowsKept.refl _
  · intro t ht v hv
    rcases hrun : ExceptT.run (getTopic u id) r with ⟨_ | t', r'⟩
    · rw [hrun] at ht
      cases ht
    · rw [hrun] at ht
      cases ht
      rw [List.mem_singleton.1 hv]
      exact (topic?_spec (getTopic_ok hrun).1).2.2
  · rw [run_getTopic, run_getTopic, topic?_restrictTo]

theorem createTopic_actsFor (title : String) :
    ActsFor u r (createTopic u title) fun t => [t.user] := by
  unfold createTopic
  refine ActsFor.bind ActsFor.now fun _ _ _ _ => ActsFor.bind ActsFor.freshId fun _ _ _ _ => ?_
  refine ActsFor.bind (addTopic_actsFor rfl) fun _ _ _ _ => ActsFor.pure _ _ ?_
  simp

theorem updateTopic_actsFor (hids : (r.topics.map (·.id)).Nodup) (id : Uuid)
    (title cover : Option String) : ActsFor u r (updateTopic u id title cover) fun t => [t.user] := by
  unfold updateTopic
  refine ActsFor.bind (getTopic_actsFor id) fun t r₁ h₁ _ => ?_
  obtain ⟨ht, rfl⟩ := getTopic_ok h₁
  obtain ⟨htm, -, htu⟩ := topic?_spec ht
  have hone : ∀ x ∈ r₁.topics, x.id = t.id → x.user = u := owner_of_nodup Topic.user u hids htm htu
  refine ActsFor.bind ActsFor.now fun now r₂ h₂ _ => ?_
  rw [run_now] at h₂
  cases h₂
  refine ActsFor.bind (putTopic_actsFor htu hone) fun _ _ _ _ => ActsFor.pure _ _ ?_
  simpa using htu

theorem setCoverIfEmpty_actsFor (hids : (r.topics.map (·.id)).Nodup) (id : Uuid) (cover : String) :
    ActsFor u r (setCoverIfEmpty u id cover) fun _ => [] := by
  unfold setCoverIfEmpty
  refine ActsFor.get_bind ?_ (by simp only [topic?_restrictTo])
  rcases ht : r.topic? u id with _ | t
  · exact ActsFor.pure _ _ (fun _ h => nomatch h)
  · obtain ⟨htm, -, htu⟩ := topic?_spec ht
    have hone : ∀ x ∈ r.topics, x.id = t.id → x.user = u := owner_of_nodup Topic.user u hids htm htu
    dsimp only
    split
    · refine ActsFor.bind ActsFor.now fun now r₁ h₁ _ => ?_
      rw [run_now] at h₁
      cases h₁
      exact ActsFor.bind (putTopic_actsFor htu hone) fun _ _ _ _ =>
        ActsFor.pure _ _ (fun _ h => nomatch h)
    · exact ActsFor.pure _ _ (fun _ h => nomatch h)

theorem touchTopic_actsFor (hids : (r.topics.map (·.id)).Nodup) (id : Uuid) :
    ActsFor u r (touchTopic u id) fun _ => [] := by
  unfold touchTopic
  refine ActsFor.get_bind ?_ (by simp only [topic?_restrictTo])
  rcases ht : r.topic? u id with _ | t
  · exact ActsFor.pure _ _ (fun _ h => nomatch h)
  · obtain ⟨htm, -, htu⟩ := topic?_spec ht
    have hone : ∀ x ∈ r.topics, x.id = t.id → x.user = u := owner_of_nodup Topic.user u hids htm htu
    refine ActsFor.bind ActsFor.now fun now r₁ h₁ _ => ?_
    rw [run_now] at h₁
    cases h₁
    exact putTopic_actsFor htu hone

/-! ### Deletions

A deletion finds what goes by identifier and purges the files that no generation names
any more. The generations of a batch of `u` are of `u` because each lies in a batch of its
user, and a file a generation of `u` names is of `u` because it names one of its user's;
with batches and files named once, no other user's row answers to those identifiers. -/

/-- The generations in batches of `u` are of `u`. -/
theorem generation_of_doomed {doomed : Batch → Bool}
    (hgb : ∀ g ∈ r.generations, ∃ b ∈ r.batches, b.id = g.batch ∧ b.user = g.user)
    (hB : (r.batches.map (·.id)).Nodup) (hdoomed : ∀ b ∈ r.batches, doomed b = true → b.user = u) :
    ∀ g ∈ r.generations, ∀ b ∈ r.batches, doomed b = true → b.id = g.batch → g.user = u := by
  intro g hg b hb hd hid
  obtain ⟨b', hb', hid', hu'⟩ := hgb g hg
  rw [← hu', List.inj_on_of_nodup_map hB hb' hb (hid'.trans hid.symm), hdoomed b hb hd]

/-- In a linked repository whose files are named once, a generation that names a file is of
the file's user. -/
theorem Linked.fileUser (h : r.Linked) (hF : (r.files.map (·.id)).Nodup) :
    ∀ g ∈ r.generations, ∀ f ∈ r.files, g.file = some f.id → g.user = f.user := by
  intro g hg f hf hgf
  obtain ⟨x, hx, hxid, hxu⟩ := h.generationFile g hg f.id hgf
  rw [← hxu, List.inj_on_of_nodup_map hF hx hf hxid]

/-- After batches of `u` are removed, the files their generations named are files of `u`,
and every generation left names files of its own user. -/
theorem removeBatches_purgeable {doomed : Batch → Bool} {x : Nat × List Uuid} {r' : Repository}
    (hrun : ExceptT.run (removeBatches doomed) r = (.ok x, r'))
    (hfile : ∀ g ∈ r.generations, ∀ f ∈ r.files, g.file = some f.id → g.user = f.user)
    (hgens : ∀ g ∈ r.generations, ∀ b ∈ r.batches, doomed b = true → b.id = g.batch → g.user = u) :
    (∀ f ∈ r'.files, f.id ∈ x.2 → f.user = u) ∧
      ∀ g ∈ r'.generations, ∀ f ∈ r'.files, g.file = some f.id → g.user = f.user := by
  rw [run_removeBatches] at hrun
  cases hrun
  refine ⟨?_, fun g hg f hf => hfile g (List.mem_filter.1 hg).1 f hf⟩
  intro f hf hfx
  rw [List.mem_eraseDups, List.mem_filterMap] at hfx
  obtain ⟨g, hg, hgf⟩ := hfx
  simp only [List.mem_filter, List.contains_eq_mem, decide_eq_true_eq, List.mem_map] at hg
  obtain ⟨hgm, b, ⟨hb, hd⟩, hid⟩ := hg
  rw [← hfile g hgm f hf hgf]
  exact hgens g hgm b hb hd hid

theorem deleteTopic_actsFor (h : r.Linked) (hids : r.rowIds.Nodup) (id : Uuid) :
    ActsFor u r (deleteTopic u id) (List.map (·.user)) := by
  unfold deleteTopic
  refine ActsFor.bind (getTopic_actsFor id) fun t r₁ h₁ _ => ?_
  obtain ⟨ht, hr₁⟩ := getTopic_ok h₁
  subst r₁
  obtain ⟨htm, htid, htu⟩ := topic?_spec ht
  have hone : ∀ x ∈ r.topics, x.id = t.id → x.user = u :=
    owner_of_nodup Topic.user u (nodup_topicIds hids) htm htu
  refine ActsFor.bind (dropTopic_actsFor fun x hx hxid => hone x hx (hxid.trans htid.symm))
    fun _ r₂ h₂ _ => ?_
  rw [Repo.run_modify] at h₂
  cases h₂
  have hdoomed : ∀ b ∈ r.batches, (b.topic == id && b.user == u) = true → b.user = u := by
    intro b _ hb
    simp only [Bool.and_eq_true, beq_iff_eq] at hb
    exact hb.2
  have hgens := generation_of_doomed h.generationBatch (nodup_batchIds hids) hdoomed
  refine ActsFor.bind (removeBatches_actsFor hdoomed hgens) fun x r₃ h₃ _ => ?_
  obtain ⟨hfiles, hrefs⟩ := removeBatches_purgeable h₃ (h.fileUser (nodup_fileIds hids)) hgens
  exact purgeOrphans_actsFor hfiles hrefs

theorem deleteBatch_actsFor (h : r.Linked) (hids : r.rowIds.Nodup) (id : Uuid) :
    ActsFor u r (deleteBatch u id) fun fs => (fs.getD []).map (·.user) := by
  unfold deleteBatch
  have hdoomed : ∀ b ∈ r.batches, (b.id == id && b.user == u) = true → b.user = u := by
    intro b _ hb
    simp only [Bool.and_eq_true, beq_iff_eq] at hb
    exact hb.2
  have hgens := generation_of_doomed h.generationBatch (nodup_batchIds hids) hdoomed
  refine ActsFor.bind (removeBatches_actsFor hdoomed hgens) fun x r₁ h₁ _ => ?_
  obtain ⟨hfiles, hrefs⟩ := removeBatches_purgeable h₁ (h.fileUser (nodup_fileIds hids)) hgens
  obtain ⟨n, files⟩ := x
  dsimp only
  split
  · exact ActsFor.pure _ _ (fun _ h => nomatch h)
  · exact ActsFor.map some (purgeOrphans_actsFor hfiles hrefs)

/-- Purging one file answers the file, when it went. -/
theorem purgeOne_actsFor {f : Uuid} (hfiles : ∀ x ∈ r.files, x.id ∈ [f] → x.user = u)
    (hrefs : ∀ g ∈ r.generations, ∀ x ∈ r.files, g.file = some x.id → g.user = x.user) :
    ActsFor u r (List.head? <$> purgeOrphans [f]) fun o => o.toList.map (·.user) := by
  refine ActsFor.map List.head? ((purgeOrphans_actsFor hfiles hrefs).owners_sub ?_)
  intro fs v hv
  simp only [Function.comp_apply] at hv
  obtain ⟨x, hx, rfl⟩ := List.mem_map.1 hv
  exact List.mem_map_of_mem (List.mem_of_mem_head? (Option.mem_toList.1 hx))

theorem deleteGeneration_actsFor (h : r.Linked) (hids : r.rowIds.Nodup) (id : Uuid) :
    ActsFor u r (deleteGeneration u id) fun d =>
      d.toList.flatMap fun d => d.generation.user :: d.deletedFile.toList.map (·.user) := by
  unfold deleteGeneration
  refine ActsFor.get_bind ?_ (by simp only [generation?_restrictTo])
  rcases hg : r.generation? u id with _ | g
  · exact ActsFor.pure _ _ (fun _ h => nomatch h)
  · obtain ⟨hgm, hgid, hgu⟩ := generation?_spec hg
    have hone : ∀ x ∈ r.generations, x.id = g.id → x.user = u :=
      owner_of_nodup Generation.user u (nodup_generationIds hids) hgm hgu
    have hfile := h.fileUser (nodup_fileIds hids)
    dsimp only
    refine ActsFor.bind (dropGeneration_actsFor fun x hx hxid => hone x hx (hxid.trans hgid.symm))
      fun _ r₁ h₁ _ => ?_
    rw [Repo.run_modify] at h₁
    cases h₁
    have hreply : ∀ df : Option FileRecord, (∀ v ∈ df.toList.map (·.user), v = u) →
        ∀ v ∈ (some { generation := g, deletedFile := df } : Option DeletedGeneration).toList.flatMap
          (fun d => d.generation.user :: d.deletedFile.toList.map (·.user)), v = u := by
      intro df hdf v hv
      simp only [Option.toList_some, List.flatMap_cons, List.flatMap_nil, List.append_nil,
        List.mem_cons] at hv
      rcases hv with rfl | hv
      · exact hgu
      · exact hdf v hv
    -- the file the generation named goes only if no generation left names it
    split
    · rename_i f hf
      refine ActsFor.bind (purgeOne_actsFor ?_ ?_) fun df _ _ hdf => ActsFor.pure _ _ (hreply df hdf)
      · intro x hx hxf
        rw [List.mem_singleton] at hxf
        rw [← hfile g hgm x hx (hxf ▸ hf), hgu]
      · exact fun g' hg' => hfile g' (List.mem_filter.1 hg').1
    · exact ActsFor.bind (ActsFor.pure none (fun o => o.toList.map (·.user)) (fun _ h => nomatch h))
        fun df _ _ hdf => ActsFor.pure _ _ (hreply df hdf)

/-! ### Tasks -/

theorem fileFor_rows {file : NewFile} {f : FileRecord} {r' : Repository}
    (h : ExceptT.run (fileFor u file) r = (.ok f, r')) :
    r'.generations = r.generations ∧ r'.tasks = r.tasks := by
  rw [run_fileFor] at h
  split at h <;> cases h <;> exact ⟨rfl, rfl⟩

theorem completeGeneration_actsFor (hids : r.rowIds.Nodup) (gen task : Uuid) (asset : Asset)
    (file : NewFile) :
    ActsFor u r (completeGeneration u gen task asset file) fun o => o.toList.map (·.user) := by
  unfold completeGeneration
  refine ActsFor.get_bind ?_ (by simp only [task?_restrictTo, generation?_restrictTo])
  rcases ht : r.task? u task with _ | t
  · exact ActsFor.pure _ _ (fun _ h => nomatch h)
  obtain ⟨htm, htid, htu⟩ := task?_spec ht
  have honeT : ∀ x ∈ r.tasks, x.id = task → x.user = u := fun x hx hxid =>
    owner_of_nodup Task.user u (nodup_taskIds hids) htm htu x hx (hxid.trans htid.symm)
  dsimp only
  split
  · rcases hg : r.generation? u gen with _ | g
    · simp only [Option.isNone_none, if_true]
      exact ActsFor.bind (ActsFor.throw _ fun _ => []) fun _ _ h _ => nomatch h
    obtain ⟨hgm, hgid, hgu⟩ := generation?_spec hg
    have honeG : ∀ x ∈ r.generations, x.id = gen → x.user = u := fun x hx hxid =>
      owner_of_nodup Generation.user u (nodup_generationIds hids) hgm hgu x hx (hxid.trans hgid.symm)
    simp only [Option.isNone_some, Bool.false_eq_true, if_false]
    refine ActsFor.bind (fileFor_actsFor file) fun record r₁ h₁ hrec => ?_
    obtain ⟨hG₁, hT₁⟩ := fileFor_rows h₁
    refine ActsFor.bind (attachAsset_actsFor asset record (hG₁ ▸ honeG)) fun _ r₂ h₂ _ => ?_
    rw [run_attachAsset] at h₂
    cases h₂
    refine ActsFor.bind (finishTask_actsFor .success none (hT₁ ▸ honeT)) fun _ _ _ _ =>
      ActsFor.pure _ _ ?_
    simpa using hrec
  · exact ActsFor.pure _ _ (fun _ h => nomatch h)

theorem transition_actsFor (hids : (r.tasks.map (·.id)).Nodup) (id : Uuid)
    (allowed : List TaskStatus) (target : TaskStatus) (error : Option TaskError) :
    ActsFor u r (transition u id allowed target error) fun _ => [] := by
  unfold transition
  refine ActsFor.get_bind ?_ (by simp only [task?_restrictTo])
  rcases ht : r.task? u id with _ | t
  · exact ActsFor.pure _ _ (fun _ h => nomatch h)
  obtain ⟨htm, htid, htu⟩ := task?_spec ht
  have hone : ∀ x ∈ r.tasks, x.id = id → x.user = u := fun x hx hxid =>
    owner_of_nodup Task.user u hids htm htu x hx (hxid.trans htid.symm)
  dsimp only
  split
  · exact ActsFor.bind (finishTask_actsFor target error hone) fun _ _ _ _ =>
      ActsFor.pure _ _ (fun _ h => nomatch h)
  · exact ActsFor.pure _ _ (fun _ h => nomatch h)

/-- Finishing a task keeps every task's identifier. -/
theorem ids_map_finish (l : List Task) (id : Uuid) (status : TaskStatus) (error : Option TaskError)
    (now : Instant) :
    (l.map fun t => if t.id == id then t.finish status error now else t).map (·.id) = l.map (·.id) := by
  rw [List.map_map]
  exact List.map_congr_left fun t _ => (finish_keeps id status error now t).1

/-- The timeout sweep, by induction on the listed identifiers: each stale task is one of
`u`'s, and finishing it keeps the tasks named once. -/
theorem expireEach_actsFor (now : Instant) (timeoutMs : Int) (ids : List Uuid)
    (hids : (r.tasks.map (·.id)).Nodup) : ActsFor u r (expireEach u now timeoutMs ids) fun _ => [] := by
  induction ids generalizing r with
  | nil => exact ActsFor.pure _ _ (fun _ h => nomatch h)
  | cons id rest ih =>
    unfold expireEach
    refine ActsFor.get_bind ?_ (by simp only [staleAt_restrictTo])
    dsimp only
    cases hs : r.staleAt u now timeoutMs id
    · simp only [Bool.false_eq_true, if_false]
      exact ActsFor.bind (ih hids) fun _ _ _ _ => ActsFor.pure _ _ (fun _ h => nomatch h)
    · obtain ⟨t, ht, -⟩ := staleAt_spec hs
      obtain ⟨htm, htid, htu⟩ := task?_spec ht
      have hone : ∀ x ∈ r.tasks, x.id = id → x.user = u := fun x hx hxid =>
        owner_of_nodup Task.user u hids htm htu x hx (hxid.trans htid.symm)
      simp only [if_true]
      refine ActsFor.bind (finishTask_actsFor _ _ hone) fun _ r₁ h₁ _ => ?_
      rw [run_finishTask] at h₁
      cases h₁
      have hids' := (ids_map_finish r.tasks id .error (some (timeoutError timeoutMs))
        (r.clock.addMillis 1)).symm ▸ hids
      exact ActsFor.bind (ih hids') fun _ _ _ _ => ActsFor.pure _ _ (fun _ h => nomatch h)

theorem failTimedOut_actsFor (hids : (r.tasks.map (·.id)).Nodup) (ids : List Uuid)
    (timeoutMs : Int) : ActsFor u r (failTimedOut u ids timeoutMs) fun _ => [] := by
  unfold failTimedOut
  refine ActsFor.bind ActsFor.now fun now r₁ h₁ _ => ?_
  rw [run_now] at h₁
  cases h₁
  exact expireEach_actsFor _ _ ids hids

/-! ### Batches -/

theorem checkBatch_actsFor (nb : NewBatch) : ActsFor u r (checkBatch u nb) fun _ => [] := by
  unfold checkBatch
  dsimp only
  refine ActsFor.check_then ?_
  -- the seeds are counted when given; the topic is looked up either way
  split
  · exact ActsFor.check_then (ActsFor.get_bind (ActsFor.check _ _) (by simp only [topic?_restrictTo]))
  · exact ActsFor.get_bind (ActsFor.check _ _) (by simp only [topic?_restrictTo])

/-- The rows of a batch, by induction on its seed slots: a seed already used fails the
batch, and every other slot draws a task and a generation of `u`. -/
theorem makeRows_actsFor (batch : Uuid) (now : Instant) (seen : List Int)
    (slots : List (Option Int)) : ActsFor u r (makeRows u batch now seen slots) fun _ => [] := by
  induction slots generalizing seen r with
  | nil => exact ActsFor.pure _ _ (fun _ h => nomatch h)
  | cons seed rest ih =>
    simp only [makeRows]
    rcases seed with _ | s
    · exact ActsFor.bind ActsFor.freshId fun _ _ _ _ => ActsFor.bind ActsFor.freshId fun _ _ _ _ =>
        ActsFor.bind (ih _) fun _ _ _ _ => ActsFor.pure _ _ (fun _ h => nomatch h)
    · refine ActsFor.check_then ?_
      exact ActsFor.bind ActsFor.freshId fun _ _ _ _ => ActsFor.bind ActsFor.freshId fun _ _ _ _ =>
        ActsFor.bind (ih _) fun _ _ _ _ => ActsFor.pure _ _ (fun _ h => nomatch h)

/-- Storing a batch of `u` with its rows, all of `u`. -/
theorem addBatch_actsFor {b : Batch} {rows : List (Task × Generation)} (hb : b.user = u)
    (hrows : ∀ x ∈ rows, x.1.user = u ∧ x.2.user = u) :
    ActsFor u r (modify fun r =>
      { r with batches := r.batches ++ [b], tasks := r.tasks ++ rows.map (·.1),
               generations := r.generations ++ rows.map (·.2) }) fun _ => [] := by
  have hB := @filter_append_own _ Batch.user u r.batches [b] fun x hx => by
    rw [List.mem_singleton.1 hx, hb]
  have hK := @filter_append_own _ Task.user u r.tasks (rows.map (·.1)) fun x hx => by
    obtain ⟨y, hy, rfl⟩ := List.mem_map.1 hx
    exact (hrows y hy).1
  have hG := @filter_append_own _ Generation.user u r.generations (rows.map (·.2)) fun x hx => by
    obtain ⟨y, hy, rfl⟩ := List.mem_map.1 hx
    exact (hrows y hy).2
  refine ⟨?_, (fun _ _ _ h => nomatch h), ?_⟩
  · exact ext_tables rfl hB.2 hG.2 hK.2 rfl rfl rfl
  · exact Prod.ext rfl (ext_tables rfl hB.1.symm hG.1.symm hK.1.symm rfl rfl rfl)

theorem createBatch_actsFor (hids : (r.topics.map (·.id)).Nodup) (nb : NewBatch) :
    ActsFor u r (createBatch u nb) fun cb => cb.batch.user :: cb.generations.map (·.user) := by
  unfold createBatch
  refine ActsFor.bind (checkBatch_actsFor nb) fun _ r₁ h₁ _ => ?_
  have hr₁ : r₁ = r := by
    have hkeep := (run_checkBatch u nb r).1
    rw [h₁] at hkeep
    exact hkeep
  subst r₁
  refine ActsFor.bind ActsFor.now fun _ r₂ h₂ _ => ?_
  rw [run_now] at h₂
  cases h₂
  refine ActsFor.bind ActsFor.freshId fun _ r₃ h₃ _ => ?_
  rw [run_freshId] at h₃
  cases h₃
  refine ActsFor.bind (makeRows_actsFor _ _ _ _) fun rows r₄ h₄ _ => ?_
  obtain ⟨hrows, hr₄, -⟩ := makeRows_ok _ _ _ _ _ _ _ _ h₄
  subst r₄
  -- every row made is of the caller's
  have hown : ∀ x ∈ rows, x.1.user = u ∧ x.2.user = u := fun x hx => by
    rw [hrows] at hx
    obtain ⟨h1, -, h2, -⟩ := mem_rowsFrom hx
    exact ⟨h1, h2⟩
  refine ActsFor.bind (addBatch_actsFor rfl hown) fun _ r₅ h₅ _ => ?_
  rw [Repo.run_modify] at h₅
  cases h₅
  refine ActsFor.bind (touchTopic_actsFor (by exact hids) nb.topic) fun _ _ _ _ => ActsFor.pure _ _ ?_
  intro v hv
  simp only [List.mem_cons, List.map_map, List.mem_map, Function.comp_apply] at hv
  rcases hv with rfl | ⟨x, hx, rfl⟩
  · rfl
  · exact (hown x hx).2

/-! ### Reads

The feed follows a batch to its generations and a generation to its task by identifier
alone; the links make those rows the caller's. -/

theorem generationView_restrictTo (h : r.Linked) (hK : (r.tasks.map (·.id)).Nodup)
    {g : Generation} (hg : g ∈ r.generations) (hgu : g.user = u) :
    (r.restrictTo (· == u)).generationView g = r.generationView g := by
  obtain ⟨t, htm, hgt, htu⟩ := h.generationTask g hg
  have hfind : (r.tasks.filter fun x => x.user == u).find? (·.id == t.id) =
      r.tasks.find? (·.id == t.id) :=
    find?_filter_own Task.user u fun x hx hxid =>
      owner_of_nodup Task.user u hK htm (htu.trans hgu) x hx (by simpa using hxid)
  simp only [generationView, hgt, Option.bind_some]
  rw [show (r.restrictTo (· == u)).tasks = r.tasks.filter fun x => x.user == u from rfl, hfind]

theorem batchView_restrictTo (h : r.Linked) (hids : r.rowIds.Nodup) {b : Batch}
    (hb : b ∈ r.batches) (hbu : b.user = u) :
    (r.restrictTo (· == u)).batchView b = r.batchView b := by
  have hin : ∀ g ∈ r.generations, (g.batch == b.id) = true → g.user = u := by
    intro g hg hgb
    obtain ⟨b', hb', hid', hu'⟩ := h.generationBatch g hg
    rw [← hu']
    exact owner_of_nodup Batch.user u (nodup_batchIds hids) hb hbu b' hb'
      (hid'.trans (by simpa using hgb))
  have hG : (r.restrictTo (· == u)).generations.filter (·.batch == b.id) =
      r.generations.filter (·.batch == b.id) :=
    filter_own_of_select Generation.user u hin fun _ _ _ => rfl
  have hview : ∀ g ∈ (r.generations.filter (·.batch == b.id)).mergeSort
      (fun x y => earlierFirst (x.createdAt, x.id) (y.createdAt, y.id)),
      (r.restrictTo (· == u)).generationView g = r.generationView g := by
    intro g hg
    have hg' := List.mem_filter.1 (List.mem_mergeSort.1 hg)
    exact generationView_restrictTo h (nodup_taskIds hids) hg'.1 (hin g hg'.1 hg'.2)
  simp only [batchView, hG]
  rw [List.map_congr_left hview]

theorem batchesOf_restrictTo (h : r.Linked) (hids : r.rowIds.Nodup) (topic : Uuid) :
    (r.restrictTo (· == u)).batchesOf u topic = r.batchesOf u topic := by
  have hmine : ∀ b ∈ r.batches, (b.topic == topic && b.user == u) = true → b.user = u := by
    intro b _ hb
    simp only [Bool.and_eq_true, beq_iff_eq] at hb
    exact hb.2
  have hB : (r.restrictTo (· == u)).batches.filter (fun b => b.topic == topic && b.user == u) =
      r.batches.filter fun b => b.topic == topic && b.user == u :=
    filter_own_of_select Batch.user u hmine fun _ _ _ => rfl
  simp only [batchesOf, hB]
  refine List.map_congr_left fun b hb => ?_
  have hb' := List.mem_filter.1 (List.mem_mergeSort.1 hb)
  exact batchView_restrictTo h hids hb'.1 (hmine b hb'.1 hb'.2)

theorem topicsOf_owned : ∀ v ∈ (r.topicsOf u).map (·.user), v = u := by
  intro v hv
  obtain ⟨t, ht, rfl⟩ := List.mem_map.1 hv
  have ht' := List.mem_filter.1 (List.mem_mergeSort.1 ht)
  simpa using ht'.2

end Operations

end Repository

namespace RepoCall

open Repository

theorem run_snd (c : RepoCall) (r : Repository) : (c.run r).2 = c.apply r := by
  cases c <;> simp only [run, apply, settle_map]

theorem drawn_applyAll {e₀ : Entropy} {r : Repository} (hr : r.Drawn e₀) (calls : List RepoCall) :
    (applyAll calls r).Drawn e₀ := by
  induction calls generalizing r with
  | nil => exact hr
  | cons c rest ih =>
    obtain ⟨j, he, hids⟩ := c.draws r
    exact ih (hr.step j he hids)

/-- Every call, of any operation with any arguments, acts for its user on a linked
repository whose rows are named once. -/
theorem actsFor {r : Repository} (h : r.Linked) (hids : r.rowIds.Nodup) (c : RepoCall) :
    RowsKept (r.restrictTo (· != c.user)) ((c.run r).2.restrictTo (· != c.user)) ∧
      (∀ a ∈ (c.run r).1.toOption, ∀ v ∈ a.owners, v = c.user) ∧
      c.run (r.restrictTo (· == c.user)) = ((c.run r).1, (c.run r).2.restrictTo (· == c.user)) := by
  have hT := nodup_topicIds hids
  have hK := nodup_taskIds hids
  cases c with
  | createTopic user title => exact ActsFor.settle (ActsFor.map RepoReply.topic (createTopic_actsFor title))
  | getTopic user id => exact ActsFor.settle (ActsFor.map RepoReply.topic (getTopic_actsFor id))
  | listTopics user =>
    refine ⟨RowsKept.refl _, ?_, ?_⟩
    · intro a ha
      cases ha
      exact topicsOf_owned
    · simp only [run, RepoCall.user, topicsOf_restrictTo]
  | updateTopic user id title cover =>
    exact ActsFor.settle (ActsFor.map RepoReply.topic (updateTopic_actsFor hT id title cover))
  | setCoverIfEmpty user id cover =>
    exact ActsFor.settle (ActsFor.map RepoReply.flag (setCoverIfEmpty_actsFor hT id cover))
  | deleteTopic user id => exact ActsFor.settle (ActsFor.map RepoReply.files (deleteTopic_actsFor h hids id))
  | createBatch user nb => exact ActsFor.settle (ActsFor.map RepoReply.created (createBatch_actsFor hT nb))
  | batchesOf user topic =>
    refine ⟨RowsKept.refl _, ?_, ?_⟩
    · intro a ha v hv
      cases ha
      nomatch hv
    · simp only [run, RepoCall.user, batchesOf_restrictTo h hids]
  | deleteBatch user id => exact ActsFor.settle (ActsFor.map RepoReply.removed (deleteBatch_actsFor h hids id))
  | getGeneration user id =>
    refine ⟨RowsKept.refl _, ?_, ?_⟩
    · intro a ha
      cases ha
      exact toList_owned Generation.user user fun g hg => (generation?_spec hg).2.2
    · simp only [run, RepoCall.user, generation?_restrictTo]
  | findFile user hash =>
    refine ⟨RowsKept.refl _, ?_, ?_⟩
    · intro a ha
      cases ha
      exact toList_owned FileRecord.user user fun f hf => (fileWithHash?_spec hf).2.1
    · simp only [run, RepoCall.user, fileWithHash?_restrictTo]
  | completeGeneration user gen task asset file =>
    exact ActsFor.settle (ActsFor.map RepoReply.file (completeGeneration_actsFor hids gen task asset file))
  | deleteGeneration user id =>
    exact ActsFor.settle (ActsFor.map RepoReply.deleted (deleteGeneration_actsFor h hids id))
  | getTask user id =>
    refine ⟨RowsKept.refl _, ?_, ?_⟩
    · intro a ha
      cases ha
      exact toList_owned Task.user user fun t ht => (task?_spec ht).2.2
    · simp only [run, RepoCall.user, task?_restrictTo]
  | transition user id allowed target error =>
    exact ActsFor.settle (ActsFor.map RepoReply.flag (transition_actsFor hK id allowed target error))
  | failTimedOut user ids timeoutMs =>
    exact ActsFor.settle (ActsFor.map RepoReply.count (failTimedOut_actsFor hK ids timeoutMs))

/-- On every repository that calls can build from empty with fresh identifiers, a call for
a user, of any operation with any arguments, keeps to that user's rows: every other user's
topic, batch, generation, task and file is as it was; every row it answers is the user's;
and it answers, and leaves the user's rows, as it would if no other user had any row, so an
identifier of another user's row behaves as one that names nothing. -/
theorem isolated {r : Repository} (start : Instant) (e₀ : Entropy) (calls : List RepoCall)
    (hr : r = applyAll calls (Repository.empty start e₀)) (hfresh : (e₀.drawnUntil r.entropy).Nodup)
    (c : RepoCall) :
    RowsKept (r.restrictTo (· != c.user)) ((c.apply r).restrictTo (· != c.user)) ∧
      (∀ a ∈ (c.run r).1.toOption, ∀ v ∈ a.owners, v = c.user) ∧
      c.run (r.restrictTo (· == c.user)) = ((c.run r).1, (c.apply r).restrictTo (· == c.user)) := by
  subst hr
  have hlinked := applyAll_linked start e₀ calls hfresh
  have hids := (drawn_applyAll (drawn_empty start e₀) calls).nodup hfresh
  rw [← run_snd]
  exact actsFor hlinked hids c

/-- A second user deleting the first user's topic by its identifier. -/
theorem isolated_foreign_topic :
    RowsKept ((applyAll [.createTopic ⟨1⟩ "foxes"] (Repository.empty default ⟨7, 0⟩)).restrictTo
        (· != ⟨2⟩))
      (((RepoCall.deleteTopic ⟨2⟩ (Uuid.draw ⟨7, 0⟩).1).apply
        (applyAll [.createTopic ⟨1⟩ "foxes"] (Repository.empty default ⟨7, 0⟩))).restrictTo
          (· != ⟨2⟩)) ∧
    (∀ a ∈ ((RepoCall.deleteTopic ⟨2⟩ (Uuid.draw ⟨7, 0⟩).1).run
        (applyAll [.createTopic ⟨1⟩ "foxes"] (Repository.empty default ⟨7, 0⟩))).1.toOption,
      ∀ v ∈ a.owners, v = ⟨2⟩) ∧
    (RepoCall.deleteTopic ⟨2⟩ (Uuid.draw ⟨7, 0⟩).1).run
        ((applyAll [.createTopic ⟨1⟩ "foxes"] (Repository.empty default ⟨7, 0⟩)).restrictTo
          (· == ⟨2⟩)) =
      (((RepoCall.deleteTopic ⟨2⟩ (Uuid.draw ⟨7, 0⟩).1).run
          (applyAll [.createTopic ⟨1⟩ "foxes"] (Repository.empty default ⟨7, 0⟩))).1,
        ((RepoCall.deleteTopic ⟨2⟩ (Uuid.draw ⟨7, 0⟩).1).apply
          (applyAll [.createTopic ⟨1⟩ "foxes"] (Repository.empty default ⟨7, 0⟩))).restrictTo
            (· == ⟨2⟩)) :=
  isolated default ⟨7, 0⟩ [.createTopic ⟨1⟩ "foxes"] rfl (by decide) _

end RepoCall

end ImageStudio
