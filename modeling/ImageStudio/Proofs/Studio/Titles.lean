import ImageStudio.Proofs.Studio.Calls
import ImageStudio.Proofs.Repository.Filed
import ImageStudio.Proofs.Params.Recheck
import Mathlib.Data.List.DropRight

/-!
# Proofs · Studio · Titles: no topic is left with a blank title

A topic's title is written in three places. Creating a topic trims the title and refuses it
when nothing is left; renaming a topic refuses a blank new title; and a create request that
makes a topic for its images titles it with the title service's answer when that is not
blank, and otherwise with the first 32 characters of its trimmed prompt, which the parameter
check has found not blank. The main statement, `World.titles_not_blank`, says that over every
run of the service from a studio whose topics' titles trim to something, every topic's title
trims to something.

The argument has three layers.

* Text: trimming keeps a text blank or not blank (`Text.isBlankText_trim`), and a title made
  from a prompt that is not blank keeps the prompt's first character that is not blank
  (`fallbackTitle_not_blank`, `topicTitle_not_blank`).
* Calls: a call gives a topic no title but its own (`RepoCall.titlesFrom_apply`), so a call
  whose own titles are not blank keeps every topic's title not blank
  (`Repository.TitlesHold.apply`).
* Steps: the first step of every request makes only such calls
  (`Studio.beginRequest_keepsTitles`), and the later steps of requests and the steps of jobs
  give no title at all (`World.Step.repo_runs_keepsTitles`); a run keeps the titles by
  induction over its steps.
-/

namespace ImageStudio

/-! ## Trimming -/

namespace Text

theorem isBlankText_ofList (cs : List Char) : isBlankText (String.ofList cs) = cs.all isBlank := by
  rw [isBlankText, String.toList_ofList]

/-- Trimming characters that are all blank leaves nothing. -/
theorem trimChars_of_all {cs : List Char} (h : cs.all isBlank = true) : trimChars cs = [] := by
  have hdrop : dropBlanks cs = [] := List.dropWhile_eq_nil_iff.2 (by simpa using h)
  rw [trimChars, hdrop]
  rfl

/-- Trimming characters that are not all blank keeps the first character that is not blank in
front. -/
theorem trimChars_cons {cs : List Char} (h : cs.all isBlank = false) :
    ∃ c rest, trimChars cs = c :: rest ∧ isBlank c = false := by
  -- after the blanks in front, the first character is not blank
  have hne : dropBlanks cs ≠ [] := fun h0 => by
    rw [dropBlanks, List.dropWhile_eq_nil_iff] at h0
    simp [List.all_eq_true.2 h0] at h
  obtain ⟨c, L, hL⟩ := List.exists_cons_of_ne_nil hne
  have hc : isBlank c = false := by
    have hfront := List.head?_dropWhile_not isBlank cs
    rw [show cs.dropWhile isBlank = c :: L from hL, List.head?_cons] at hfront
    exact hfront
  -- the blanks at the back go next, which leaves a prefix of `c :: L` that still holds `c`
  have htrim : trimChars cs = (c :: L).rdropWhile isBlank := by
    rw [trimChars, hL]
    rfl
  have hkept : (c :: L).rdropWhile isBlank ≠ [] := by
    rw [Ne, List.rdropWhile_eq_nil_iff]
    exact fun hall => absurd (hall c List.mem_cons_self) (by simp [hc])
  obtain ⟨d, rest, hrest⟩ := List.exists_cons_of_ne_nil hkept
  have hprefix := List.rdropWhile_prefix isBlank (c :: L)
  rw [hrest] at hprefix
  obtain ⟨tail, htail⟩ := hprefix
  have hdc : d = c := (List.cons.inj htail).1
  exact ⟨c, rest, by rw [htrim, hrest, hdc], hc⟩

/-- Trimming keeps a text blank, or not blank. -/
theorem isBlankText_trim (s : String) : isBlankText (trim s) = isBlankText s := by
  rw [trim, isBlankText_ofList, isBlankText]
  cases h : s.toList.all isBlank with
  | true => rw [trimChars_of_all h]; rfl
  | false =>
    obtain ⟨c, rest, htrim, hc⟩ := trimChars_cons h
    rw [htrim, List.all_cons, hc, Bool.false_and]

/-- A text trims to nothing exactly when it is blank. -/
theorem trim_eq_empty_iff (s : String) : trim s = "" ↔ isBlankText s = true := by
  constructor
  · intro h
    rw [← isBlankText_trim, h]
    rfl
  · intro h
    rw [trim, trimChars_of_all h]

end Text

/-- A title made from a prompt that is not blank is not blank: it keeps the prompt's first
character that is not blank. -/
theorem fallbackTitle_not_blank {prompt : String} (h : Text.isBlankText prompt = false) :
    Text.isBlankText (fallbackTitle prompt) = false := by
  obtain ⟨c, rest, htrim, hc⟩ := Text.trimChars_cons h
  rw [fallbackTitle, Text.isBlankText_ofList, Text.trim, String.toList_ofList, htrim,
    fallbackTitleLength, List.take_succ_cons, List.all_cons, hc, Bool.false_and]

/-- The title of a new topic is not blank when the prompt is not: a blank answer of the title
service is replaced by the title made from the prompt. -/
theorem topicTitle_not_blank (titles : Option TitleService) {prompt : String}
    (h : Text.isBlankText prompt = false) : Text.isBlankText (topicTitle titles prompt) = false := by
  unfold topicTitle
  split
  · split
    · exact fallbackTitle_not_blank h
    · next hanswer => simpa using hanswer
  · exact fallbackTitle_not_blank h

/-- Checked parameters carry a prompt that is not blank. -/
theorem ParamsSchema.prompt_not_blank {s : ParamsSchema} {R : Json} {p : ImageParams}
    (h : s.check R = .ok p) : Text.isBlankText p.prompt = false := by
  obtain ⟨_, -, ⟨run⟩⟩ := ParamsSchema.CheckRun.of_check h
  rw [run.prompt_eq]
  exact run.notBlank

/-! ## Calls -/

/-- The titles a call gives a topic. -/
def RepoCall.titles : RepoCall → List String
  | .createTopic _ title => [title]
  | .updateTopic _ _ title _ => title.toList
  | _ => []

/-- A call gives topics only titles that are not blank. -/
def RepoCall.KeepsTitles (c : RepoCall) : Prop := ∀ t ∈ c.titles, Text.isBlankText t = false

/-- Every topic has a title that is not blank. -/
def Repository.TitlesHold (r : Repository) : Prop :=
  ∀ t ∈ r.topics, Text.isBlankText t.title = false

/-- Every title of `r'` is one of `titles` or a title of `r`. -/
def Repository.TitlesFrom (titles : List String) (r r' : Repository) : Prop :=
  ∀ t ∈ r'.topics, t.title ∈ titles ∨ ∃ u ∈ r.topics, u.title = t.title

namespace Repository.TitlesFrom

variable {titles : List String} {r r' : Repository}

theorem of_topics (h : r'.topics = r.topics) : TitlesFrom titles r r' :=
  fun t ht => .inr ⟨t, h ▸ ht, rfl⟩

theorem of_subset (h : ∀ t ∈ r'.topics, t ∈ r.topics) : TitlesFrom titles r r' :=
  fun t ht => .inr ⟨t, h t ht, rfl⟩

/-- Writing back one topic `x` of `r` as `y`, whose title is one of `titles` or the old one. -/
theorem replace {x y : Topic} (hx : x ∈ r.topics)
    (h : r'.topics = r.topics.map fun u => if u.id == x.id then y else u)
    (hy : y.title ∈ titles ∨ y.title = x.title) : TitlesFrom titles r r' := by
  intro t ht
  rw [h, List.mem_map] at ht
  obtain ⟨u, hu, rfl⟩ := ht
  split
  · exact hy.imp_right fun e => ⟨x, hx, e.symm⟩
  · exact .inr ⟨u, hu, rfl⟩

/-- Keeping a topic's title while writing it back. -/
theorem retouch {x y : Topic} (hx : x ∈ r.topics)
    (h : r'.topics = r.topics.map fun u => if u.id == x.id then y else u)
    (hy : y.title = x.title) : TitlesFrom titles r r' :=
  replace hx h (.inr hy)

end Repository.TitlesFrom

open Repository in
/-- A failed call keeps the topics, so a call gives no title but those its successful runs
give. -/
theorem Repository.TitlesFrom.of_settle {titles : List String} {r : Repository} {α : Type}
    {m : Repo α} (h : ∀ a r', ExceptT.run m r = (.ok a, r') → TitlesFrom titles r r') :
    TitlesFrom titles r (settle m r).2 := by
  rw [settle_snd]
  rcases hrun : ExceptT.run m r with ⟨_ | a, r'⟩
  · exact .of_topics rfl
  · exact h a r' hrun

open Repository in
theorem Repository.TitlesFrom.of_run {titles : List String} {r : Repository} {α : Type}
    {m : Repo α} (h : TitlesFrom titles r (ExceptT.run m r).2) : TitlesFrom titles r (settle m r).2 :=
  of_settle fun _ _ hrun => by
    rw [hrun] at h
    exact h

open Repository in
/-- A call gives a topic no title but its own: every title after the call is one of the call's
titles or a title from before. -/
theorem RepoCall.titlesFrom_apply (c : RepoCall) (r : Repository) :
    TitlesFrom c.titles r (c.apply r) := by
  cases c with
  | createTopic user title =>
    refine .of_run ?_
    rw [run_createTopic]
    intro t ht
    rcases List.mem_append.1 ht with ht | ht
    · exact .inr ⟨t, ht, rfl⟩
    · rw [List.mem_singleton.1 ht]
      exact .inl (List.mem_singleton_self _)
  | getTopic user id =>
    refine .of_run ?_
    rw [run_getTopic]
    exact .of_topics rfl
  | updateTopic user id title cover =>
    refine .of_run ?_
    rw [run_updateTopic]
    rcases ht : r.topic? user id with _ | t
    · exact .of_topics rfl
    · -- the topic gets the new title when one is given, and keeps its own otherwise
      refine .replace (topic?_spec ht).1 rfl ?_
      cases title with
      | none => exact .inr rfl
      | some title => exact .inl (List.mem_singleton_self _)
  | setCoverIfEmpty user id cover =>
    refine .of_run ?_
    rw [run_setCoverIfEmpty]
    rcases ht : r.topic? user id with _ | t
    · exact .of_topics rfl
    · dsimp only
      split
      · exact .retouch (topic?_spec ht).1 rfl rfl
      · exact .of_topics rfl
  | deleteTopic user id =>
    refine .of_run ?_
    rw [run_deleteTopic]
    rcases r.topic? user id with _ | t
    · exact .of_topics rfl
    · dsimp only
      rw [run_purgeOrphans]
      exact .of_subset fun u hu => (List.mem_filter.1 hu).1
  | createBatch user nb =>
    -- storing a batch moves its topic's update time only
    refine .of_settle fun cb r' hrun => ?_
    obtain ⟨t, ht, -, -, hr'⟩ := createBatch_ok hrun
    rw [hr']
    exact .retouch (topic?_spec ht).1 rfl rfl
  | deleteBatch user id =>
    refine .of_run ?_
    rw [run_deleteBatch]
    dsimp only
    split_ifs
    · exact .of_topics rfl
    · rw [run_purgeOrphans]
      exact .of_topics rfl
  | completeGeneration user gen task asset file =>
    refine .of_run ?_
    rcases hp : (r.task? user task).any (·.status == .processing) with _ | _
    · rw [run_completeGeneration_of_idle hp]
      exact .of_topics rfl
    · rcases hg : r.generation? user gen with _ | g
      · rw [run_completeGeneration_of_missing hp hg]
        exact .of_topics rfl
      · obtain ⟨record, clock, entropy, files, hf⟩ := fileFor_ok user file r
        rw [run_completeGeneration hp (by rw [hg]; rfl) hf]
        exact .of_topics rfl
  | deleteGeneration user id =>
    refine .of_run ?_
    rw [run_deleteGeneration]
    rcases r.generation? user id with _ | g
    · exact .of_topics rfl
    · dsimp only
      rcases g.file with _ | f
      · exact .of_topics rfl
      · -- removing orphaned files leaves the topics alone
        exact .of_topics rfl
  | transition user id allowed target error =>
    refine .of_run ?_
    rw [run_transition]
    rcases r.task? user id with _ | t
    · exact .of_topics rfl
    · dsimp only
      split <;> exact .of_topics rfl
  | failTimedOut user ids timeoutMs =>
    rw [RepoCall.apply_failTimedOut]
    obtain ⟨clock, tasks, h⟩ := sweep_rows user (r.clock.addMillis 1) timeoutMs ids
      { r with clock := r.clock.addMillis 1 }
    rw [h]
    exact .of_topics rfl
  | listTopics | batchesOf | getGeneration | findFile | getTask => exact .of_topics rfl

/-- A call whose titles are not blank keeps every topic's title not blank. -/
theorem Repository.TitlesHold.apply {r : Repository} (h : r.TitlesHold) {c : RepoCall}
    (hc : c.KeepsTitles) : (c.apply r).TitlesHold := by
  intro t ht
  rcases c.titlesFrom_apply r t ht with hnew | ⟨u, hu, heq⟩
  · exact hc _ hnew
  · exact heq ▸ h u hu

/-- A call that gives no title keeps the titles. -/
theorem RepoCall.keepsTitles_of_nil {c : RepoCall} (h : c.titles = []) : c.KeepsTitles := by
  intro t ht
  rw [h] at ht
  cases ht

/-- A run of calls that keep the titles keeps them: the clock and the source leave the topics
alone. -/
theorem Repository.Runs.titlesHold {r r' : Repository} (h : Runs RepoCall.KeepsTitles r r')
    (hr : r.TitlesHold) : r'.TitlesHold := by
  induction h with
  | refl => exact hr
  | call c hc _ ih => exact ih (hr.apply hc)
  | tick t _ ih => exact ih hr
  | draw _ ih => exact ih hr

/-! ## Requests and steps -/

namespace Studio

open Calls in
/-- The first step of a request gives a topic only a title that is not blank: the checked
prompt's title, a trimmed title that is not empty, or a new title that is not blank. -/
theorem beginRequest_keepsTitles (r : Request) : Calls RepoCall.KeepsTitles (beginRequest r) := by
  cases r with
  | createImage user req =>
    refine (planCreate_calls_of user req (fun _ => RepoCall.keepsTitles_of_nil rfl)
      fun titles _ params hcheck => ?_).bind fun e => by cases e <;> exact Calls.pure _
    intro t ht
    rw [List.mem_singleton.1 ht]
    exact topicTitle_not_blank titles (ParamsSchema.prompt_not_blank hcheck)
  | status user gen task =>
    exact (generationStatus_calls user gen task fun _ => RepoCall.keepsTitles_of_nil rfl).bind
      fun _ => Calls.pure _
  | deleteGeneration user id =>
    exact (dropGeneration_calls user id (RepoCall.keepsTitles_of_nil rfl)).bind fun e => by
      cases e <;> exact Calls.pure _
  | deleteBatch user id =>
    exact (dropBatch_calls user id (RepoCall.keepsTitles_of_nil rfl)).bind fun e => by
      cases e <;> exact Calls.pure _
  | deleteTopic user id =>
    exact (Calls.inRepo (.deleteTopic user id) (RepoCall.keepsTitles_of_nil rfl) fun _ => rfl).bind
      fun e => by cases e <;> exact Calls.pure _
  | createTopic user title =>
    refine (createTopic_calls_of user title fun hfull => ?_).bind fun _ => Calls.pure _
    intro t ht
    rw [List.mem_singleton.1 ht, Text.isBlankText_trim, Bool.eq_false_iff, Ne,
      ← Text.trim_eq_empty_iff]
    intro hempty
    rw [hempty] at hfull
    exact absurd hfull (by decide)
  | updateTopic user id title cover =>
    refine (updateTopic_calls_of user id title cover fun hfull => ?_).bind fun _ => Calls.pure _
    intro t ht
    cases title with
    | none => cases ht
    | some title =>
      rw [List.mem_singleton.1 ht]
      simpa using hfull

end Studio

/-- Every step of the service changes the repository by calls that give topics only titles
that are not blank, clock readings and draws: the later steps of requests and the steps of
jobs give no title at all. -/
theorem World.Step.repo_runs_keepsTitles {w w' : World} {a : World.Action} (h : World.Step w a w') :
    Repository.Runs RepoCall.KeepsTitles w.studio.repo w'.studio.repo := by
  cases h with
  | send r => exact Studio.Through.of_calls (Studio.beginRequest_keepsTitles r) w.studio
  | resume pre post st _ =>
    exact Studio.resumeRequest_through_of (fun _ _ => RepoCall.keepsTitles_of_nil rfl)
      (fun _ _ _ => RepoCall.keepsTitles_of_nil rfl) st w.studio
  | take => exact .refl _
  | rerun => exact .refl _
  | advance pre post job stage _ =>
    exact Studio.jobStep_through_of job (RepoCall.keepsTitles_of_nil rfl)
      (fun _ => RepoCall.keepsTitles_of_nil rfl) (fun _ _ => RepoCall.keepsTitles_of_nil rfl)
      (fun _ => RepoCall.keepsTitles_of_nil rfl) (fun _ _ => RepoCall.keepsTitles_of_nil rfl)
      stage w.studio
  | cancelWorker => exact .refl _
  | store => exact .refl _
  | wait ms => exact .tick _ (.refl _)

/-- A run keeps every topic's title not blank. -/
theorem World.Reaches.titlesHold {w₀ w : World} (h : World.Reaches w₀ w)
    (h₀ : w₀.studio.repo.TitlesHold) : w.studio.repo.TitlesHold := by
  induction h with
  | refl => exact h₀
  | step _ hs ih => exact hs.repo_runs_keepsTitles.titlesHold ih

/-- Over every run of the service from a studio whose topics' titles trim to something, every
topic's title trims to something. -/
theorem World.titles_not_blank {w₀ w : World} (h : World.Reaches w₀ w)
    (h₀ : ∀ t ∈ w₀.studio.repo.topics, Text.trim t.title ≠ "") :
    ∀ t ∈ w.studio.repo.topics, Text.trim t.title ≠ "" := by
  have hstart : w₀.studio.repo.TitlesHold := fun t ht => by
    simpa [Text.trim_eq_empty_iff] using h₀ t ht
  intro t ht
  rw [Ne, Text.trim_eq_empty_iff, Bool.not_eq_true]
  exact h.titlesHold hstart t ht

/-- From a blank studio, a run that creates a topic with a padded title and renames it. -/
theorem World.titles_not_blank_topic_run :
    let s₀ : Studio := { repo := Repository.empty default ⟨7, 0⟩, seeds := ChaCha.seedFromU64 1 }
    let w₁ : World := World.send { studio := s₀ } (.createTopic ⟨1⟩ "  cats  ")
    let w₂ : World := w₁.send (.updateTopic ⟨1⟩ (Uuid.draw ⟨7, 0⟩).1 (some "dogs ") none)
    World.Reaches { studio := s₀ } w₂ ∧ (∀ t ∈ s₀.repo.topics, Text.trim t.title ≠ "") ∧
      w₂.studio.repo.topics.length = 1 ∧ ∀ t ∈ w₂.studio.repo.topics, Text.trim t.title ≠ "" := by
  intro s₀ w₁ w₂
  have hrun : World.Reaches { studio := s₀ } w₂ := .step (.step .refl (.send _ _)) (.send _ _)
  have hstart : ∀ t ∈ s₀.repo.topics, Text.trim t.title ≠ "" := fun t ht => by cases ht
  exact ⟨hrun, hstart, by decide, World.titles_not_blank hrun hstart⟩

end ImageStudio
