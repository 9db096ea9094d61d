import ImageStudio.Proofs.Params.Recheck

/-!
# Proofs · Params · Verdict: which parameters a check accepts, and which fault it reports

`ParamsSchema.check` walks the given members in order and merges them over the defaults,
reads the prompt, then applies the merged members in order. This module says what it
decides without the walks.

The parameters are accepted exactly when (`Accepts`) every given name is a standard
parameter that the model declares unless its value is `null` (`KeyOk`), the prompt of the
merged members (`merged`: the defaults, with the given members that are not `null` put over
them) is a string that is not blank, and every other merged member passes the test of its
key (`ValueOk`). The tests say in their own terms what the validators check
(`applyMember_ok_iff`). The accepted parameters are the merged members, each in its
canonical form.

A refusal reports the first fault, in this order (`Refuses`): a value that is no object;
the first given member, by name, that is no standard parameter or gives an undeclared one a
value (`KeyRefusal`); the prompt (`PromptRefusal`); the first merged member, by name, that
fails its test. Names compare as strings, character by character, which is the order of
their UTF-8 bytes. The members of an object are kept in that order (`Json.Sorted`), and so
are the merged ones, so the first member each walk meets is the first by name
(`Json.mem_of_sorted_of_lt`).

Main statement: `check_verdict`.
-/

namespace ImageStudio

namespace Json

/-- In a list sorted by name, a member whose name comes before another's comes before it. -/
theorem mem_of_sorted_of_lt {pre post : List (String × Json)} {x y : String × Json}
    (hs : Sorted (pre ++ x :: post)) (hy : y ∈ pre ++ x :: post) (hlt : y.1 < x.1) : y ∈ pre := by
  rcases List.mem_append.1 hy with hy | hy
  · exact hy
  · have hafter : ∀ z ∈ post, x.1 < z.1 :=
      (List.pairwise_cons.1 (List.pairwise_append.1 hs).2.1).1
    rcases List.mem_cons.1 hy with rfl | hy
    · exact absurd hlt (lt_irrefl _)
    · exact absurd hlt (lt_asymm (hafter y hy))

end Json

namespace ParamsSchema

/-! ## The tests of a value -/

/-- A double within the declared bounds. -/
def InBounds (spec : ParamSpec) (x : Double) : Prop :=
  (∀ lo, spec.minimum = some lo → x.lt lo = false) ∧ ∀ hi, spec.maximum = some hi → hi.lt x = false

/-- An integer literal that a signed 64-bit integer holds, not negative, within the bounds
once rounded to a double. -/
def IntegerOk (spec : ParamSpec) (v : Json) : Prop :=
  ∃ i, v = .num (.int i) ∧ 0 ≤ i ∧ i ≤ Number.i64Max ∧ InBounds spec (Number.int i).asDouble

/-- Any number within the bounds, as a double. -/
def NumberOk (spec : ParamSpec) (v : Json) : Prop :=
  ∃ n, v = .num n ∧ InBounds spec n.asDouble

/-- A string among the allowed values, when the spec lists any. -/
def EnumOk (spec : ParamSpec) (v : Json) : Prop :=
  ∃ t, v = .str t ∧ ∀ allowed, spec.allowed = some allowed → t ∈ allowed

/-- An array of strings. -/
def StringsOk (v : Json) : Prop :=
  ∃ ts : List String, v = .arr (ts.map .str)

/-- The spec a check reads for a key: the declared one, or the empty spec. -/
def specOf (s : ParamsSchema) (k : ParamKey) : ParamSpec := (s.spec? k).getD {}

/-- Whether a value passes the test of its key: the width, the height and the step count
are integers in range, the seed too and at most `maxSeed`, the guidance scale a number in
range, the size and the aspect ratio allowed strings, the reference images strings. The
prompt is read apart. -/
def ValueOk (s : ParamsSchema) (k : ParamKey) (v : Json) : Prop :=
  match k with
  | .prompt => True
  | .width | .height | .steps => IntegerOk (s.specOf k) v
  | .seed => IntegerOk (s.specOf k) v ∧ ∀ i, v = .num (.int i) → i ≤ maxSeed
  | .cfg => NumberOk (s.specOf k) v
  | .size | .aspectRatio => EnumOk (s.specOf k) v
  | .imageUrls => StringsOk v

section Tests

variable {s : ParamsSchema} {k : ParamKey} {v : Json} {spec : ParamSpec} {e : ParamsError}

/-- A refusal of a value that names its key. -/
def IsInvalidFor (k : ParamKey) (e : ParamsError) : Prop := ∃ r, e = invalidFor k r

theorem numberInRange_num (n : Number) :
    (∃ x, numberInRange k (.num n) spec = .ok x) ↔ InBounds spec n.asDouble := by
  unfold numberInRange InBounds
  dsimp only
  rcases spec.minimum with _ | lo <;> rcases spec.maximum with _ | hi
  · simp
  · cases hhi : hi.lt n.asDouble <;> simp [hhi]
  · cases hlo : n.asDouble.lt lo <;> simp [hlo]
  · cases hlo : n.asDouble.lt lo <;> cases hhi : hi.lt n.asDouble <;> simp [hlo, hhi]

theorem numberInRange_ok_iff : (∃ x, numberInRange k v spec = .ok x) ↔ NumberOk spec v := by
  cases v with
  | num n => simp only [numberInRange_num, NumberOk, Json.num.injEq, exists_eq_left']
  | _ => simp [numberInRange, NumberOk]

theorem numberInRange_error (h : numberInRange k v spec = .error e) : IsInvalidFor k e := by
  revert h
  unfold numberInRange
  cases v
  case num n =>
    dsimp only
    rcases spec.minimum with _ | lo <;> rcases spec.maximum with _ | hi
    · intro h
      cases h
    all_goals
      intro h
      dsimp only at h
      split_ifs at h <;> cases h
      all_goals exact ⟨_, rfl⟩
  all_goals
    intro h
    cases h
    exact ⟨_, rfl⟩

theorem integerInRange_ok_iff : (∃ i, integerInRange k v spec = .ok i) ↔ IntegerOk spec v := by
  unfold integerInRange IntegerOk
  cases v
  case num n =>
    cases n with
    | float d => simp [Number.asI64?]
    | int i =>
      simp only [Number.asI64?]
      by_cases hmax : i ≤ Number.i64Max
      · by_cases hneg : i < 0
        · simp [hmax, hneg]
        · simp only [hmax, if_true, hneg, if_false, Except.map_eq_ok]
          constructor
          · rintro ⟨_, x, hx, rfl⟩
            exact ⟨i, rfl, by omega, hmax, (numberInRange_num _).1 ⟨x, hx⟩⟩
          · rintro ⟨_, hv, -, -, hb⟩
            cases hv
            obtain ⟨x, hx⟩ := (numberInRange_num _).2 hb
            exact ⟨_, x, hx, rfl⟩
      · simp [hmax]
  all_goals simp

theorem integerInRange_error (h : integerInRange k v spec = .error e) : IsInvalidFor k e := by
  unfold integerInRange at h
  split at h
  · split at h
    · cases h
      exact ⟨_, rfl⟩
    · split_ifs at h
      · cases h
        exact ⟨_, rfl⟩
      · cases hn : numberInRange k _ spec with
        | error e' =>
          rw [hn] at h
          cases h
          exact numberInRange_error hn
        | ok x =>
          rw [hn] at h
          cases h
  · cases h
    exact ⟨_, rfl⟩

theorem stringInEnum_ok_iff : (∃ t, stringInEnum k v spec = .ok t) ↔ EnumOk spec v := by
  unfold stringInEnum EnumOk
  cases v
  case str t =>
    dsimp only
    rcases spec.allowed with _ | allowed
    · simp
    · by_cases ht : t ∈ allowed <;> simp [ht]
  all_goals simp

theorem stringInEnum_error (h : stringInEnum k v spec = .error e) : IsInvalidFor k e := by
  unfold stringInEnum at h
  split at h
  · split at h
    · split_ifs at h
      cases h
      exact ⟨_, rfl⟩
    · cases h
  · cases h
    exact ⟨_, rfl⟩

theorem stringList_ok_iff : (∃ ts, stringList k v = .ok ts) ↔ StringsOk v := by
  unfold StringsOk
  constructor
  · rintro ⟨ts, hts⟩
    exact ⟨ts, stringList_eq_ok hts⟩
  · rintro ⟨ts, rfl⟩
    refine ⟨ts, ?_⟩
    unfold stringList
    induction ts with
    | nil => rfl
    | cons t ts ih =>
      simp only [List.map_cons, List.mapM_cons] at ih ⊢
      rw [ih]
      rfl

theorem stringList_error (h : stringList k v = .error e) : IsInvalidFor k e := by
  unfold stringList at h
  split at h
  · obtain ⟨item, -, hitem⟩ := mapM_error h
    cases item <;> cases hitem
    all_goals exact ⟨_, rfl⟩
  · cases h
    exact ⟨_, rfl⟩

/-- A member is applied exactly when its value passes the test of its key, or its name is no
standard parameter, whatever the parameters it is applied to. -/
theorem applyMember_ok_iff (q : ImageParams) (n : String) (v : Json) :
    (∃ q', s.applyMember q n v = .ok q') ↔ ∀ k, ParamKey.ofName? n = some k → s.ValueOk k v := by
  unfold applyMember
  cases hk : ParamKey.ofName? n with
  | none => simp
  | some k =>
    simp only [Option.some.injEq, forall_eq']
    cases k
    case prompt => simp [ValueOk]
    case width | height | steps =>
      rw [Except.exists_map_eq_ok]
      exact integerInRange_ok_iff
    case cfg =>
      rw [Except.exists_map_eq_ok]
      exact numberInRange_ok_iff
    case size | aspectRatio =>
      rw [Except.exists_map_eq_ok]
      exact stringInEnum_ok_iff
    case imageUrls =>
      rw [Except.exists_map_eq_ok]
      exact stringList_ok_iff
    case seed =>
      -- the seed's own bound is read after the integer test
      have hint : (∃ i, integerInRange .seed v ((s.spec? .seed).getD {}) = .ok i) ↔
          IntegerOk (s.specOf .seed) v := integerInRange_ok_iff
      simp only [ValueOk]
      rw [← hint]
      cases hi : integerInRange .seed v ((s.spec? .seed).getD {}) with
      | error e' => simp [bind, Except.bind]
      | ok i =>
        obtain ⟨rfl, -⟩ := integerInRange_eq_ok hi
        by_cases hmax : i > maxSeed
        · simp [bind, Except.bind, hmax, Json.ofInt, throw, throwThe, MonadExceptOf.throw]
        · simp [bind, Except.bind, hmax, Json.ofInt, pure, Except.pure]
          omega

/-- A member is refused with a refusal that names it. -/
theorem applyMember_error {q : ImageParams} {n : String} (h : s.applyMember q n v = .error e) :
    ∃ r, e = .invalid n r := by
  unfold applyMember at h
  cases hk : ParamKey.ofName? n with
  | none =>
    rw [hk] at h
    cases h
  | some k =>
    obtain rfl := ParamKey.ofName?_eq_some.1 hk
    rw [hk] at h
    dsimp only at h
    have hfor : IsInvalidFor k e → ∃ r, e = .invalid k.name r := fun ⟨r, hr⟩ => ⟨r, hr⟩
    apply hfor
    cases k
    case prompt => cases h
    case width | height | steps => exact integerInRange_error (Except.map_eq_error.1 h)
    case cfg => exact numberInRange_error (Except.map_eq_error.1 h)
    case size | aspectRatio => exact stringInEnum_error (Except.map_eq_error.1 h)
    case imageUrls => exact stringList_error (Except.map_eq_error.1 h)
    case seed =>
      cases hi : integerInRange .seed v ((s.spec? .seed).getD {}) with
      | error e' =>
        simp only [hi, bind, Except.bind] at h
        cases h
        exact integerInRange_error hi
      | ok i =>
        simp only [hi, bind, Except.bind] at h
        split_ifs at h
        · cases h
          exact ⟨_, rfl⟩
        · cases h

end Tests

/-! ## Merging the given members -/

/-- A given member that the merge lets through: a standard parameter, declared by the model
unless its value is `null`. -/
def KeyOk (s : ParamsSchema) (x : String × Json) : Prop :=
  ∃ k, ParamKey.ofName? x.1 = some k ∧ (x.2.isNull = true ∨ s.supports k = true)

/-- Why the merge refuses a given member: its name is no standard parameter, or it gives a
parameter the model does not declare a value. -/
inductive KeyRefusal (s : ParamsSchema) (x : String × Json) : ParamsError → Prop where
  | unknown (h : ParamKey.ofName? x.1 = none) : KeyRefusal s x (.unknownParameter x.1)
  | unsupported {k : ParamKey} (h : ParamKey.ofName? x.1 = some k) (hnull : x.2.isNull = false)
      (hsup : s.supports k = false) : KeyRefusal s x (.unsupported x.1)

/-- The members a check applies: the defaults, with the given members that are not `null`
put over them in turn. -/
def merged (s : ParamsSchema) (fs : List (String × Json)) : List (String × Json) :=
  (fs.filter fun x => !x.2.isNull).foldl (fun a x => Json.insertField x.1 x.2 a) s.defaultMembers

section Merge

variable {s : ParamsSchema} {e : ParamsError}

theorem sorted_merged (fs : List (String × Json)) : Json.Sorted (s.merged fs) :=
  Json.sorted_foldl_insertField _ (Json.sorted_mkObj _)

/-- Members the merge lets through are put over the accumulated ones, `null` ones skipped. -/
theorem mergeProvided_of_keyOk : ∀ {acc fs : List (String × Json)}, (∀ x ∈ fs, s.KeyOk x) →
    s.mergeProvided acc fs =
      .ok ((fs.filter fun x => !x.2.isNull).foldl (fun a x => Json.insertField x.1 x.2 a) acc)
  | acc, [], _ => rfl
  | acc, (n, v) :: rest, h => by
    obtain ⟨k, hk, hok⟩ := h (n, v) List.mem_cons_self
    have hrest : ∀ x ∈ rest, s.KeyOk x := fun x hx => h x (List.mem_cons_of_mem _ hx)
    simp only [mergeProvided, hk, List.filter_cons]
    cases hnull : v.isNull
    · -- a value, of a declared parameter
      have hsup : s.supports k = true := hok.resolve_left (by simp [hnull])
      simp only [hsup, Bool.not_true, Bool.false_eq_true, if_false, Bool.not_false, if_true,
        List.foldl_cons]
      exact mergeProvided_of_keyOk hrest
    · simp only [if_true, Bool.not_true, Bool.false_eq_true, if_false]
      exact mergeProvided_of_keyOk hrest

/-- A merge that succeeds let every given member through. -/
theorem keyOk_of_mergeProvided : ∀ {acc fs M : List (String × Json)}, s.mergeProvided acc fs = .ok M →
    ∀ x ∈ fs, s.KeyOk x
  | _, [], _, _, x, hx => absurd hx List.not_mem_nil
  | acc, (n, v) :: rest, M, h, x, hx => by
    simp only [mergeProvided] at h
    cases hk : ParamKey.ofName? n with
    | none =>
      rw [hk] at h
      cases h
    | some k =>
      rw [hk] at h
      dsimp only at h
      split_ifs at h with hnull hsup
      · rcases List.mem_cons.1 hx with rfl | hx
        · exact ⟨k, hk, .inl hnull⟩
        · exact keyOk_of_mergeProvided h x hx
      · rcases List.mem_cons.1 hx with rfl | hx
        · exact ⟨k, hk, .inr (by simpa using hsup)⟩
        · exact keyOk_of_mergeProvided h x hx

/-- A merge that fails stops at a member it refuses, after members it lets through. -/
theorem mergeProvided_error : ∀ {acc fs : List (String × Json)}, s.mergeProvided acc fs = .error e →
    ∃ pre x post, fs = pre ++ x :: post ∧ (∀ y ∈ pre, s.KeyOk y) ∧ s.KeyRefusal x e
  | _, [], h => by cases h
  | acc, (n, v) :: rest, h => by
    simp only [mergeProvided] at h
    cases hk : ParamKey.ofName? n with
    | none =>
      rw [hk] at h
      cases h
      exact ⟨[], (n, v), rest, rfl, fun _ hy => absurd hy List.not_mem_nil, .unknown hk⟩
    | some k =>
      rw [hk] at h
      dsimp only at h
      -- the member is let through, and the refusal comes later
      have hlater : ∀ {acc'}, s.mergeProvided acc' rest = .error e → s.KeyOk (n, v) →
          ∃ pre x post, (n, v) :: rest = pre ++ x :: post ∧ (∀ y ∈ pre, s.KeyOk y) ∧ s.KeyRefusal x e := by
        intro acc' h' hok
        obtain ⟨pre, x, post, hrest, hpre, hx⟩ := mergeProvided_error h'
        refine ⟨(n, v) :: pre, x, post, by rw [hrest]; rfl, fun y hy => ?_, hx⟩
        rcases List.mem_cons.1 hy with rfl | hy
        · exact hok
        · exact hpre y hy
      split_ifs at h with hnull hsup
      · exact hlater h ⟨k, hk, .inl hnull⟩
      · cases h
        exact ⟨[], (n, v), rest, rfl, fun _ hy => absurd hy List.not_mem_nil,
          .unsupported hk (by simpa using hnull) (by simpa using hsup)⟩
      · exact hlater h ⟨k, hk, .inr (by simpa using hsup)⟩

end Merge

/-! ## What a check decides -/

/-- The parameters a check gives for an object's members: every member is let through, the
merged prompt is a string that is not blank, every merged member passes the test of its
key, and the parameters hold the merged members in their canonical forms. -/
structure Accepts (s : ParamsSchema) (fs : List (String × Json)) (p : ImageParams) : Prop where
  keys : ∀ x ∈ fs, s.KeyOk x
  prompt : Json.lookupField "prompt" (s.merged fs) = some (.str p.prompt)
  notBlank : Text.isBlankText p.prompt = false
  values : ∀ k v, Json.lookupField k.name (s.merged fs) = some v → s.ValueOk k v
  entries : ∀ k, k ≠ .prompt → p.entry k = (Json.lookupField k.name (s.merged fs)).elim none k.canonical

/-- Why the prompt of the merged members is refused: it is missing or blank, or it is not a
string. -/
inductive PromptRefusal (M : List (String × Json)) : ParamsError → Prop where
  | missing (h : Json.lookupField "prompt" M = none) : PromptRefusal M .emptyPrompt
  | blank {t : String} (h : Json.lookupField "prompt" M = some (.str t)) (hblank : Text.isBlankText t = true) :
      PromptRefusal M .emptyPrompt
  | notString {v : Json} (h : Json.lookupField "prompt" M = some v) (hv : ∀ t, v ≠ .str t) :
      PromptRefusal M (.invalid "prompt" "expected a string")

/-- The first fault of raw parameters, in the order a check looks for them: a value that is
no object; the first given member by name that the merge refuses; the prompt; the first
merged member by name that fails its test, whose refusal names it. -/
inductive Refuses (s : ParamsSchema) (R : Json) : ParamsError → Prop where
  | notAnObject (h : ∀ fs, R ≠ .obj fs) : Refuses s R .notAnObject
  | key {fs : List (String × Json)} {x : String × Json} {e : ParamsError} (hR : R = .obj fs)
      (hx : x ∈ fs) (hbefore : ∀ y ∈ fs, y.1 < x.1 → s.KeyOk y) (he : s.KeyRefusal x e) :
      Refuses s R e
  | prompt {fs : List (String × Json)} {e : ParamsError} (hR : R = .obj fs) (hkeys : ∀ y ∈ fs, s.KeyOk y)
      (he : PromptRefusal (s.merged fs) e) : Refuses s R e
  | value {fs : List (String × Json)} {t : String} {k : ParamKey} {v : Json} (r : String)
      (hR : R = .obj fs) (hkeys : ∀ y ∈ fs, s.KeyOk y)
      (hprompt : Json.lookupField "prompt" (s.merged fs) = some (.str t)) (hblank : Text.isBlankText t = false)
      (hv : Json.lookupField k.name (s.merged fs) = some v) (hbad : ¬ s.ValueOk k v)
      (hbefore : ∀ j w, j.name < k.name → Json.lookupField j.name (s.merged fs) = some w → s.ValueOk j w) :
      Refuses s R (.invalid k.name r)

section Verdict

variable {s : ParamsSchema} {fs : List (String × Json)} {e : ParamsError}

/-- A member applied from some parameters passes the test of its key. -/
theorem valueOk_of_applyMember {q r : ImageParams} {k : ParamKey} {v : Json}
    (h : s.applyMember q k.name v = .ok r) : s.ValueOk k v :=
  (applyMember_ok_iff q k.name v).1 ⟨r, h⟩ k (ParamKey.ofName?_name k)

/-- When every merged value passes the test of its key, every merged member is applied from
any parameters. -/
theorem applyMember_merged
    (hvalues : ∀ k v, Json.lookupField k.name (s.merged fs) = some v → s.ValueOk k v)
    {x : String × Json} (hx : x ∈ s.merged fs) (q : ImageParams) :
    ∃ r, s.applyMember q x.1 x.2 = .ok r := by
  refine (applyMember_ok_iff q x.1 x.2).2 fun k hk => hvalues k x.2 ?_
  rw [ParamKey.ofName?_eq_some.1 hk]
  exact Json.lookupField_of_mem (sorted_merged fs) hx

/-- Applying the merged members fails at the first member by name whose value fails the
test of its key, and names it. -/
theorem applyMerged_error {q : ImageParams}
    (h : (s.merged fs).foldlM (fun q nv => s.applyMember q nv.1 nv.2) q = .error e) :
    ∃ k v r, e = .invalid k.name r ∧ Json.lookupField k.name (s.merged fs) = some v ∧
      ¬ s.ValueOk k v ∧
      ∀ j w, j.name < k.name → Json.lookupField j.name (s.merged fs) = some w → s.ValueOk j w := by
  obtain ⟨pre, x, post, q₀, hsplit, hpre, hx⟩ := foldlM_error_first h
  obtain ⟨r, rfl⟩ := applyMember_error hx
  -- the member fails from the parameters it met, so its value fails the test of its key
  obtain ⟨k, hk, hbad⟩ : ∃ k, ParamKey.ofName? x.1 = some k ∧ ¬ s.ValueOk k x.2 := by
    by_contra hall
    push Not at hall
    obtain ⟨q', hq'⟩ := (applyMember_ok_iff q₀ x.1 x.2).2 hall
    rw [hq'] at hx
    cases hx
  have hname : k.name = x.1 := ParamKey.ofName?_eq_some.1 hk
  have hsorted := sorted_merged (s := s) fs
  rw [hsplit] at hsorted
  refine ⟨k, x.2, r, by rw [hname], ?_, hbad, fun j w hlt hw => ?_⟩
  · rw [hname, hsplit]
    exact Json.lookupField_of_mem hsorted (List.mem_append_right _ List.mem_cons_self)
  · -- a member before it by name was applied before it
    have hmem : (j.name, w) ∈ pre ++ x :: post := hsplit ▸ Json.mem_of_lookupField_eq_some hw
    obtain ⟨q₁, q₂, happ⟩ := hpre _ (Json.mem_of_sorted_of_lt hsorted hmem (hname ▸ hlt))
    exact valueOk_of_applyMember happ

/-- A check of an object whose members the merge lets through is the application of the
merged members. -/
theorem check_merged (hkeys : ∀ x ∈ fs, s.KeyOk x) {t : String}
    (ht : Json.lookupField "prompt" (s.merged fs) = some (.str t)) (hb : Text.isBlankText t = false) :
    s.check (.obj fs) = (s.merged fs).foldlM (fun q nv => s.applyMember q nv.1 nv.2) { prompt := t } :=
  check_obj (mergeProvided_of_keyOk hkeys) ht hb

/-- A run of the check accepts what it gives. -/
theorem CheckRun.accepts {p : ImageParams} (c : CheckRun s fs p) : s.Accepts fs p := by
  have hkeys := keyOk_of_mergeProvided c.merge
  have hM : c.merged = s.merged fs := by
    have h := c.merge
    rw [mergeProvided_of_keyOk hkeys] at h
    exact (Except.ok.inj h).symm
  refine ⟨hkeys, ?_, ?_, fun k v hv => ?_, fun k hk => ?_⟩
  · rw [← hM, c.prompt_eq]
    exact c.readPrompt
  · rw [c.prompt_eq]
    exact c.notBlank
  · rw [← hM] at hv
    obtain ⟨r, hr⟩ := c.accepted (Json.mem_of_lookupField_eq_some hv) p
    exact valueOk_of_applyMember hr
  · rw [← hM]
    exact c.entry_eq hk

/-- Parameters accepted for an object's members are what its check gives. -/
theorem check_of_accepts {p : ImageParams} (h : s.Accepts fs p) : s.check (.obj fs) = .ok p := by
  rw [check_merged h.keys h.prompt h.notBlank]
  obtain ⟨r, hr⟩ := foldlM_ok_of_forall (fun x hx q => applyMember_merged h.values hx q)
    { prompt := p.prompt }
  rw [hr]
  -- the fold puts the canonical forms of the merged members over the bare prompt
  obtain ⟨hprompt, hentry⟩ := entry_foldlM (fun _ _ => rfl) (sorted_merged fs).nodup_names hr
  congr 1
  apply ImageParams.ext_entry
  intro k
  by_cases hk : k = .prompt
  · subst hk
    simp [ImageParams.entry, hprompt]
  · rw [hentry k hk, h.entries k hk, ImageParams.entry_prompt_only hk]

/-- A check of an object that fails reports its first fault, when its members are sorted. -/
theorem refuses_of_check_obj (hs : Json.Sorted fs) (h : s.check (.obj fs) = .error e) :
    s.Refuses (.obj fs) e := by
  unfold check at h
  simp only [bind, Except.bind, pure, Except.pure] at h
  cases hM : s.mergeProvided s.defaultMembers fs with
  | error e' =>
    simp only [defaultMembers] at hM
    rw [hM] at h
    cases h
    -- the merge stops at its first refusal, which is the first by name
    obtain ⟨pre, x, post, rfl, hpre, hx⟩ := mergeProvided_error hM
    exact .key rfl (List.mem_append_right _ List.mem_cons_self)
      (fun y hy hlt => hpre y (Json.mem_of_sorted_of_lt hs hy hlt)) hx
  | ok M =>
    have hkeys := keyOk_of_mergeProvided hM
    have hMm : M = s.merged fs := by
      rw [mergeProvided_of_keyOk hkeys] at hM
      exact (Except.ok.inj hM).symm
    simp only [defaultMembers] at hM
    rw [hM] at h
    dsimp only at h
    subst hMm
    cases ht : Json.lookupField "prompt" (s.merged fs) with
    | none =>
      rw [ht] at h
      cases h
      exact .prompt rfl hkeys (.missing ht)
    | some j =>
      rw [ht] at h
      cases j
      case str t =>
        dsimp only at h
        cases hb : Text.isBlankText t
        · rw [if_neg (by simp [hb])] at h
          obtain ⟨k, v, r, rfl, hv, hbad, hbefore⟩ := applyMerged_error h
          exact .value r rfl hkeys ht hb hv hbad hbefore
        · rw [if_pos hb] at h
          cases h
          exact .prompt rfl hkeys (.blank ht hb)
      all_goals
        cases h
        exact .prompt rfl hkeys (.notString ht fun _ hv => by cases hv)

end Verdict

/-- What a check decides, for raw parameters whose objects keep their members sorted by
name: it accepts exactly the parameters an object's members are accepted as, and a refusal
reports the first fault of the raw parameters. -/
theorem check_verdict (s : ParamsSchema) (R : Json) (hR : ∀ fs, R = .obj fs → Json.Sorted fs) :
    (∀ p, s.check R = .ok p ↔ ∃ fs, R = .obj fs ∧ s.Accepts fs p) ∧
      ∀ e, s.check R = .error e → s.Refuses R e := by
  refine ⟨fun p => ⟨fun h => ?_, ?_⟩, fun e h => ?_⟩
  · obtain ⟨fs, rfl, ⟨c⟩⟩ := CheckRun.of_check h
    exact ⟨fs, rfl, c.accepts⟩
  · rintro ⟨fs, rfl, hacc⟩
    exact check_of_accepts hacc
  · cases R
    case obj fs => exact refuses_of_check_obj (hR fs rfl) h
    all_goals
      cases h
      exact .notAnObject fun _ hR => by cases hR

theorem check_verdict_fox :
    let R : Json := .obj [("colour", .str "red"), ("prompt", .str "a red fox"), ("width", Json.ofInt 512)]
    (∀ fs, R = .obj fs → Json.Sorted fs) ∧
      (∀ p, foxSchema.check R = .ok p ↔ ∃ fs, R = .obj fs ∧ foxSchema.Accepts fs p) ∧
        ∀ e, foxSchema.check R = .error e → foxSchema.Refuses R e := by
  intro R
  have hR : ∀ fs, R = .obj fs → Json.Sorted fs := by
    intro fs h
    simp only [R, Json.obj.injEq] at h
    subst h
    unfold Json.Sorted
    decide
  exact ⟨hR, check_verdict foxSchema R hR⟩

end ParamsSchema

end ImageStudio
