import ImageStudio.Params.Check
import Mathlib.Data.String.Basic
import Mathlib.Data.List.Nodup

/-!
# Proofs · Params · Members: what checking one member does

A check merges the given members over the declared defaults and applies the merged members
one by one, in name order. This file describes the three steps on their own.

* Member lists: a merge inserts each member by name into a list sorted by name, so the
  merged list stays sorted, each name appears once, and looking a name up finds the last
  member given for it (`Json.mem_foldl_insertField`).
* Entries: parameters are read through their configuration members (`ImageParams.entry`).
  Applying an accepted member sets the entry of its key to the member's canonical form
  (`ParamKey.canonical`) and keeps the other entries (`ParamsSchema.applyMember_entry`);
  whether a member is accepted does not depend on the parameters it is applied to
  (`ParamsSchema.applyMember_ok_of_ok`). So a fold over members of distinct names ends
  with the canonical forms of its members (`ParamsSchema.entry_foldlM`).
* Merges: the merged list is the defaults with the given members inserted over them, and
  every member it holds is a default or was given for a declared key.
-/

namespace ImageStudio

/-! ## Member lists sorted by name -/

namespace Json

/-- A member list whose names strictly increase, so that each name appears once. -/
def Sorted (fs : List (String × Json)) : Prop := fs.Pairwise fun a b => a.1 < b.1

/-- The names of a member list. -/
def names (fs : List (String × Json)) : List String := fs.map (·.1)

section Fields

variable {fs acc : List (String × Json)} {k n : String} {v w : Json} {x : String × Json}

theorem mem_insertField_of_mem : ∀ {fs : List (String × Json)}, x ∈ insertField k v fs →
    x = (k, v) ∨ x ∈ fs
  | [], h => .inl (List.mem_singleton.1 h)
  | (k', v') :: rest, h => by
    simp only [insertField] at h
    split_ifs at h
    · exact List.mem_cons.1 h |>.imp id (fun h' => h')
    · rcases List.mem_cons.1 h with h | h
      · exact .inl h
      · exact .inr (List.mem_cons_of_mem _ h)
    · rcases List.mem_cons.1 h with h | h
      · exact .inr (h ▸ List.mem_cons_self)
      · exact (mem_insertField_of_mem h).imp id (List.mem_cons_of_mem _)

/-- Inserting keeps every name there was, and adds its own. -/
theorem name_mem_insertField (h : n ∈ names fs ∨ n = k) : n ∈ names (insertField k v fs) := by
  induction fs with
  | nil =>
    rcases h with h | rfl
    · cases h
    · exact List.mem_singleton_self _
  | cons y rest ih =>
    obtain ⟨k', v'⟩ := y
    simp only [names, List.map_cons, List.mem_cons] at h
    simp only [insertField]
    split_ifs with hlt heq
    · simp only [names, List.map_cons, List.mem_cons]
      tauto
    · subst heq
      simp only [names, List.map_cons, List.mem_cons]
      rcases h with (h | h) | h <;> tauto
    · simp only [names, List.map_cons, List.mem_cons]
      rcases h with (h | h) | h
      · exact .inl h
      · exact .inr (ih (.inl h))
      · exact .inr (ih (.inr h))

theorem sorted_insertField (h : Sorted fs) : Sorted (insertField k v fs) := by
  induction fs with
  | nil => exact List.pairwise_singleton _ _
  | cons y rest ih =>
    obtain ⟨k', v'⟩ := y
    have hrest : ∀ z ∈ rest, k' < z.1 := (List.pairwise_cons.1 h).1
    simp only [insertField]
    split_ifs with hlt heq
    · exact List.Pairwise.cons (fun z hz => (List.mem_cons.1 hz).elim (· ▸ hlt)
        fun hz => lt_trans hlt (hrest z hz)) h
    · exact List.Pairwise.cons (fun z hz => heq ▸ hrest z hz) (List.pairwise_cons.1 h).2
    · -- the name goes after `k'`, which stays below everything that follows
      have hk : k' < k := lt_of_le_of_ne (not_lt.1 hlt) (Ne.symm heq)
      refine List.Pairwise.cons (fun z hz => ?_) (ih (List.pairwise_cons.1 h).2)
      rcases mem_insertField_of_mem hz with rfl | hz
      · exact hk
      · exact hrest z hz

theorem lookupField_insertField (k k' : String) (v : Json) :
    ∀ fs : List (String × Json), lookupField k (insertField k' v fs) =
      if k = k' then some v else lookupField k fs
  | [] => rfl
  | (k'', v'') :: rest => by
    simp only [insertField]
    by_cases hlt : k' < k''
    · rw [if_pos hlt]
      rfl
    · rw [if_neg hlt]
      by_cases heq : k' = k''
      · subst heq
        rw [if_pos rfl]
        by_cases hk : k = k' <;> simp [lookupField, hk]
      · rw [if_neg heq]
        by_cases hk : k = k''
        · have hk' : k ≠ k' := fun h => heq (h ▸ hk)
          simp only [lookupField, if_pos hk, if_neg hk']
        · simp only [lookupField, if_neg hk, lookupField_insertField k k' v rest]

theorem mem_of_lookupField_eq_some : ∀ {fs : List (String × Json)}, lookupField k fs = some v →
    (k, v) ∈ fs
  | [], h => by cases h
  | (k', v') :: rest, h => by
    simp only [lookupField] at h
    split_ifs at h with hk
    · cases h
      rw [hk]
      exact List.mem_cons_self
    · exact List.mem_cons_of_mem _ (mem_of_lookupField_eq_some h)

theorem lookupField_eq_none (h : k ∉ names fs) : lookupField k fs = none := by
  induction fs with
  | nil => rfl
  | cons y rest ih =>
    simp only [names, List.map_cons, List.mem_cons, not_or] at h
    simp only [lookupField, if_neg h.1]
    exact ih h.2

/-- In a sorted list, a member is what looking up its name finds. -/
theorem lookupField_of_mem (hs : Sorted fs) (h : (k, v) ∈ fs) : lookupField k fs = some v := by
  induction fs with
  | nil => cases h
  | cons y rest ih =>
    obtain ⟨k', v'⟩ := y
    rcases List.mem_cons.1 h with h | h
    · cases h
      simp [lookupField]
    · have hlt : k' < k := (List.pairwise_cons.1 hs).1 _ h
      simp only [lookupField, if_neg (ne_of_gt hlt)]
      exact ih (List.pairwise_cons.1 hs).2 h

theorem mem_insertField_of_ne (h : x ∈ fs) (hk : x.1 ≠ k) : x ∈ insertField k v fs := by
  induction fs with
  | nil => cases h
  | cons y rest ih =>
    obtain ⟨k', v'⟩ := y
    simp only [insertField]
    split_ifs with hlt heq
    · exact List.mem_cons_of_mem _ h
    · rcases List.mem_cons.1 h with rfl | h
      · exact absurd heq.symm hk
      · exact List.mem_cons_of_mem _ h
    · rcases List.mem_cons.1 h with rfl | h
      · exact List.mem_cons_self
      · exact List.mem_cons_of_mem _ (ih h)

/-- In a sorted list, inserting a member replaces the one of its name, if any. -/
theorem mem_insertField (hs : Sorted fs) : x ∈ insertField k v fs ↔ x = (k, v) ∨ (x ∈ fs ∧ x.1 ≠ k) := by
  constructor
  · intro h
    by_cases hx : x.1 = k
    · -- the one member of that name is the inserted one
      left
      obtain ⟨n, w⟩ := x
      dsimp only at hx
      subst hx
      have hlook := lookupField_of_mem (sorted_insertField hs) h
      rw [lookupField_insertField, if_pos rfl] at hlook
      rw [Option.some.inj hlook]
    · exact (mem_insertField_of_mem h).imp id fun h' => ⟨h', hx⟩
  · rintro (rfl | ⟨h, hk⟩)
    · exact mem_of_lookupField_eq_some (by rw [lookupField_insertField, if_pos rfl])
    · exact mem_insertField_of_ne h hk

theorem name_mem_of_mem (h : (k, v) ∈ fs) : k ∈ names fs := List.mem_map.2 ⟨_, h, rfl⟩

theorem Sorted.nodup_names (hs : Sorted fs) : (names fs).Nodup :=
  List.pairwise_map.2 (hs.imp ne_of_lt)

theorem exists_mem_of_name_mem (h : n ∈ names fs) : ∃ w, (n, w) ∈ fs := by
  obtain ⟨⟨n', w⟩, hx, rfl⟩ := List.mem_map.1 h
  exact ⟨w, hx⟩

theorem sorted_foldl_insertField (fs : List (String × Json)) (hacc : Sorted acc) :
    Sorted (fs.foldl (fun a kv => insertField kv.1 kv.2 a) acc) := by
  induction fs generalizing acc with
  | nil => exact hacc
  | cons y rest ih => exact ih (sorted_insertField hacc)

theorem mem_of_mem_foldl_insertField :
    ∀ {fs acc : List (String × Json)}, x ∈ fs.foldl (fun a kv => insertField kv.1 kv.2 a) acc →
      x ∈ fs ∨ x ∈ acc
  | [], _, h => .inr h
  | y :: rest, acc, h => by
    rw [List.foldl_cons] at h
    rcases mem_of_mem_foldl_insertField h with h | h
    · exact .inl (List.mem_cons_of_mem _ h)
    · rcases mem_insertField_of_mem h with rfl | h
      · exact .inl List.mem_cons_self
      · exact .inr h

/-- Inserting members of distinct names into a sorted list: each is there after, and a
member of the list stays unless one of them has its name. -/
theorem mem_foldl_insertField :
    ∀ {fs acc : List (String × Json)}, Sorted acc → (names fs).Nodup →
      (x ∈ fs.foldl (fun a kv => insertField kv.1 kv.2 a) acc ↔ x ∈ fs ∨ (x ∈ acc ∧ x.1 ∉ names fs))
  | [], _, _, _ => by simp [names]
  | y :: rest, acc, hacc, hnd => by
    have hy : y.1 ∉ names rest := (List.nodup_cons.1 hnd).1
    rw [List.foldl_cons, mem_foldl_insertField (sorted_insertField hacc) (List.nodup_cons.1 hnd).2,
      mem_insertField hacc]
    simp only [names, List.map_cons, List.mem_cons, not_or] at hy ⊢
    constructor
    · rintro (h | ⟨rfl | ⟨h, hne⟩, hn⟩)
      · exact .inl (.inr h)
      · exact .inl (.inl rfl)
      · exact .inr ⟨h, hne, hn⟩
    · rintro ((rfl | h) | ⟨h, hne, hn⟩)
      · exact .inr ⟨.inl rfl, hy⟩
      · exact .inl h
      · exact .inr ⟨.inr ⟨h, hne⟩, hn⟩

theorem members_mkObj (fs : List (String × Json)) :
    (mkObj fs).members = fs.foldl (fun a kv => insertField kv.1 kv.2 a) [] := rfl

theorem sorted_mkObj (fs : List (String × Json)) : Sorted (mkObj fs).members :=
  sorted_foldl_insertField fs List.Pairwise.nil

theorem mem_of_mem_mkObj (h : x ∈ (mkObj fs).members) : x ∈ fs :=
  (mem_of_mem_foldl_insertField h).resolve_right List.not_mem_nil

theorem mem_mkObj (hfs : (names fs).Nodup) : x ∈ (mkObj fs).members ↔ x ∈ fs := by
  rw [members_mkObj, mem_foldl_insertField List.Pairwise.nil hfs]
  simp

end Fields

end Json

/-! ## Key names and canonical members -/

namespace ParamKey

theorem ofName?_eq_some {n : String} {k : ParamKey} : ofName? n = some k ↔ k.name = n := by
  constructor
  · intro h
    simpa using List.find?_some h
  · rintro rfl
    exact ofName?_name k

@[simp] theorem name_inj {j k : ParamKey} : j.name = k.name ↔ j = k := by
  constructor
  · intro h
    have := ofName?_name j
    rwa [h, ofName?_name, Option.some.injEq, eq_comm] at this
  · rintro rfl
    rfl

/-- The configuration member that checking `v` for the key leaves in the parameters, when
the check accepts it: a width, height or step count taken modulo `2^32`, a guidance scale
as a double, nothing for an empty list of reference images, and `v` itself otherwise. -/
def canonical : ParamKey → Json → Option Json
  | .width, .num (.int i) => some (Json.ofInt (ParamsSchema.wrap32 i))
  | .height, .num (.int i) => some (Json.ofInt (ParamsSchema.wrap32 i))
  | .steps, .num (.int i) => some (Json.ofInt (ParamsSchema.wrap32 i))
  | .cfg, .num n => some (.num (.float n.asDouble))
  | .imageUrls, .arr [] => none
  | _, v => some v

theorem wrap32_wrap32 (i : Int) : ParamsSchema.wrap32 (ParamsSchema.wrap32 i) = ParamsSchema.wrap32 i := by
  unfold ParamsSchema.wrap32
  omega

theorem wrap32_of_lt {i : Int} (h0 : 0 ≤ i) (h : i < 4294967296) : (ParamsSchema.wrap32 i : Int) = i := by
  unfold ParamsSchema.wrap32
  omega

/-- A canonical member is its own canonical form. -/
theorem canonical_canonical {k : ParamKey} {v e : Json} :
    k.canonical v = some e → k.canonical e = some e := by
  fun_cases canonical k v
  all_goals intro h; cases h
  case case1 | case2 | case3 => simp [canonical, Json.ofInt, wrap32_wrap32]
  case case4 => rfl
  case case6 =>
    -- the member is kept as it is: no earlier pattern applies to it
    unfold canonical
    split <;> first | rfl | simp_all

/-- Only an empty list of reference images leaves no member. -/
theorem eq_imageUrls_of_canonical_eq_none {k : ParamKey} {v : Json} :
    k.canonical v = none → k = .imageUrls := by
  fun_cases canonical k v <;> intro h <;> first | rfl | cases h

end ParamKey

/-! ## Parameters read through their configuration members -/

namespace ImageParams

/-- The configuration member of a key, if the parameters have one: the prompt always, an
optional field when it is present, the reference images when there are some. -/
def entry (p : ImageParams) : ParamKey → Option Json
  | .prompt => some (.str p.prompt)
  | .width => p.width.map fun n : Nat => Json.ofInt n
  | .height => p.height.map fun n : Nat => Json.ofInt n
  | .size => p.size.map .str
  | .aspectRatio => p.aspectRatio.map .str
  | .steps => p.steps.map fun n : Nat => Json.ofInt n
  | .cfg => p.cfg.map fun d => .num (.float d)
  | .seed => p.seed.map Json.ofInt
  | .imageUrls => if p.imageUrls.isEmpty then none else some (.arr (p.imageUrls.map .str))

theorem member_eq {α : Type} (name : String) (f : α → Json) (o : Option α) :
    member name f o = (o.map fun a => (name, f a)).toList := by
  cases o <;> rfl

theorem filterMap_cons_eq_toList_append {α β : Type} (f : α → Option β) (a : α) (l : List α) :
    (a :: l).filterMap f = (f a).toList ++ l.filterMap f := by
  cases h : f a <;> simp [h]

/-- The configuration lists the entries, in key order. -/
theorem toConfig_eq (p : ImageParams) :
    p.toConfig = Json.mkObj (ParamKey.all.filterMap fun k => (p.entry k).map (k.name, ·)) := by
  simp only [toConfig, ParamKey.all, filterMap_cons_eq_toList_append, List.filterMap_nil,
    member_eq, entry, ParamKey.name, bind_pure_comp, Option.map_eq_map, Option.map_map,
    Function.comp_def, List.append_assoc, List.append_nil]
  congr 2
  cases p.imageUrls.isEmpty <;> rfl

/-- Parameters are determined by their entries. -/
theorem ext_entry {p q : ImageParams} (h : ∀ k, p.entry k = q.entry k) : p = q := by
  have hnat : Function.Injective fun n : Nat => Json.ofInt n := fun a b h => by
    simp only [Json.ofInt, Json.num.injEq, Number.int.injEq] at h
    omega
  have hstr : Function.Injective Json.str := fun a b h => by injection h
  -- the reference images are read back from the list, or from its absence when empty
  have hurls : p.imageUrls = q.imageUrls := by
    have h8 := h .imageUrls
    simp only [entry] at h8
    cases hp : p.imageUrls <;> cases hq : q.imageUrls <;> simp only [hp, hq] at h8
    · rfl
    · cases h8
    · cases h8
    · exact List.map_injective_iff.2 hstr (Json.arr.inj (Option.some.inj h8))
  obtain ⟨pp, pw, ph, ps, pa, pst, pc, pse, pi⟩ := p
  obtain ⟨qp, qw, qh, qs, qa, qst, qc, qse, qi⟩ := q
  have h0 : pp = qp := by simpa [entry] using h .prompt
  have h1 : pw = qw := Option.map_injective hnat (h .width)
  have h2 : ph = qh := Option.map_injective hnat (h .height)
  have h3 : ps = qs := Option.map_injective hstr (h .size)
  have h4 : pa = qa := Option.map_injective hstr (h .aspectRatio)
  have h5 : pst = qst := Option.map_injective hnat (h .steps)
  have h6 : pc = qc := Option.map_injective (fun a b h => by injection h with h; injection h) (h .cfg)
  have h7 : pse = qse := Option.map_injective (fun a b h => by injection h with h; injection h) (h .seed)
  subst h0 h1 h2 h3 h4 h5 h6 h7 hurls
  rfl

theorem nodup_names_config (p : ImageParams) :
    (Json.names (ParamKey.all.filterMap fun k => (p.entry k).map (k.name, ·))).Nodup := by
  rw [Json.names, List.map_filterMap]
  refine List.Nodup.filterMap (fun a a' b ha ha' => ?_) (by decide)
  simp only [Option.mem_def, Option.map_map, Option.map_eq_some_iff, Function.comp_apply] at ha ha'
  obtain ⟨_, -, rfl⟩ := ha
  obtain ⟨_, -, h⟩ := ha'
  exact ParamKey.name_inj.1 h.symm

/-- The configuration holds one member for each entry, under its key's name. -/
theorem mem_toConfig {p : ImageParams} {x : String × Json} :
    x ∈ p.toConfig.members ↔ ∃ k e, p.entry k = some e ∧ x = (k.name, e) := by
  rw [toConfig_eq, Json.mem_mkObj (nodup_names_config p), List.mem_filterMap]
  constructor
  · rintro ⟨k, -, hk⟩
    obtain ⟨e, he, rfl⟩ := Option.map_eq_some_iff.1 hk
    exact ⟨k, e, he, rfl⟩
  · rintro ⟨k, e, he, rfl⟩
    exact ⟨k, by cases k <;> decide, by rw [he]; rfl⟩

/-- No entry is `null`. -/
theorem isNull_of_entry {p : ImageParams} {k : ParamKey} {e : Json} (h : p.entry k = some e) :
    e.isNull = false := by
  cases k <;> simp only [entry] at h
  case prompt =>
    cases h
    rfl
  case imageUrls =>
    split_ifs at h
    cases h
    rfl
  all_goals
    obtain ⟨_, -, rfl⟩ := Option.map_eq_some_iff.1 h
    rfl

/-- Parameters holding only a prompt have no other entry. -/
theorem entry_prompt_only {t : String} {k : ParamKey} (hk : k ≠ .prompt) :
    ({ prompt := t } : ImageParams).entry k = none := by
  cases k <;> first | rfl | exact absurd rfl hk

end ImageParams

/-! ## Applying one member -/

theorem Except.map_eq_ok {ε α β : Type} {f : α → β} {x : Except ε α} {b : β} :
    x.map f = .ok b ↔ ∃ a, x = .ok a ∧ f a = b := by
  cases x <;> simp [Except.map]

theorem Except.exists_map_eq_ok {ε α β : Type} {f : α → β} {x : Except ε α} :
    (∃ b, x.map f = .ok b) ↔ ∃ a, x = .ok a := by
  cases x <;> simp [Except.map]

theorem Except.map_eq_error {ε α β : Type} {f : α → β} {x : Except ε α} {e : ε} :
    x.map f = .error e ↔ x = .error e := by
  cases x <;> simp [Except.map]

theorem Number.asI64?_eq_some {n : Number} {i : Int} (h : n.asI64? = some i) : n = .int i := by
  cases n with
  | int j =>
    simp only [Number.asI64?] at h
    split_ifs at h
    cases h
    rfl
  | float d => cases h

namespace ParamsSchema

section Member

variable {s : ParamsSchema} {k : ParamKey} {v e : Json} {spec : ParamSpec}

theorem numberInRange_eq_ok {x : Double} (h : numberInRange k v spec = .ok x) :
    ∃ n, v = .num n ∧ x = n.asDouble := by
  unfold numberInRange at h
  cases v with
  | num n =>
    refine ⟨n, rfl, ?_⟩
    -- every bound that holds gives back the number as a double
    rcases hmin : spec.minimum with _ | lo <;> rcases hmax : spec.maximum with _ | hi <;>
      simp only [hmin, hmax] at h <;> (try split_ifs at h) <;>
      exact (Except.ok.inj h).symm
  | _ => cases h

theorem integerInRange_eq_ok {i : Int} (h : integerInRange k v spec = .ok i) :
    v = Json.ofInt i ∧ 0 ≤ i := by
  unfold integerInRange at h
  cases v with
  | num n =>
    cases hn : n.asI64? with
    | none => simp only [hn] at h; cases h
    | some j =>
      simp only [hn] at h
      -- a negative integer is refused
      split_ifs at h with hneg
      obtain ⟨_, -, rfl⟩ := Except.map_eq_ok.1 h
      exact ⟨congrArg Json.num (Number.asI64?_eq_some hn), by omega⟩
  | _ => cases h

theorem stringInEnum_eq_ok {t : String} (h : stringInEnum k v spec = .ok t) : v = .str t := by
  unfold stringInEnum at h
  cases v with
  | str s =>
    simp only at h
    split at h
    · split_ifs at h
      cases h
      rfl
    · cases h
      rfl
  | _ => cases h

theorem mapM_eq_ok {ε α β : Type} {f : α → Except ε β} {g : β → α}
    (hf : ∀ a b, f a = .ok b → a = g b) :
    ∀ {l : List α} {bs : List β}, l.mapM f = .ok bs → l = bs.map g
  | [], bs, h => by cases h; rfl
  | a :: rest, bs, h => by
    rw [List.mapM_cons] at h
    cases ha : f a with
    | error e => rw [ha] at h; cases h
    | ok b =>
      rw [ha] at h
      cases hr : rest.mapM f with
      | error e => rw [hr] at h; cases h
      | ok bs' =>
        rw [hr] at h
        cases h
        rw [hf a b ha, mapM_eq_ok hf hr]
        rfl

/-- A failed map fails at an element. -/
theorem mapM_error {ε α β : Type} {f : α → Except ε β} :
    ∀ {l : List α} {e : ε}, l.mapM f = .error e → ∃ a ∈ l, f a = .error e
  | [], _, h => by cases h
  | a :: rest, e, h => by
    rw [List.mapM_cons] at h
    cases ha : f a with
    | error e' =>
      rw [ha] at h
      cases h
      exact ⟨a, List.mem_cons_self, ha⟩
    | ok b =>
      rw [ha] at h
      cases hr : rest.mapM f with
      | error e' =>
        rw [hr] at h
        cases h
        obtain ⟨a', ha', he⟩ := mapM_error hr
        exact ⟨a', List.mem_cons_of_mem _ ha', he⟩
      | ok bs =>
        rw [hr] at h
        cases h

theorem stringList_eq_ok {xs : List String} (h : stringList k v = .ok xs) :
    v = .arr (xs.map .str) := by
  unfold stringList at h
  cases v with
  | arr items =>
    refine congrArg Json.arr (mapM_eq_ok (fun a b hab => ?_) h)
    cases a <;> first | (cases hab; rfl) | cases hab
  | _ => cases h

/-- An accepted member sets the entry of its key to its canonical form and keeps the rest. -/
theorem applyMember_entry {q q' : ImageParams} {n : String} (h : s.applyMember q n v = .ok q') :
    q'.prompt = q.prompt ∧
      ∀ j, j ≠ .prompt → q'.entry j = if j.name = n then j.canonical v else q.entry j := by
  unfold applyMember at h
  cases hk : ParamKey.ofName? n with
  | none =>
    simp only [hk] at h
    cases h
    refine ⟨rfl, fun j _ => (if_neg fun hj => ?_).symm⟩
    rw [← hj, ParamKey.ofName?_name] at hk
    cases hk
  | some k =>
    obtain rfl := ParamKey.ofName?_eq_some.1 hk
    simp only [hk] at h
    -- each key reads the member with its own check and stores it in its own field
    cases k
    case prompt =>
      cases h
      exact ⟨rfl, fun j hj => by simp [hj]⟩
    case seed =>
      cases hi : integerInRange .seed v ((s.spec? .seed).getD {}) with
      | error e => rw [hi] at h; cases h
      | ok i =>
        simp only [hi, bind, Except.bind] at h
        -- a seed above the largest is refused
        split_ifs at h with hmax
        cases h
        obtain ⟨rfl, -⟩ := integerInRange_eq_ok hi
        refine ⟨rfl, fun j _ => ?_⟩
        cases j <;> simp [ImageParams.entry, ParamKey.canonical, Json.ofInt]
    case width | height | steps =>
      obtain ⟨i, hi, rfl⟩ := Except.map_eq_ok.1 h
      obtain ⟨rfl, -⟩ := integerInRange_eq_ok hi
      refine ⟨rfl, fun j _ => ?_⟩
      cases j <;> simp [ImageParams.entry, ParamKey.canonical, Json.ofInt]
    case size | aspectRatio =>
      obtain ⟨t, ht, rfl⟩ := Except.map_eq_ok.1 h
      obtain rfl := stringInEnum_eq_ok ht
      refine ⟨rfl, fun j _ => ?_⟩
      cases j <;> simp [ImageParams.entry, ParamKey.canonical]
    case cfg =>
      obtain ⟨d, hd, rfl⟩ := Except.map_eq_ok.1 h
      obtain ⟨n, rfl, rfl⟩ := numberInRange_eq_ok hd
      refine ⟨rfl, fun j _ => ?_⟩
      cases j <;> simp [ImageParams.entry, ParamKey.canonical]
    case imageUrls =>
      obtain ⟨xs, hxs, rfl⟩ := Except.map_eq_ok.1 h
      obtain rfl := stringList_eq_ok hxs
      refine ⟨rfl, fun j _ => ?_⟩
      cases j <;> cases xs <;> simp [ImageParams.entry, ParamKey.canonical]

theorem applyMember_imageUrls (q : ImageParams) (d : Json) :
    s.applyMember q "imageUrls" d = (stringList .imageUrls d).map fun xs => { q with imageUrls := xs } := by
  show s.applyMember q ParamKey.imageUrls.name d = _
  unfold applyMember
  rw [ParamKey.ofName?_name]

/-- Whether a member is accepted does not depend on the parameters it is applied to. -/
theorem applyMember_ok_of_ok {q r : ImageParams} {n : String} (h : s.applyMember q n v = .ok r)
    (q₀ : ImageParams) : ∃ r₀, s.applyMember q₀ n v = .ok r₀ := by
  unfold applyMember at h ⊢
  cases hk : ParamKey.ofName? n with
  | none => exact ⟨q₀, rfl⟩
  | some k =>
    simp only [hk] at h ⊢
    cases k
    case prompt => exact ⟨q₀, rfl⟩
    case seed =>
      cases hi : integerInRange .seed v ((s.spec? .seed).getD {}) with
      | error e => rw [hi] at h; cases h
      | ok i =>
        simp only [hi, bind, Except.bind] at h ⊢
        split_ifs at h ⊢
        exact ⟨_, rfl⟩
    -- every other key maps the result of its check
    all_goals
      obtain ⟨x, hx, -⟩ := Except.map_eq_ok.1 h
      exact ⟨_, Except.map_eq_ok.2 ⟨x, hx, rfl⟩⟩

/-- Applying an accepted member's canonical form does what applying the member does, unless
the member is an integer width, height or step count of `2^32` or more. -/
theorem applyMember_canonical {q r : ImageParams} (h : s.applyMember q k.name v = .ok r)
    (hc : k.canonical v = some e)
    (hfit : k = .width ∨ k = .height ∨ k = .steps → ∀ i, v = Json.ofInt i → i < 4294967296)
    (q₀ : ImageParams) : s.applyMember q₀ k.name e = s.applyMember q₀ k.name v := by
  unfold applyMember at h ⊢
  rw [ParamKey.ofName?_name] at h ⊢
  cases k
  case width | height | steps =>
    obtain ⟨i, hi, -⟩ := Except.map_eq_ok.1 h
    obtain ⟨rfl, h0⟩ := integerInRange_eq_ok hi
    have hlt := hfit (by simp) i rfl
    cases hc
    simp only [ParamKey.wrap32_of_lt h0 hlt]
  case cfg =>
    -- the check reads a number as a double, which its canonical form already is
    obtain ⟨d, hd, -⟩ := Except.map_eq_ok.1 h
    obtain ⟨n, rfl, -⟩ := numberInRange_eq_ok hd
    cases hc
    rfl
  case imageUrls =>
    obtain ⟨xs, hxs, -⟩ := Except.map_eq_ok.1 h
    obtain rfl := stringList_eq_ok hxs
    -- an empty list has no canonical form
    cases xs
    · cases hc
    · cases hc
      rfl
  all_goals
    cases hc
    rfl

end Member

/-! ## Applying the members in turn -/

section Folds

variable {ε σ α : Type} {f : σ → α → Except ε σ}

/-- A fold succeeds when each of its steps succeeds from any state. -/
theorem foldlM_ok_of_forall : ∀ {l : List α}, (∀ a ∈ l, ∀ q, ∃ q', f q a = .ok q') →
    ∀ q, ∃ r, l.foldlM f q = .ok r
  | [], _, q => ⟨q, rfl⟩
  | a :: rest, h, q => by
    obtain ⟨q', hq'⟩ := h a List.mem_cons_self q
    obtain ⟨r, hr⟩ := foldlM_ok_of_forall (fun b hb => h b (List.mem_cons_of_mem _ hb)) q'
    exact ⟨r, by rw [List.foldlM_cons, hq']; exact hr⟩

/-- A fold fails with the error of a step that fails from any state, when its other steps
succeed from any state. -/
theorem foldlM_eq_error {a : α} {e : ε} (he : ∀ q, f q a = .error e) :
    ∀ {l : List α}, a ∈ l → (∀ b ∈ l, b ≠ a → ∀ q, ∃ q', f q b = .ok q') →
      ∀ q, l.foldlM f q = .error e
  | b :: rest, hmem, hok, q => by
    by_cases hb : b = a
    · subst hb
      rw [List.foldlM_cons, he]
      rfl
    · obtain ⟨q', hq'⟩ := hok b List.mem_cons_self hb q
      rw [List.foldlM_cons, hq']
      exact foldlM_eq_error he ((List.mem_cons.1 hmem).resolve_left fun h => hb h.symm)
        (fun c hc => hok c (List.mem_cons_of_mem _ hc)) q'

/-- Every step of a successful fold succeeds from some state. -/
theorem foldlM_step_ok : ∀ {l : List α} {q r : σ}, l.foldlM f q = .ok r →
    ∀ a ∈ l, ∃ q₀ r₀, f q₀ a = .ok r₀
  | b :: rest, q, r, h, a, ha => by
    rw [List.foldlM_cons] at h
    cases hb : f q b with
    | error e => rw [hb] at h; cases h
    | ok q' =>
      rw [hb] at h
      rcases List.mem_cons.1 ha with rfl | ha
      · exact ⟨q, q', hb⟩
      · exact foldlM_step_ok (h : rest.foldlM f q' = .ok r) a ha

/-- A failed fold fails at a step that fails, after steps that succeed. -/
theorem foldlM_error_first : ∀ {l : List α} {q : σ} {e : ε}, l.foldlM f q = .error e →
    ∃ pre a post q₀, l = pre ++ a :: post ∧ (∀ b ∈ pre, ∃ q₁ q₂, f q₁ b = .ok q₂) ∧ f q₀ a = .error e
  | [], _, _, h => by cases h
  | b :: rest, q, e, h => by
    rw [List.foldlM_cons] at h
    cases hb : f q b with
    | error e' =>
      rw [hb] at h
      cases h
      exact ⟨[], b, rest, q, rfl, fun _ hc => absurd hc List.not_mem_nil, hb⟩
    | ok q' =>
      rw [hb] at h
      obtain ⟨pre, a, post, q₀, rfl, hpre, ha⟩ := foldlM_error_first (h : rest.foldlM f q' = .error e)
      refine ⟨b :: pre, a, post, q₀, rfl, fun c hc => ?_, ha⟩
      rcases List.mem_cons.1 hc with rfl | hc
      · exact ⟨q, q', hb⟩
      · exact hpre c hc

end Folds

/-- Applying members of distinct names keeps the prompt and ends with the canonical form of
each member as the entry of its key; a key with no member keeps its entry. -/
theorem entry_foldlM {s : ParamsSchema}
    {f : ImageParams → String × Json → Except ParamsError ImageParams}
    (hf : ∀ q nv, f q nv = s.applyMember q nv.1 nv.2) :
    ∀ {L : List (String × Json)} {q r : ImageParams}, (Json.names L).Nodup →
      L.foldlM f q = .ok r → r.prompt = q.prompt ∧
        ∀ k, k ≠ .prompt → r.entry k = (Json.lookupField k.name L).elim (q.entry k) k.canonical
  | [], q, r, _, h => by
    cases h
    exact ⟨rfl, fun k _ => rfl⟩
  | (n, v) :: rest, q, r, hnd, h => by
    rw [List.foldlM_cons, hf] at h
    cases hq : s.applyMember q n v with
    | error e => rw [hq] at h; cases h
    | ok q' =>
      rw [hq] at h
      have hn : n ∉ Json.names rest := (List.nodup_cons.1 hnd).1
      obtain ⟨hp', he'⟩ := applyMember_entry hq
      obtain ⟨hp, he⟩ := entry_foldlM hf (List.nodup_cons.1 hnd).2 h
      refine ⟨hp.trans hp', fun k hk => ?_⟩
      rw [he k hk, he' k hk]
      simp only [Json.lookupField]
      by_cases hkn : k.name = n
      · -- the member is the only one of its name
        subst hkn
        rw [if_pos rfl, if_pos rfl, Json.lookupField_eq_none hn]
        rfl
      · rw [if_neg hkn, if_neg hkn]

/-! ## Merging the given members over the defaults -/

section Merge

variable {s : ParamsSchema} {M : List (String × Json)}

/-- A default is a declared key's name with a value that is not `null`. -/
theorem mem_defaultValues {x : String × Json} (h : x ∈ s.defaultValues) :
    ∃ k, k.name = x.1 ∧ s.supports k = true ∧ x.2.isNull = false := by
  unfold defaultValues at h
  obtain ⟨⟨k, spec⟩, hmem, hx⟩ := List.mem_filterMap.1 h
  have hsup : s.supports k = true := List.any_eq_true.2 ⟨(k, spec), hmem, by simp⟩
  cases hd : spec.default with
  | none => simp [hd] at hx
  | some w =>
    simp only [hd] at hx
    split_ifs at hx with hnull
    cases hx
    exact ⟨k, rfl, hsup, by simpa using hnull⟩

/-- A member the merge keeps is a default, or was given for a declared key. -/
theorem mem_mergeProvided : ∀ {acc fs : List (String × Json)}, s.mergeProvided acc fs = .ok M →
    ∀ x ∈ M, x ∈ acc ∨ (x ∈ fs ∧ ∃ k, k.name = x.1 ∧ s.supports k = true)
  | acc, [], h, x, hx => by
    cases h
    exact .inl hx
  | acc, (n, v) :: rest, h, x, hx => by
    simp only [mergeProvided] at h
    cases hk : ParamKey.ofName? n with
    | none => simp only [hk] at h; cases h
    | some k =>
      simp only [hk] at h
      split_ifs at h with hnull hsup
      · -- a `null` member is skipped
        rcases mem_mergeProvided h x hx with h' | ⟨h', k', hk'⟩
        · exact .inl h'
        · exact .inr ⟨List.mem_cons_of_mem _ h', k', hk'⟩
      · rcases mem_mergeProvided h x hx with h' | ⟨h', k', hk'⟩
        · rcases Json.mem_insertField_of_mem h' with rfl | h'
          · exact .inr ⟨List.mem_cons_self, k, ParamKey.ofName?_eq_some.1 hk, by simpa using hsup⟩
          · exact .inl h'
        · exact .inr ⟨List.mem_cons_of_mem _ h', k', hk'⟩

theorem sorted_mergeProvided : ∀ {acc fs : List (String × Json)}, Json.Sorted acc →
    s.mergeProvided acc fs = .ok M → Json.Sorted M
  | acc, [], hacc, h => by
    cases h
    exact hacc
  | acc, (n, v) :: rest, hacc, h => by
    simp only [mergeProvided] at h
    cases hk : ParamKey.ofName? n with
    | none => simp only [hk] at h; cases h
    | some k =>
      simp only [hk] at h
      split_ifs at h
      · exact sorted_mergeProvided hacc h
      · exact sorted_mergeProvided (Json.sorted_insertField hacc) h

/-- The merge keeps the name of every default. -/
theorem name_mem_mergeProvided : ∀ {acc fs : List (String × Json)}, s.mergeProvided acc fs = .ok M →
    ∀ n ∈ Json.names acc, n ∈ Json.names M
  | acc, [], h, n, hn => by
    cases h
    exact hn
  | acc, (n', v) :: rest, h, n, hn => by
    simp only [mergeProvided] at h
    cases hk : ParamKey.ofName? n' with
    | none => simp only [hk] at h; cases h
    | some k =>
      simp only [hk] at h
      split_ifs at h
      · exact name_mem_mergeProvided h n hn
      · exact name_mem_mergeProvided h n (Json.name_mem_insertField (.inl hn))

/-- Members that all name declared keys and none of which is `null` are inserted over the
defaults one after the other. -/
theorem mergeProvided_eq_foldl : ∀ {acc fs : List (String × Json)},
    (∀ x ∈ fs, ∃ k, k.name = x.1 ∧ x.2.isNull = false ∧ s.supports k = true) →
      s.mergeProvided acc fs = .ok (fs.foldl (fun a kv => Json.insertField kv.1 kv.2 a) acc)
  | acc, [], _ => rfl
  | acc, (n, v) :: rest, h => by
    obtain ⟨k, rfl, hnull, hsup⟩ := h (n, v) List.mem_cons_self
    simp only [mergeProvided, ParamKey.ofName?_name, hnull, hsup]
    exact mergeProvided_eq_foldl fun x hx => h x (List.mem_cons_of_mem _ hx)

end Merge

end ParamsSchema

end ImageStudio
