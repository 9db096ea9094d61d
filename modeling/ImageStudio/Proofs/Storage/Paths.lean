import ImageStudio.Storage.Directory
import Mathlib.Data.List.DropRight

/-!
# Proofs · Storage · Paths: a directory store works only below its root

The system reads a path as a list of components (`pathComponents`). A leading `/` is the
root and a leading `.` segment the current directory. Every other segment between
separators is a component of its own: `..` the parent directory and the others plain names,
but for empty and `.` segments, which name nothing.

A directory store accepts a key exactly when the key is not empty and all its components are
plain names (`DirectoryStore.isPlainKey_iff`). The file it then stores or removes is the path
of those names (`normalNames`): at least one name, none empty, `.` or `..` and none holding a
separator, so it lies strictly below the root (`DirectoryStore.belowRoot_normalNames`).
Storing makes only directories on the way to that file and writes only that file
(`DirectoryStore.put_effect`); removing touches that file alone
(`DirectoryStore.delete_effect`). A refused key is answered by its validation error whatever
the store holds: the files are not looked at.
-/

namespace ImageStudio

/-! ## Components of a path -/

/-- A component of a path as the system reads it. -/
inductive PathComponent where
  | rootDir
  | curDir
  | parentDir
  | normal (name : String)
  deriving Repr, DecidableEq

namespace PathComponent

/-- The component a segment between separators stands for: none for an empty or `.`
segment. -/
def ofSegment (segment : String) : Option PathComponent :=
  if segment = "" ∨ segment = "." then none
  else if segment = ".." then some .parentDir
  else some (.normal segment)

/-- The component a path's first segment stands for: the empty segment before a leading `/`
is the root, and a leading `.` the current directory. -/
def ofFirst (first : String) : Option PathComponent :=
  if first = "" then some .rootDir
  else if first = "." then some .curDir
  else ofSegment first

/-- The name of a plain component. -/
def name? : PathComponent → Option String
  | .normal name => some name
  | _ => none

/-- Whether a component is a plain name. -/
def isNormal (c : PathComponent) : Bool := c.name?.isSome

end PathComponent

/-- The components of a path: none for the empty path, else what its first segment and each
later segment between `/` separators stand for. -/
def pathComponents (path : String) : List PathComponent :=
  if path = "" then [] else
    match (path.toList.splitOn '/').map String.ofList with
    | [] => []
    | first :: rest =>
      (PathComponent.ofFirst first).toList ++ rest.filterMap PathComponent.ofSegment

example : pathComponents "/a//./b/.." = [.rootDir, .normal "a", .normal "b", .parentDir] := by
  decide

example : pathComponents "./a/" = [.curDir, .normal "a"] := by decide

/-- The names of a path's plain components, in order. -/
def normalNames (path : String) : List String :=
  (pathComponents path).filterMap PathComponent.name?

/-- A name that leads one directory down: not empty, not `.` or `..`, without a separator. -/
def PlainName (name : String) : Prop :=
  name ≠ "" ∧ name ≠ "." ∧ name ≠ ".." ∧ '/' ∉ name.toList

/-- A path strictly below a directory: at least one name, each leading one directory down. -/
def BelowRoot (path : List String) : Prop :=
  path ≠ [] ∧ ∀ name ∈ path, PlainName name

/-! ## Segments that name something -/

namespace FileTree

/-- The segments of a path that name something: neither empty nor `.`. -/
def namingSegments (segments : List String) : List String :=
  (named segments).filter (· ≠ ".")

/-- Whether a segment names nothing. -/
def namesNothing (segment : String) : Bool := segment == "" || segment == "."

theorem namesNothing_eq_false_iff {segment : String} :
    namesNothing segment = false ↔ segment ≠ "" ∧ segment ≠ "." := by
  simp [namesNothing]

theorem namingSegments_eq_filter (segments : List String) :
    namingSegments segments = segments.filter fun s => !namesNothing s := by
  rw [namingSegments, named, List.filter_filter]
  congr 1
  funext s
  by_cases h₁ : s = "" <;> by_cases h₂ : s = "." <;> simp_all [namesNothing]

theorem namingSegments_append_of_namesNothing {segments tail : List String}
    (h : ∀ s ∈ tail, namesNothing s) :
    namingSegments (segments ++ tail) = namingSegments segments := by
  have htail : tail.filter (fun s => !namesNothing s) = [] :=
    List.filter_eq_nil_iff.2 fun s hs => by simp [h s hs]
  rw [namingSegments_eq_filter, namingSegments_eq_filter, List.filter_append, htail,
    List.append_nil]

/-- A file is written at the path of the names of its segments, unless its last name is `.`. -/
theorem splitLast_path {segments : List String} (h : (splitLast segments).2 ≠ ".") :
    (splitLast segments).1 ++ [(splitLast segments).2] = namingSegments segments := by
  rcases List.eq_nil_or_concat (named segments) with hnil | ⟨init, last, hsplit⟩
  · simp [splitLast, hnil] at h
  rw [List.concat_eq_append] at hsplit
  have hlast : last ≠ "." := by simpa [splitLast, hsplit] using h
  simp [splitLast, namingSegments, hsplit, List.filter_append, hlast]

end FileTree

/-! ## Segments and components -/

/-- No piece of a split holds the separator. -/
theorem List.not_mem_of_mem_splitOn {α : Type} [BEq α] [LawfulBEq α] {sep : α} :
    ∀ {xs piece : List α}, piece ∈ xs.splitOn sep → sep ∉ piece
  | [], piece, h => by simp_all
  | x :: xs, piece, h => by
    rw [List.splitOn_cons_eq_if_modifyHead] at h
    split at h
    · -- `x` is a separator: the pieces are an empty one and those of `xs`
      rcases List.mem_cons.1 h with rfl | h
      · simp
      · exact List.not_mem_of_mem_splitOn h
    · -- `x` starts the first piece of `xs`
      next hx =>
      obtain ⟨first, rest, hsplit⟩ := List.exists_cons_of_ne_nil (List.splitOn_ne_nil sep xs)
      rw [hsplit, List.modifyHead_cons] at h
      rcases List.mem_cons.1 h with rfl | h
      · have hfirst : sep ∉ first :=
          List.not_mem_of_mem_splitOn (hsplit ▸ List.mem_cons_self)
        simp only [List.mem_cons, not_or]
        exact ⟨fun heq => hx (by simp [heq]), hfirst⟩
      · exact List.not_mem_of_mem_splitOn (hsplit ▸ List.mem_cons_of_mem _ h)

namespace PathComponent

/-- A segment stands for a component other than a plain name only when it is `..`. -/
theorem isNormal_of_ofSegment {segment : String} {c : PathComponent}
    (h : ofSegment segment = some c) : c.isNormal = true ↔ segment ≠ ".." := by
  unfold ofSegment at h
  split_ifs at h with h₁ h₂ <;> cases h <;> simp [isNormal, name?, h₂]

/-- The components of some segments are all plain names exactly when no segment is `..`. -/
theorem all_normal_filterMap_ofSegment (segments : List String) :
    (∀ c ∈ segments.filterMap ofSegment, c.isNormal) ↔ ".." ∉ segments := by
  simp only [List.mem_filterMap, forall_exists_index, and_imp]
  constructor
  · intro h hmem
    exact absurd (h .parentDir ".." hmem rfl) (by decide)
  · intro h c segment hmem hc
    exact (isNormal_of_ofSegment hc).2 fun heq => h (heq ▸ hmem)

/-- A first segment that is neither empty nor `.` stands for what any segment does. -/
theorem ofFirst_append {first : String} (h₁ : first ≠ "") (h₂ : first ≠ ".")
    (rest : List String) :
    (ofFirst first).toList ++ rest.filterMap ofSegment = (first :: rest).filterMap ofSegment := by
  rw [List.filterMap_cons, ofFirst, if_neg h₁, if_neg h₂]
  cases ofSegment first <;> rfl

/-- The first segment and the others stand for plain names only when the first is neither
empty nor `.` and no segment is `..`. -/
theorem all_normal_iff (first : String) (rest : List String) :
    (∀ c ∈ (ofFirst first).toList ++ rest.filterMap ofSegment, c.isNormal) ↔
      first ≠ "" ∧ first ≠ "." ∧ ".." ∉ first :: rest := by
  by_cases h₁ : first = ""
  · subst h₁
    simp [ofFirst, isNormal, name?]
  by_cases h₂ : first = "."
  · subst h₂
    simp [ofFirst, isNormal, name?]
  rw [ofFirst_append h₁ h₂, all_normal_filterMap_ofSegment]
  simp [h₁, h₂]

/-- The names that segments with no `..` among them stand for: those neither empty nor `.`. -/
theorem names_filterMap_ofSegment {segments : List String} (h : ".." ∉ segments) :
    (segments.filterMap ofSegment).filterMap name? = FileTree.namingSegments segments := by
  induction segments with
  | nil => rfl
  | cons segment rest ih =>
    simp only [List.mem_cons, not_or] at h
    have hrest := ih h.2
    rw [FileTree.namingSegments_eq_filter] at hrest ⊢
    by_cases h₁ : segment = ""
    · simp [h₁, ofSegment, FileTree.namesNothing, hrest]
    by_cases h₂ : segment = "."
    · simp [h₂, ofSegment, FileTree.namesNothing, hrest]
    · simp [h₁, h₂, Ne.symm h.1, ofSegment, FileTree.namesNothing, name?, hrest]

end PathComponent

/-! ## What the file operations change -/

theorem Except.bind_eq_ok {ε α β : Type} {x : Except ε α} {f : α → Except ε β} {b : β} :
    x >>= f = .ok b ↔ ∃ a, x = .ok a ∧ f a = .ok b := by
  cases x <;> simp [bind, Except.bind]

theorem Except.mapError_eq_ok {ε ε' α : Type} {x : Except ε α} {g : ε → ε'} {a : α} :
    x.mapError g = .ok a ↔ x = .ok a := by
  cases x <;> simp [Except.mapError]

namespace FileTree

/-- `t'` is `t` with the same files and more directories, each a non-empty prefix of `path`. -/
def GrowsAlong (path : List String) (t t' : FileTree) : Prop :=
  t'.files = t.files ∧
    ∃ made, t'.directories = t.directories ++ made ∧ ∀ d ∈ made, d ≠ [] ∧ d <+: path

theorem GrowsAlong.refl (path : List String) (t : FileTree) : GrowsAlong path t t :=
  ⟨rfl, [], by simp, by simp⟩

theorem GrowsAlong.trans {path : List String} {t₁ t₂ t₃ : FileTree}
    (h₁ : GrowsAlong path t₁ t₂) (h₂ : GrowsAlong path t₂ t₃) : GrowsAlong path t₁ t₃ := by
  obtain ⟨hf₁, made₁, hd₁, hm₁⟩ := h₁
  obtain ⟨hf₂, made₂, hd₂, hm₂⟩ := h₂
  refine ⟨hf₂.trans hf₁, made₁ ++ made₂, by rw [hd₂, hd₁, List.append_assoc], ?_⟩
  intro d hd
  rcases List.mem_append.1 hd with hd | hd
  · exact hm₁ d hd
  · exact hm₂ d hd

theorem GrowsAlong.mono {path path' : List String} {t t' : FileTree}
    (h : GrowsAlong path t t') (hpath : path <+: path') : GrowsAlong path' t t' := by
  obtain ⟨hf, made, hd, hm⟩ := h
  exact ⟨hf, made, hd, fun d hdm => ⟨(hm d hdm).1, (hm d hdm).2.trans hpath⟩⟩

/-- Making a directory adds just that directory, which is not the root. -/
theorem makeDirectory_eq_ok {t t' : FileTree} {path : List String}
    (h : t.makeDirectory path = .ok t') :
    path ≠ [] ∧ t' = { t with directories := t.directories ++ [path] } := by
  unfold makeDirectory at h
  split at h
  · cases h
  split at h
  · cases h
  next last hlast =>
  simp only [Except.bind_eq_ok] at h
  obtain ⟨_, -, h⟩ := h
  split at h
  · cases h
  split at h
  · cases h
  cases h
  exact ⟨by rintro rfl; simp at hlast, rfl⟩

theorem makeDirectory_growsAlong {t t' : FileTree} {path : List String}
    (h : t.makeDirectory path = .ok t') : GrowsAlong path t t' := by
  obtain ⟨hne, rfl⟩ := makeDirectory_eq_ok h
  exact ⟨rfl, [path], rfl, by simp [hne]⟩

/-- Making a directory with the ones above it makes only directories on its path. -/
theorem makeDirectoriesUp_growsAlong (up : List String) {t t' : FileTree}
    (h : makeDirectoriesUp up t = .ok t') : GrowsAlong up.reverse t t' := by
  induction up generalizing t t' with
  | nil =>
    cases h
    exact .refl _ _
  | cons name up ih =>
    unfold makeDirectoriesUp at h
    dsimp only at h
    split at h
    · next hmake =>
      cases h
      exact makeDirectory_growsAlong hmake
    · -- the directory above is missing: it is made first, then this one
      simp only [Except.bind_eq_ok] at h
      obtain ⟨t₁, hup, h⟩ := h
      have habove : GrowsAlong (name :: up).reverse t t₁ :=
        (ih hup).mono (by simp)
      split at h
      · next hmake =>
        cases h
        exact habove.trans (makeDirectory_growsAlong hmake)
      · split at h
        · cases h
          exact habove
        · cases h
    · split at h
      · cases h
        exact .refl _ _
      · cases h

theorem makeDirectories_growsAlong {t t' : FileTree} {path : List String}
    (h : t.makeDirectories path = .ok t') : GrowsAlong path t t' := by
  simpa using makeDirectoriesUp_growsAlong path.reverse h

/-- Writing a file sets the file at the path of the names of its segments, and nothing else. -/
theorem writeFile_eq_ok {t t' : FileTree} {segments : List String} {trailing : Bool}
    {content : String} (h : t.writeFile segments trailing content = .ok t') :
    t' = { t with files := (namingSegments segments, content) ::
      t.files.filter (·.1 != namingSegments segments) } := by
  unfold writeFile at h
  split at h
  · cases h
  simp only [Except.bind_eq_ok] at h
  obtain ⟨_, -, h⟩ := h
  split at h
  · cases h
  next hlast =>
  simp only [Bool.or_eq_true, beq_iff_eq, not_or] at hlast
  rw [← splitLast_path hlast.1]
  split at h
  · cases h
  split at h
  · cases h
  · cases h
    rfl

/-- Removing a file drops the file at the path of the names of its segments, and nothing
else. -/
theorem removeFile_eq_ok {t t' : FileTree} {segments : List String} {trailing : Bool}
    (h : t.removeFile segments trailing = .ok t') :
    t' = { t with files := t.files.filter (·.1 != namingSegments segments) } := by
  unfold removeFile at h
  split at h
  · cases h
  simp only [Except.bind_eq_ok] at h
  obtain ⟨_, -, h⟩ := h
  split at h
  · cases h
  next hlast =>
  simp only [beq_iff_eq] at hlast
  rw [← splitLast_path hlast]
  split at h
  · cases h
  split at h
  · cases h
  · cases h
  · split at h
    · cases h
    · cases h
      rfl

end FileTree

namespace DirectoryStore

open FileTree

theorem trimTail_eq_rdropWhile (segments : List String) :
    trimTail segments = segments.rdropWhile namesNothing := rfl

theorem namingSegments_trimTail (segments : List String) :
    namingSegments (trimTail segments) = namingSegments segments := by
  conv_rhs => rw [← List.rdropWhile_append_rtakeWhile (p := namesNothing) (l := segments)]
  rw [trimTail_eq_rdropWhile,
    namingSegments_append_of_namesNothing fun _ hs => List.mem_rtakeWhile_imp hs]

/-- Dropping the last of the trimmed segments drops the last name. -/
theorem namingSegments_dropLast_trimTail (segments : List String) :
    namingSegments (trimTail segments).dropLast = (namingSegments segments).dropLast := by
  rw [← namingSegments_trimTail segments]
  rcases List.eq_nil_or_concat (trimTail segments) with hnil | ⟨init, last, hsplit⟩
  · rw [hnil]
    rfl
  · -- the trimmed segments end in a name, which the names keep last
    rw [List.concat_eq_append] at hsplit
    have hlast : namesNothing last = false := by
      have hne : trimTail segments ≠ [] := by simp [hsplit]
      have := List.rdropWhile_last_not (p := namesNothing) (l := segments) hne
      simpa [← trimTail_eq_rdropWhile, hsplit] using this
    rw [hsplit, List.dropLast_concat, namingSegments_eq_filter, namingSegments_eq_filter,
      List.filter_append]
    simp [hlast]

/-- The directory above a key's file is named by all of its names but the last. -/
theorem namingSegments_parentSegments (segments : List String) :
    namingSegments (parentSegments segments) = (namingSegments segments).dropLast := by
  rw [parentSegments, namingSegments_trimTail, namingSegments_dropLast_trimTail]

/-! ## Plain keys -/

theorem keySegments_ne_nil (key : String) : keySegments key ≠ [] := by
  simp [keySegments]

/-- No segment of a key holds a separator. -/
theorem slash_not_mem_of_mem_keySegments {key segment : String}
    (h : segment ∈ keySegments key) : '/' ∉ segment.toList := by
  obtain ⟨piece, hpiece, rfl⟩ := List.mem_map.1 h
  rw [String.toList_ofList]
  exact List.not_mem_of_mem_splitOn hpiece

theorem pathComponents_of_keySegments {key first : String} {rest : List String}
    (hkey : key ≠ "") (hseg : keySegments key = first :: rest) :
    pathComponents key =
      (PathComponent.ofFirst first).toList ++ rest.filterMap PathComponent.ofSegment := by
  rw [pathComponents, if_neg hkey,
    show (key.toList.splitOn '/').map String.ofList = first :: rest from hseg]

/-- A key is plain when it is not empty, its first segment is neither empty nor `.`, and no
segment is `..`. -/
theorem isPlainKey_of_keySegments {key first : String} {rest : List String}
    (hseg : keySegments key = first :: rest) :
    isPlainKey key = true ↔ key ≠ "" ∧ first ≠ "" ∧ first ≠ "." ∧ ".." ∉ first :: rest := by
  simp [isPlainKey, hseg, and_assoc]

/-- A key is plain exactly when it is not empty and all its components are plain names. -/
theorem isPlainKey_iff (key : String) :
    isPlainKey key = true ↔ key ≠ "" ∧ ∀ c ∈ pathComponents key, c.isNormal := by
  by_cases hkey : key = ""
  · subst hkey
    simp [isPlainKey_empty]
  obtain ⟨first, rest, hseg⟩ := List.exists_cons_of_ne_nil (keySegments_ne_nil key)
  rw [isPlainKey_of_keySegments hseg, pathComponents_of_keySegments hkey hseg,
    PathComponent.all_normal_iff]

/-- The names of a plain key are its segments that name something. -/
theorem normalNames_eq {key : String} (h : isPlainKey key = true) :
    normalNames key = namingSegments (keySegments key) := by
  obtain ⟨first, rest, hseg⟩ := List.exists_cons_of_ne_nil (keySegments_ne_nil key)
  obtain ⟨hkey, h₁, h₂, hdots⟩ := (isPlainKey_of_keySegments hseg).1 h
  rw [normalNames, pathComponents_of_keySegments hkey hseg, PathComponent.ofFirst_append h₁ h₂,
    PathComponent.names_filterMap_ofSegment hdots, hseg]

/-- The names of a plain key make a path strictly below the root. -/
theorem belowRoot_normalNames {key : String} (h : isPlainKey key = true) :
    BelowRoot (normalNames key) := by
  obtain ⟨first, rest, hseg⟩ := List.exists_cons_of_ne_nil (keySegments_ne_nil key)
  obtain ⟨-, h₁, h₂, hdots⟩ := (isPlainKey_of_keySegments hseg).1 h
  rw [normalNames_eq h, namingSegments_eq_filter, hseg]
  constructor
  · -- the first segment is a name
    have hfirst : namesNothing first = false := namesNothing_eq_false_iff.2 ⟨h₁, h₂⟩
    rw [List.filter_cons_of_pos (by simp [hfirst])]
    exact List.cons_ne_nil _ _
  · intro name hname
    obtain ⟨hmem, hnames⟩ := List.mem_filter.1 hname
    have hnames : name ≠ "" ∧ name ≠ "." := namesNothing_eq_false_iff.1 (by simpa using hnames)
    refine ⟨hnames.1, hnames.2, fun heq => hdots (heq ▸ hmem), ?_⟩
    exact slash_not_mem_of_mem_keySegments (hseg ▸ hmem)

theorem segmentsOf_eq_ok {key : String} {segments : List String} :
    segmentsOf key = .ok segments ↔ isPlainKey key = true ∧ segments = keySegments key := by
  by_cases hplain : isPlainKey key = true
  · rw [segmentsOf, if_pos hplain]
    constructor
    · intro h
      cases h
      exact ⟨hplain, rfl⟩
    · rintro ⟨-, rfl⟩
      rfl
  · rw [segmentsOf, if_neg hplain]
    simp [hplain]

theorem segmentsOf_of_not_plain {key : String} (h : isPlainKey key = false) :
    segmentsOf key = .error (.validation ("Invalid object key '" ++ key ++ "'")) := by
  simp [segmentsOf, h]

/-! ## What the store does with a key -/

/-- A key that is not plain is refused before the files are looked at. -/
theorem put_of_not_plain {key : String} (h : isPlainKey key = false) (s : DirectoryStore)
    (content : String) :
    s.put key content = .error (.validation ("Invalid object key '" ++ key ++ "'")) := by
  rw [put, segmentsOf_of_not_plain h]
  rfl

theorem delete_of_not_plain {key : String} (h : isPlainKey key = false) (s : DirectoryStore) :
    s.delete key = .error (.validation ("Invalid object key '" ++ key ++ "'")) := by
  rw [delete, segmentsOf_of_not_plain h]
  rfl

/-- The steps of a store that succeeded. -/
theorem put_eq_ok {s s' : DirectoryStore} {key content : String}
    (h : s.put key content = .ok s') :
    ∃ segments tree, segmentsOf key = .ok segments ∧
      s.tree.makeDirectories (namingSegments (parentSegments segments)) = .ok tree ∧
      tree.writeFile segments (key.endsWith "/") content = .ok s'.tree ∧ s'.root = s.root := by
  simp only [put, Except.bind_eq_ok, Except.mapError_eq_ok] at h
  obtain ⟨segments, hseg, tree, hdirs, tree', hwrite, hs'⟩ := h
  cases hs'
  exact ⟨segments, tree, hseg, hdirs, hwrite, rfl⟩

/-- The steps of a removal that succeeded: the file is removed, or it was not there. -/
theorem delete_eq_ok {s s' : DirectoryStore} {key : String} (h : s.delete key = .ok s') :
    ∃ segments, segmentsOf key = .ok segments ∧
      (s' = s ∨ ∃ tree, s.tree.removeFile segments (key.endsWith "/") = .ok tree ∧
        s' = { s with tree }) := by
  simp only [delete, Except.bind_eq_ok] at h
  obtain ⟨segments, hseg, h⟩ := h
  refine ⟨segments, hseg, ?_⟩
  split at h
  · next tree hremove =>
    cases h
    exact .inr ⟨tree, hremove, rfl⟩
  · cases h
    exact .inl rfl
  · cases h

/-- Storing an object writes the file at its key's names and makes directories only on the
way to it: each a non-empty prefix of the path above the file. -/
theorem put_effect {s s' : DirectoryStore} {key content : String}
    (h : s.put key content = .ok s') :
    isPlainKey key = true ∧ s'.root = s.root ∧
      s'.tree.files = (normalNames key, content) ::
        s.tree.files.filter (·.1 != normalNames key) ∧
      ∃ made, s'.tree.directories = s.tree.directories ++ made ∧
        ∀ d ∈ made, d ≠ [] ∧ d <+: (normalNames key).dropLast := by
  obtain ⟨segments, tree, hseg, hdirs, hwrite, hroot⟩ := put_eq_ok h
  obtain ⟨hplain, rfl⟩ := segmentsOf_eq_ok.1 hseg
  have hgrow := makeDirectories_growsAlong hdirs
  rw [namingSegments_parentSegments, ← normalNames_eq hplain] at hgrow
  obtain ⟨hfiles, made, hmade, hprefix⟩ := hgrow
  have htree := writeFile_eq_ok hwrite
  rw [← normalNames_eq hplain] at htree
  refine ⟨hplain, hroot, ?_, made, ?_, hprefix⟩
  · rw [htree, hfiles]
  · rw [htree, ← hmade]

/-- Removing an object removes the file at its key's names, or changes nothing. -/
theorem delete_effect {s s' : DirectoryStore} {key : String} (h : s.delete key = .ok s') :
    isPlainKey key = true ∧
      (s' = s ∨
        s' = { s with tree := { s.tree with files := s.tree.files.filter (·.1 != normalNames key) } }) := by
  obtain ⟨segments, hseg, hcases⟩ := delete_eq_ok h
  obtain ⟨hplain, rfl⟩ := segmentsOf_eq_ok.1 hseg
  refine ⟨hplain, ?_⟩
  rcases hcases with rfl | ⟨tree, hremove, rfl⟩
  · exact .inl rfl
  · rw [removeFile_eq_ok hremove, normalNames_eq hplain]
    exact .inr rfl

/-- A directory store works only strictly below its root. It accepts a key exactly when the
key is not empty and all its components are plain names; it refuses any other key with the
same validation error whatever it holds; and storing or removing an object touches only the
path of the key's names, which lies strictly below the root, and the directories above it. -/
theorem keys_stay_below_root (key : String) :
    ((∃ segments, segmentsOf key = .ok segments) ↔
        key ≠ "" ∧ ∀ c ∈ pathComponents key, c.isNormal) ∧
      ((key = "" ∨ ∃ c ∈ pathComponents key, c.isNormal = false) →
        ∀ (s : DirectoryStore) (content : String),
          s.put key content = .error (.validation ("Invalid object key '" ++ key ++ "'")) ∧
          s.delete key = .error (.validation ("Invalid object key '" ++ key ++ "'"))) ∧
      (∀ (s s' : DirectoryStore) (content : String), s.put key content = .ok s' →
        BelowRoot (normalNames key) ∧ s'.root = s.root ∧
          s'.tree.files = (normalNames key, content) ::
            s.tree.files.filter (·.1 != normalNames key) ∧
          ∃ made, s'.tree.directories = s.tree.directories ++ made ∧
            ∀ d ∈ made, d ≠ [] ∧ d <+: (normalNames key).dropLast) ∧
      (∀ s s' : DirectoryStore, s.delete key = .ok s' →
        BelowRoot (normalNames key) ∧
          (s' = s ∨ s' = { s with tree :=
            { s.tree with files := s.tree.files.filter (·.1 != normalNames key) } })) := by
  refine ⟨?_, ?_, ?_, ?_⟩
  · rw [← isPlainKey_iff]
    constructor
    · rintro ⟨_, hseg⟩
      exact (segmentsOf_eq_ok.1 hseg).1
    · intro hplain
      exact ⟨_, segmentsOf_eq_ok.2 ⟨hplain, rfl⟩⟩
  · intro hbad s content
    have hplain : isPlainKey key = false := by
      rw [Bool.eq_false_iff, ne_eq, isPlainKey_iff]
      rintro ⟨hkey, hall⟩
      rcases hbad with hempty | ⟨c, hc, hnormal⟩
      · exact hkey hempty
      · simp [hall c hc] at hnormal
    exact ⟨put_of_not_plain hplain s content, delete_of_not_plain hplain s⟩
  · intro s s' content h
    obtain ⟨hplain, heffect⟩ := put_effect h
    exact ⟨belowRoot_normalNames hplain, heffect⟩
  · intro s s' h
    obtain ⟨hplain, heffect⟩ := delete_effect h
    exact ⟨belowRoot_normalNames hplain, heffect⟩

/-- A nested key with an empty and a `.` segment is stored below the root, and the keys of
a parent directory and of the root are refused. -/
theorem keys_stay_below_root_nested :
    (∃ s' : DirectoryStore,
      ({ root := "root" } : DirectoryStore).put "generations//./images/a_raw.png" "png" = .ok s' ∧
        BelowRoot (normalNames "generations//./images/a_raw.png") ∧
        s'.tree.files = [(normalNames "generations//./images/a_raw.png", "png")]) ∧
      ({ root := "root" } : DirectoryStore).put "../outside.png" "x" =
        .error (.validation ("Invalid object key '" ++ "../outside.png" ++ "'")) ∧
      ({ root := "root" } : DirectoryStore).delete "/etc/passwd" =
        .error (.validation ("Invalid object key '" ++ "/etc/passwd" ++ "'")) := by
  have hok : (({ root := "root" } : DirectoryStore).put "generations//./images/a_raw.png"
      "png").toOption.isSome = true := by
    decide +kernel
  obtain ⟨s', hput⟩ : ∃ s', ({ root := "root" } : DirectoryStore).put
      "generations//./images/a_raw.png" "png" = .ok s' := by
    cases hput : ({ root := "root" } : DirectoryStore).put "generations//./images/a_raw.png"
      "png" with
    | error e => simp [hput, Except.toOption] at hok
    | ok s' => exact ⟨s', rfl⟩
  obtain ⟨hbelow, -, hfiles, -⟩ := (keys_stay_below_root _).2.2.1 _ _ _ hput
  refine ⟨⟨s', hput, hbelow, by simpa using hfiles⟩, ?_, ?_⟩
  · exact ((keys_stay_below_root _).2.1 (.inr ⟨.parentDir, by decide, rfl⟩) _ "x").1
  · exact ((keys_stay_below_root _).2.1 (.inr ⟨.rootDir, by decide, rfl⟩) _ "").2

end DirectoryStore

end ImageStudio
