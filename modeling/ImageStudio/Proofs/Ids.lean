import ImageStudio.Repository.Basic
import Mathlib.Data.List.Perm.Subperm

/-!
# Proofs · Ids: what a source of identifiers has drawn

An identifier takes two outputs of the source (`Uuid.draw`), so a source from which `n`
identifiers were drawn stands `2n` positions further on (`Entropy.skip`), and what was drawn
is the first `n` entries of one list, `Entropy.idsFrom`. Of two sources of one run, the
later one drew everything the earlier one did (`idsFrom_add`).

Identifiers are *fresh* over a run when the identifiers drawn from its first source to its
last are pairwise distinct: `(e₀.drawnUntil e).Nodup`. This is the only assumption the
theorems about runs make of the source; every earlier point of the run drew a prefix of
that list and so distinct identifiers too (`nodup_idsFrom_of_le`).

The rows of a repository are named by identifiers (`Repository.rowIds`). A repository
reached from `e₀` *owes its identifiers to the source* (`Repository.Drawn`) when its
source stands `k` identifiers on and its row identifiers are, up to order, among the
first `k` drawn. Fresh identifiers then name every row once (`Drawn.nodup`).
-/

namespace ImageStudio

namespace Entropy

/-- The source after `n` identifiers were drawn from it. -/
def skip (e : Entropy) (n : Nat) : Entropy := { e with position := e.position + 2 * n }

/-- The first `n` identifiers drawn from `e`, in order. -/
def idsFrom (e : Entropy) : Nat → List Uuid
  | 0 => []
  | n + 1 => (Uuid.draw e).1 :: (e.skip 1).idsFrom n

/-- The identifiers drawn from `e` until the source stood at `e'`. -/
def drawnUntil (e e' : Entropy) : List Uuid := e.idsFrom ((e'.position - e.position) / 2)

@[simp] theorem draw_snd (e : Entropy) : (Uuid.draw e).2 = e.skip 1 := rfl

@[simp] theorem skip_zero (e : Entropy) : e.skip 0 = e := rfl

@[simp] theorem skip_skip (e : Entropy) (m n : Nat) : (e.skip m).skip n = e.skip (m + n) := by
  simp only [skip, Nat.mul_add, Nat.add_assoc]

@[simp] theorem idsFrom_zero (e : Entropy) : e.idsFrom 0 = [] := rfl

@[simp] theorem length_idsFrom (e : Entropy) (n : Nat) : (e.idsFrom n).length = n := by
  induction n generalizing e with
  | zero => rfl
  | succ n ih => simp [idsFrom, ih]

/-- Drawing `m + n` identifiers draws `m` and then `n` more. -/
theorem idsFrom_add (e : Entropy) (m n : Nat) :
    e.idsFrom (m + n) = e.idsFrom m ++ (e.skip m).idsFrom n := by
  induction m generalizing e with
  | zero => simp
  | succ m ih =>
    rw [Nat.add_right_comm, idsFrom, idsFrom, ih, skip_skip, Nat.add_comm 1 m]
    rfl

theorem idsFrom_succ (e : Entropy) (n : Nat) :
    e.idsFrom (n + 1) = e.idsFrom n ++ [(Uuid.draw (e.skip n)).1] := by
  rw [idsFrom_add]
  rfl

@[simp] theorem drawnUntil_skip (e : Entropy) (n : Nat) : e.drawnUntil (e.skip n) = e.idsFrom n := by
  simp only [drawnUntil, skip, Nat.add_sub_cancel_left]
  rw [Nat.mul_div_cancel_left n (by decide)]

/-- What a shorter stretch of a fresh source drew is fresh too. -/
theorem nodup_idsFrom_of_le {e : Entropy} {m n : Nat} (h : (e.idsFrom n).Nodup) (hmn : m ≤ n) :
    (e.idsFrom m).Nodup := by
  obtain ⟨k, rfl⟩ := Nat.exists_eq_add_of_le hmn
  rw [idsFrom_add] at h
  exact h.sublist (List.sublist_append_left _ _)

/-- What the source drew until a point stays among what it drew until a later point. -/
theorem mem_drawnUntil_skip {e₀ e : Entropy} {x : Uuid} (hx : x ∈ e₀.drawnUntil e) (j : Nat) :
    x ∈ e₀.drawnUntil (e.skip j) := by
  unfold drawnUntil at hx ⊢
  have hle : (e.position - e₀.position) / 2 ≤ ((e.skip j).position - e₀.position) / 2 :=
    Nat.div_le_div_right (by simp only [skip]; omega)
  obtain ⟨k, hk⟩ := Nat.exists_eq_add_of_le hle
  rw [hk, idsFrom_add]
  exact List.mem_append_left _ hx

end Entropy

namespace Repository

/-- The identifiers of all rows, table by table. -/
def rowIds (r : Repository) : List Uuid :=
  r.topics.map (·.id) ++ r.batches.map (·.id) ++ r.generations.map (·.id) ++
    r.tasks.map (·.id) ++ r.files.map (·.id)

/-- The repository's source stands `k` identifiers after `e₀`, and every row is named by one
of those `k` identifiers, no two rows by the same draw. -/
def Drawn (e₀ : Entropy) (r : Repository) : Prop :=
  ∃ k, r.entropy = e₀.skip k ∧ r.rowIds.Subperm (e₀.idsFrom k)

theorem drawn_empty (start : Instant) (e₀ : Entropy) : Drawn e₀ (empty start e₀) :=
  ⟨0, rfl, List.Subperm.refl []⟩

/-- A repository whose rows took their identifiers from a fresh source names no two rows
alike. -/
theorem Drawn.nodup {e₀ : Entropy} {r : Repository} (hr : Drawn e₀ r)
    (hfresh : (e₀.drawnUntil r.entropy).Nodup) : r.rowIds.Nodup := by
  obtain ⟨k, he, ⟨l, hperm, hsub⟩⟩ := hr
  rw [he, Entropy.drawnUntil_skip] at hfresh
  exact hperm.nodup_iff.1 (hfresh.sublist hsub)

/-- A fresh run is fresh up to each of its points: the draws until a later source include
the draws until this one. -/
theorem Drawn.fresh_of_skip {e₀ e : Entropy} {r : Repository} (hr : Drawn e₀ r) {j : Nat}
    (he : e = r.entropy.skip j) (hfresh : (e₀.drawnUntil e).Nodup) :
    (e₀.drawnUntil r.entropy).Nodup := by
  obtain ⟨k, hk, -⟩ := hr
  rw [he, hk, Entropy.skip_skip, Entropy.drawnUntil_skip] at hfresh
  rw [hk, Entropy.drawnUntil_skip]
  exact Entropy.nodup_idsFrom_of_le hfresh (Nat.le_add_right k j)

/-- What the source drew until `j` draws after a repository's point: what it drew until
that point, then those `j`. -/
theorem Drawn.drawnUntil_skip {e₀ : Entropy} {r : Repository} (hr : Drawn e₀ r) (j : Nat) :
    e₀.drawnUntil (r.entropy.skip j) = e₀.drawnUntil r.entropy ++ r.entropy.idsFrom j := by
  obtain ⟨k, hk, -⟩ := hr
  rw [hk, Entropy.skip_skip, Entropy.drawnUntil_skip, Entropy.drawnUntil_skip, Entropy.idsFrom_add]

/-- Every row of a repository owed to the source is named by a draw until its point. -/
theorem Drawn.mem_drawnUntil {e₀ : Entropy} {r : Repository} (hr : Drawn e₀ r) {x : Uuid}
    (hx : x ∈ r.rowIds) : x ∈ e₀.drawnUntil r.entropy := by
  obtain ⟨k, hk, hsub⟩ := hr
  rw [hk, Entropy.drawnUntil_skip]
  exact hsub.subset hx

/-- A step that draws `j` identifiers and names its rows by old identifiers and new draws
keeps the repository's rows owed to the source. -/
theorem Drawn.step {e₀ : Entropy} {r r' : Repository} (hr : Drawn e₀ r) (j : Nat)
    (he : r'.entropy = r.entropy.skip j)
    (hids : r'.rowIds.Subperm (r.rowIds ++ r.entropy.idsFrom j)) : Drawn e₀ r' := by
  obtain ⟨k, hk, hsub⟩ := hr
  refine ⟨k + j, by rw [he, hk, Entropy.skip_skip], ?_⟩
  rw [Entropy.idsFrom_add, ← hk]
  exact hids.trans ((List.subperm_append_right _).2 hsub)

end Repository

end ImageStudio
