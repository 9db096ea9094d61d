import ImageStudio.Proofs.Repository.Fresh

/-!
# Proofs · Repository · Runs: what a step of the service does to its repository

A step of the service reaches the repository in three ways: by its calls, by reading the
clock and by drawing identifiers of its own (the keys of stored images are named by one).
`Repository.Runs P r r'` says that `r'` comes from `r` by calls that satisfy `P`, clock
readings and draws, in some order. Every step of the service is such a run
(`Proofs.Studio`); what holds of every call in `P` and survives the clock and the source
then holds of the step.

The first such fact is the one of `Proofs.Repository.Fresh`: along a run, the rows stay
named by what the source drew (`Runs.drawn`), so a run whose draws are fresh keeps every
property that each call keeps while the rows are named once each (`Runs.keeps`, and
`Runs.keeps_drawn` for a property that also reads the source).
-/

namespace ImageStudio
namespace Repository

/-- `r'` comes from `r` by calls allowed by `P`, clock readings and draws, in order. -/
inductive Runs (P : RepoCall → Prop) : Repository → Repository → Prop where
  | refl (r : Repository) : Runs P r r
  | call {r r' : Repository} (c : RepoCall) (hc : P c) (h : Runs P (c.apply r) r') : Runs P r r'
  | tick {r r' : Repository} (t : Instant) (h : Runs P { r with clock := t } r') : Runs P r r'
  | draw {r r' : Repository} (h : Runs P { r with entropy := r.entropy.skip 1 } r') :
      Runs P r r'

namespace Runs

variable {P Q : RepoCall → Prop} {r r' r'' : Repository}

theorem trans (h₁ : Runs P r r') (h₂ : Runs P r' r'') : Runs P r r'' := by
  induction h₁ with
  | refl => exact h₂
  | call c hc _ ih => exact .call c hc (ih h₂)
  | tick t _ ih => exact .tick t (ih h₂)
  | draw _ ih => exact .draw (ih h₂)

theorem mono (hPQ : ∀ c, P c → Q c) (h : Runs P r r') : Runs Q r r' := by
  induction h with
  | refl => exact .refl _
  | call c hc _ ih => exact .call c (hPQ c hc) ih
  | tick t _ ih => exact .tick t ih
  | draw _ ih => exact .draw ih

theorem single (c : RepoCall) (hc : P c) : Runs P r (c.apply r) := .call c hc (.refl _)

/-- A run moves the source on by some draws and names its rows by old identifiers and by
what it drew. -/
theorem draws (h : Runs P r r') :
    ∃ j, r'.entropy = r.entropy.skip j ∧ r'.rowIds.Subperm (r.rowIds ++ r.entropy.idsFrom j) := by
  induction h with
  | refl r => exact ⟨0, rfl, (List.sublist_append_left _ _).subperm⟩
  | @call r r' c _ _ ih =>
    obtain ⟨j, hj, hsub⟩ := c.draws r
    obtain ⟨i, hi, hsub'⟩ := ih
    refine ⟨j + i, by rw [hi, hj, Entropy.skip_skip], ?_⟩
    rw [Entropy.idsFrom_add, ← hj, ← List.append_assoc]
    exact hsub'.trans ((List.subperm_append_right _).2 hsub)
  | tick t _ ih => exact ih
  | @draw r r' _ ih =>
    obtain ⟨i, hi, hsub⟩ := ih
    refine ⟨1 + i, by rw [hi, Entropy.skip_skip], ?_⟩
    rw [Entropy.idsFrom_add]
    exact hsub.trans (((List.subperm_append_left _).2 (List.sublist_append_right _ _).subperm))

/-- Along a run the rows stay named by what the source drew. -/
theorem drawn {e₀ : Entropy} (h : Runs P r r') (hr : r.Drawn e₀) : r'.Drawn e₀ := by
  obtain ⟨j, hj, hsub⟩ := h.draws
  exact hr.step j hj hsub

/-- What every allowed call keeps from a repository whose rows are owed to the source, when
the source draws fresh identifiers until the call's end, and what the clock and the source
keep, a run keeps when the source draws fresh identifiers until its end. The induction
carries the rows' debt to the source along, and each call finds the draws fresh until its
own end because they are fresh until the run's. -/
theorem keeps_drawn {e₀ : Entropy} (Inv : Repository → Prop)
    (hcall : ∀ c r, P c → Inv r → r.Drawn e₀ → (e₀.drawnUntil (c.apply r).entropy).Nodup →
      Inv (c.apply r))
    (htick : ∀ r (t : Instant), Inv r → Inv { r with clock := t })
    (hdraw : ∀ r, Inv r → Inv { r with entropy := r.entropy.skip 1 })
    (h : Runs P r r') (hr : r.Drawn e₀) (hfresh : (e₀.drawnUntil r'.entropy).Nodup)
    (hi : Inv r) : Inv r' := by
  induction h with
  | refl => exact hi
  | @call r r' c hc hrun ih =>
    obtain ⟨j, hj, hsub⟩ := c.draws r
    have hr' : (c.apply r).Drawn e₀ := hr.step j hj hsub
    obtain ⟨i, hi', -⟩ := hrun.draws
    exact ih hr' hfresh (hcall c r hc hi hr (hr'.fresh_of_skip hi' hfresh))
  | tick t _ ih => exact ih hr hfresh (htick _ t hi)
  | @draw r r' _ ih =>
    have hr' : ({ r with entropy := r.entropy.skip 1 } : Repository).Drawn e₀ :=
      hr.step 1 rfl (List.sublist_append_left _ _).subperm
    exact ih hr' hfresh (hdraw r hi)

/-- What every allowed call keeps while the rows before and after it are named once each,
and what the clock and the source keep, a run keeps when the source draws fresh
identifiers until its end. -/
theorem keeps {e₀ : Entropy} (Inv : Repository → Prop)
    (hcall : ∀ c r, P c → Inv r → r.rowIds.Nodup → (c.apply r).rowIds.Nodup → Inv (c.apply r))
    (htick : ∀ r (t : Instant), Inv r → Inv { r with clock := t })
    (hdraw : ∀ r, Inv r → Inv { r with entropy := r.entropy.skip 1 })
    (h : Runs P r r') (hr : r.Drawn e₀) (hfresh : (e₀.drawnUntil r'.entropy).Nodup)
    (hi : Inv r) : Inv r' := by
  refine h.keeps_drawn Inv (fun c r hc hi hr hf => ?_) htick hdraw hr hfresh hi
  obtain ⟨j, hj, hsub⟩ := c.draws r
  exact hcall c r hc hi (hr.nodup (hr.fresh_of_skip hj hf)) ((hr.step j hj hsub).nodup hf)

end Runs

end Repository
end ImageStudio
