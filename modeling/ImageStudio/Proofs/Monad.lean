import ImageStudio.Studio.Requests
import Mathlib.Control.Monad.Basic

/-!
# Proofs · Monad: running operations on a state

Repository operations run in `Repo`, a failure monad over the repository, the studio's
steps in `StateM Studio`, and requests in `Serve`, a failure monad over the studio. The
lemmas here say what `run` makes of `get`, `modify`, `modifyGet`, `pure`, `throw` and `bind`
in these monads, and of the bridges between them (`Studio.runRepo`, `Studio.tryRepo`,
`Studio.inRepo`). Nearly all of them hold by definition. Tagged `simp`, they let `simp` take
an operation applied to a state apart into the state and the result it computes, one call
at a time, without unfolding the monads themselves.
-/

namespace ImageStudio

section
variable {α β : Type}

/-! ## The repository monad -/

@[simp] theorem Repo.run_pure (a : α) (r : Repository) :
    ExceptT.run (pure a : Repo α) r = (.ok a, r) := rfl

@[simp] theorem Repo.run_throw (e : PortError) (r : Repository) :
    ExceptT.run (throw e : Repo α) r = (.error e, r) := rfl

@[simp] theorem Repo.run_get (r : Repository) :
    ExceptT.run (get : Repo Repository) r = (.ok r, r) := rfl

@[simp] theorem Repo.run_get_bind (f : Repository → Repo α) (r : Repository) :
    ExceptT.run (get >>= f) r = ExceptT.run (f r) r := rfl

@[simp] theorem Repo.run_modify (g : Repository → Repository) (r : Repository) :
    ExceptT.run (modify g : Repo Unit) r = (.ok (), g r) := rfl

@[simp] theorem Repo.run_modify_bind (g : Repository → Repository) (f : Unit → Repo α)
    (r : Repository) : ExceptT.run (modify g >>= f) r = ExceptT.run (f ()) (g r) := rfl

@[simp] theorem Repo.run_modifyGet (g : Repository → α × Repository) (r : Repository) :
    ExceptT.run (modifyGet g : Repo α) r = (.ok (g r).1, (g r).2) := rfl

@[simp] theorem Repo.run_modifyGet_bind (g : Repository → β × Repository) (f : β → Repo α)
    (r : Repository) : ExceptT.run (modifyGet g >>= f) r = ExceptT.run (f (g r).1) (g r).2 := rfl

/-- A bind runs its second part from where the first left off, unless the first failed. -/
theorem Repo.run_bind (m : Repo α) (f : α → Repo β) (r : Repository) :
    ExceptT.run (m >>= f) r =
      match ExceptT.run m r with
      | (.ok a, r') => ExceptT.run (f a) r'
      | (.error e, r') => (.error e, r') := by
  rw [ExceptT.run_bind]
  show (ExceptT.run m >>= _) r = _
  rcases h : ExceptT.run m r with ⟨_ | _, _⟩
  · simp only [bind, StateT.bind, h]
    rfl
  · simp only [bind, StateT.bind, h]

@[simp] theorem Repo.run_map (g : α → β) (m : Repo α) (r : Repository) :
    ExceptT.run (g <$> m) r = ((ExceptT.run m r).1.map g, (ExceptT.run m r).2) := by
  show ExceptT.run (m >>= fun a => pure (g a)) r = _
  rw [Repo.run_bind]
  rcases ExceptT.run m r with ⟨_ | _, _⟩ <;> rfl

/-- A successful operation keeps everything it wrote. -/
theorem Repository.settle_of_ok {m : Repo α} {r r' : Repository} {a : α}
    (h : ExceptT.run m r = (.ok a, r')) : Repository.settle m r = (.ok a, r') := by
  simp [Repository.settle, h]

/-- A failed operation keeps only its clock readings and the identifiers it drew. -/
theorem Repository.settle_of_error {m : Repo α} {r r' : Repository} {e : PortError}
    (h : ExceptT.run m r = (.error e, r')) :
    Repository.settle m r = (.error e, { r with clock := r'.clock, entropy := r'.entropy }) := by
  simp [Repository.settle, h]

/-- The repository a settled operation leaves. -/
theorem Repository.settle_snd (m : Repo α) (r : Repository) :
    (Repository.settle m r).2 =
      match ExceptT.run m r with
      | (.ok _, r') => r'
      | (.error _, r') => { r with clock := r'.clock, entropy := r'.entropy } := by
  unfold Repository.settle
  rcases ExceptT.run m r with ⟨_ | _, _⟩ <;> rfl

/-! ## The studio monad -/

@[simp] theorem Studio.run_pure (a : α) (s : Studio) :
    (pure a : StateM Studio α).run s = (a, s) := rfl

@[simp] theorem Studio.run_get_bind (f : Studio → StateM Studio α) (s : Studio) :
    (get >>= f).run s = (f s).run s := rfl

@[simp] theorem Studio.run_set (s' s : Studio) :
    (set s' : StateM Studio PUnit).run s = (⟨⟩, s') := rfl

@[simp] theorem Studio.run_modify (g : Studio → Studio) (s : Studio) :
    (modify g : StateM Studio Unit).run s = ((), g s) := rfl

/-- A bind runs its second part from where the first left off. -/
theorem Studio.run_bind (m : StateM Studio α) (f : α → StateM Studio β) (s : Studio) :
    (m >>= f).run s = (f (m.run s).1).run (m.run s).2 := rfl

@[simp] theorem Studio.run_map (g : α → β) (m : StateM Studio α) (s : Studio) :
    (g <$> m).run s = (g (m.run s).1, (m.run s).2) := rfl

@[simp] theorem Studio.runRepo_run (m : Repo α) (s : Studio) :
    (Studio.runRepo m).run s =
      ((Repository.settle m s.repo).1, { s with repo := (Repository.settle m s.repo).2 }) := rfl

@[simp] theorem Studio.tryRepo_run (m : Repo α) (s : Studio) :
    (Studio.tryRepo m).run s =
      ((Repository.settle m s.repo).1.toOption,
        { s with repo := (Repository.settle m s.repo).2 }) := rfl

/-! ## Requests -/

@[simp] theorem Serve.run_pure (a : α) (s : Studio) :
    (pure a : Serve α).run.run s = (.ok a, s) := rfl

@[simp] theorem Serve.run_throw (e : PortError) (s : Studio) :
    (throw e : Serve α).run.run s = (.error e, s) := rfl

@[simp] theorem Serve.run_get_bind (f : Studio → Serve α) (s : Studio) :
    (get >>= f).run.run s = (f s).run.run s := rfl

/-- A repository operation that succeeds lets the request go on from the repository it
left. -/
theorem Serve.run_inRepo_bind {m : Repo α} {f : α → Serve β} {s : Studio} {a : α} {r : Repository}
    (h : ExceptT.run m s.repo = (.ok a, r)) :
    (Studio.inRepo m >>= f).run.run s = (f a).run.run { s with repo := r } := by
  simp only [ExceptT.run_bind, Studio.run_bind, Studio.inRepo, ExceptT.run_mk, Studio.runRepo_run,
    Repository.settle_of_ok h]

end

end ImageStudio
