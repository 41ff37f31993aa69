import ApiScaffold.Diagnosed
/-!
# Actions on a state

An action that may fail hands its state on whether it fails or not. A sequence goes on from the
state that its first action left, or fails with it.
-/
namespace ApiScaffold

namespace Stateful

variable {σ ε ε' α β : Type}

theorem run_bind (x : ExceptT ε (StateM σ) α) (f : α → ExceptT ε (StateM σ) β) (s : σ) :
    (x >>= f).run.run s =
      match x.run.run s with
      | (.ok a, t) => (f a).run.run t
      | (.error e, t) => (.error e, t) := by
  show (match x.run.run s with
    | (r, t) => (ExceptT.bindCont f r).run t) = _
  obtain ⟨r, t⟩ := x.run.run s
  cases r <;> rfl

theorem run_bind_ok {x : ExceptT ε (StateM σ) α} {f : α → ExceptT ε (StateM σ) β} {s t : σ} {a : α}
    (h : x.run.run s = (.ok a, t)) : (x >>= f).run.run s = (f a).run.run t := by
  rw [run_bind, h]

theorem run_bind_error {x : ExceptT ε (StateM σ) α} {f : α → ExceptT ε (StateM σ) β} {s t : σ}
    {e : ε} (h : x.run.run s = (.error e, t)) : (x >>= f).run.run s = (.error e, t) := by
  rw [run_bind, h]

theorem exists_run_eq {x : ExceptT ε (StateM σ) α} {s : σ} {result : Except ε α}
    (h : (x.run.run s).1 = result) : ∃ t, x.run.run s = (result, t) := ⟨(x.run.run s).2, h ▸ rfl⟩

theorem run_get (s : σ) : (get : ExceptT ε (StateM σ) σ).run.run s = (.ok s, s) := rfl

theorem run_set (s t : σ) : (set t : ExceptT ε (StateM σ) PUnit).run.run s = (.ok ⟨⟩, t) := rfl

theorem run_lift (x : Except ε α) (s : σ) :
    (liftM x : ExceptT ε (StateM σ) α).run.run s = (x, s) := by
  cases x <;> rfl

theorem run_liftState (x : StateM σ α) (s : σ) :
    (liftM x : ExceptT ε (StateM σ) α).run.run s = (.ok (x.run s).1, (x.run s).2) := rfl

private theorem run_bind_pure (x : ExceptT ε (StateM σ) α) (f : α → β) (s : σ) :
    (x >>= fun a => pure (f a)).run.run s = ((x.run.run s).1.map f, (x.run.run s).2) := by
  rw [run_bind]
  rcases x.run.run s with ⟨_ | a, t⟩ <;> rfl

theorem run_mapM_lift (f : α → Except ε β) (l : List α) (s : σ) :
    (l.mapM fun a => (liftM (f a) : ExceptT ε (StateM σ) β)).run.run s = (l.mapM f, s) := by
  induction l with
  | nil => rfl
  | cons a l ih =>
    rw [List.mapM_cons, List.mapM_cons, run_bind, run_lift]
    cases f a with
    | error e => rfl
    | ok b =>
      show ((l.mapM fun a => (liftM (f a) : ExceptT ε (StateM σ) β)) >>= fun bs =>
        pure (b :: bs)).run.run s = ((l.mapM f).bind fun bs => pure (b :: bs), s)
      rw [run_bind_pure, ih]
      cases l.mapM f <;> rfl

private theorem run_tryCatch (x : ExceptT ε (StateM σ) α) (f : ε → ExceptT ε (StateM σ) α) (s : σ) :
    (tryCatch x f).run.run s =
      match x.run.run s with
      | (.ok a, t) => (.ok a, t)
      | (.error e, t) => (f e).run.run t := by
  show (match x.run.run s with
    | (r, t) => (match r with
      | .ok a => (pure (.ok a) : StateM σ (Except ε α))
      | .error e => f e).run t) = _
  rcases x.run.run s with ⟨_ | a, t⟩ <;> rfl

/-! ## Relations that actions keep to -/

/-- The state after an action is related to the one before, whether it fails or not. -/
def Keeps (R : σ → σ → Prop) (x : ExceptT ε (StateM σ) α) : Prop := ∀ s, R s (x.run.run s).2

variable {R : σ → σ → Prop}

theorem Keeps.of_run_eq {x : ExceptT ε (StateM σ) α} (h : Keeps R x) {s t : σ} {result : Except ε α}
    (ran : x.run.run s = (result, t)) : R s t := by
  have kept := h s
  rw [ran] at kept
  exact kept

theorem Keeps.bind {x : ExceptT ε (StateM σ) α} {f : α → ExceptT ε (StateM σ) β}
    (first : Keeps R x) (trans : ∀ {s t u}, R s t → R t u → R s u) (rest : ∀ a, Keeps R (f a)) :
    Keeps R (x >>= f) := by
  intro s
  have before := first s
  rw [run_bind]
  generalize x.run.run s = outcome at before
  rcases outcome with ⟨_ | a, t⟩
  · exact before
  · exact trans before (rest a t)

theorem Keeps.tryCatch {x : ExceptT ε (StateM σ) α} {f : ε → ExceptT ε (StateM σ) α}
    (first : Keeps R x) (trans : ∀ {s t u}, R s t → R t u → R s u) (rest : ∀ e, Keeps R (f e)) :
    Keeps R (tryCatch x f) := by
  intro s
  have before := first s
  rw [run_tryCatch]
  generalize x.run.run s = outcome at before
  rcases outcome with ⟨e | _, t⟩
  · exact trans before (rest e t)
  · exact before

/-! ## Actions on more than a state -/

/-- An action does on a state what another does on what is seen of it. -/
def Tracks {τ : Type} (view : σ → τ) (x : ExceptT ε (StateM σ) α) (y : ExceptT ε (StateM τ) α) :
    Prop :=
  ∀ s, y.run.run (view s) = ((x.run.run s).1, view (x.run.run s).2)

section

variable {τ : Type} {view : σ → τ}

theorem tracks_pure (a : α) :
    Tracks view (pure a : ExceptT ε (StateM σ) α) (pure a) := fun _ => rfl

theorem tracks_throw (e : ε) :
    Tracks view (throw e : ExceptT ε (StateM σ) α) (throw e) := fun _ => rfl

theorem Tracks.bind {x : ExceptT ε (StateM σ) α} {y : ExceptT ε (StateM τ) α}
    {f : α → ExceptT ε (StateM σ) β} {g : α → ExceptT ε (StateM τ) β}
    (first : Tracks view x y) (rest : ∀ a, Tracks view (f a) (g a)) :
    Tracks view (x >>= f) (y >>= g) := by
  intro s
  rw [run_bind, run_bind, first s]
  rcases x.run.run s with ⟨_ | a, t⟩
  · rfl
  · exact rest a t

theorem Tracks.tryCatch {x : ExceptT ε (StateM σ) α} {y : ExceptT ε (StateM τ) α}
    {f : ε → ExceptT ε (StateM σ) α} {g : ε → ExceptT ε (StateM τ) α}
    (first : Tracks view x y) (rest : ∀ e, Tracks view (f e) (g e)) :
    Tracks view (tryCatch x f) (tryCatch y g) := by
  intro s
  rw [run_tryCatch, run_tryCatch, first s]
  rcases x.run.run s with ⟨e | _, t⟩
  · exact rest e t
  · rfl

end

end Stateful

end ApiScaffold
