import Mathlib.Data.List.Forall2
import ApiScaffold.Diagnosed
/-!
# Outcomes of sequences

A sequence of steps succeeds when each step does, and then its value is put together from theirs.
Warnings have no part in that.
-/
namespace ApiScaffold

namespace Outcome

variable {ε α β : Type}

theorem bind_eq_ok {x : Except ε α} {f : α → Except ε β} {b : β} :
    x >>= f = .ok b ↔ ∃ a, x = .ok a ∧ f a = .ok b := by
  cases x <;> simp [bind, Except.bind]

theorem bind_eq_error {x : Except ε α} {f : α → Except ε β} {e : ε} :
    x >>= f = .error e ↔ x = .error e ∨ ∃ a, x = .ok a ∧ f a = .error e := by
  cases x <;> simp [bind, Except.bind]

theorem map_eq_ok {x : Except ε α} {f : α → β} {b : β} :
    x.map f = .ok b ↔ ∃ a, x = .ok a ∧ f a = b := by
  cases x <;> simp [Except.map]

theorem map_eq_error {x : Except ε α} {f : α → β} {e : ε} : x.map f = .error e ↔ x = .error e := by
  cases x <;> simp [Except.map]

theorem exists_error_iff {x : Except ε α} : (∃ e, x = .error e) ↔ ¬ ∃ a, x = .ok a := by
  cases x <;> simp

theorem mapError_eq_ok {ε' : Type} {x : Except ε α} {f : ε → ε'} {a : α} :
    x.mapError f = .ok a ↔ x = .ok a := by
  cases x <;> simp [Except.mapError]

theorem mapError_eq_error {ε' : Type} {x : Except ε α} {f : ε → ε'} {e : ε'} :
    x.mapError f = .error e ↔ ∃ e', x = .error e' ∧ f e' = e := by
  cases x <;> simp [Except.mapError]

theorem toOption_eq_some {x : Except ε α} {a : α} : x.toOption = some a ↔ x = .ok a := by
  cases x <;> simp [Except.toOption]

theorem mapM_eq_ok {f : α → Except ε β} {l : List α} {r : List β} :
    l.mapM f = .ok r ↔ List.Forall₂ (fun a b => f a = .ok b) l r := by
  induction l generalizing r with
  | nil => cases r <;> simp [pure, Except.pure]
  | cons a l ih =>
    rw [List.mapM_cons, bind_eq_ok]
    constructor
    · intro h
      obtain ⟨b, hb, h⟩ := h
      obtain ⟨bs, hbs, h⟩ := bind_eq_ok.mp h
      cases h
      exact .cons hb (ih.mp hbs)
    · intro h
      rcases h with _ | ⟨hb, hbs⟩
      exact ⟨_, hb, bind_eq_ok.mpr ⟨_, ih.mpr hbs, rfl⟩⟩

theorem mapM_zip_eq_ok {γ : Type} {f : α → Except ε β} {g : α → β → γ} {l : List α}
    {r : List γ} (h : (l.mapM fun a => do return g a (← f a)) = .ok r) :
    ∃ bs, l.mapM f = .ok bs ∧ r = (l.zip bs).map fun (a, b) => g a b := by
  have each := mapM_eq_ok.mp h
  clear h
  induction each with
  | nil => exact ⟨[], rfl, rfl⟩
  | cons first _ ih =>
    obtain ⟨b, found, same⟩ := bind_eq_ok.mp first
    cases same
    obtain ⟨bs, rest, rfl⟩ := ih
    exact ⟨b :: bs, mapM_eq_ok.mpr (.cons found (mapM_eq_ok.mp rest)), rfl⟩

theorem exists_forall₂ {R : α → β → Prop} {l : List α} (h : ∀ a ∈ l, ∃ b, R a b) :
    ∃ r, List.Forall₂ R l r := by
  induction l with
  | nil => exact ⟨[], .nil⟩
  | cons a l ih =>
    obtain ⟨b, first⟩ := h a List.mem_cons_self
    obtain ⟨r, rest⟩ := ih fun a member => h a (List.mem_cons_of_mem _ member)
    exact ⟨b :: r, .cons first rest⟩

theorem exists_mapM {f : α → Except ε β} {R : α → β → Prop} {l : List α}
    (h : ∀ a ∈ l, ∃ b, f a = .ok b ∧ R a b) :
    ∃ r, l.mapM f = .ok r ∧ List.Forall₂ R l r := by
  obtain ⟨r, all⟩ := exists_forall₂ h
  exact ⟨r, mapM_eq_ok.mpr (all.imp fun _ _ h => h.1), all.imp fun _ _ h => h.2⟩

/-! ## The first fault -/

/-- Of the steps on a list the first that fails does so with `e`. -/
def Faults (f : α → Except ε β) (e : ε) : List α → Prop
  | [] => False
  | a :: l => f a = .error e ∨ (∃ b, f a = .ok b) ∧ Faults f e l

private theorem faults_append {f : α → Except ε β} {e : ε} {l more : List α} :
    Faults f e (l ++ more) ↔
      Faults f e l ∨ (∀ a ∈ l, ∃ b, f a = .ok b) ∧ Faults f e more := by
  induction l with
  | nil => simp [Faults]
  | cons a l ih =>
    rw [List.cons_append, Faults, Faults, ih, List.forall_mem_cons]
    tauto

theorem faults_iff {f : α → Except ε β} {e : ε} {l : List α} :
    Faults f e l ↔ ∃ before a after, l = before ++ a :: after ∧
      (∀ b ∈ before, ∃ c, f b = .ok c) ∧ f a = .error e := by
  constructor
  · intro h
    induction l with
    | nil => cases h
    | cons a l ih =>
      rcases h with h | ⟨good, h⟩
      · exact ⟨[], a, l, rfl, List.forall_mem_nil _, h⟩
      · obtain ⟨before, b, after, rfl, all, h⟩ := ih h
        exact ⟨a :: before, b, after, rfl, List.forall_mem_cons.mpr ⟨good, all⟩, h⟩
  · intro h
    obtain ⟨before, a, after, rfl, all, h⟩ := h
    exact faults_append.mpr (.inr ⟨all, .inl h⟩)

/-- A list with a fault has a first one. If no step before that has any other fault, it is the
one that is found. -/
theorem fault_of_faults {f : α → Except ε β} {e : ε} {before after : List α} {a : α}
    {expected : ε → Prop} (h : Faults f e (before ++ a :: after))
    (hb : ∀ b ∈ before, ∀ e, f b = .error e → expected e) (ha : ∃ e, f a = .error e ∧ expected e) :
    expected e := by
  induction before with
  | nil =>
    obtain ⟨e', fails, he⟩ := ha
    rcases h with h | ⟨⟨_, good⟩, -⟩
    · cases fails.symm.trans h
      exact he
    · cases fails.symm.trans good
  | cons b before ih =>
    obtain ⟨first, rest⟩ := List.forall_mem_cons.mp hb
    rcases h with h | ⟨-, h⟩
    · exact first e h
    · exact ih h rest

/-- The outcome of doing a step on each of a list: the first fault, or none. -/
structure Covers {γ : Type} (f : α → Except ε β) (l : List α) (x : Except ε γ) : Prop where
  faults {e : ε} : x = .error e → Faults f e l
  all {c : γ} : x = .ok c → ∀ a ∈ l, ∃ b, f a = .ok b

section

variable {γ δ : Type} {f : α → Except ε β} {l more : List α}

theorem covers_nil (c : γ) : Covers f [] (.ok c) :=
  ⟨nofun, fun _ => List.forall_mem_nil _⟩

theorem covers_step (a : α) : Covers f [a] (f a) :=
  ⟨.inl, fun h _ member => ⟨_, List.mem_singleton.mp member ▸ h⟩⟩

theorem Covers.map {x : Except ε γ} (h : Covers f l x) (g : γ → δ) : Covers f l (x.map g) := by
  refine ⟨fun he => h.faults (map_eq_error.mp he), fun ho => ?_⟩
  obtain ⟨_, ho, -⟩ := map_eq_ok.mp ho
  exact h.all ho

theorem Covers.bind {x : Except ε γ} {g : γ → Except ε δ} (h : Covers f l x)
    (hg : ∀ c, Covers f more (g c)) : Covers f (l ++ more) (x >>= g) := by
  constructor
  · intro e he
    rw [faults_append]
    rcases bind_eq_error.mp he with he | ⟨c, ho, he⟩
    · exact .inl (h.faults he)
    · exact .inr ⟨h.all ho, (hg c).faults he⟩
  · intro d hd
    obtain ⟨c, ho, hd⟩ := bind_eq_ok.mp hd
    exact List.forall_mem_append.mpr ⟨h.all ho, (hg c).all hd⟩

theorem Covers.exists_ok {x : Except ε γ} (h : Covers f l x)
    (all : ∀ a ∈ l, ∃ b, f a = .ok b) : ∃ c, x = .ok c := by
  cases x with
  | ok c => exact ⟨c, rfl⟩
  | error e =>
    obtain ⟨before, a, after, rfl, -, fails⟩ := faults_iff.mp (h.faults rfl)
    obtain ⟨b, good⟩ := all a (List.mem_append_right _ List.mem_cons_self)
    cases fails.symm.trans good

end

theorem covers_mapM (f : α → Except ε β) (l : List α) : Covers f l (l.mapM f) := by
  induction l with
  | nil => exact covers_nil []
  | cons a l ih =>
    rw [List.mapM_cons]
    exact (covers_step a).bind fun b => ih.map (b :: ·)

theorem exists_mapM_iff {f : α → Except ε β} {l : List α} :
    (∃ r, l.mapM f = .ok r) ↔ ∀ a ∈ l, ∃ b, f a = .ok b := by
  constructor
  · intro h
    obtain ⟨r, h⟩ := h
    exact (covers_mapM f l).all h
  · exact (covers_mapM f l).exists_ok

/-! ## Lists that correspond -/

variable {R : α → β → Prop} {l : List α} {r : List β}

theorem left_of_mem (h : List.Forall₂ R l r) {b : β} (member : b ∈ r) : ∃ a ∈ l, R a b := by
  induction h with
  | nil => cases member
  | cons first _ ih =>
    rcases List.mem_cons.mp member with rfl | member
    · exact ⟨_, List.mem_cons_self, first⟩
    · obtain ⟨a, member, related⟩ := ih member
      exact ⟨a, List.mem_cons_of_mem _ member, related⟩

theorem right_of_mem (h : List.Forall₂ R l r) {a : α} (member : a ∈ l) : ∃ b ∈ r, R a b :=
  left_of_mem h.flip member

theorem map_eq_map {γ : Type} {f : α → γ} {g : β → γ} (h : List.Forall₂ R l r)
    (same : ∀ a b, R a b → f a = g b) : l.map f = r.map g := by
  rw [← List.forall₂_eq_eq_eq, List.forall₂_map_left_iff, List.forall₂_map_right_iff]
  exact h.imp same

theorem mapM_congr {m : Type → Type} [Monad m] [LawfulMonad m] {γ : Type} {f : α → m γ}
    {g : β → m γ} (h : List.Forall₂ (fun a b => f a = g b) l r) : l.mapM f = r.mapM g := by
  induction h with
  | nil => rfl
  | cons first _ ih => rw [List.mapM_cons, List.mapM_cons, first, ih]

end Outcome

namespace Diagnosed

variable {α β : Type}

@[simp] theorem result_map (f : α → β) (x : Diagnosed α) : (f <$> x).result = x.result.map f := by
  rw [← bind_pure_comp, result_bind]
  cases x.result <;> rfl

theorem bind_result_eq_ok {x : Diagnosed α} {f : α → Diagnosed β} {b : β} :
    (x >>= f).result = .ok b ↔ ∃ a, x.result = .ok a ∧ (f a).result = .ok b := by
  rw [result_bind, Outcome.bind_eq_ok]

theorem bind_result_eq_error {x : Diagnosed α} {f : α → Diagnosed β} {failure : Failure} :
    (x >>= f).result = .error failure ↔
      x.result = .error failure ∨ ∃ a, x.result = .ok a ∧ (f a).result = .error failure := by
  rw [result_bind, Outcome.bind_eq_error]

theorem result_mapM (f : α → Diagnosed β) (l : List α) :
    (l.mapM f).result = l.mapM fun a => (f a).result := by
  induction l with
  | nil => rfl
  | cons a l ih =>
    rw [List.mapM_cons, List.mapM_cons, result_bind]
    congr 1
    funext b
    rw [result_bind, ih]
    rfl

end Diagnosed

end ApiScaffold
