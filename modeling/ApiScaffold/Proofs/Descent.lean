import Mathlib.Logic.Relation
import Mathlib.Data.List.Basic
/-!
# Descents

A relation leads from a value to those that have to be looked at inside it. Where only finitely
many values can be met, a long enough way down meets one of them twice.
-/
namespace ApiScaffold

open Relation

variable {α : Type} {r : α → α → Prop} {a b : α}

/-- A way of some number of steps leads down from a value. -/
inductive Descends (r : α → α → Prop) : Nat → α → Prop where
  | here (a : α) : Descends r 0 a
  | step {n : Nat} {a b : α} : r a b → Descends r n b → Descends r (n + 1) a

/-- A value that is met inside itself is met from here. -/
def Revolves (r : α → α → Prop) (a : α) : Prop := ∃ b, ReflTransGen r a b ∧ TransGen r b b

private theorem Revolves.of_step (h : r a b) (hb : Revolves r b) : Revolves r a := by
  obtain ⟨c, reached, cycle⟩ := hb
  exact ⟨c, .head h reached, cycle⟩

theorem Revolves.exists_step (h : Revolves r a) : ∃ b, r a b ∧ Revolves r b := by
  obtain ⟨c, reached, cycle⟩ := h
  rcases reached.cases_head with rfl | ⟨b, first, reached⟩
  · obtain ⟨b, first, back⟩ := TransGen.head'_iff.mp cycle
    exact ⟨b, first, a, back, cycle⟩
  · exact ⟨b, first, c, reached, cycle⟩

theorem Revolves.descends (h : Revolves r a) (n : Nat) : Descends r n a := by
  induction n generalizing a with
  | zero => exact .here a
  | succ n ih =>
    obtain ⟨b, first, hb⟩ := h.exists_step
    exact .step first (ih hb)

/-- Each value that is left for good leaves fewer values to be met. -/
theorem revolves_of_descends {n : Nat} {met : List α} (bound : met.length ≤ n)
    (inside : ∀ c, ReflTransGen r a c → c ∈ met) (h : Descends r n a) : Revolves r a := by
  classical
  induction n generalizing a met with
  | zero =>
    have here : a ∈ met := inside a .refl
    have empty : met = [] := List.length_eq_zero_iff.mp (Nat.le_zero.mp bound)
    rw [empty] at here
    cases here
  | succ n ih =>
    cases h with
    | @step _ _ b first rest =>
      by_cases back : ReflTransGen r b a
      · exact ⟨a, .refl, TransGen.head'_iff.mpr ⟨b, first, back⟩⟩
      · have fewer : (met.filter (· ≠ a)).length < met.length :=
          List.length_filter_lt_length_iff_exists.mpr ⟨a, inside a .refl, by simp⟩
        have inside' : ∀ c, ReflTransGen r b c → c ∈ met.filter (· ≠ a) := by
          intro c reached
          have different : c ≠ a := fun same => back (same ▸ reached)
          simp [inside c (.head first reached), different]
        exact .of_step first (ih (by omega) inside' rest)

theorem descends_iff_revolves {met : List α} (inside : ∀ c, ReflTransGen r a c → c ∈ met) :
    Descends r met.length a ↔ Revolves r a :=
  ⟨revolves_of_descends (Nat.le_refl _) inside, fun h => h.descends _⟩

theorem met_of_closed {met : List α} (start : a ∈ met)
    (closed : ∀ b c, b ∈ met → r b c → c ∈ met) : ∀ c, ReflTransGen r a c → c ∈ met := by
  intro c reached
  induction reached with
  | refl => exact start
  | tail _ step ih => exact closed _ _ ih step

/-! ## Runs with room -/

section

variable {β : Type} {lacks : β → Prop} {run : Nat → β} {answer : β}

/-- From some room on a run gives one answer, and it is not that room is lacking. -/
def Settles (lacks : β → Prop) (run : Nat → β) (answer : β) : Prop :=
  ¬ lacks answer ∧ ∃ enough, ∀ room, enough ≤ room → run room = answer

theorem not_settles_of_lacks (h : ∀ room, lacks (run room)) : ¬ Settles lacks run answer := by
  intro h
  obtain ⟨answered, enough, same⟩ := h
  exact answered (same enough (Nat.le_refl _) ▸ h enough)

variable {bound : Nat} {revolves : Prop}
  (stable : ∀ room more, ¬ lacks (run room) → room ≤ more → run more = run room)
  (endless : revolves → ∀ room, lacks (run room))
  (ends : ¬ revolves → ¬ lacks (run bound))

include stable endless ends

theorem exists_settles_iff : (∃ answer, Settles lacks run answer) ↔ ¬ revolves := by
  constructor
  · intro ⟨answer, h⟩ again
    exact not_settles_of_lacks (endless again) h
  · intro h
    exact ⟨run bound, ends h, bound, fun room le => stable bound room (ends h) le⟩

theorem eq_of_settles (h : Settles lacks run answer) : run bound = answer := by
  have answered : ¬ lacks (run bound) := ends fun again => not_settles_of_lacks (endless again) h
  obtain ⟨-, enough, h⟩ := h
  rw [← stable bound (max bound enough) answered (Nat.le_max_left _ _)]
  exact h _ (Nat.le_max_right _ _)

end

end ApiScaffold
