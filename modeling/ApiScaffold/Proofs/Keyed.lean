import Mathlib.Data.String.Basic
import ApiScaffold.Keyed
/-!
# Sets of texts and keyed lists

Putting a text or a pair in its place keeps the order, which is strict. Hence the pairs of a keyed
list are what can be looked up in it.
-/
namespace ApiScaffold

namespace Texts

def Increasing (texts : Texts) : Prop := List.Pairwise (· < ·) texts

instance (texts : Texts) : Decidable (Increasing texts) :=
  inferInstanceAs (Decidable (List.Pairwise (· < ·) texts))

variable {text other : String} {texts : Texts}

private theorem mem_insert : other ∈ insert text texts ↔ other = text ∨ other ∈ texts := by
  induction texts with
  | nil => simp [insert]
  | cons t rest ih =>
    by_cases same : text = t
    · simp [insert, same]
    · by_cases less : text < t
      · simp [insert, same, less]
      · simp [insert, same, less, ih, or_left_comm]

private theorem increasing_insert (h : Increasing texts) : Increasing (insert text texts) := by
  induction texts with
  | nil => exact List.pairwise_singleton _ _
  | cons t rest ih =>
    obtain ⟨first, tail⟩ := List.pairwise_cons.mp h
    by_cases same : text = t
    · rwa [insert, if_pos same]
    · by_cases less : text < t
      · rw [insert, if_neg same, if_pos less]
        apply List.Pairwise.cons _ h
        intro other member
        rcases List.mem_cons.mp member with rfl | member
        · exact less
        · exact less.trans (first other member)
      · have greater : t < text := lt_of_le_of_ne (not_lt.mp less) (Ne.symm same)
        rw [insert, if_neg same, if_neg less]
        apply List.Pairwise.cons _ (ih tail)
        intro other member
        rcases mem_insert.mp member with rfl | member
        · exact greater
        · exact first other member

private theorem mem_foldl_insert (added : List String) :
    other ∈ added.foldl (fun set text => insert text set) texts ↔
      other ∈ texts ∨ other ∈ added := by
  induction added generalizing texts with
  | nil => simp
  | cons text added ih =>
    rw [List.foldl_cons, ih, mem_insert, List.mem_cons]
    tauto

private theorem increasing_foldl_insert (added : List String) (h : Increasing texts) :
    Increasing (added.foldl (fun set text => insert text set) texts) := by
  induction added generalizing texts with
  | nil => exact h
  | cons text added ih => exact ih (increasing_insert h)

@[simp] theorem mem_ofList {added : List String} : text ∈ ofList added ↔ text ∈ added := by
  simp [ofList, mem_foldl_insert]

theorem increasing_ofList (added : List String) : Increasing (ofList added) :=
  increasing_foldl_insert added List.Pairwise.nil

end Texts

namespace Keyed

variable {α : Type} {key : String} {value : α} {table : Keyed α}

def Increasing (table : Keyed α) : Prop := Texts.Increasing (keys table)

instance (table : Keyed α) : Decidable (Increasing table) :=
  inferInstanceAs (Decidable (Texts.Increasing (keys table)))

private theorem keys_insert : keys (insert key value table) = Texts.insert key (keys table) := by
  induction table with
  | nil => rfl
  | cons pair rest ih =>
    obtain ⟨k, v⟩ := pair
    simp only [keys, List.map_cons] at ih ⊢
    by_cases same : key = k
    · simp [insert, Texts.insert, same]
    · by_cases less : key < k
      · simp [insert, Texts.insert, same, less]
      · simp [insert, Texts.insert, same, less, ih]

theorem increasing_insert (h : Increasing table) : Increasing (insert key value table) := by
  rw [Increasing, keys_insert]
  exact Texts.increasing_insert h

theorem increasing_ofList (pairs : List (String × α)) : Increasing (ofList pairs) := by
  have inserted (table : Keyed α) (h : Increasing table) :
      Increasing (pairs.foldl (fun table pair => insert pair.1 pair.2 table) table) := by
    induction pairs generalizing table with
    | nil => exact h
    | cons pair pairs ih => exact ih _ (increasing_insert h)
  exact inserted [] List.Pairwise.nil

theorem mem_of_mem_insert {pair : String × α} (h : pair ∈ insert key value table) :
    pair = (key, value) ∨ pair ∈ table := by
  induction table with
  | nil => simpa [insert] using h
  | cons first rest ih =>
    obtain ⟨k, v⟩ := first
    by_cases same : key = k
    · rw [insert, if_pos same] at h
      exact (List.mem_cons.mp h).imp_right (List.mem_cons_of_mem _)
    · by_cases less : key < k
      · rw [insert, if_neg same, if_pos less] at h
        exact List.mem_cons.mp h
      · rw [insert, if_neg same, if_neg less] at h
        rcases List.mem_cons.mp h with h | h
        · exact .inr (h ▸ List.mem_cons_self)
        · exact (ih h).imp_right (List.mem_cons_of_mem _)

private theorem insert_perm (h : key ∉ keys table) :
    (insert key value table).Perm ((key, value) :: table) := by
  induction table with
  | nil => exact List.Perm.refl _
  | cons pair rest ih =>
    obtain ⟨k, v⟩ := pair
    obtain ⟨different, outside⟩ : key ≠ k ∧ key ∉ keys rest := by simpa [keys] using h
    by_cases less : key < k
    · rw [insert, if_neg different, if_pos less]
    · rw [insert, if_neg different, if_neg less]
      exact ((ih outside).cons (k, v)).trans (List.Perm.swap _ _ _)

theorem ofList_perm {pairs : List (String × α)} (h : (keys pairs).Nodup) :
    (ofList pairs).Perm pairs := by
  have inserted (table : Keyed α) (new : ∀ key ∈ keys pairs, key ∉ keys table) :
      (pairs.foldl (fun table pair => insert pair.1 pair.2 table) table).Perm (pairs ++ table) := by
    induction pairs generalizing table with
    | nil => exact List.Perm.refl _
    | cons pair pairs ih =>
      obtain ⟨first, nodup⟩ := List.nodup_cons.mp h
      obtain ⟨free, new⟩ := List.forall_mem_cons.mp new
      have added : (insert pair.1 pair.2 table).Perm (pair :: table) := insert_perm free
      have later : ∀ key ∈ keys pairs, key ∉ keys (insert pair.1 pair.2 table) := by
        intro key member among
        rcases List.mem_cons.mp ((added.map Prod.fst).mem_iff.mp among) with rfl | among
        · exact first member
        · exact new key member among
      exact (ih nodup _ later).trans ((added.append_left pairs).trans List.perm_middle)
  have whole := inserted [] fun _ _ => List.not_mem_nil
  rwa [List.append_nil] at whole

theorem mem_of_get? (h : get? key table = some value) : (key, value) ∈ table := by
  induction table with
  | nil => simp [get?] at h
  | cons pair rest ih =>
    obtain ⟨k, v⟩ := pair
    by_cases same : k = key
    · simp only [get?, same, if_true, Option.some.injEq] at h
      simp [same, h]
    · rw [get?, if_neg same] at h
      exact List.mem_cons_of_mem _ (ih h)

theorem get?_eq_some_iff (h : Increasing table) :
    get? key table = some value ↔ (key, value) ∈ table := by
  refine ⟨mem_of_get?, fun member => ?_⟩
  induction table with
  | nil => cases member
  | cons pair rest ih =>
    obtain ⟨k, v⟩ := pair
    obtain ⟨first, tail⟩ := List.pairwise_cons.mp h
    unfold get?
    rcases List.mem_cons.mp member with same | member
    · cases same
      simp
    · have different : k ≠ key := ne_of_lt (first key (List.mem_map_of_mem member))
      rw [if_neg different]
      exact ih tail member

theorem get?_filter {p : String → Bool} (h : p key = true) :
    get? key (table.filter fun pair => p pair.1) = get? key table := by
  induction table with
  | nil => rfl
  | cons pair rest ih =>
    obtain ⟨k, v⟩ := pair
    by_cases kept : p k = true
    · simp only [List.filter_cons, kept, if_true, get?, ih]
    · have different : k ≠ key := fun same => kept (same ▸ h)
      simp only [List.filter_cons, kept, Bool.false_eq_true, get?, different, if_false, ih]

end Keyed

end ApiScaffold
