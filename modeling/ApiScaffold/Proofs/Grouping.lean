import Mathlib.Data.List.Induction
import Mathlib.Data.List.Sort
import ApiScaffold.Proofs.Keyed
/-!
# Things grouped by name

Groups stand in the order of their names. A thing is put into the group of its name, and begins one
if there is none yet. In whatever order the things come, each name gets one group in the end, which
holds the things of that name in the order in which they came.
-/
namespace ApiScaffold

theorem filter_append_filter_perm {α : Type} {p q : α → Bool} (h : ∀ a, q a = !p a) (l : List α) :
    (l.filter p ++ l.filter q).Perm l := by
  rw [show q = fun a => !p a from funext h]
  exact List.filter_append_perm p l

/-- How a group of things is begun and how it is extended. -/
structure Grouping (α β : Type) where
  name : β → String
  things : β → List α
  start : String → β
  push : β → α → β
  name_start (text : String) : name (start text) = text
  things_start (text : String) : things (start text) = []
  name_push (group : β) (thing : α) : name (push group thing) = name group
  things_push (group : β) (thing : α) : things (push group thing) = things group ++ [thing]

namespace Grouping

variable {α β : Type}

def under (name : String) (entries : List (String × α)) : List α :=
  (entries.filter (·.1 = name)).map Prod.snd

@[simp] theorem under_nil (name : String) : under name ([] : List (String × α)) = [] := rfl

private theorem under_append (name : String) (entries more : List (String × α)) :
    under name (entries ++ more) = under name entries ++ under name more := by
  rw [under, List.filter_append, List.map_append]
  rfl

private theorem under_cons_self (name : String) (thing : α) (entries : List (String × α)) :
    under name ((name, thing) :: entries) = thing :: under name entries := by
  simp [under]

private theorem under_cons_ne {name other : String} (h : other ≠ name) (thing : α)
    (entries : List (String × α)) :
    under name ((other, thing) :: entries) = under name entries := by
  simp [under, h]

theorem mem_under {name : String} {thing : α} {entries : List (String × α)} :
    thing ∈ under name entries ↔ (name, thing) ∈ entries := by
  simp only [under, List.mem_map, List.mem_filter, decide_eq_true_eq]
  constructor
  · intro h
    obtain ⟨⟨_, _⟩, ⟨member, rfl⟩, rfl⟩ := h
    exact member
  · intro h
    exact ⟨(name, thing), ⟨h, rfl⟩, rfl⟩

private theorem under_eq_nil {name : String} {entries : List (String × α)}
    (h : name ∉ entries.map Prod.fst) : under name entries = [] := by
  rw [under, List.map_eq_nil_iff, List.filter_eq_nil_iff]
  intro entry member same
  apply h
  rw [← of_decide_eq_true same]
  exact List.mem_map_of_mem member

private theorem under_ne_nil {name : String} {entries : List (String × α)}
    (h : name ∈ entries.map Prod.fst) : under name entries ≠ [] := by
  obtain ⟨⟨_, thing⟩, member, rfl⟩ := List.mem_map.mp h
  exact List.ne_nil_of_mem (mem_under.mpr member)

variable (G : Grouping α β)

def group (name : String) (things : List α) : β := things.foldl G.push (G.start name)

theorem group_append (name : String) (things : List α) (thing : α) :
    G.group name (things ++ [thing]) = G.push (G.group name things) thing := by
  rw [group, List.foldl_append]
  rfl

@[simp] theorem name_group (name : String) (things : List α) :
    G.name (G.group name things) = name := by
  induction things using List.reverseRecOn with
  | nil => exact G.name_start name
  | append_singleton things thing ih => rw [group_append, G.name_push, ih]

@[simp] theorem things_group (name : String) (things : List α) :
    G.things (G.group name things) = things := by
  induction things using List.reverseRecOn with
  | nil => exact G.things_start name
  | append_singleton things thing ih => rw [group_append, G.things_push, ih]

def grouped (entries : List (String × α)) : List β :=
  (Texts.ofList (entries.map Prod.fst)).map fun name => G.group name (under name entries)

theorem mem_grouped {entries : List (String × α)} {g : β} :
    g ∈ G.grouped entries ↔
      ∃ name ∈ entries.map Prod.fst, G.group name (under name entries) = g := by
  simp only [grouped, List.mem_map, Texts.mem_ofList]

private theorem names_grouped (entries : List (String × α)) :
    (G.grouped entries).map G.name = Texts.ofList (entries.map Prod.fst) := by
  rw [grouped, List.map_map]
  exact List.map_id'' (fun name => G.name_group name _) _

theorem increasing_names (entries : List (String × α)) :
    Texts.Increasing ((G.grouped entries).map G.name) := by
  rw [names_grouped]
  exact Texts.increasing_ofList _

variable {G} in
theorem things_of_mem_grouped {entries : List (String × α)} {g : β} (h : g ∈ G.grouped entries) :
    G.things g = under (G.name g) entries := by
  obtain ⟨name, -, rfl⟩ := G.mem_grouped.mp h
  rw [things_group, name_group]

variable {G} in
theorem things_ne_nil {entries : List (String × α)} {g : β} (h : g ∈ G.grouped entries) :
    G.things g ≠ [] := by
  obtain ⟨name, among, rfl⟩ := G.mem_grouped.mp h
  rw [things_group]
  exact under_ne_nil among

/-! ## Some of the things -/

private theorem under_filter (p : α → Bool) (name : String) (entries : List (String × α)) :
    under name (entries.filter fun entry => p entry.2) = (under name entries).filter p := by
  rw [under, under, List.filter_map, List.filter_filter, List.filter_filter]
  simp only [Function.comp_apply, Bool.and_comm]

def keep (p : α → Bool) (g : β) : β := G.group (G.name g) ((G.things g).filter p)

/-- Grouping the things that are kept is the same as keeping them in the groups. A group of which
nothing is kept disappears. -/
theorem grouped_filter (p : α → Bool) (entries : List (String × α)) :
    G.grouped (entries.filter fun entry => p entry.2) =
      ((G.grouped entries).map (G.keep p)).filter fun g => !(G.things g).isEmpty := by
  have names : Texts.ofList ((entries.filter fun entry => p entry.2).map Prod.fst) =
      (Texts.ofList (entries.map Prod.fst)).filter
        fun name => !((under name entries).filter p).isEmpty := by
    have order : List.Pairwise (· < ·) _ := Texts.increasing_ofList (entries.map Prod.fst)
    refine List.Pairwise.eq_of_mem_iff (Texts.increasing_ofList _) (order.filter _) ?_
    intro name
    simp only [Texts.mem_ofList, List.mem_filter, ← under_filter, Bool.not_eq_true',
      List.isEmpty_eq_false_iff]
    constructor
    · intro kept
      obtain ⟨entry, member, named⟩ := List.mem_map.mp kept
      exact ⟨List.mem_map.mpr ⟨entry, (List.mem_filter.mp member).1, named⟩, under_ne_nil kept⟩
    · intro h
      by_contra absent
      exact h.2 (under_eq_nil absent)
  have kept (name : String) : G.keep p (G.group name (under name entries)) =
      G.group name (under name (entries.filter fun entry => p entry.2)) := by
    rw [keep, name_group, things_group, under_filter]
  simp only [grouped, names, List.map_map, List.filter_map, Function.comp_def, kept, things_group,
    under_filter]

/-! ## Nothing is lost -/

def entries (groups : List β) : List (String × α) :=
  groups.flatMap fun g => (G.things g).map (G.name g, ·)

private theorem flatMap_under_perm {names : List String} (distinct : names.Nodup)
    {entries : List (String × α)} (all : ∀ name ∈ entries.map Prod.fst, name ∈ names) :
    (names.flatMap fun name => (under name entries).map (name, ·)).Perm entries := by
  induction entries with
  | nil => simp
  | cons entry rest ih =>
    obtain ⟨name, thing⟩ := entry
    have tail := ih fun other member => all other (List.mem_cons_of_mem _ member)
    obtain ⟨before, after, rfl⟩ := List.append_of_mem (all name List.mem_cons_self)
    have apart : (name :: (before ++ after)).Nodup :=
      (List.perm_middle.nodup_iff).mp distinct
    have other {part : List String} (inside : ∀ n ∈ part, n ∈ before ++ after) :
        (part.flatMap fun n => (under n ((name, thing) :: rest)).map (n, ·)) =
          part.flatMap fun n => (under n rest).map (n, ·) := by
      apply List.flatMap_congr
      intro n member
      have different : name ≠ n := by
        rintro rfl
        exact (List.nodup_cons.mp apart).1 (inside name member)
      rw [under_cons_ne different]
    rw [List.flatMap_append, List.flatMap_cons] at tail ⊢
    rw [other fun n member => List.mem_append_left _ member,
      other fun n member => List.mem_append_right _ member, under_cons_self, List.map_cons,
      List.cons_append]
    exact List.perm_middle.trans (tail.cons _)

theorem entries_grouped_perm (entries : List (String × α)) :
    (G.entries (G.grouped entries)).Perm entries := by
  have same : G.entries (G.grouped entries) =
      (Texts.ofList (entries.map Prod.fst)).flatMap fun name =>
        (under name entries).map (name, ·) := by
    simp only [Grouping.entries, grouped, List.flatMap_map, things_group, name_group]
  rw [same]
  refine flatMap_under_perm ?_ fun name member => Texts.mem_ofList.mpr member
  exact (Texts.increasing_ofList _).imp ne_of_lt

theorem nodup_features_iff {γ : Type} (feature : α → γ) {groups : List β}
    (distinct : (groups.map G.name).Nodup) :
    ((G.entries groups).map fun entry => (entry.1, feature entry.2)).Nodup ↔
      ∀ g ∈ groups, ((G.things g).map feature).Nodup := by
  have named : (G.entries groups).map (fun entry => (entry.1, feature entry.2)) =
      groups.flatMap fun g => ((G.things g).map feature).map (G.name g, ·) := by
    simp only [entries, List.map_flatMap, List.map_map, Function.comp_def]
  have apart : groups.Pairwise (Function.onFun List.Disjoint fun g =>
      ((G.things g).map feature).map (G.name g, ·)) := by
    refine (List.pairwise_map.mp distinct).imp ?_
    intro g g' different entry inside inside'
    obtain ⟨_, -, rfl⟩ := List.mem_map.mp inside
    obtain ⟨_, -, same⟩ := List.mem_map.mp inside'
    exact different (Prod.mk.inj same).1.symm
  rw [named, List.nodup_flatMap, and_iff_left apart]
  exact forall₂_congr fun g _ => List.nodup_map_iff (Prod.mk_right_injective _)

/-! ## One thing after the other -/

def insert (name : String) (thing : α) : List β → List β
  | [] => [G.push (G.start name) thing]
  | g :: rest =>
    if name = G.name g then G.push g thing :: rest
    else if name < G.name g then G.push (G.start name) thing :: g :: rest
    else g :: insert name thing rest

private theorem insert_map {name : String} {thing : α} {names : Texts} {before after : String → β}
    (order : Texts.Increasing names) (named : ∀ n, G.name (before n) = n)
    (new : name ∉ names → before name = G.start name)
    (changed : after name = G.push (before name) thing)
    (kept : ∀ n, n ≠ name → after n = before n) :
    G.insert name thing (names.map before) = (Texts.insert name names).map after := by
  induction names with
  | nil =>
    have fresh := new List.not_mem_nil
    simp [insert, Texts.insert, changed, fresh]
  | cons first rest ih =>
    obtain ⟨least, tail⟩ := List.pairwise_cons.mp order
    have others {part : List String} (h : ∀ n ∈ part, n ≠ name) :
        part.map after = part.map before :=
      List.map_congr_left fun n member => kept n (h n member)
    by_cases same : name = first
    · subst same
      have unchanged := others fun n member => (ne_of_lt (least n member)).symm
      simp [insert, Texts.insert, named, changed, unchanged]
    · by_cases less : name < first
      · have absent : ∀ n ∈ first :: rest, n ≠ name := by
          intro n member
          rcases List.mem_cons.mp member with rfl | member
          · exact Ne.symm same
          · exact (ne_of_lt (less.trans (least n member))).symm
        have fresh := new fun member => absent name member rfl
        have unchanged := others absent
        rw [List.map_cons] at unchanged
        simp [insert, Texts.insert, named, same, less, changed, fresh, unchanged]
      · have step := ih tail fun absent => new (by simp [same, absent])
        simp [insert, Texts.insert, named, same, less, step, kept first (Ne.symm same)]

theorem insert_grouped (entries : List (String × α)) (name : String) (thing : α) :
    G.insert name thing (G.grouped entries) = G.grouped (entries ++ [(name, thing)]) := by
  have names : Texts.ofList ((entries ++ [(name, thing)]).map Prod.fst) =
      Texts.insert name (Texts.ofList (entries.map Prod.fst)) := by
    rw [List.map_append, Texts.ofList, List.foldl_append]
    rfl
  rw [grouped, grouped, names]
  apply G.insert_map (Texts.increasing_ofList _)
  · intro n
    exact G.name_group n _
  · intro absent
    rw [under_eq_nil fun member => absent (Texts.mem_ofList.mpr member)]
    rfl
  · rw [under_append, under_cons_self, under_nil, group_append]
  · intro n different
    rw [under_append, under_cons_ne (Ne.symm different), under_nil, List.append_nil]

/-- Putting things into groups one by one groups them by their names. -/
theorem foldl_insert (more entries : List (String × α)) :
    more.foldl (fun groups entry => G.insert entry.1 entry.2 groups) (G.grouped entries) =
      G.grouped (entries ++ more) := by
  induction more generalizing entries with
  | nil => rw [List.foldl_nil, List.append_nil]
  | cons entry more ih =>
    rw [List.foldl_cons, List.append_cons, ← ih, ← insert_grouped]

end Grouping

end ApiScaffold
