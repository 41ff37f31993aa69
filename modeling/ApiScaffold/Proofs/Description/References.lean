import ApiScaffold.Description.Reference
import ApiScaffold.Proofs.Json.Nodes
import ApiScaffold.Proofs.Outcome
/-!
# Where references lead

Following references finds the node that they lead to, if that takes fewer hops than nodes are
looked at. It is a node of the description.
-/
namespace ApiScaffold.Description

variable {root node target : Json}

/-- The node that references lead to, and the number of hops on the way. -/
inductive Leads (root : Json) : Nat → Json → Json → Prop where
  | here {node : Json} : reference? node = none → Leads root 0 node node
  | hop {hops : Nat} {node next target : Json} {reference : String} :
      reference? node = some reference → Description.hop root reference = .ok next →
      Leads root hops next target → Leads root (hops + 1) node target

theorem Leads.unique {m n : Nat} {other : Json} (h : Leads root m node target)
    (h' : Leads root n node other) : m = n ∧ target = other := by
  induction h generalizing n with
  | here none =>
    cases h' with
    | here _ => exact ⟨rfl, rfl⟩
    | hop some _ _ => cases none.symm.trans some
  | hop some first _ ih =>
    cases h' with
    | here none => cases none.symm.trans some
    | hop some' first' rest =>
      cases some.symm.trans some'
      cases first.symm.trans first'
      obtain ⟨rfl, rfl⟩ := ih rest
      exact ⟨rfl, rfl⟩

/-- Each round looks at one node, so a target is found in fewer hops than there are rounds. -/
theorem followWithin_eq_ok {rounds : Nat} :
    followWithin root rounds node = .ok target ↔ ∃ hops < rounds, Leads root hops node target := by
  induction rounds generalizing node with
  | zero => simp [followWithin]
  | succ rounds ih =>
    unfold followWithin
    split
    next none =>
      constructor
      · intro h
        cases h
        exact ⟨0, Nat.zero_lt_succ _, .here none⟩
      · intro h
        obtain ⟨_, _, h⟩ := h
        rw [(h.unique (.here none)).2]
    next reference some =>
      rw [Outcome.bind_eq_ok]
      constructor
      · intro h
        obtain ⟨next, first, rest⟩ := h
        obtain ⟨hops, bound, rest⟩ := ih.mp rest
        exact ⟨hops + 1, Nat.succ_lt_succ bound, .hop some first rest⟩
      · intro h
        obtain ⟨_, bound, h⟩ := h
        cases h with
        | here none => cases none.symm.trans some
        | hop some' first rest =>
          cases some.symm.trans some'
          exact ⟨_, first, ih.mpr ⟨_, Nat.lt_of_succ_lt_succ bound, rest⟩⟩

private theorem mem_nodes_of_hop {reference : String} (h : hop root reference = .ok target) :
    target ∈ root.nodes := by
  unfold hop at h
  split at h
  · split at h
    next found =>
      cases h
      exact Json.mem_nodes_of_pointer? found
    next => cases h
  · cases h

private theorem Leads.mem_nodes {hops : Nat} (h : Leads root hops node target)
    (inside : node ∈ root.nodes) : target ∈ root.nodes := by
  induction h with
  | here _ => exact inside
  | hop _ first _ ih => exact ih (mem_nodes_of_hop first)

theorem mem_nodes_of_follow (inside : node ∈ root.nodes) (h : follow root node = .ok target) :
    target ∈ root.nodes := by
  obtain ⟨_, -, leads⟩ := followWithin_eq_ok.mp h
  exact leads.mem_nodes inside

end ApiScaffold.Description
