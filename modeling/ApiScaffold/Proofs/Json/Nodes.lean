import ApiScaffold.Json.Pointer
import ApiScaffold.Proofs.Keyed
/-!
# Values inside a value

Everything that a key or a pointer finds in a value is one of its nodes.
-/
namespace ApiScaffold.Json

variable {root value inner : Json}

private theorem mem_itemNodes {items : List Json} :
    inner ∈ itemNodes items ↔ ∃ item ∈ items, inner ∈ item.nodes := by
  induction items with
  | nil => simp [itemNodes]
  | cons item items ih => simp [itemNodes, ih]

private theorem mem_memberNodes {members : Keyed Json} :
    inner ∈ memberNodes members ↔ ∃ member ∈ members, inner ∈ member.2.nodes := by
  induction members with
  | nil => simp [memberNodes]
  | cons member members ih =>
    obtain ⟨key, value⟩ := member
    simp [memberNodes, ih]

theorem mem_nodes_array {items : List Json} :
    inner ∈ (array items).nodes ↔ inner = .array items ∨ ∃ item ∈ items, inner ∈ item.nodes := by
  rw [nodes, List.mem_cons, mem_itemNodes]

theorem mem_nodes_object {members : Keyed Json} :
    inner ∈ (object members).nodes ↔
      inner = .object members ∨ ∃ member ∈ members, inner ∈ member.2.nodes := by
  rw [nodes, List.mem_cons, mem_memberNodes]

theorem self_mem_nodes (value : Json) : value ∈ value.nodes := by
  cases value <;> simp [nodes]

mutual

theorem nodes_subset : ∀ {root value : Json}, value ∈ root.nodes → value.nodes ⊆ root.nodes
  | .array items, value, h => by
    rcases mem_nodes_array.mp h with rfl | ⟨item, member, h⟩
    · exact List.Subset.refl _
    · rw [nodes]
      exact List.subset_cons_of_subset _
        (itemNodes_subset (mem_itemNodes.mpr ⟨item, member, h⟩))
  | .object members, value, h => by
    rcases mem_nodes_object.mp h with rfl | ⟨pair, member, h⟩
    · exact List.Subset.refl _
    · rw [nodes]
      exact List.subset_cons_of_subset _
        (memberNodes_subset (mem_memberNodes.mpr ⟨pair, member, h⟩))
  | .null, _, h | .bool _, _, h | .number _, _, h | .string _, _, h => by
    rw [List.mem_singleton.mp h]
    exact List.Subset.refl _

theorem itemNodes_subset : ∀ {items : List Json} {value : Json}, value ∈ itemNodes items →
    value.nodes ⊆ itemNodes items
  | item :: items, value, h => by
    rw [itemNodes] at h ⊢
    rcases List.mem_append.mp h with h | h
    · exact List.subset_append_of_subset_left _ (nodes_subset h)
    · exact List.subset_append_of_subset_right _ (itemNodes_subset h)

theorem memberNodes_subset : ∀ {members : List (String × Json)} {value : Json},
    value ∈ memberNodes members → value.nodes ⊆ memberNodes members
  | (_, inside) :: members, value, h => by
    rw [memberNodes] at h ⊢
    rcases List.mem_append.mp h with h | h
    · exact List.subset_append_of_subset_left _ (nodes_subset h)
    · exact List.subset_append_of_subset_right _ (memberNodes_subset h)

end

theorem mem_nodes_of_mem {items : List Json} (h : value ∈ items) : value ∈ (array items).nodes :=
  mem_nodes_array.mpr (.inr ⟨value, h, self_mem_nodes value⟩)

theorem mem_nodes_of_values {members : Keyed Json} (h : value ∈ Keyed.values members) :
    value ∈ (object members).nodes := by
  obtain ⟨member, inside, rfl⟩ := List.mem_map.mp h
  exact mem_nodes_object.mpr (.inr ⟨member, inside, self_mem_nodes _⟩)

theorem mem_nodes_of_lookup {key : String} {members : Keyed Json}
    (h : Keyed.get? key members = some value) : value ∈ (object members).nodes :=
  mem_nodes_object.mpr (.inr ⟨_, Keyed.mem_of_get? h, self_mem_nodes value⟩)

theorem mem_nodes_of_get? {key : String} (h : root.get? key = some value) :
    value ∈ root.nodes := by
  cases root with
  | object members => exact mem_nodes_of_lookup h
  | _ => cases h

theorem step?_of_position? {node : Json} {step : List Char} (h : position? step = none) :
    node.step? step = node.get? (String.ofList step) := by
  cases node with
  | array items =>
    rw [step?, h]
    rfl
  | _ => rfl

private theorem mem_nodes_of_step? {step : List Char} (h : root.step? step = some value) :
    value ∈ root.nodes := by
  cases root with
  | object members => exact mem_nodes_of_lookup h
  | array items =>
    obtain ⟨n, -, h⟩ := Option.bind_eq_some_iff.mp h
    exact mem_nodes_of_mem (List.mem_of_getElem? h)
  | _ => cases h

private theorem mem_nodes_of_steps : ∀ {steps : List (List Char)} {root : Json},
    steps.foldlM step? root = some value → value ∈ root.nodes
  | [], root, h => by
    cases h
    exact self_mem_nodes _
  | step :: steps, root, h => by
    obtain ⟨next, first, rest⟩ := Option.bind_eq_some_iff.mp h
    exact nodes_subset (mem_nodes_of_step? first) (mem_nodes_of_steps rest)

theorem mem_nodes_of_pointer? {pointer : List Char} (h : root.pointer? pointer = some value) :
    value ∈ root.nodes := by
  obtain ⟨steps, -, h⟩ := Option.bind_eq_some_iff.mp h
  exact mem_nodes_of_steps h

theorem length_unescapeStep_le (step : List Char) :
    (unescapeStep step).length ≤ step.length := by
  fun_induction unescapeStep step <;> simp only [List.length_cons, List.length_nil] <;> omega

end ApiScaffold.Json
