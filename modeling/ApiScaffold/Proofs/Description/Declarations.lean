import ApiScaffold.Description.Reader
import ApiScaffold.Model.Endpoint
import ApiScaffold.Proofs.Description.References
import ApiScaffold.Proofs.Json.Ordered
/-!
# Declared operations

Which operations a description declares can be said without reading it. A document that was read
holds an operation for each of them and no other, in the order of their addresses.
-/
namespace ApiScaffold.Description

variable {root node : Json}

/-- The description has an object at the key of the method, in the path item that the value of
the path leads to. -/
def Declares (root : Json) (path : String) (method : Method) (members : Keyed Json) : Prop :=
  ∃ paths node hops item, root.get? "paths" = some (.object paths) ∧
    Keyed.get? path paths = some node ∧ Leads root hops node item ∧
    item.get? method.key = some (.object members)

theorem Declares.unique {path : String} {method : Method} {members others : Keyed Json}
    (h : Declares root path method members) (h' : Declares root path method others) :
    members = others := by
  obtain ⟨_, _, _, _, found, entry, leads, get⟩ := h
  obtain ⟨_, _, _, _, found', entry', leads', get'⟩ := h'
  cases found.symm.trans found'
  cases entry.symm.trans entry'
  obtain ⟨-, rfl⟩ := leads.unique leads'
  cases get.symm.trans get'
  rfl

/-- The order of addresses: by path, then by the place of the method among the methods. -/
def Precedes (a b : String × Method) : Prop :=
  a.1 < b.1 ∨ a.1 = b.1 ∧ a.2.ctorIdx < b.2.ctorIdx

theorem Precedes.ne {a b : String × Method} (h : Precedes a b) : a ≠ b := by
  intro same
  subst same
  rcases h with h | ⟨-, h⟩
  · exact lt_irrefl _ h
  · exact Nat.lt_irrefl _ h

private theorem asObject?_eq_some {value : Json} {members : Keyed Json} :
    value.asObject? = some members ↔ value = .object members := by
  cases value <;> simp [Json.asObject?]

private theorem mem_all (method : Method) : method ∈ Method.all := by
  cases method <;> decide

namespace Source

variable {src : Source} {path : String} {method : Method} {members : Keyed Json}

theorem mem_declared {item : Json} :
    (method, members) ∈ declared item ↔ item.get? method.key = some (.object members) := by
  unfold declared
  rw [List.mem_filterMap]
  constructor
  · intro h
    obtain ⟨other, -, h⟩ := h
    obtain ⟨found, h, same⟩ := Option.map_eq_some_iff.mp h
    cases same
    obtain ⟨value, get, isObject⟩ := Option.bind_eq_some_iff.mp h
    rw [get, asObject?_eq_some.mp isObject]
  · intro h
    exact ⟨method, mem_all method, by rw [h]; rfl⟩

private theorem pairwise_declared (item : Json) :
    (declared item).Pairwise fun a b => a.1.ctorIdx < b.1.ctorIdx := by
  have all : Method.all.Pairwise fun m m' => m.ctorIdx < m'.ctorIdx := by decide
  refine List.pairwise_filterMap.mpr (all.imp ?_)
  intro m m' less a ha b hb
  obtain ⟨_, -, rfl⟩ := Option.map_eq_some_iff.mp ha
  obtain ⟨_, -, rfl⟩ := Option.map_eq_some_iff.mp hb
  exact less

private theorem extensions_of_operation {read : Operation} (h : src.operation members = .ok read) :
    read.extensions = extensionsOf members := by
  unfold operation at h
  obtain ⟨_, -, h⟩ := Outcome.bind_eq_ok.mp h
  obtain ⟨_, -, h⟩ := Outcome.bind_eq_ok.mp h
  dsimp only at h
  split at h
  all_goals
    obtain ⟨_, -, h⟩ := Outcome.bind_eq_ok.mp h
    cases h
    rfl

private theorem operations_of_pathItem {item : PathItem} (h : src.pathItem path node = .ok item) :
    ∃ hops target, Leads src.root hops node target ∧
      List.Forall₂ (fun entry read => read.1 = entry.1 ∧ src.operation entry.2 = .ok read.2)
        (declared target) item.operations := by
  unfold pathItem at h
  obtain ⟨target, followed, h⟩ := Outcome.bind_eq_ok.mp h
  obtain ⟨_, -, h⟩ := Outcome.bind_eq_ok.mp h
  obtain ⟨operations, read, h⟩ := Outcome.bind_eq_ok.mp h
  cases h
  obtain ⟨hops, -, leads⟩ := followWithin_eq_ok.mp followed
  refine ⟨hops, target, leads, (Outcome.mapM_eq_ok.mp read).imp ?_⟩
  intro ⟨method, members⟩ _ h
  obtain ⟨operation, read, rfl⟩ := Outcome.map_eq_ok.mp h
  exact ⟨rfl, Outcome.mapError_eq_ok.mp read⟩

private theorem items_of_paths {items : Keyed PathItem} (h : src.paths = .ok items) :
    ∃ paths, src.root.get? "paths" = some (.object paths) ∧
      List.Forall₂ (fun entry read => read.1 = entry.1 ∧ src.pathItem entry.1 entry.2 = .ok read.2)
        paths items := by
  unfold paths at h
  split at h
  next paths found =>
    refine ⟨paths, found, (Outcome.mapM_eq_ok.mp h).imp ?_⟩
    intro ⟨path, node⟩ _ h
    obtain ⟨item, read, rfl⟩ := Outcome.map_eq_ok.mp h
    exact ⟨rfl, read⟩
  next => cases h

end Source

open Endpoint (operations)

private theorem mem_operations {d : Document} {path : String} {shared : List Parameter}
    {method : Method} {operation : Operation} :
    (path, shared, method, operation) ∈ operations d ↔
      ∃ item, (path, item) ∈ d.paths ∧ item.parameters = shared ∧
        (method, operation) ∈ item.operations := by
  simp only [operations, List.mem_flatMap, List.mem_map, Prod.mk.injEq, Prod.exists]
  constructor
  · intro h
    obtain ⟨_, item, found, _, _, member, rfl, rfl, rfl, rfl⟩ := h
    exact ⟨item, found, rfl, member⟩
  · intro h
    obtain ⟨item, found, rfl, member⟩ := h
    exact ⟨path, item, found, method, operation, member, rfl, rfl, rfl, rfl⟩

theorem keys_of_mapMembers {α : Type} {reader : Json → Except Failure α} {members : Keyed Json}
    {table : Keyed α} (h : mapMembers reader members = .ok table) :
    Keyed.keys members = Keyed.keys table := by
  refine Outcome.map_eq_map (Outcome.mapM_eq_ok.mp h) ?_
  intro entry named h
  obtain ⟨_, -, rfl⟩ := Outcome.map_eq_ok.mp h
  rfl

section

variable {d : Document} (h : read root = .ok d)

include h

private theorem paths_of_read : (Source.of root).paths = .ok d.paths := by
  obtain ⟨_, -, h⟩ := Outcome.bind_eq_ok.mp h
  obtain ⟨_, -, h⟩ := Outcome.bind_eq_ok.mp h
  obtain ⟨_, read, h⟩ := Outcome.bind_eq_ok.mp h
  obtain ⟨_, -, h⟩ := Outcome.bind_eq_ok.mp h
  cases h
  exact read

theorem schemas_of_read : (Source.of root).schemas = .ok d.schemas := by
  obtain ⟨_, -, h⟩ := Outcome.bind_eq_ok.mp h
  obtain ⟨_, -, h⟩ := Outcome.bind_eq_ok.mp h
  obtain ⟨_, -, h⟩ := Outcome.bind_eq_ok.mp h
  obtain ⟨_, read, h⟩ := Outcome.bind_eq_ok.mp h
  cases h
  exact read

theorem increasing_schemas (ordered : root.Ordered) : Keyed.Increasing d.schemas := by
  have read := schemas_of_read h
  unfold Source.schemas at read
  split at read
  next schemas found =>
    obtain ⟨components, inRoot, found⟩ := Option.bind_eq_some_iff.mp found
    have inside := ordered.of_mem (Json.mem_nodes_of_get? inRoot)
    have increasing := (inside.of_mem (Json.mem_nodes_of_get? found)).increasing
    rwa [Keyed.Increasing, keys_of_mapMembers read] at increasing
  next =>
    have empty := Except.ok.inj read
    rw [← empty]
    exact List.Pairwise.nil

theorem declares_of_mem_operations (ordered : root.Ordered) {path : String}
    {shared : List Parameter} {method : Method} {operation : Operation}
    (member : (path, shared, method, operation) ∈ operations d) :
    ∃ members, Declares root path method members ∧
      operation.extensions = extensionsOf members := by
  obtain ⟨item, inPaths, -, inItem⟩ := mem_operations.mp member
  obtain ⟨paths, found, corresponding⟩ := Source.items_of_paths (paths_of_read h)
  obtain ⟨⟨path, node⟩, entry, rfl, readItem⟩ := Outcome.left_of_mem corresponding inPaths
  obtain ⟨hops, target, leads, corresponding⟩ := Source.operations_of_pathItem readItem
  obtain ⟨⟨method, members⟩, declared, rfl, readOperation⟩ :=
    Outcome.left_of_mem corresponding inItem
  have increasing : Keyed.Increasing paths :=
    (ordered.of_mem (Json.mem_nodes_of_get? found)).increasing
  exact ⟨members, ⟨paths, node, hops, target, found, (Keyed.get?_eq_some_iff increasing).mpr entry,
    leads, Source.mem_declared.mp declared⟩, Source.extensions_of_operation readOperation⟩

theorem mem_operations_of_declares {path : String} {method : Method} {members : Keyed Json}
    (declares : Declares root path method members) :
    ∃ shared operation, (path, shared, method, operation) ∈ operations d ∧
      operation.extensions = extensionsOf members := by
  obtain ⟨paths, node, hops, target, found, entry, leads, isObject⟩ := declares
  obtain ⟨paths', found', corresponding⟩ := Source.items_of_paths (paths_of_read h)
  cases found.symm.trans found'
  obtain ⟨⟨path, item⟩, inPaths, rfl, readItem⟩ :=
    Outcome.right_of_mem corresponding (Keyed.mem_of_get? entry)
  obtain ⟨hops', target', leads', corresponding⟩ := Source.operations_of_pathItem readItem
  obtain ⟨-, rfl⟩ := leads.unique leads'
  obtain ⟨⟨method, operation⟩, inItem, rfl, readOperation⟩ :=
    Outcome.right_of_mem corresponding (Source.mem_declared.mpr isObject)
  exact ⟨item.parameters, operation, mem_operations.mpr ⟨item, inPaths, rfl, inItem⟩,
    Source.extensions_of_operation readOperation⟩

theorem pairwise_operations (ordered : root.Ordered) :
    (operations d).Pairwise fun a b => Precedes (a.1, a.2.2.1) (b.1, b.2.2.1) := by
  obtain ⟨paths, found, corresponding⟩ := Source.items_of_paths (paths_of_read h)
  have keys : Keyed.keys paths = Keyed.keys d.paths :=
    Outcome.map_eq_map corresponding fun _ _ related => related.1.symm
  have increasing : (d.paths.map Prod.fst).Pairwise (· < ·) := by
    have : Keyed.Increasing paths := (ordered.of_mem (Json.mem_nodes_of_get? found)).increasing
    rwa [Keyed.Increasing, keys] at this
  refine List.pairwise_flatMap.mpr ⟨?inside, ?across⟩
  case inside =>
    intro entry inPaths
    obtain ⟨path, item⟩ := entry
    obtain ⟨⟨_, _⟩, -, -, readItem⟩ := Outcome.left_of_mem corresponding inPaths
    obtain ⟨_, target, -, corresponding⟩ := Source.operations_of_pathItem readItem
    have methods : (Source.declared target).map Prod.fst = item.operations.map Prod.fst :=
      Outcome.map_eq_map corresponding fun _ _ related => related.1.symm
    have sorted : (item.operations.map Prod.fst).Pairwise fun m m' => m.ctorIdx < m'.ctorIdx := by
      rw [← methods]
      exact List.pairwise_map.mpr (Source.pairwise_declared target)
    exact List.pairwise_map.mpr ((List.pairwise_map.mp sorted).imp fun less => .inr ⟨rfl, less⟩)
  case across =>
    refine (List.pairwise_map.mp increasing).imp ?_
    intro _ _ less a ha b hb
    obtain ⟨_, -, rfl⟩ := List.mem_map.mp ha
    obtain ⟨_, -, rfl⟩ := List.mem_map.mp hb
    exact .inl less

end

end ApiScaffold.Description
