import ApiScaffold.Proofs.Description.Assembly
import ApiScaffold.Proofs.Description.Declarations
import ApiScaffold.Proofs.Description.SchemaTermination
/-!
# Descriptions that have no finite reading

A description is read to its end, or to its first fault, unless the reading comes to a position
from which a schema is met that stands inside itself.
-/
namespace ApiScaffold.Description

def Stops (root : Json) (room : Nat) (node : Json) : Prop :=
  node ∈ root.nodes ∧ Endless (readPosition root (readSchema root room) node)

namespace Source

variable {α : Type} {root : Json} {room more : Nat} {node : Json}

private theorem position_of_endless (h : Endless (readPosition root (readSchema root room) node)) :
    position ⟨root, room⟩ node = .error (.endlessSchema node) := by
  obtain ⟨given, h⟩ := h
  unfold position
  rw [h]

private theorem position_of_not_endless
    (h : ¬ Endless (readPosition root (readSchema root room) node)) :
    position ⟨root, room⟩ node = readPosition root (readSchema root room) node := by
  unfold position
  split
  next given fails => exact (h ⟨given, fails⟩).elim
  next => rfl

private theorem not_endless_location {name : String} {given : Option String} :
    ¬ Endless (location name given) := by
  intro h
  obtain ⟨node, h⟩ := h
  unfold location at h
  grind

private theorem inOperation_eq_endless_iff {label : String} {failure : Failure} :
    inOperation label failure = .endlessSchema node ↔ failure = .endlessSchema node := by
  unfold inOperation
  grind

private theorem not_endless_version {src : Source} : ¬ Endless src.version := by
  intro h
  obtain ⟨node, h⟩ := h
  unfold version at h
  grind

private theorem not_endless_info {src : Source} : ¬ Endless src.info := by
  intro h
  obtain ⟨node, h⟩ := h
  unfold info at h
  dsimp only at h
  split at h
  · split at h <;> cases h
  · cases h

section

variable (le : room ≤ more)

include le

private theorem position_keeps (inside : node ∈ root.nodes) :
    Keeps (Stops root room) (Recurs root) (position ⟨root, room⟩ node)
      (position ⟨root, more⟩ node) := by
  by_cases endless : Endless (readPosition root (readSchema root room) node)
  · rw [position_of_endless endless]
    constructor
    · intro _ same
      cases same
      exact ⟨inside, endless⟩
    · intro _ same recurs
      cases same
      exact position_of_endless (recurs.endless more)
    · exact fun ends => (ends ⟨node, rfl⟩).elim
  · have stable := readPosition_stable le endless
    rw [position_of_not_endless endless, position_of_not_endless (stable ▸ endless), stable]
    exact .same endless

private theorem schemaUnder_keeps (inside : node ∈ root.nodes) :
    Keeps (Stops root room) (Recurs root) (schemaUnder ⟨root, room⟩ node)
      (schemaUnder ⟨root, more⟩ node) :=
  .readOptional fun _ found =>
    position_keeps le (Json.nodes_subset inside (Json.mem_nodes_of_get? found))

private theorem parameter_keeps (inside : node ∈ root.nodes) :
    Keeps (Stops root room) (Recurs root) (parameter ⟨root, room⟩ node)
      (parameter ⟨root, more⟩ node) := by
  unfold parameter
  refine (Keeps.same not_endless_follow).bind fun target followed => ?_
  have inside := mem_nodes_of_follow inside followed
  cases target.text? "name" with
  | none => exact .same nofun
  | some name =>
    refine (Keeps.same not_endless_location).bind fun location _ => ?_
    exact (schemaUnder_keeps le inside).bind fun schema _ => .ok _

private theorem parameters_keeps (inside : node ∈ root.nodes) :
    Keeps (Stops root room) (Recurs root) (parameters ⟨root, room⟩ node)
      (parameters ⟨root, more⟩ node) := by
  unfold parameters
  split
  next nodes found =>
    refine .mapM fun parameter member => parameter_keeps le ?_
    exact Json.nodes_subset inside
      (Json.nodes_subset (Json.mem_nodes_of_get? found) (Json.mem_nodes_of_mem member))
  next => exact .ok _

private theorem content_keeps (inside : node ∈ root.nodes) :
    Keeps (Stops root room) (Recurs root) (content ⟨root, room⟩ node)
      (content ⟨root, more⟩ node) := by
  unfold content
  split
  next types found =>
    refine .mapMembers fun media member => (schemaUnder_keeps le ?_).map _
    exact Json.nodes_subset inside
      (Json.nodes_subset (Json.mem_nodes_of_get? found) (Json.mem_nodes_of_values member))
  next => exact .ok _

private theorem requestBody_keeps (inside : node ∈ root.nodes) :
    Keeps (Stops root room) (Recurs root) (requestBody ⟨root, room⟩ node)
      (requestBody ⟨root, more⟩ node) :=
  (Keeps.same not_endless_follow).bind fun _ followed =>
    (content_keeps le (mem_nodes_of_follow inside followed)).bind fun _ _ => .ok _

private theorem response_keeps (inside : node ∈ root.nodes) :
    Keeps (Stops root room) (Recurs root) (response ⟨root, room⟩ node)
      (response ⟨root, more⟩ node) :=
  (Keeps.same not_endless_follow).bind fun _ followed =>
    (content_keeps le (mem_nodes_of_follow inside followed)).bind fun _ _ => .ok _

private theorem operation_keeps {members : Keyed Json} (inside : .object members ∈ root.nodes) :
    Keeps (Stops root room) (Recurs root) (operation ⟨root, room⟩ members)
      (operation ⟨root, more⟩ members) := by
  unfold operation
  refine (parameters_keeps le inside).bind fun parameters _ => ?_
  refine (Keeps.readOptional fun body found => requestBody_keeps le ?_).bind fun body _ => ?_
  · exact Json.nodes_subset inside (Json.mem_nodes_of_get? found)
  · cases found : (Json.object members).get? "responses" with
    | none => exact .ok _
    | some value =>
      cases value with
      | object responses =>
        refine (Keeps.mapMembers fun node member => response_keeps le ?_).bind fun _ _ => .ok _
        exact Json.nodes_subset inside
          (Json.nodes_subset (Json.mem_nodes_of_get? found) (Json.mem_nodes_of_values member))
      | _ => exact .ok _

private theorem pathItem_keeps {path : String} (inside : node ∈ root.nodes) :
    Keeps (Stops root room) (Recurs root) (pathItem ⟨root, room⟩ path node)
      (pathItem ⟨root, more⟩ path node) := by
  unfold pathItem
  refine (Keeps.same not_endless_follow).bind fun target followed => ?_
  have inside := mem_nodes_of_follow inside followed
  refine (parameters_keeps le inside).bind fun parameters _ => ?_
  refine (Keeps.mapM ?_).bind fun operations _ => .ok _
  intro ⟨method, members⟩ member
  refine ((operation_keeps le ?_).mapError fun _ _ => inOperation_eq_endless_iff).map _
  exact Json.nodes_subset inside (Json.mem_nodes_of_get? (mem_declared.mp member))

private theorem paths_keeps : Keeps (Stops root room) (Recurs root) (paths ⟨root, room⟩)
    (paths ⟨root, more⟩) := by
  unfold paths
  cases found : root.get? "paths" with
  | none => exact .same nofun
  | some value =>
    cases value with
    | object paths =>
      refine .mapM fun entry member => (pathItem_keeps le ?_).map _
      exact Json.nodes_subset (Json.mem_nodes_of_get? found)
        (Json.mem_nodes_of_values (List.mem_map_of_mem member))
    | _ => exact .same nofun

private theorem component_keeps (inside : node ∈ root.nodes) :
    Keeps (Stops root room) (Recurs root) (component ⟨root, room⟩ node)
      (component ⟨root, more⟩ node) := by
  unfold component
  refine (position_keeps le inside).bind fun position _ => ?_
  cases position <;> exact .ok _

private theorem schemas_keeps : Keeps (Stops root room) (Recurs root) (schemas ⟨root, room⟩)
    (schemas ⟨root, more⟩) := by
  unfold schemas
  cases found : (root.get? "components").bind (·.get? "schemas") with
  | none => exact .ok _
  | some value =>
    obtain ⟨components, isMember, found⟩ := Option.bind_eq_some_iff.mp found
    cases value with
    | object schemas =>
      refine .mapMembers fun node member => component_keeps le ?_
      exact Json.nodes_subset (Json.mem_nodes_of_get? isMember)
        (Json.nodes_subset (Json.mem_nodes_of_get? found) (Json.mem_nodes_of_values member))
    | _ => exact .ok _

private theorem document_keeps : Keeps (Stops root room) (Recurs root) (document ⟨root, room⟩)
    (document ⟨root, more⟩) := by
  unfold document
  refine (Keeps.same not_endless_version).bind fun version _ => ?_
  refine (Keeps.same not_endless_info).bind fun info _ => ?_
  exact (paths_keeps le).bind fun paths _ => (schemas_keeps le).bind fun schemas _ => .ok _

end

end Source

/-- The reading of a description comes to a position for which some room is not enough. -/
def ComesTo (root node : Json) : Prop :=
  ∃ room, Source.document ⟨root, room⟩ = .error (.endlessSchema node)

private theorem document_stable {root : Json} {room more : Nat}
    (h : ¬ Endless (Source.document ⟨root, room⟩)) (le : room ≤ more) :
    Source.document ⟨root, more⟩ = Source.document ⟨root, room⟩ :=
  (Source.document_keeps le).kept h

private theorem document_endless {root node : Json} (comes : ComesTo root node)
    (recurs : Recurs root node) (room : Nat) : Endless (Source.document ⟨root, room⟩) := by
  obtain ⟨enough, stopped⟩ := comes
  by_contra ends
  have later := (Source.document_keeps (Nat.le_max_left enough room)).lasting stopped recurs
  have same := document_stable ends (Nat.le_max_right enough room)
  exact ends (same ▸ later ▸ ⟨node, stopped⟩)

private theorem recurs_of_read_endless {root : Json} (h : Endless (read root)) :
    ∃ node, ComesTo root node ∧ Recurs root node := by
  obtain ⟨node, stopped⟩ := h
  obtain ⟨inside, lacks⟩ :=
    (Source.document_keeps (Nat.le_refl root.nodes.length)).stopped stopped
  exact ⟨node, ⟨_, stopped⟩, recurs_of_endless inside lacks⟩

/-- A description is read to an answer exactly if the reading comes to no position from which a
schema is met that stands inside itself, and `read` gives that answer. -/
theorem read_settles_iff (root : Json) :
    ((∃ answer, Settles Endless (fun room => Source.document ⟨root, room⟩) answer) ↔
      ¬ ∃ node, ComesTo root node ∧ Recurs root node) ∧
    ∀ answer, Settles Endless (fun room => Source.document ⟨root, room⟩) answer →
      read root = answer := by
  have stable : ∀ room more, ¬ Endless (Source.document ⟨root, room⟩) → room ≤ more →
      Source.document ⟨root, more⟩ = Source.document ⟨root, room⟩ :=
    fun _ _ => document_stable
  have endless : (∃ node, ComesTo root node ∧ Recurs root node) →
      ∀ room, Endless (Source.document ⟨root, room⟩) :=
    fun ⟨_, comes, recurs⟩ => document_endless comes recurs
  have ends : (¬ ∃ node, ComesTo root node ∧ Recurs root node) →
      ¬ Endless (Source.document ⟨root, root.nodes.length⟩) := mt recurs_of_read_endless
  exact ⟨exists_settles_iff stable endless ends, fun _ => eq_of_settles stable endless ends⟩

def nodeReference : Json := .object [("$ref", .string "#/x-node")]

def nodeSchema : Json :=
  .object [("properties", .object [("next", nodeReference)]), ("type", .string "object")]

def nodeDescription : Json :=
  assemble [("Node", nodeReference)] [] [("x-node", nodeSchema)]

/-- No room is enough for a property that holds the schema it belongs to. -/
theorem not_settles_nodeDescription :
    ¬ ∃ answer, Settles Endless (fun room => Source.document ⟨nodeDescription, room⟩) answer := by
  have split : positions [("properties", .object [("next", nodeReference)]),
      ("type", .string "object")] = [] ++ nodeReference :: [] := rfl
  have opens : Opens nodeDescription nodeSchema nodeSchema :=
    .position split (List.forall_mem_nil _) rfl
  have recurs : Recurs nodeDescription nodeReference :=
    ⟨nodeSchema, rfl, nodeSchema, .refl, .single opens⟩
  intro h
  obtain ⟨answer, h⟩ := h
  exact not_settles_of_lacks (document_endless ⟨0, rfl⟩ recurs) h

end ApiScaffold.Description
