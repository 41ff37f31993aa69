import ApiScaffold.Description.Format
import ApiScaffold.Proofs.Json.Nodes
import ApiScaffold.Proofs.Outcome
/-!
# Ordered objects

The members of an object have increasing names. Every way of reading a description respects
that, in all objects inside the value it gives.
-/
namespace ApiScaffold

namespace Json

def Increasing : Json → Prop
  | .object members => Keyed.Increasing members
  | _ => True

instance : DecidablePred Increasing
  | .object members => inferInstanceAs (Decidable (Keyed.Increasing members))
  | .null | .bool _ | .number _ | .string _ | .array _ => .isTrue trivial

/-- All objects inside a value have members of increasing names. -/
def Ordered (root : Json) : Prop := ∀ value ∈ root.nodes, value.Increasing

instance (root : Json) : Decidable root.Ordered :=
  inferInstanceAs (Decidable (∀ value ∈ root.nodes, value.Increasing))

theorem Ordered.of_mem {root value : Json} (h : root.Ordered) (inside : value ∈ root.nodes) :
    value.Ordered :=
  fun inner found => h inner (nodes_subset inside found)

theorem Ordered.increasing {members : Keyed Json} (h : (object members).Ordered) :
    Keyed.Increasing members :=
  h _ (self_mem_nodes _)

private theorem ordered_array {items : List Json} (h : ∀ item ∈ items, item.Ordered) :
    (array items).Ordered := by
  intro inner found
  rcases mem_nodes_array.mp found with rfl | ⟨item, member, found⟩
  · trivial
  · exact h item member inner found

private theorem ordered_object {members : Keyed Json} (increasing : Keyed.Increasing members)
    (h : ∀ member ∈ members, member.2.Ordered) : (object members).Ordered := by
  intro inner found
  rcases mem_nodes_object.mp found with rfl | ⟨pair, member, found⟩
  · exact increasing
  · exact h pair member inner found

private theorem ordered_insert {key : String} {value : Json} {members : Keyed Json}
    (h : (object members).Ordered) (hv : value.Ordered) :
    (object (Keyed.insert key value members)).Ordered := by
  refine ordered_object (Keyed.increasing_insert h.increasing) fun pair member => ?_
  rcases Keyed.mem_of_mem_insert member with rfl | member
  · exact hv
  · exact h.of_mem (mem_nodes_object.mpr (.inr ⟨pair, member, self_mem_nodes _⟩))

private theorem ordered_nil : (object []).Ordered :=
  ordered_object List.Pairwise.nil fun _ member => nomatch member

private theorem ordered_single {root : Json} (h : root.nodes = [root]) (hr : root.Increasing) :
    root.Ordered := by
  intro inner found
  rw [h, List.mem_singleton] at found
  rwa [found]

mutual

private theorem ordered_of_ofTree? : ∀ {tree : Tree} {value : Json}, ofTree? tree = some value →
    value.Ordered
  | .null, _, h => by
    cases h
    exact ordered_single rfl trivial
  | .bool _, _, h => by
    cases h
    exact ordered_single rfl trivial
  | .number _, _, h => by
    obtain ⟨_, -, rfl⟩ := Option.map_eq_some_iff.mp h
    exact ordered_single rfl trivial
  | .text _, _, h => by
    obtain ⟨_, -, rfl⟩ := Option.map_eq_some_iff.mp h
    exact ordered_single rfl trivial
  | .array _, _, h => by
    obtain ⟨_, items, rfl⟩ := Option.map_eq_some_iff.mp h
    exact ordered_array (ordered_of_ofItems? items)
  | .object _, _, h => by
    obtain ⟨_, members, rfl⟩ := Option.map_eq_some_iff.mp h
    exact ordered_of_ofMembers? members ordered_nil

theorem ordered_of_ofItems? : ∀ {trees : List Tree} {values : List Json},
    ofItems? trees = some values → ∀ value ∈ values, value.Ordered
  | [], _, h => by
    cases h
    exact fun _ member => nomatch member
  | _ :: _, _, h => by
    obtain ⟨value, first, h⟩ := Option.bind_eq_some_iff.mp h
    obtain ⟨values, rest, h⟩ := Option.bind_eq_some_iff.mp h
    cases h
    exact List.forall_mem_cons.mpr ⟨ordered_of_ofTree? first, ordered_of_ofItems? rest⟩

theorem ordered_of_ofMembers? : ∀ {trees : List (Option String × Tree)}
    {done members : Keyed Json}, ofMembers? trees done = some members → (object done).Ordered →
    (object members).Ordered
  | [], _, _, h, hd => by
    cases h
    exact hd
  | (_, _) :: _, _, _, h, hd => by
    obtain ⟨_, -, h⟩ := Option.bind_eq_some_iff.mp h
    obtain ⟨_, first, h⟩ := Option.bind_eq_some_iff.mp h
    exact ordered_of_ofMembers? h (ordered_insert hd (ordered_of_ofTree? first))

end

private theorem ordered_of_read? {text : String} {value : Json} (h : read? text = some value) :
    value.Ordered := by
  obtain ⟨tree, -, h⟩ := Option.bind_eq_some_iff.mp h
  exact ordered_of_ofTree? h

end Json

namespace Yaml

open Json

private theorem ordered_of_number {n : Number} {value : Json} (h : n.toJson = .ok value) :
    value.Ordered := by
  cases n with
  | int _ =>
    cases h
    exact ordered_single rfl trivial
  | real _ =>
    cases h
    exact ordered_single rfl trivial
  | infinite _ => cases h
  | undefined => cases h

mutual

private theorem ordered_of_toJson : ∀ {yaml : Value} {value : Json}, yaml.toJson = .ok value →
    value.Ordered
  | .null, _, h => by
    cases h
    exact ordered_single rfl trivial
  | .bool _, _, h => by
    cases h
    exact ordered_single rfl trivial
  | .number _, _, h => ordered_of_number h
  | .text _, _, h => by
    cases h
    exact ordered_single rfl trivial
  | .sequence _, _, h => by
    obtain ⟨_, items, rfl⟩ := Outcome.map_eq_ok.mp h
    exact ordered_array (ordered_of_itemsToJson items)
  | .mapping _, _, h => by
    obtain ⟨_, pairs, rfl⟩ := Outcome.map_eq_ok.mp h
    exact ordered_of_pairsToJson pairs ordered_nil
  | .tagged _ _, _, h => by
    rw [Value.toJson] at h
    exact ordered_of_toJson h

theorem ordered_of_itemsToJson : ∀ {items : List Value} {values : List Json},
    itemsToJson items = .ok values → ∀ value ∈ values, value.Ordered
  | [], _, h => by
    cases h
    exact fun _ member => nomatch member
  | _ :: _, _, h => by
    obtain ⟨value, first, h⟩ := Outcome.bind_eq_ok.mp h
    obtain ⟨values, rest, h⟩ := Outcome.bind_eq_ok.mp h
    cases h
    exact List.forall_mem_cons.mpr ⟨ordered_of_toJson first, ordered_of_itemsToJson rest⟩

theorem ordered_of_pairsToJson : ∀ {pairs : List (Value × Value)} {done members : Keyed Json},
    pairsToJson done pairs = .ok members → (object done).Ordered → (object members).Ordered
  | [], _, _, h, hd => by
    cases h
    exact hd
  | (_, _) :: _, _, _, h, hd => by
    obtain ⟨_, -, h⟩ := Outcome.bind_eq_ok.mp h
    obtain ⟨_, first, h⟩ := Outcome.bind_eq_ok.mp h
    exact ordered_of_pairsToJson h (ordered_insert hd (ordered_of_toJson first))

end

end Yaml

namespace Format

private theorem ordered_of_readYaml {text : String} {value : Json} (h : readYaml text = .ok value) :
    value.Ordered := by
  unfold readYaml at h
  split at h
  · exact Yaml.ordered_of_toJson h
  · cases h

theorem ordered_of_decode {format : Format} {text : String} {value : Json}
    (h : format.decode text = .ok value) : value.Ordered := by
  cases format with
  | json =>
    simp only [decode] at h
    split at h
    next found =>
      cases h
      exact Json.ordered_of_read? found
    next => cases h
  | yaml => exact ordered_of_readYaml (Outcome.mapError_eq_ok.mp h)
  | unknown =>
    simp only [decode] at h
    split at h
    next found =>
      cases h
      exact Json.ordered_of_read? found
    next => exact ordered_of_readYaml (Outcome.mapError_eq_ok.mp h)

end Format

end ApiScaffold
