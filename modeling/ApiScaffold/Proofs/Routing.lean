import ApiScaffold.Model.Service
import ApiScaffold.Proofs.Description.Assembly
import ApiScaffold.Proofs.Description.Declarations
import ApiScaffold.Proofs.Endpoint
import ApiScaffold.Proofs.Handlers
/-!
# Registered routes

From the declaration of an operation to its route: each operation that is declared has one
endpoint, each endpoint has one route, and the directives of the operation decide which part of
the table the route is in.
-/
namespace ApiScaffold

open Description

/-! ## Directives -/

/-- The operation says that it is free to anyone. What it says of itself stands in place or in a
text that holds JSON. -/
def SaysFree (members : Keyed Json) : Prop :=
  ∃ value tree package customHandler, Keyed.get? "x-generated" members = some value ∧
    Extension.tree? value = some tree ∧
    Extension.generated? tree = some (package, customHandler, true)

private theorem get?_extensionsOf (members : Keyed Json) :
    Keyed.get? "x-generated" (extensionsOf members) = Keyed.get? "x-generated" members :=
  Keyed.get?_filter (p := fun key => ['x', '-'].isPrefixOf key.toList) (by decide)

private theorem isPublic_iff_saysFree {method : Method} {path : String} {members : Keyed Json}
    {directives : Directives}
    (h : Extension.directives method path (extensionsOf members) = .ok directives) :
    directives.isPublic = true ↔ SaysFree members := by
  obtain ⟨value, tree, found, hasTree, decodes⟩ := Extension.decoded_of_directives h
  rw [get?_extensionsOf] at found
  constructor
  · intro isPublic
    rw [isPublic] at decodes
    exact ⟨value, tree, _, _, found, hasTree, decodes⟩
  · intro h
    obtain ⟨_, _, _, _, found', hasTree', decodes'⟩ := h
    cases found.symm.trans found'
    cases hasTree.symm.trans hasTree'
    have same := decodes.symm.trans decodes'
    simp only [Option.some.injEq, Prod.mk.injEq] at same
    exact same.2.2

/-! ## Endpoints -/

namespace Endpoint

section

variable {root : Json} {d : Document} {endpoints : List Endpoint} (ordered : root.Ordered)
  (hd : read root = .ok d) (he : (ofDocument d).result = .ok endpoints)

include ordered hd he

private theorem pairwise_address : (endpoints.map address).Pairwise Precedes := by
  rw [← addresses_of_ofDocument he]
  exact List.pairwise_map.mpr (pairwise_operations hd ordered)

private theorem declares_of_mem {e : Endpoint} (member : e ∈ endpoints) :
    ∃ members, Declares root e.path e.method members ∧
      (e.visibility = .free ↔ SaysFree members) := by
  obtain ⟨⟨path, shared, method, operation⟩, inDocument, h⟩ :=
    Outcome.left_of_mem (forall₂_of_ofDocument he) member
  obtain ⟨members, declares, extensions⟩ := declares_of_mem_operations hd ordered inDocument
  obtain ⟨directives, _, _, _, _, _, _, decoded, -, -, -, -, rfl⟩ := ofOperation_eq_ok h
  rw [extensions] at decoded
  refine ⟨members, declares, ?_⟩
  rw [← isPublic_iff_saysFree decoded]
  cases directives.isPublic <;> simp

omit ordered in
private theorem exists_mem_of_declares {path : String} {method : Method} {members : Keyed Json}
    (declares : Declares root path method members) :
    ∃ e ∈ endpoints, e.address = (path, method) := by
  obtain ⟨shared, operation, inDocument, -⟩ := mem_operations_of_declares hd declares
  obtain ⟨e, member, h⟩ := Outcome.right_of_mem (forall₂_of_ofDocument he) inDocument
  exact ⟨e, member, address_of_ofOperation h⟩

end

end Endpoint

/-! ## Routes -/

def Route.address (r : Route) : String × Method := (r.path, r.method)

namespace RouteTable

def routes (t : RouteTable) : List Route := t.free ++ t.guarded

/-- The table has a route for each operation that the description declares and no other one, it
is free exactly for the operations that say so, and it names the packages of its routes. -/
structure Registers (t : RouteTable) (root : Json) : Prop where
  once : (t.routes.map Route.address).Nodup
  declared (path : String) (method : Method) :
    (path, method) ∈ t.routes.map Route.address ↔ ∃ members, Declares root path method members
  free {path : String} {method : Method} {members : Keyed Json} :
    Declares root path method members →
      ((path, method) ∈ t.free.map Route.address ↔ SaysFree members)
  guarded {path : String} {method : Method} {members : Keyed Json} :
    Declares root path method members →
      ((path, method) ∈ t.guarded.map Route.address ↔ ¬ SaysFree members)
  freeOrder : (t.free.map Route.address).Pairwise Precedes
  guardedOrder : (t.guarded.map Route.address).Pairwise Precedes
  packageOrder : Texts.Increasing t.packages
  packages (package : String) : package ∈ t.packages ↔ ∃ r ∈ t.routes, r.package = package

variable (endpoints : List Endpoint)

theorem routes_perm : (ofEndpoints endpoints).routes.Perm (endpoints.map Route.ofEndpoint) := by
  rw [routes, ofEndpoints, ← List.map_append]
  apply List.Perm.map
  apply filter_append_filter_perm
  intro e
  cases e.visibility <;> rfl

private theorem mem_addresses {address : String × Method} {visibility : Visibility} :
    address ∈ ((endpoints.filter (·.visibility = visibility)).map Route.ofEndpoint).map
        Route.address ↔
      ∃ e ∈ endpoints, e.visibility = visibility ∧ e.address = address := by
  simp only [List.map_map, List.mem_map, List.mem_filter, decide_eq_true_eq, and_assoc]
  rfl

private theorem pairwise_addresses (h : (endpoints.map Endpoint.address).Pairwise Precedes)
    (visibility : Visibility) :
    (((endpoints.filter (·.visibility = visibility)).map Route.ofEndpoint).map
      Route.address).Pairwise Precedes := by
  rw [List.map_map]
  exact h.sublist (List.filter_sublist.map _)

private theorem mem_packages (package : String) :
    package ∈ (ofEndpoints endpoints).packages ↔
      ∃ r ∈ (ofEndpoints endpoints).routes, r.package = package := by
  simp only [(routes_perm endpoints).mem_iff, List.mem_map, exists_exists_and_eq_and]
  exact Texts.mem_ofList.trans List.mem_map

section

variable {endpoints} {root : Json} {d : Document} (ordered : root.Ordered)
  (hd : read root = .ok d) (he : (Endpoint.ofDocument d).result = .ok endpoints)

include ordered hd he

private theorem exists_endpoint_iff {path : String} {method : Method} {members : Keyed Json}
    (declares : Declares root path method members) (visibility : Visibility) :
    (∃ e ∈ endpoints, e.visibility = visibility ∧ e.address = (path, method)) ↔
      (visibility = .free ↔ SaysFree members) := by
  have agrees : ∀ e ∈ endpoints, e.address = (path, method) →
      (e.visibility = .free ↔ SaysFree members) := by
    intro e member same
    obtain ⟨rfl, rfl⟩ := Prod.mk.inj same
    obtain ⟨others, declares', stated⟩ := Endpoint.declares_of_mem ordered hd he member
    rwa [declares'.unique declares] at stated
  constructor
  · intro h
    obtain ⟨e, member, rfl, same⟩ := h
    exact agrees e member same
  · intro stated
    obtain ⟨e, member, same⟩ := Endpoint.exists_mem_of_declares hd he declares
    have alike : e.visibility = .free ↔ visibility = .free :=
      (agrees e member same).trans stated.symm
    refine ⟨e, member, ?_, same⟩
    cases he : e.visibility <;> cases visibility <;> simp_all

private theorem registers : (ofEndpoints endpoints).Registers root := by
  have perm := (routes_perm endpoints).map Route.address
  have same : (endpoints.map Route.ofEndpoint).map Route.address =
      endpoints.map Endpoint.address := by rw [List.map_map]; rfl
  rw [same] at perm
  have increasing := Endpoint.pairwise_address ordered hd he
  have places {path : String} {method : Method} {members : Keyed Json}
      (declares : Declares root path method members) (visibility : Visibility) :=
    (mem_addresses endpoints).trans (exists_endpoint_iff ordered hd he declares visibility)
  refine
    { once := perm.nodup_iff.mpr (increasing.imp Precedes.ne)
      declared := fun path method => ?declared
      free := fun declares => (places declares .free).trans ?free
      guarded := fun declares => (places declares .guarded).trans ?guarded
      freeOrder := pairwise_addresses endpoints increasing .free
      guardedOrder := pairwise_addresses endpoints increasing .guarded
      packageOrder := Texts.increasing_ofList _
      packages := mem_packages endpoints }
  case declared =>
    rw [perm.mem_iff, List.mem_map]
    constructor
    · intro h
      obtain ⟨e, member, same⟩ := h
      obtain ⟨rfl, rfl⟩ := Prod.mk.inj same
      obtain ⟨members, declares, -⟩ := Endpoint.declares_of_mem ordered hd he member
      exact ⟨members, declares⟩
    · intro h
      obtain ⟨members, declares⟩ := h
      exact Endpoint.exists_mem_of_declares hd he declares
  case free => simp
  case guarded => simp

end

end RouteTable

/-- The routes of a service are the operations that its description declares. Their packages are
the ones that the handlers construct. -/
theorem Service.registers_declared {root : Json} {d : Document} {c : Context} {s : Service}
    (ordered : root.Ordered) (hd : Description.read root = .ok d)
    (hs : (Service.ofDocument d c).result = .ok s) :
    s.routes.Registers root ∧ s.handlers.constructed = s.routes.packages := by
  obtain ⟨_, -, hs⟩ := Diagnosed.bind_result_eq_ok.mp hs
  obtain ⟨endpoints, he, hs⟩ := Diagnosed.bind_result_eq_ok.mp hs
  obtain ⟨handlers, hh, hs⟩ := Diagnosed.bind_result_eq_ok.mp hs
  obtain ⟨_, -, hs⟩ := Diagnosed.bind_result_eq_ok.mp hs
  cases hs
  exact ⟨RouteTable.registers ordered hd he, Handlers.constructed_of_ofEndpoints hh⟩

def queueDescription : Json :=
  Description.assemble [] [("/tickets", .object [("$ref", .string "#/x-tickets")])]
    [("x-tickets", .object [
      ("get", .object [
        ("operationId", .string "listTickets"), ("responses", .object [("200", .object [])]),
        ("x-generated", .object [("isPublic", .bool true), ("package", .string "ticket")])]),
      ("post", Description.generatedOperation "makeTicket" "ticket" [])])]

theorem Service.registers_declared_queue :
    ∃ d s, queueDescription.Ordered ∧ Description.read queueDescription = .ok d ∧
      (Service.ofDocument d ⟨.go, "example.com/queue", [], ⟨"", "", "", ""⟩⟩).result = .ok s ∧
      s.routes.free.map Route.address = [("/tickets", .get)] ∧
      s.routes.guarded.map Route.address = [("/tickets", .post)] ∧
      s.routes.Registers queueDescription ∧ s.handlers.constructed = s.routes.packages := by
  have ordered : queueDescription.Ordered := by decide
  exact ⟨_, _, ordered, rfl, rfl, rfl, rfl, Service.registers_declared ordered rfl rfl⟩

end ApiScaffold
