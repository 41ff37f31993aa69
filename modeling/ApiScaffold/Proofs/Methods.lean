import ApiScaffold.Proofs.Description.Assembly
import ApiScaffold.Proofs.Handlers
import ApiScaffold.Proofs.Service.Compilation
/-!
# Names of methods

A route calls its handler by the name of a method, which is the exported name of the operation.
Nothing keeps these names apart: the methods of a package have different names exactly if the names
of its operations are still different when they are exported.
-/
namespace ApiScaffold

namespace Endpoint

def callee (e : Endpoint) : String × String := (e.package, Naming.exported e.operationId)

def callees (endpoints : List Endpoint) : List (String × String) :=
  (endpoints.filter fun e => !e.customHandler).map callee

private theorem mem_callees {endpoints : List Endpoint} {name : String × String} :
    name ∈ callees endpoints ↔ ∃ e ∈ endpoints, e.customHandler = false ∧ e.callee = name := by
  simp only [callees, List.mem_map, List.mem_filter, Bool.not_eq_true', and_assoc]

end Endpoint

def HandlerPackage.methods (p : HandlerPackage) : List String := p.handlers.map (·.method)

namespace Handlers

def methods (handlers : Handlers) : List (String × String) :=
  (HandlerPackage.grouping.entries handlers.packages).map fun entry => (entry.1, entry.2.method)

private theorem mem_methods {handlers : Handlers} {package method : String} :
    (package, method) ∈ handlers.methods ↔
      ∃ p ∈ handlers.packages, p.name = package ∧ method ∈ p.methods := by
  simp only [methods, Grouping.entries, List.mem_map, List.mem_flatMap, HandlerPackage.methods]
  constructor
  · rintro ⟨_, ⟨p, inside, plan, among, rfl⟩, same⟩
    obtain ⟨rfl, rfl⟩ := Prod.mk.inj same
    exact ⟨p, inside, rfl, plan, among, rfl⟩
  · rintro ⟨p, inside, rfl, plan, among, rfl⟩
    exact ⟨_, ⟨p, inside, plan, among, rfl⟩, rfl⟩

private theorem callees_of_agrees {xs : List Dispatch} (h : ∀ x ∈ xs, x.Agrees) :
    (Dispatch.handlers xs).map (fun entry => (entry.1, entry.2.method)) =
      Endpoint.callees (xs.map (·.endpoint)) := by
  induction xs with
  | nil => rfl
  | cons x xs ih =>
    obtain ⟨first, rest⟩ := List.forall_mem_cons.mp h
    have tail := ih rest
    obtain ⟨e, route, plan⟩ := x
    rw [Dispatch.handlers, Endpoint.callees] at tail ⊢
    cases plan with
    | none =>
      have custom : e.customHandler = true := first.custom.mp rfl
      simp only [List.filterMap_cons, Option.map_none, List.map_cons, List.filter_cons, custom,
        Bool.not_true, Bool.false_eq_true, if_false, tail]
    | some plan =>
      have generated : e.customHandler = false := by
        simpa using mt first.custom.mpr (Option.some_ne_none plan)
      have package : route.package = e.package := first.package
      obtain ⟨_, found, -, -, method, -⟩ := HandlerPlan.exists_ofEndpoint e
      cases ((first.calls plan rfl).planned).symm.trans found
      simp only [List.filterMap_cons, Option.map_some, List.map_cons, List.filter_cons, generated,
        Bool.not_false, if_true, tail, package, method, Endpoint.callee]

section

variable {endpoints : List Endpoint} {handlers : Handlers}
  (h : (ofEndpoints endpoints).result = .ok handlers)

include h

private theorem methods_perm : handlers.methods.Perm (Endpoint.callees endpoints) := by
  obtain ⟨xs, rfl, agrees, packages, -⟩ := eq_of_ofEndpoints h
  rw [← callees_of_agrees agrees, methods, packages]
  exact (HandlerPackage.grouping.entries_grouped_perm _).map _

private theorem nodup_names : (handlers.packages.map (·.name)).Nodup := by
  obtain ⟨xs, -, -, packages, -⟩ := eq_of_ofEndpoints h
  rw [packages]
  exact (HandlerPackage.grouping.increasing_names _).imp ne_of_lt

private theorem nodup_methods_iff :
    (∀ p ∈ handlers.packages, p.methods.Nodup) ↔ (Endpoint.callees endpoints).Nodup := by
  rw [← (methods_perm h).nodup_iff]
  exact (HandlerPackage.grouping.nodup_features_iff HandlerPlan.method (nodup_names h)).symm

private theorem exists_method {e : Endpoint} (member : e ∈ endpoints)
    (generated : e.customHandler = false) :
    ∃ p ∈ handlers.packages, p.name = e.package ∧ Naming.exported e.operationId ∈ p.methods :=
  mem_methods.mp ((methods_perm h).mem_iff.mpr
    (Endpoint.mem_callees.mpr ⟨e, member, generated, rfl⟩))

theorem exists_endpoint {p : HandlerPackage} (inside : p ∈ handlers.packages) {method : String}
    (among : method ∈ p.methods) :
    ∃ e ∈ endpoints, e.customHandler = false ∧ e.callee = (p.name, method) :=
  Endpoint.mem_callees.mp ((methods_perm h).mem_iff.mp
    (mem_methods.mpr ⟨p, inside, rfl, among⟩))

end

end Handlers

namespace Service

/-- The methods of each package have different names exactly if every route to a generated handler
names one method of its package, and exactly if no two operations of a package, custom handlers
apart, are exported under the same name. -/
theorem distinct_methods_tfae {d : Document} {c : Context} {s : Service}
    (h : (Service.ofDocument d c).result = .ok s) :
    List.TFAE [∀ p ∈ s.handlers.packages, p.methods.Nodup,
      ∀ e ∈ s.endpoints, e.customHandler = false → ∃ p ∈ s.handlers.packages,
        p.name = (Route.ofEndpoint e).package ∧
          p.methods.count (Route.ofEndpoint e).handler = 1,
      (Endpoint.callees s.endpoints).Nodup] := by
  have made := (compiled_of_ofDocument h).handlers
  tfae_have 1 ↔ 3 := Handlers.nodup_methods_iff made
  tfae_have 1 → 2 := by
    intro distinct e member generated
    obtain ⟨p, inside, named, among⟩ := Handlers.exists_method made member generated
    exact ⟨p, inside, named, List.count_eq_one_of_mem (distinct p inside) among⟩
  tfae_have 2 → 1 := by
    intro unique p inside
    rw [List.nodup_iff_count_eq_one]
    intro method among
    obtain ⟨e, member, generated, called⟩ := Handlers.exists_endpoint made inside among
    obtain ⟨package, rfl⟩ := Prod.mk.inj called
    obtain ⟨p', inside', named, once⟩ := unique e member generated
    have same : p'.name = p.name := named.trans package
    rwa [List.inj_on_of_nodup_map (Handlers.nodup_names made) inside' inside same] at once
  tfae_finish

def listingDescription (first second : String) : Json :=
  let operation (id : String) : Json :=
    .object [("get", Description.generatedOperation id "ticket" [])]
  Description.assemble [] [("/queues", operation first), ("/tickets", operation second)] []

theorem distinct_methods_tfae_listing :
    ∃ d c s, Description.read (listingDescription "list-queues" "list-tickets") = .ok d ∧
      Context.ofDocument d .go (some "example.com/queue") = .ok c ∧
      (Service.ofDocument d c).result = .ok s ∧
      List.TFAE [∀ p ∈ s.handlers.packages, p.methods.Nodup,
        ∀ e ∈ s.endpoints, e.customHandler = false → ∃ p ∈ s.handlers.packages,
          p.name = (Route.ofEndpoint e).package ∧
            p.methods.count (Route.ofEndpoint e).handler = 1,
        (Endpoint.callees s.endpoints).Nodup] ∧
      Endpoint.callees s.endpoints = [("ticket", "ListQueues"), ("ticket", "ListTickets")] := by
  have compiled : ∃ d c s, Description.read (listingDescription "list-queues" "list-tickets") =
        .ok d ∧
      Context.ofDocument d .go (some "example.com/queue") = .ok c ∧
      (Service.ofDocument d c).result = .ok s ∧
      Endpoint.callees s.endpoints = [("ticket", "ListQueues"), ("ticket", "ListTickets")] :=
    ⟨_, _, _, rfl, rfl, rfl, by decide +kernel⟩
  obtain ⟨d, c, s, read, context, compiled, callees⟩ := compiled
  exact ⟨d, c, s, read, context, compiled, distinct_methods_tfae compiled, callees⟩

/-- A separator is dropped when a name is exported, so names that differ do not stay apart. -/
theorem not_nodup_methods_listTickets :
    ∃ d c s, Description.read (listingDescription "list-tickets" "listTickets") = .ok d ∧
      Context.ofDocument d .go (some "example.com/queue") = .ok c ∧
      (Service.ofDocument d c).result = .ok s ∧
      ∃ p ∈ s.handlers.packages, ¬ p.methods.Nodup := by
  have compiled : ∃ d c s, Description.read (listingDescription "list-tickets" "listTickets") =
        .ok d ∧
      Context.ofDocument d .go (some "example.com/queue") = .ok c ∧
      (Service.ofDocument d c).result = .ok s ∧
      s.handlers.packages.map (·.methods) = [["ListTickets", "ListTickets"]] :=
    ⟨_, _, _, rfl, rfl, rfl, by decide +kernel⟩
  obtain ⟨d, c, s, read, context, compiled, methods⟩ := compiled
  have member : ["ListTickets", "ListTickets"] ∈ s.handlers.packages.map (·.methods) := by
    rw [methods]
    exact List.mem_singleton_self _
  obtain ⟨p, inside, named⟩ := List.mem_map.mp member
  refine ⟨d, c, s, read, context, compiled, p, inside, ?_⟩
  rw [named]
  decide

end Service

end ApiScaffold
