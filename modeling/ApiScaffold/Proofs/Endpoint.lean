import ApiScaffold.Model.Endpoint
import ApiScaffold.Proofs.Outcome
/-!
# Endpoints of operations

What has to succeed for an operation to become an endpoint, and what the endpoint then holds.
-/
namespace ApiScaffold

namespace Extension

theorem decode_eq_some {α : Type} {owner name : String} {decoder : Json.Tree → Option α}
    {extensions : Keyed Json} {decoded : α}
    (h : decode owner name decoder extensions = .ok (some decoded)) :
    ∃ value tree, Keyed.get? name extensions = some value ∧ tree? value = some tree ∧
      decoder tree = some decoded := by
  unfold decode at h
  split at h
  · cases h
  next value found =>
    split at h
    next decoded' h' =>
      cases h
      obtain ⟨tree, hasTree, decodes⟩ := Option.bind_eq_some_iff.mp h'
      exact ⟨value, tree, found, hasTree, decodes⟩
    next => cases h

theorem decoded_of_directives {method : Method} {path : String} {extensions : Keyed Json}
    {found : Directives} (h : directives method path extensions = .ok found) :
    ∃ value tree, Keyed.get? "x-generated" extensions = some value ∧
      tree? value = some tree ∧ generated? tree =
        some (some found.package, found.customHandler, found.isPublic) := by
  obtain ⟨decoded, decodes, h⟩ := Outcome.bind_eq_ok.mp h
  split at h
  next package customHandler isPublic =>
    split at h
    · cases h
    · split at h
      next =>
        cases h
        exact decode_eq_some decodes
      next => cases h
  next => cases h

end Extension

namespace Endpoint

def address (e : Endpoint) : String × Method := (e.path, e.method)

theorem ofOperation_eq_ok {d : Document} {path : String} {shared : List Parameter}
    {method : Method} {operation : Operation} {e : Endpoint}
    (h : (ofOperation d path shared method operation).result = .ok e) :
    ∃ directives id status response shape request params,
      Extension.directives method path operation.extensions = .ok directives ∧
      declaredId method path operation = .ok id ∧
      (success (method.label path) operation.responses).result = .ok (status, response) ∧
      (responseShape d (method.label path) response).result = .ok shape ∧
      (if directives.customHandler then request = .empty ∧ params = ⟨[], []⟩
        else (requestShape d (method.label path) operation.requestBody).result = .ok request ∧
          (ParameterPlan.plan d (method.label path) path shared operation.parameters
            shape.isPaged).result = .ok params) ∧
      e = ⟨method, path, if directives.isPublic then .free else .guarded, directives.package, id,
        directives.customHandler, shape, request, params, status⟩ := by
  obtain ⟨directives, decoded, h⟩ := Diagnosed.bind_result_eq_ok.mp h
  obtain ⟨id, named, h⟩ := Diagnosed.bind_result_eq_ok.mp h
  obtain ⟨⟨status, response⟩, succeeds, h⟩ := Diagnosed.bind_result_eq_ok.mp h
  obtain ⟨shape, shaped, h⟩ := Diagnosed.bind_result_eq_ok.mp h
  dsimp only at h
  split at h
  next custom =>
    cases h
    exact ⟨directives, id, status, response, shape, _, _, decoded, named, succeeds, shaped,
      by simp [custom], rfl⟩
  next standard =>
    obtain ⟨request, requested, h⟩ := Diagnosed.bind_result_eq_ok.mp h
    obtain ⟨params, planned, h⟩ := Diagnosed.bind_result_eq_ok.mp h
    cases h
    exact ⟨directives, id, status, response, shape, request, params, decoded, named, succeeds,
      shaped, by simp [standard, requested, planned], rfl⟩

theorem address_of_ofOperation {d : Document} {path : String} {shared : List Parameter}
    {method : Method} {operation : Operation} {e : Endpoint}
    (h : (ofOperation d path shared method operation).result = .ok e) :
    e.address = (path, method) := by
  obtain ⟨_, _, _, _, _, _, _, -, -, -, -, -, rfl⟩ := ofOperation_eq_ok h
  rfl

section

variable {d : Document} {endpoints : List Endpoint} (h : (ofDocument d).result = .ok endpoints)

include h

theorem forall₂_of_ofDocument :
    List.Forall₂ (fun (path, shared, method, operation) e =>
      (ofOperation d path shared method operation).result = .ok e) (operations d) endpoints := by
  rw [ofDocument, Diagnosed.result_mapM] at h
  exact Outcome.mapM_eq_ok.mp h

theorem addresses_of_ofDocument :
    (operations d).map (fun (path, _, method, _) => (path, method)) = endpoints.map address :=
  Outcome.map_eq_map (forall₂_of_ofDocument h) fun _ _ h => (address_of_ofOperation h).symm

end

end Endpoint

end ApiScaffold
