import ApiScaffold.Model.Service
import ApiScaffold.Proofs.Outcome
/-!
# Stages of a compiled service

A service is compiled only if each of its stages succeeds, and it holds what they give.
-/
namespace ApiScaffold

/-- The parts of a service are the results of the stages. -/
structure Service.Compiled (d : Document) (c : Context) (s : Service) : Prop where
  module : s.module = c.module
  types : (DataTypes.ofDocument d c).result = .ok s.types
  endpoints : (Endpoint.ofDocument d).result = .ok s.endpoints
  handlers : (Handlers.ofEndpoints s.endpoints).result = .ok s.handlers
  routes : s.routes = .ofEndpoints s.endpoints
  errors : (ErrorCatalog.ofDocument d).result = .ok s.errors

theorem Service.compiled_of_ofDocument {d : Document} {c : Context} {s : Service}
    (h : (ofDocument d c).result = .ok s) : s.Compiled d c := by
  obtain ⟨types, ht, h⟩ := Diagnosed.bind_result_eq_ok.mp h
  obtain ⟨endpoints, he, h⟩ := Diagnosed.bind_result_eq_ok.mp h
  obtain ⟨handlers, hh, h⟩ := Diagnosed.bind_result_eq_ok.mp h
  obtain ⟨errors, hc, h⟩ := Diagnosed.bind_result_eq_ok.mp h
  cases h
  exact ⟨rfl, ht, he, hh, rfl, hc⟩

theorem Service.ofDocument_of_compiled {d : Document} {c : Context} {s : Service}
    (h : s.Compiled d c) : (ofDocument d c).result = .ok s := by
  refine Diagnosed.bind_result_eq_ok.mpr ⟨_, h.types, ?_⟩
  refine Diagnosed.bind_result_eq_ok.mpr ⟨_, h.endpoints, ?_⟩
  refine Diagnosed.bind_result_eq_ok.mpr ⟨_, h.handlers, ?_⟩
  refine Diagnosed.bind_result_eq_ok.mpr ⟨_, h.errors, ?_⟩
  rw [← h.module, ← h.routes]
  rfl

end ApiScaffold
