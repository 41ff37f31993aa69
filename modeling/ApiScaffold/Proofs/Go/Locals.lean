import Mathlib.Data.List.Nodup
import ApiScaffold.Proofs.Go.Rendering
import ApiScaffold.Proofs.Parameters
/-!
# Locals of a handler

A handler takes each parameter into a local. The parameters of an operation have identifiers of
their own, but an identifier that is reserved gets a suffix on its way into the source, and the
identifier with the suffix may be that of another parameter.
-/
namespace ApiScaffold

/-! ## Names of locals -/

namespace Naming

def localSuffix : String := "Param"

theorem localName_of_mem {s : String} (h : s ∈ reservedLocals) : localName s = s ++ localSuffix :=
  if_pos (List.contains_iff_mem.mpr h)

theorem localName_of_notMem {s : String} (h : s ∉ reservedLocals) : localName s = s :=
  if_neg fun contained => h (List.contains_iff_mem.mp contained)

private theorem suffixed_notMem : ∀ s ∈ reservedLocals, s ++ localSuffix ∉ reservedLocals := by
  decide +kernel

theorem localName_notMem (s : String) : localName s ∉ reservedLocals := by
  by_cases reserved : s ∈ reservedLocals
  · rw [localName_of_mem reserved]
    exact suffixed_notMem s reserved
  · rwa [localName_of_notMem reserved]

/-- Two identifiers share a local only if one of them is the other one with the suffix. -/
theorem localName_eq_iff {s t : String} :
    localName s = localName t ↔ s = t ∨
      (s ∈ reservedLocals ∧ t = s ++ localSuffix) ∨
      (t ∈ reservedLocals ∧ s = t ++ localSuffix) := by
  by_cases hs : s ∈ reservedLocals <;> by_cases ht : t ∈ reservedLocals
  · have apart {a b : String} (ha : a ∈ reservedLocals) (hb : b ∈ reservedLocals) :
        b ≠ a ++ localSuffix := fun same => suffixed_notMem a ha (same ▸ hb)
    rw [localName_of_mem hs, localName_of_mem ht]
    simp [apart hs ht, apart ht hs]
  · rw [localName_of_mem hs, localName_of_notMem ht]
    have different : s ≠ t := fun same => ht (same ▸ hs)
    simp [hs, ht, different, eq_comm]
  · rw [localName_of_notMem hs, localName_of_mem ht]
    have different : s ≠ t := fun same => hs (same ▸ ht)
    simp [hs, ht, different]
  · rw [localName_of_notMem hs, localName_of_notMem ht]
    simp [hs, ht]

private theorem nodup_locals_iff {idents : List String} (distinct : idents.Nodup) :
    (idents.map localName).Nodup ↔
      ∀ s ∈ idents, s ∈ reservedLocals → s ++ localSuffix ∉ idents := by
  rw [List.nodup_map_iff_inj_on distinct]
  constructor
  · intro apart s member reserved other
    have same := apart s member _ other (localName_eq_iff.mpr (.inr (.inl ⟨reserved, rfl⟩)))
    exact suffixed_notMem s reserved (same ▸ reserved)
  · intro apart s hs t ht same
    rcases localName_eq_iff.mp same with same | ⟨reserved, rfl⟩ | ⟨reserved, rfl⟩
    · exact same
    · exact absurd ht (apart s hs reserved)
    · exact absurd hs (apart t ht reserved)

end Naming

/-! ## Identifiers of parameters -/

namespace ParameterPlan

variable {d : Document} {operation : String}

def params (plan : ParameterPlan) : List ParamSpec := plan.path ++ plan.query

theorem exists_specs_of_plan {path : String} {shared own : List Parameter} {paged : Bool}
    {planned : ParameterPlan}
    (h : (plan d operation path shared own paged).result = .ok planned) :
    ∃ specs, specsAfter d operation [] (kept paged (own ++ shared)) = .ok specs ∧
      planned.params.Perm specs := by
  obtain ⟨specs, found, rfl, -⟩ := plan_eq_ok_iff.mp h
  refine ⟨specs, found, ?_⟩
  apply filter_append_filter_perm
  intro p
  cases p.scope <;> rfl

private theorem nodup_of_plan {path : String} {shared own : List Parameter} {paged : Bool}
    {planned : ParameterPlan}
    (h : (plan d operation path shared own paged).result = .ok planned) :
    (planned.params.map (·.ident)).Nodup := by
  obtain ⟨specs, found, perm⟩ := exists_specs_of_plan h
  obtain ⟨-, -, idents⟩ := specs_eq_ok_iff.mp found
  exact ((perm.map _).nodup_iff).mpr idents

end ParameterPlan

/-! ## Locals -/

namespace Go

def ownLocals : List String :=
  ["w", "r", "h", "req", "resp", "page", "size", "sort", "content", "total", "item",
    "applicationErr"]

def HandlerView.locals (view : HandlerView) : List String := view.extractions.map (·.var)

private theorem var_of_ofExtraction {x : Extraction} {view : ExtractionView}
    (h : ExtractionView.ofExtraction x = .ok view) :
    view.var = Naming.localName x.param.ident := by
  obtain ⟨helper, -, h⟩ := Outcome.bind_eq_ok.mp h
  cases h
  rfl

theorem locals_of_ofPlan {plan : HandlerPlan} {view : HandlerView}
    (h : HandlerView.ofPlan plan = .ok view) :
    view.locals = (plan.extractions.map (·.param)).map fun p => Naming.localName p.ident := by
  obtain ⟨views, spelled, h⟩ := Outcome.bind_eq_ok.mp h
  cases h
  rw [List.map_map]
  exact (Outcome.map_eq_map (Outcome.mapM_eq_ok.mp spelled) fun _ _ h =>
    (var_of_ofExtraction h).symm).symm

/-- The handler of an operation has a view, in which no local is called like one of its own. The
locals are all different unless a parameter has a reserved identifier and another parameter has
the same with the suffix. -/
theorem locals_nodup_iff {d : Document} {operation path : String} {shared own : List Parameter}
    {paged : Bool} {params : ParameterPlan}
    (planned : (ParameterPlan.plan d operation path shared own paged).result = .ok params)
    {e : Endpoint} (takes : e.params = params) :
    ∃ plan view, (HandlerPlan.ofEndpoint e).result = .ok plan ∧
      HandlerView.ofPlan plan = .ok view ∧
      (∀ name ∈ ownLocals, name ∉ view.locals) ∧
      (view.locals.Nodup ↔ ∀ p ∈ params.params, p.ident ∈ Naming.reservedLocals →
        ∀ q ∈ params.params, q.ident ≠ p.ident ++ Naming.localSuffix) := by
  subst takes
  obtain ⟨plan, built, supported, taken, -⟩ := HandlerPlan.exists_ofEndpoint e
  obtain ⟨view, spelled, -⟩ := exists_handlerView supported
  refine ⟨plan, view, built, spelled, ?_, ?_⟩
  · intro name owned among
    rw [locals_of_ofPlan spelled] at among
    obtain ⟨p, -, rfl⟩ := List.mem_map.mp among
    have reserved : ∀ name ∈ ownLocals, name ∈ Naming.reservedLocals := by decide +kernel
    exact Naming.localName_notMem p.ident (reserved _ owned)
  · have locals : view.locals = (e.params.params.map (·.ident)).map Naming.localName := by
      rw [locals_of_ofPlan spelled, taken, List.map_map]
      rfl
    rw [locals, Naming.nodup_locals_iff (ParameterPlan.nodup_of_plan planned),
      List.forall_mem_map]
    simp only [List.mem_map, not_exists, not_and, ne_eq]

def queryDescription (names : List String) : Json :=
  let parameter (name : String) : Json :=
    .object [("in", .string "query"), ("name", .string name), ("required", .bool true),
      ("schema", .object [("type", .string "string")])]
  Description.assemble []
    [("/tickets", .object [("get", Description.generatedOperation "listTickets" "ticket"
      [("parameters", .array (names.map parameter))])])] []

structure Views (root : Json) (d : Document) (own : List Parameter) (e : Endpoint)
    (plan : HandlerPlan) (view : HandlerView) : Prop where
  read : Description.read root = .ok d
  declared : ∃ operation, Endpoint.operations d = [("/tickets", [], .get, operation)] ∧
    operation.parameters = own
  endpoint : (Endpoint.ofDocument d).result = .ok [e]
  planned : (ParameterPlan.plan d e.label e.path [] own false).result = .ok e.params
  built : (HandlerPlan.ofEndpoint e).result = .ok plan
  spelled : HandlerView.ofPlan plan = .ok view

/-- A reserved word stays apart from a name without the suffix. -/
theorem locals_nodup_iff_status :
    ∃ d own e plan view, Views (queryDescription ["type", "status"]) d own e plan view ∧
      view.locals = ["typeParam", "status"] ∧ (∀ name ∈ ownLocals, name ∉ view.locals) ∧
      (view.locals.Nodup ↔ ∀ p ∈ e.params.params, p.ident ∈ Naming.reservedLocals →
        ∀ q ∈ e.params.params, q.ident ≠ p.ident ++ Naming.localSuffix) := by
  have viewed : ∃ d own e plan view,
      Views (queryDescription ["type", "status"]) d own e plan view ∧
        view.locals = ["typeParam", "status"] :=
    ⟨_, _, _, _, _, ⟨rfl, ⟨_, rfl, rfl⟩, rfl, rfl, rfl, rfl⟩, rfl⟩
  obtain ⟨d, own, e, plan, view, views, locals⟩ := viewed
  obtain ⟨_, _, built, spelled, apart⟩ := locals_nodup_iff views.planned rfl
  cases views.built.symm.trans built
  cases views.spelled.symm.trans spelled
  exact ⟨d, own, e, plan, view, views, locals, apart⟩

/-- The local of a reserved word is that of the parameter which has the suffix in its name. -/
theorem not_nodup_locals_type :
    ∃ d own e plan view, Views (queryDescription ["type", "type_param"]) d own e plan view ∧
      view.locals = ["typeParam", "typeParam"] ∧ ¬ view.locals.Nodup := by
  have viewed : ∃ d own e plan view,
      Views (queryDescription ["type", "type_param"]) d own e plan view ∧
        view.locals = ["typeParam", "typeParam"] :=
    ⟨_, _, _, _, _, ⟨rfl, ⟨_, rfl, rfl⟩, rfl, rfl, rfl, rfl⟩, rfl⟩
  obtain ⟨d, own, e, plan, view, views, locals⟩ := viewed
  refine ⟨d, own, e, plan, view, views, locals, ?_⟩
  rw [locals]
  decide

end Go

end ApiScaffold
