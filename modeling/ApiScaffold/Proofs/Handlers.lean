import Mathlib.Tactic.TFAE
import ApiScaffold.Model.Handler
import ApiScaffold.Model.Route
import ApiScaffold.Proofs.Grouping
import ApiScaffold.Proofs.Outcome
/-!
# Handlers and routes

Handlers and routes come from two walks over the endpoints. A route calls a method of a package by
its name, so the walks have to agree on packages, methods and paging.
-/
namespace ApiScaffold

/-! ## Extractions -/

namespace Extraction

def Supported (x : Extraction) : Prop := isSupported x.param.scope x.kind = true

private theorem isSupported_string (scope : ParamScope) : isSupported scope .string = true := by
  cases scope <;> rfl

private theorem exists_ofParam (operation : String) (p : ParamSpec) :
    ∃ x, (ofParam operation p).result = .ok x ∧ x.param = p ∧ x.Supported := by
  by_cases supported : isSupported p.scope p.kind = true
  · refine ⟨⟨p, p.kind, isFallible p.kind⟩, ?_, rfl, supported⟩
    rw [ofParam, if_pos supported]
    rfl
  · refine ⟨⟨p, .string, false⟩, ?_, rfl, isSupported_string p.scope⟩
    rw [ofParam, if_neg supported]
    rfl

private theorem exists_ofPlan (operation : String) (plan : ParameterPlan) :
    ∃ xs, (ofPlan operation plan).result = .ok xs ∧ xs.map (·.param) = plan.path ++ plan.query ∧
      ∀ x ∈ xs, x.Supported := by
  rw [ofPlan, Diagnosed.result_mapM]
  obtain ⟨xs, taken, related⟩ := Outcome.exists_mapM fun p (_ : p ∈ plan.path ++ plan.query) =>
    exists_ofParam operation p
  refine ⟨xs, taken, ?_, ?_⟩
  · have same := Outcome.map_eq_map related fun p x h => h.1.symm
    rw [← same, List.map_id']
  · intro x member
    obtain ⟨p, -, h⟩ := Outcome.left_of_mem related member
    exact h.2

end Extraction

/-! ## Plans -/

namespace HandlerPlan

def Supported (plan : HandlerPlan) : Prop := ∀ x ∈ plan.extractions, x.Supported

theorem exists_ofEndpoint (e : Endpoint) :
    ∃ plan, (ofEndpoint e).result = .ok plan ∧ plan.Supported ∧
      plan.extractions.map (·.param) = e.params.path ++ e.params.query ∧
      plan.method = Naming.exported e.operationId ∧ plan.body = bodyOf e.request ∧
      plan.arguments = argumentsOf e plan.extractions ∧ plan.response = writeOf e := by
  obtain ⟨xs, taken, params, supported⟩ := Extraction.exists_ofPlan e.label e.params
  refine ⟨⟨Naming.exported e.operationId, e.operationId, e.label, xs, bodyOf e.request,
    argumentsOf e xs, writeOf e⟩, ?_, supported, params, rfl, rfl, rfl, rfl⟩
  rw [ofEndpoint, Diagnosed.result_bind, taken]
  rfl

private theorem supported_of_ofEndpoint {e : Endpoint} {plan : HandlerPlan}
    (h : (ofEndpoint e).result = .ok plan) : plan.Supported := by
  obtain ⟨found, planned, supported, -⟩ := exists_ofEndpoint e
  cases h.symm.trans planned
  exact supported

private theorem isSome_bodyOf {request : RequestShape} :
    (bodyOf request).isSome = true ↔ request ≠ .empty := by
  cases request <;> simp [bodyOf]

private theorem isPaged_iff_response {e : Endpoint} :
    e.isPaged = true ↔ ∃ item, e.response = .paged item := by
  rw [Endpoint.isPaged]
  cases e.response <;> simp [ResponseShape.isPaged]

private theorem writeOf_eq_page {e : Endpoint} :
    (∃ status, writeOf e = .page status) ↔ e.isPaged = true := by
  rw [writeOf, Endpoint.isPaged]
  cases e.response <;> simp [ResponseShape.isPaged]

def pagingArguments : List CallArgument := [.page, .size, .sort]

/-- No argument before the paging arguments is one of theirs, so they end a list only where they
are put. -/
theorem pagingArguments_suffix {e : Endpoint} {extractions : List Extraction} :
    pagingArguments <:+ argumentsOf e extractions ↔ e.isPaged = true := by
  cases paged : e.isPaged with
  | true =>
    refine iff_of_true ?_ rfl
    rw [argumentsOf, if_pos paged]
    exact List.suffix_append _ _
  | false =>
    refine iff_of_false ?_ Bool.false_ne_true
    intro ends
    have member : CallArgument.sort ∈ argumentsOf e extractions := ends.subset (by decide)
    rw [argumentsOf, paged] at member
    split at member <;> simp at member

end HandlerPlan

/-! ## Packages of handlers -/

namespace HandlerPackage

def grouping : Grouping HandlerPlan HandlerPackage where
  name := HandlerPackage.name
  things := HandlerPackage.handlers
  start name := ⟨name, []⟩
  push p plan := ⟨p.name, p.handlers ++ [plan]⟩
  name_start _ := rfl
  things_start _ := rfl
  name_push _ _ := rfl
  things_push _ _ := rfl

private theorem insert_eq : insert = grouping.insert := by
  funext name plan packages
  induction packages with
  | nil => rfl
  | cons p rest ih =>
    rw [insert, Grouping.insert, ih]
    rfl

end HandlerPackage

/-! ## Both walks -/

/-- What becomes of an endpoint: its route, and its handler unless that is a custom one. -/
structure Dispatch where
  endpoint : Endpoint
  route : Route
  plan : Option HandlerPlan

namespace Dispatch

/-- The plan is that of a handler which the route can call. -/
structure Calls (x : Dispatch) (plan : HandlerPlan) : Prop where
  planned : (HandlerPlan.ofEndpoint x.endpoint).result = .ok plan
  method : plan.method = x.route.handler
  params : plan.extractions.map (·.param) = x.endpoint.params.path ++ x.endpoint.params.query
  body : plan.body.isSome = true ↔ x.endpoint.request ≠ .empty
  arguments : plan.arguments = [.context] ++ (if plan.body.isSome then [.body] else []) ++
    plan.extractions.map (fun step => .param step.param.ident) ++
    (if x.route.paged then HandlerPlan.pagingArguments else [])
  paging : List.TFAE [∃ item, x.endpoint.response = .paged item, x.route.paged = true,
    ∃ status, plan.response = .page status, HandlerPlan.pagingArguments <:+ plan.arguments]

structure Agrees (x : Dispatch) : Prop where
  package : x.route.package = x.endpoint.package
  place : x.route.method = x.endpoint.method ∧ x.route.path = x.endpoint.path
  custom : x.plan = none ↔ x.endpoint.customHandler = true
  calls : ∀ plan ∈ x.plan, x.Calls plan

def handlers (xs : List Dispatch) : List (String × HandlerPlan) :=
  xs.filterMap fun x => x.plan.map (x.route.package, ·)

def routesOf (visibility : Visibility) (xs : List Dispatch) : List Route :=
  (xs.filter (·.endpoint.visibility = visibility)).map (·.route)

private theorem calls_of_ofEndpoint {e : Endpoint} {plan : HandlerPlan}
    (h : (HandlerPlan.ofEndpoint e).result = .ok plan) :
    Calls ⟨e, Route.ofEndpoint e, some plan⟩ plan := by
  obtain ⟨found, planned, -, params, method, body, arguments, response⟩ :=
    HandlerPlan.exists_ofEndpoint e
  cases h.symm.trans planned
  refine
    { planned := h
      method := method
      params := params
      body := ?body
      arguments := ?arguments
      paging := ?paging }
  case body =>
    rw [body]
    exact HandlerPlan.isSome_bodyOf
  case arguments =>
    rw [arguments, body]
    rfl
  case paging =>
    have shape := HandlerPlan.isPaged_iff_response (e := e)
    have written := HandlerPlan.writeOf_eq_page (e := e)
    have suffix : HandlerPlan.pagingArguments <:+ HandlerPlan.argumentsOf e plan.extractions ↔
        e.isPaged = true := HandlerPlan.pagingArguments_suffix
    rw [← response] at written
    rw [← arguments] at suffix
    tfae_have 1 ↔ 2 := shape.symm
    tfae_have 3 ↔ 2 := written
    tfae_have 4 ↔ 2 := suffix
    tfae_finish

private theorem exists_agrees (e : Endpoint) :
    ∃ x : Dispatch, x.endpoint = e ∧ x.route = Route.ofEndpoint e ∧ x.Agrees := by
  cases custom : e.customHandler with
  | true =>
    refine ⟨⟨e, Route.ofEndpoint e, none⟩, rfl, rfl, rfl, ⟨rfl, rfl⟩, ?_, nofun⟩
    exact iff_of_true rfl custom
  | false =>
    obtain ⟨plan, planned, -⟩ := HandlerPlan.exists_ofEndpoint e
    refine ⟨⟨e, Route.ofEndpoint e, some plan⟩, rfl, rfl, rfl, ⟨rfl, rfl⟩, ?_, ?_⟩
    · exact iff_of_false (Option.some_ne_none plan) (by simp [custom])
    · intro _ same
      cases same
      exact calls_of_ofEndpoint planned

private theorem exists_dispatches (endpoints : List Endpoint) :
    ∃ xs : List Dispatch, xs.map (·.endpoint) = endpoints ∧
      xs.map (·.route) = endpoints.map Route.ofEndpoint ∧ ∀ x ∈ xs, x.Agrees := by
  induction endpoints with
  | nil => exact ⟨[], rfl, rfl, List.forall_mem_nil _⟩
  | cons e endpoints ih =>
    obtain ⟨x, endpoint, route, agrees⟩ := exists_agrees e
    obtain ⟨xs, rest, routes, all⟩ := ih
    refine ⟨x :: xs, ?_, ?_, List.forall_mem_cons.mpr ⟨agrees, all⟩⟩
    · rw [List.map_cons, endpoint, rest]
    · rw [List.map_cons, List.map_cons, route, routes]

end Dispatch

namespace Handlers

private theorem add_of_agrees {x : Dispatch} (h : x.Agrees) (entries : List (String × HandlerPlan))
    (constructed : Texts) :
    (add ⟨HandlerPackage.grouping.grouped entries, constructed⟩ x.endpoint).result =
      .ok ⟨HandlerPackage.grouping.grouped (entries ++ Dispatch.handlers [x]),
        Texts.insert x.endpoint.package constructed⟩ := by
  obtain ⟨e, route, plan⟩ := x
  cases plan with
  | none =>
    have custom : e.customHandler = true := h.custom.mp rfl
    simp only [add, custom, if_true, Dispatch.handlers, List.filterMap_cons, Option.map_none,
      List.filterMap_nil, List.append_nil]
    rfl
  | some plan =>
    have planned := (h.calls plan rfl).planned
    have generated : e.customHandler ≠ true := fun custom => by cases h.custom.mpr custom
    have package : route.package = e.package := h.package
    unfold add
    rw [if_neg generated, Diagnosed.result_bind, planned, HandlerPackage.insert_eq]
    simp only [Dispatch.handlers, List.filterMap_cons, Option.map_some, List.filterMap_nil,
      package, ← Grouping.insert_grouped]
    rfl

private theorem foldlM_of_agrees {xs : List Dispatch} (h : ∀ x ∈ xs, x.Agrees)
    (entries : List (String × HandlerPlan)) (constructed : Texts) :
    ((xs.map (·.endpoint)).foldlM add
        ⟨HandlerPackage.grouping.grouped entries, constructed⟩).result =
      .ok ⟨HandlerPackage.grouping.grouped (entries ++ Dispatch.handlers xs),
        (xs.map (·.endpoint.package)).foldl (fun set text => Texts.insert text set)
          constructed⟩ := by
  induction xs generalizing entries constructed with
  | nil =>
    rw [Dispatch.handlers, List.filterMap_nil, List.append_nil]
    rfl
  | cons x xs ih =>
    obtain ⟨first, rest⟩ := List.forall_mem_cons.mp h
    have together : Dispatch.handlers (x :: xs) = Dispatch.handlers [x] ++ Dispatch.handlers xs :=
      List.filterMap_append (l := [x])
    rw [List.map_cons, List.foldlM_cons, Diagnosed.result_bind, add_of_agrees first, together,
      ← List.append_assoc]
    exact ih rest _ _

private theorem ofEndpoints_of_agrees {xs : List Dispatch} (h : ∀ x ∈ xs, x.Agrees) :
    (ofEndpoints (xs.map (·.endpoint))).result =
      .ok ⟨HandlerPackage.grouping.grouped (Dispatch.handlers xs),
        Texts.ofList ((xs.map (·.endpoint)).map Endpoint.package)⟩ := by
  rw [List.map_map]
  exact foldlM_of_agrees h [] []

section

variable {endpoints : List Endpoint} {handlers : Handlers}
  (h : (ofEndpoints endpoints).result = .ok handlers)

include h

theorem eq_of_ofEndpoints :
    ∃ xs : List Dispatch, xs.map (·.endpoint) = endpoints ∧ (∀ x ∈ xs, x.Agrees) ∧
      handlers.packages = HandlerPackage.grouping.grouped (Dispatch.handlers xs) ∧
      handlers.constructed = Texts.ofList (endpoints.map Endpoint.package) := by
  obtain ⟨xs, rfl, -, agrees⟩ := Dispatch.exists_dispatches endpoints
  cases h.symm.trans (ofEndpoints_of_agrees agrees)
  exact ⟨xs, rfl, agrees, rfl, rfl⟩

theorem constructed_of_ofEndpoints :
    handlers.constructed = Texts.ofList (endpoints.map Endpoint.package) := by
  obtain ⟨_, -, -, -, constructed⟩ := eq_of_ofEndpoints h
  exact constructed

theorem exists_endpoint_of_plan {p : HandlerPackage} (inside : p ∈ handlers.packages)
    {plan : HandlerPlan} (among : plan ∈ p.handlers) :
    ∃ e ∈ endpoints, e.customHandler = false ∧ e.package = p.name ∧
      (HandlerPlan.ofEndpoint e).result = .ok plan := by
  obtain ⟨xs, rfl, agrees, packages, -⟩ := eq_of_ofEndpoints h
  rw [packages] at inside
  have plans : p.handlers = Grouping.under p.name (Dispatch.handlers xs) :=
    Grouping.things_of_mem_grouped inside
  rw [plans, Grouping.mem_under] at among
  obtain ⟨x, member, planned⟩ := List.mem_filterMap.mp among
  obtain ⟨own, found, same⟩ := Option.map_eq_some_iff.mp planned
  obtain ⟨package, rfl⟩ := Prod.mk.inj same
  have agrees := agrees x member
  refine ⟨x.endpoint, List.mem_map_of_mem member, ?_, agrees.package.symm.trans package,
    (agrees.calls own found).planned⟩
  rw [← Bool.not_eq_true]
  intro custom
  cases found.symm.trans (agrees.custom.mpr custom)

private theorem exists_package_of_endpoint {e : Endpoint} (member : e ∈ endpoints)
    (generated : e.customHandler = false) :
    ∃ p ∈ handlers.packages, p.name = e.package ∧
      ∃ plan ∈ p.handlers, (HandlerPlan.ofEndpoint e).result = .ok plan := by
  obtain ⟨xs, rfl, agrees, packages, -⟩ := eq_of_ofEndpoints h
  obtain ⟨x, inside, rfl⟩ := List.mem_map.mp member
  have agrees := agrees x inside
  cases own : x.plan with
  | none => cases generated.symm.trans (agrees.custom.mp own)
  | some plan =>
    have entry : (x.route.package, plan) ∈ Dispatch.handlers xs :=
      List.mem_filterMap.mpr ⟨x, inside, by rw [own]; rfl⟩
    rw [← (HandlerPackage.grouping.entries_grouped_perm _).mem_iff, ← packages] at entry
    obtain ⟨p, among, entry⟩ := List.mem_flatMap.mp entry
    obtain ⟨_, planned, same⟩ := List.mem_map.mp entry
    obtain ⟨package, rfl⟩ := Prod.mk.inj same
    exact ⟨p, among, package.trans agrees.package, _, planned, (agrees.calls _ own).planned⟩

theorem forall_plans_iff {motive : HandlerPlan → Prop} :
    (∀ p ∈ handlers.packages, ∀ plan ∈ p.handlers, motive plan) ↔
      ∀ e ∈ endpoints, e.customHandler = false →
        ∀ plan, (HandlerPlan.ofEndpoint e).result = .ok plan → motive plan := by
  constructor
  · intro all e member generated plan planned
    obtain ⟨p, inside, -, own, among, made⟩ := exists_package_of_endpoint h member generated
    cases made.symm.trans planned
    exact all p inside plan among
  · intro all p inside plan among
    obtain ⟨e, member, generated, -, planned⟩ := exists_endpoint_of_plan h inside among
    exact all e member generated plan planned

end

def Supported (handlers : Handlers) : Prop :=
  ∀ p ∈ handlers.packages, ∀ plan ∈ p.handlers, plan.Supported

theorem supported_ofEndpoints {endpoints : List Endpoint} {handlers : Handlers}
    (h : (ofEndpoints endpoints).result = .ok handlers) : handlers.Supported := by
  intro p inside plan among
  obtain ⟨e, -, -, -, planned⟩ := exists_endpoint_of_plan h inside among
  exact HandlerPlan.supported_of_ofEndpoint planned

/-- Handlers and a table of routes come from the same dispatches. Each package of handlers has the
plans of the routes that name it, in the order of the endpoints. -/
structure Dispatched (handlers : Handlers) (table : RouteTable) (xs : List Dispatch) : Prop where
  agrees : ∀ x ∈ xs, x.Agrees
  packageOrder : Texts.Increasing (handlers.packages.map (·.name))
  filled : ∀ p ∈ handlers.packages, p.handlers ≠ []
  plans : ∀ p ∈ handlers.packages, p.handlers = Grouping.under p.name (Dispatch.handlers xs)
  once : (handlers.packages.flatMap fun p => p.handlers.map (p.name, ·)).Perm
    (Dispatch.handlers xs)
  free : table.free = Dispatch.routesOf .free xs
  guarded : table.guarded = Dispatch.routesOf .guarded xs
  constructed : handlers.constructed = table.packages
  constructedOrder : Texts.Increasing handlers.constructed
  needed : ∀ package, package ∈ handlers.constructed ↔ ∃ x ∈ xs, x.endpoint.package = package

private theorem routesOf_eq {xs : List Dispatch}
    (h : xs.map (·.route) = (xs.map (·.endpoint)).map Route.ofEndpoint)
    (visibility : Visibility) :
    ((xs.map (·.endpoint)).filter (·.visibility = visibility)).map Route.ofEndpoint =
      Dispatch.routesOf visibility xs := by
  rw [List.map_map, List.map_inj_left] at h
  rw [List.filter_map, List.map_map, Dispatch.routesOf]
  exact List.map_congr_left fun x member => (h x (List.mem_filter.mp member).1).symm

/-- The handlers and the routes of any endpoints go together. -/
theorem exists_dispatched (endpoints : List Endpoint) :
    ∃ handlers xs, (ofEndpoints endpoints).result = .ok handlers ∧
      xs.map (·.endpoint) = endpoints ∧
      handlers.Dispatched (RouteTable.ofEndpoints endpoints) xs := by
  obtain ⟨xs, rfl, routes, agrees⟩ := Dispatch.exists_dispatches endpoints
  refine ⟨_, xs, ofEndpoints_of_agrees agrees, rfl, ?_⟩
  refine
    { agrees := agrees
      packageOrder := HandlerPackage.grouping.increasing_names _
      filled := fun p member => Grouping.things_ne_nil member
      plans := fun p member => Grouping.things_of_mem_grouped member
      once := HandlerPackage.grouping.entries_grouped_perm _
      free := routesOf_eq routes .free
      guarded := routesOf_eq routes .guarded
      constructed := rfl
      constructedOrder := Texts.increasing_ofList _
      needed := ?needed }
  case needed =>
    intro package
    simp only [Texts.mem_ofList, List.map_map, List.mem_map, Function.comp_apply]

end Handlers

end ApiScaffold
