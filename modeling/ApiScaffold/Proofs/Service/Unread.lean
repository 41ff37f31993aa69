import ApiScaffold.Proofs.Description.Assembly
import ApiScaffold.Proofs.Endpoint
import ApiScaffold.Proofs.Service.Compilation
/-!
# What a service does not depend on

Parameters in headers and cookies take no part in a service, and an operation with a custom handler
leaves its parameters and its body to that. Two descriptions that differ in nothing else compile to
the same service, or fail alike.
-/
namespace ApiScaffold

/-! ## Descriptions that differ in what is not read -/

def Parameter.isInAddress (p : Parameter) : Bool := p.location = .path || p.location = .query

def Parameter.inAddress (parameters : List Parameter) : List Parameter :=
  parameters.filter Parameter.isInAddress

/-- The operation says that its handler is a custom one, in place or in a text that holds JSON. -/
def Operation.SaysCustom (o : Operation) : Prop :=
  ∃ value tree package isPublic, Keyed.get? "x-generated" o.extensions = some value ∧
    Extension.tree? value = some tree ∧
    Extension.generated? tree = some (package, true, isPublic)

/-- The operations differ at most in parameters of headers and cookies, and in the parameters and
the body of a custom handler. -/
structure Operation.Alike (o o' : Operation) : Prop where
  operationId : o.operationId = o'.operationId
  summary : o.summary = o'.summary
  description : o.description = o'.description
  responses : o.responses = o'.responses
  extensions : o.extensions = o'.extensions
  request : o.SaysCustom ∨ Parameter.inAddress o.parameters = Parameter.inAddress o'.parameters ∧
    o.requestBody = o'.requestBody

/-- The paths share the same parameters, apart from headers and cookies, and have operations that
are alike. -/
structure PathItem.Alike (item item' : PathItem) : Prop where
  parameters : Parameter.inAddress item.parameters = Parameter.inAddress item'.parameters
  operations : List.Forall₂ (fun (method, o) (method', o') => method = method' ∧ o.Alike o')
    item.operations item'.operations

structure Document.Alike (d d' : Document) : Prop where
  version : d.version = d'.version
  info : d.info = d'.info
  paths : List.Forall₂ (fun (path, item) (path', item') => path = path' ∧ item.Alike item')
    d.paths d'.paths
  schemas : d.schemas = d'.schemas
  extensions : d.extensions = d'.extensions

/-! ## What only reads the component schemas -/

section

variable {d d' : Document} (same : d.schemas = d'.schemas)

include same

private theorem Document.schema?_of_schemas : d.schema? = d'.schema? := by
  funext name
  rw [schema?, schema?, same]

private theorem Document.resolve_of_schemas : d.resolve = d'.resolve := by
  funext position
  cases position with
  | inline schema => rfl
  | reference name => rw [resolve, resolve, schema?_of_schemas same]

namespace Resolution

private theorem valueChain_of_schemas : valueChain d = valueChain d' := by
  funext more
  induction more with
  | zero =>
    funext value
    rw [valueChain, valueChain, Document.resolve_of_schemas same]
  | succ more ih =>
    funext value
    rw [valueChain, valueChain, Document.resolve_of_schemas same]
    simp only [ih]

private theorem ofReference_of_schemas : ofReference d = ofReference d' := by
  funext name required
  rw [ofReference, ofReference, Document.resolve_of_schemas same]

private theorem elementShape_of_schemas : elementShape d = elementShape d' := by
  funext inner position
  cases position with
  | reference name => rw [elementShape, elementShape, ofReference_of_schemas same]
  | inline schema => rfl

private theorem mapShape_of_schemas : mapShape d = mapShape d' := by
  funext inner value
  rw [mapShape, mapShape, valueChain_of_schemas same, elementShape_of_schemas same]

private theorem inlineType_of_schemas : inlineType d = inlineType d' := by
  funext room
  induction room with
  | zero => rfl
  | succ room ih =>
    funext schema required
    simp only [inlineType, ih, elementShape_of_schemas same, mapShape_of_schemas same]

private theorem roomFor_of_schemas : roomFor d = roomFor d' := by
  funext position
  rw [roomFor, roomFor, same]

private theorem resolve_of_schemas : resolve d = resolve d' := by
  funext position required
  rw [resolve, resolve, roomFor_of_schemas same]
  cases position with
  | reference name => rw [resolveWithin, resolveWithin, ofReference_of_schemas same]
  | inline schema => rw [resolveWithin, resolveWithin, inlineType_of_schemas same]

end Resolution

namespace Extension

private theorem isPage_of_schemas : isPage d = isPage d' := by
  have within (depth : Nat) : isPageWithin d depth = isPageWithin d' depth := by
    induction depth with
    | zero => rfl
    | succ depth ih =>
      funext schema
      simp only [isPageWithin, ih, Document.resolve_of_schemas same]
  funext schema
  rw [isPage, isPage, within]

private theorem contentItem_of_schemas : contentItem d = contentItem d' := by
  funext schema
  simp only [contentItem, Document.resolve_of_schemas same]

private theorem firstContentItem_of_schemas : firstContentItem d = firstContentItem d' := by
  funext schemas
  induction schemas with
  | nil => rfl
  | cons schema schemas ih =>
    rw [firstContentItem, firstContentItem, contentItem_of_schemas same, ih]

private theorem pageEnvelope_of_schemas : pageEnvelope d = pageEnvelope d' := by
  funext position
  rw [pageEnvelope, pageEnvelope, Document.resolve_of_schemas same, isPage_of_schemas same,
    firstContentItem_of_schemas same]

end Extension

private theorem ValueKind.ofSchema_of_schemas : ofSchema d = ofSchema d' := by
  funext position
  cases position with
  | none => rfl
  | some position => rw [ofSchema, ofSchema, Document.resolve_of_schemas same]

namespace ParameterPlan

private theorem spec_of_schemas : spec d = spec d' := by
  funext operation done scope p
  rw [spec, spec, ValueKind.ofSchema_of_schemas same]

private theorem specsAfter_of_schemas : specsAfter d = specsAfter d' := by
  funext operation done declared
  induction declared generalizing done with
  | nil => rfl
  | cons declared rest ih =>
    obtain ⟨scope, p⟩ := declared
    simp only [specsAfter, spec_of_schemas same, ih]

private theorem plan_of_schemas : plan d = plan d' := by
  funext operation path pathLevel operationLevel paged
  rw [plan, plan, specsAfter_of_schemas same]

end ParameterPlan

namespace Record

private theorem declaredField_of_schemas : declaredField d = declaredField d' := by
  funext owner xmlBound declaration
  cases declaration with
  | component name => rw [declaredField, declaredField, Document.schema?_of_schemas same]
  | property holder name position =>
    rw [declaredField, declaredField, field, field, Resolution.resolve_of_schemas same]

private theorem putDeclared_of_schemas : putDeclared d = putDeclared d' := by
  funext owner xmlBound fields declarations
  induction declarations generalizing fields with
  | nil => rfl
  | cons declaration rest ih =>
    simp only [putDeclared, declaredField_of_schemas same, ih]

private theorem ofSchema_of_schemas : ofSchema d = ofSchema d' := by
  funext name schema
  rw [ofSchema, ofSchema, Resolution.resolve_of_schemas same, putDeclared_of_schemas same]

end Record

namespace DataTypes

private theorem emitted_of_schemas (c : Context) : emitted d c = emitted d' c := by
  funext name schema
  rw [emitted, emitted, Extension.isPage_of_schemas same, Record.ofSchema_of_schemas same]

private theorem ofDocument_of_schemas (c : Context) : ofDocument d c = ofDocument d' c := by
  have added (types : DataTypes) (schemas : Keyed Schema) :
      addSchemas d c types schemas = addSchemas d' c types schemas := by
    induction schemas generalizing types with
    | nil => rfl
    | cons entry rest ih =>
      obtain ⟨name, schema⟩ := entry
      simp only [addSchemas, emitted_of_schemas same, ih]
  rw [ofDocument, ofDocument, added, same]

end DataTypes

private theorem ErrorCatalog.ofDocument_of_schemas (extensions : d.extensions = d'.extensions) :
    ofDocument d = ofDocument d' := by
  have known : knownCodes d = knownCodes d' := by
    rw [knownCodes, knownCodes, Document.schema?_of_schemas same, Document.resolve_of_schemas same]
  rw [ofDocument, ofDocument, Extension.errorDeclarations, Extension.errorDeclarations, extensions,
    known]

end

/-! ## Operations that are alike -/

namespace ParameterPlan

private theorem kept_inAddress (paged : Bool) (declared : List Parameter) :
    kept paged (Parameter.inAddress declared) = kept paged declared := by
  rw [kept, kept, Parameter.inAddress, List.filterMap_filter]
  congr 1
  funext p
  cases location : p.location <;> simp [Parameter.isInAddress, scope?, location]

private theorem plan_of_inAddress {d : Document} {shared shared' own own' : List Parameter}
    (hs : Parameter.inAddress shared = Parameter.inAddress shared')
    (ho : Parameter.inAddress own = Parameter.inAddress own') (operation path : String)
    (paged : Bool) :
    plan d operation path shared own paged = plan d operation path shared' own' paged := by
  have all : Parameter.inAddress (own ++ shared) = Parameter.inAddress (own' ++ shared') := by
    rw [Parameter.inAddress, Parameter.inAddress, List.filter_append, List.filter_append]
    exact congrArg₂ (· ++ ·) ho hs
  have read : kept paged (own ++ shared) = kept paged (own' ++ shared') := by
    rw [← kept_inAddress, all, kept_inAddress]
  rw [plan, plan, read]

end ParameterPlan

namespace Endpoint

private theorem customHandler_of_saysCustom {method : Method} {path : String} {o : Operation}
    {directives : Directives} (custom : o.SaysCustom)
    (h : Extension.directives method path o.extensions = .ok directives) :
    directives.customHandler = true := by
  obtain ⟨value, tree, found, hasTree, decodes⟩ := Extension.decoded_of_directives h
  obtain ⟨value', tree', _, _, found', hasTree', decodes'⟩ := custom
  cases found.symm.trans found'
  cases hasTree.symm.trans hasTree'
  have same := decodes.symm.trans decodes'
  simp only [Option.some.injEq, Prod.mk.injEq] at same
  exact same.2.1

private theorem ofOperation_of_alike {d d' : Document} (same : d.schemas = d'.schemas)
    {shared shared' : List Parameter} {o o' : Operation}
    (hs : Parameter.inAddress shared = Parameter.inAddress shared') (h : o.Alike o')
    (path : String) (method : Method) :
    ofOperation d path shared method o = ofOperation d' path shared' method o' := by
  have shape : responseShape d = responseShape d' := by
    funext label response
    rw [responseShape, responseShape, Extension.pageEnvelope_of_schemas same,
      Resolution.resolve_of_schemas same]
  have request : requestShape d = requestShape d' := by
    funext label body
    cases body with
    | none => rfl
    | some body => simp only [requestShape, Resolution.resolve_of_schemas same]
  have id : declaredId method path o = declaredId method path o' := by
    rw [declaredId, declaredId, h.operationId]
  simp only [ofOperation, shape, request, id, ← h.responses, ← h.extensions,
    ParameterPlan.plan_of_schemas same]
  cases found : Extension.directives method path o.extensions with
  | error failure => rfl
  | ok directives =>
    rcases h.request with custom | ⟨parameters, body⟩
    · have custom := customHandler_of_saysCustom custom found
      show (pure directives >>= _ : Diagnosed Endpoint) = pure directives >>= _
      simp only [pure_bind, custom, if_true]
    · simp only [← body, ParameterPlan.plan_of_inAddress hs parameters]

private theorem operations_of_alike {d d' : Document} (h : d.Alike d') :
    List.Forall₂ (fun (path, shared, method, o) (path', shared', method', o') =>
        path = path' ∧ Parameter.inAddress shared = Parameter.inAddress shared' ∧
          method = method' ∧ o.Alike o')
      (operations d) (operations d') := by
  refine List.rel_flatMap h.paths ?_
  intro (path, item) (path', item') ⟨samePath, alike⟩
  refine List.rel_map ?_ alike.operations
  intro (method, o) (method', o') ⟨sameMethod, alikeOperations⟩
  exact ⟨samePath, alike.parameters, sameMethod, alikeOperations⟩

private theorem endpoints_of_alike {d d' : Document} (h : d.Alike d') :
    ofDocument d = ofDocument d' := by
  refine Outcome.mapM_congr ((operations_of_alike h).imp ?_)
  intro (path, shared, method, o) (path', shared', method', o') same
  obtain ⟨samePath, params, sameMethod, alike⟩ := same
  cases samePath
  cases sameMethod
  exact ofOperation_of_alike h.schemas params alike path method

end Endpoint

/-- What is not read has no part in a service, in its failure or in any warning. -/
theorem Service.ofDocument_of_alike {d d' : Document} (h : d.Alike d') (c : Context) :
    Service.ofDocument d c = Service.ofDocument d' c := by
  rw [Service.ofDocument, Service.ofDocument, DataTypes.ofDocument_of_schemas h.schemas,
    Endpoint.endpoints_of_alike h, ErrorCatalog.ofDocument_of_schemas h.schemas h.extensions]

def placedParameter (place name : String) : Json :=
  let target := if place = "path" then "Number" else "Nothing"
  .object [("in", .string place), ("name", .string name), ("required", .bool true),
    ("schema", Description.referenceTo target)]

/-- A ticket that is shown by a generated handler and printed by a custom one. -/
def printerDescription (cookies headers : List Json) (printing : List (String × Json)) : Json :=
  Description.assemble
    [("Number", .object [("enum", .array [.string "ONE"]), ("type", .string "string")])]
    [("/tickets/\x7bid\x7d", .object [
      ("get", Description.generatedOperation "showTicket" "ticket"
        [("parameters", .array headers)]),
      ("parameters", .array (cookies ++ [placedParameter "path" "id"])),
      ("post", .object (printing ++ [
        ("operationId", .string "printTicket"), ("responses", .object [("200", .object [])]),
        ("x-generated", .object [
          ("customHandler", .bool true), ("package", .string "printer")])]))])] []

/-- A header and a cookie share the name of the parameter in the path, and their schemas are not
there. What the custom handler is sent is no JSON and has a parameter twice. -/
theorem Service.ofDocument_of_alike_printer :
    ∃ d d' c s,
      Description.read (printerDescription [placedParameter "cookie" "id"]
        [placedParameter "header" "id"]
        [("parameters",
            .array [placedParameter "query" "copies", placedParameter "query" "copies"]),
          ("requestBody", .object [("content", .object [("application/pdf", .object [])])])]) =
        .ok d ∧
      Description.read (printerDescription [] [] []) = .ok d' ∧ d.Alike d' ∧
      Service.ofDocument d c = Service.ofDocument d' c ∧ (Service.ofDocument d' c).result = .ok s ∧
      s.endpoints.map (fun e => (e.operationId, e.params.path.map (·.name), e.customHandler)) =
        [("showTicket", ["id"], false), ("printTicket", [], true)] := by
  have alike : ∃ d d' s,
      Description.read (printerDescription [placedParameter "cookie" "id"]
        [placedParameter "header" "id"]
        [("parameters",
            .array [placedParameter "query" "copies", placedParameter "query" "copies"]),
          ("requestBody", .object [("content", .object [("application/pdf", .object [])])])]) =
        .ok d ∧
      Description.read (printerDescription [] [] []) = .ok d' ∧ d.Alike d' ∧
      (Service.ofDocument d' ⟨.go, "example.com/queue", [], ⟨"", "", "", ""⟩⟩).result = .ok s ∧
      s.endpoints.map (fun e => (e.operationId, e.params.path.map (·.name), e.customHandler)) =
        [("showTicket", ["id"], false), ("printTicket", [], true)] := by
    refine ⟨_, _, _, rfl, rfl, ?_, rfl, rfl⟩
    refine
      { version := rfl
        info := rfl
        paths := .cons ⟨rfl, rfl, ?_⟩ .nil
        schemas := rfl
        extensions := rfl }
    refine .cons ⟨rfl, rfl, rfl, rfl, rfl, rfl, .inr ⟨rfl, rfl⟩⟩ (.cons ⟨rfl, ?_⟩ .nil)
    exact ⟨rfl, rfl, rfl, rfl, rfl, .inl ⟨_, _, _, _, rfl, rfl, rfl⟩⟩
  obtain ⟨d, d', s, read, read', alike, compiled, endpoints⟩ := alike
  exact ⟨d, d', _, s, read, read', alike, ofDocument_of_alike alike _, compiled, endpoints⟩

end ApiScaffold
