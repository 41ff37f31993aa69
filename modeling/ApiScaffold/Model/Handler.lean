import ApiScaffold.Model.Endpoint
/-!
# Handlers

What the handler of an endpoint does: take the parameters, decode the body, call the service, and
write the answer. Handlers are grouped by package; endpoints with a custom handler get none.
-/
namespace ApiScaffold

/-- How a body is decoded. Records are validated, those of a list one by one. -/
inductive BodyDecode where
  | record (name : String)
  | recordList (name : String)
  | value (type : ResolvedType)
  deriving DecidableEq

inductive CallArgument where
  | context
  | body
  | param (ident : String)
  | page
  | size
  | sort
  deriving DecidableEq

inductive ResponseWrite where
  | json (status : Nat)
  | page (status : Nat)
  | status (status : Nat)
  deriving DecidableEq

/-- The plan of a handler. The method is named alike in the handler and in the service. -/
structure HandlerPlan where
  method : String
  operationId : String
  route : String
  extractions : List Extraction
  body : Option BodyDecode
  arguments : List CallArgument
  response : ResponseWrite
  deriving DecidableEq

structure HandlerPackage where
  name : String
  handlers : List HandlerPlan
  deriving DecidableEq

namespace HandlerPackage

def decodesBody (p : HandlerPackage) : Bool := p.handlers.any (·.body.isSome)

def hasParams (p : HandlerPackage) : Bool := p.handlers.any (!·.extractions.isEmpty)

/-- Adds a handler to the package of that name. Packages stand in the order of their names. -/
def insert (name : String) (plan : HandlerPlan) : List HandlerPackage → List HandlerPackage
  | [] => [⟨name, [plan]⟩]
  | p :: rest =>
    if name = p.name then ⟨p.name, p.handlers ++ [plan]⟩ :: rest
    else if name < p.name then ⟨name, [plan]⟩ :: p :: rest
    else p :: insert name plan rest

end HandlerPackage

namespace HandlerPlan

def bodyOf : RequestShape → Option BodyDecode
  | .empty => none
  | .record name => some (.record name)
  | .recordList name => some (.recordList name)
  | .value type => some (.value type)

def argumentsOf (e : Endpoint) (extractions : List Extraction) : List CallArgument :=
  [.context] ++ (if (bodyOf e.request).isSome then [.body] else []) ++
    extractions.map (fun x => .param x.param.ident) ++
    (if e.isPaged then [.page, .size, .sort] else [])

def writeOf (e : Endpoint) : ResponseWrite :=
  match e.response with
  | .paged _ => .page e.status
  | .empty => .status e.status
  | _ => .json e.status

def ofEndpoint (e : Endpoint) : Diagnosed HandlerPlan := do
  let extractions ← Extraction.ofPlan e.label e.params
  return {
    method := Naming.exported e.operationId
    operationId := e.operationId
    route := e.label
    extractions
    body := bodyOf e.request
    arguments := argumentsOf e extractions
    response := writeOf e }

end HandlerPlan

/-- The handlers of a service, and the packages that have to be constructed for its routes. -/
structure Handlers where
  packages : List HandlerPackage
  constructed : Texts
  deriving DecidableEq

namespace Handlers

def add (handlers : Handlers) (e : Endpoint) : Diagnosed Handlers := do
  let constructed := Texts.insert e.package handlers.constructed
  if e.customHandler then return ⟨handlers.packages, constructed⟩
  else
    let plan ← HandlerPlan.ofEndpoint e
    return ⟨HandlerPackage.insert e.package plan handlers.packages, constructed⟩

def ofEndpoints (endpoints : List Endpoint) : Diagnosed Handlers :=
  endpoints.foldlM add ⟨[], []⟩

end Handlers

end ApiScaffold
