import ApiScaffold.Description.Extension
import ApiScaffold.Model.Parameter
import ApiScaffold.Model.Resolution
/-!
# Endpoints

An operation with everything that its handler needs: the package, who may call it, the status of
success, and the shapes of its bodies.
-/
namespace ApiScaffold

open ApiScaffold.Text

inductive Visibility where
  | free
  | guarded
  deriving DecidableEq

inductive ResponseShape where
  | paged (item : String)
  | recordList (name : String)
  | list (type : ResolvedType)
  | record (name : String)
  | value (type : ResolvedType)
  | empty
  deriving DecidableEq

def ResponseShape.isPaged : ResponseShape → Bool
  | .paged _ => true
  | _ => false

inductive RequestShape where
  | empty
  | record (name : String)
  | recordList (name : String)
  | value (type : ResolvedType)
  deriving DecidableEq

structure Endpoint where
  method : Method
  path : String
  visibility : Visibility
  package : String
  operationId : String
  customHandler : Bool
  response : ResponseShape
  request : RequestShape
  params : ParameterPlan
  status : Nat
  deriving DecidableEq

namespace Endpoint

def isPaged (e : Endpoint) : Bool := e.response.isPaged

def label (e : Endpoint) : String := e.method.label e.path

/-- The content types of JSON bodies, the preferred one first. -/
def jsonTypes : List String := ["application/json", "application/json;charset=UTF-8"]

def jsonBody? (content : Keyed MediaType) : Option MediaType :=
  jsonTypes.findSome? (Keyed.get? · content)

/-- The number of a status code of success: digits with an optional plus sign. -/
def success? (code : String) : Option Nat :=
  let digits := match code.toList with
    | '+' :: rest => rest
    | all => all
  if digits.isEmpty || !digits.all Char.isDigit then none
  else
    let n := digits.foldl (fun n c => n * 10 + (c.toNat - '0'.toNat)) 0
    if 200 ≤ n && n < 300 then some n else none

/-- Puts a response before the first one of a higher status. -/
def insertByStatus (entry : Nat × Response) : List (Nat × Response) → List (Nat × Response)
  | [] => [entry]
  | other :: rest =>
    if entry.1 < other.1 then entry :: other :: rest else other :: insertByStatus entry rest

/-- The responses of success in the order of their status, those of one status as declared. -/
def successes (responses : Keyed Response) : List (Nat × Response) :=
  (responses.filterMap fun (code, response) => (success? code).map (·, response)).foldl
    (fun done entry => insertByStatus entry done) []

/-- The response of success with the lowest status. -/
def success (label : String) (responses : Keyed Response) : Diagnosed (Nat × Response) := do
  let found := successes responses
  if 1 < found.length then .warn (.severalSuccesses label (found.map (·.1)))
  match found with
  | first :: _ => return first
  | [] => .fail (.missingStatus label)

def responseOf (type : ResolvedType) : ResponseShape :=
  match type.shape with
  | .list (.reference name) => .recordList name
  | .list _ => .list type
  | .reference name => .record name
  | _ => .value type

def responseShape (d : Document) (label : String) (response : Response) :
    Diagnosed ResponseShape := do
  match jsonBody? response.content with
  | none =>
    match response.content with
    | (contentType, _) :: _ => .warn (.bodyNotJson label contentType)
    | [] => pure ()
    return .empty
  | some ⟨none⟩ => return .empty
  | some ⟨some position⟩ =>
    match ← Extension.pageEnvelope d position with
    | some (some item) => return .paged item
    | some none => .fail (.unresolvable label .pageWithoutItem)
    | none => return responseOf (← Resolution.resolve d position true)

def requestOf (type : ResolvedType) : RequestShape :=
  match type.shape with
  | .reference name => .record name
  | .list (.reference name) => .recordList name
  | _ => .value type

def requestShape (d : Document) (label : String) : Option RequestBody → Diagnosed RequestShape
  | none => return .empty
  | some body =>
    match jsonBody? body.content with
    | none =>
      match body.content with
      | (contentType, _) :: _ => .fail (.unsupportedContentType label contentType)
      | [] => return .empty
    | some ⟨none⟩ => return .empty
    | some ⟨some position⟩ => do return requestOf (← Resolution.resolve d position true)

def declaredId (method : Method) (path : String) (operation : Operation) :
    Except Failure String :=
  match operation.operationId with
  | some id => if blankText id then .error (.missingOperationId method.upper path) else .ok id
  | none => .error (.missingOperationId method.upper path)

/-- The endpoint of an operation. A custom handler reads the request by itself. -/
def ofOperation (d : Document) (path : String) (shared : List Parameter) (method : Method)
    (operation : Operation) : Diagnosed Endpoint := do
  let label := method.label path
  let directives ← Extension.directives method path operation.extensions
  let id ← declaredId method path operation
  let (status, response) ← success label operation.responses
  let response ← responseShape d label response
  let (request, params) ←
    if directives.customHandler then pure (RequestShape.empty, ParameterPlan.mk [] [])
    else do
      let request ← requestShape d label operation.requestBody
      let params ←
        ParameterPlan.plan d label path shared operation.parameters response.isPaged
      pure (request, params)
  return {
    method
    path
    visibility := if directives.isPublic then .free else .guarded
    package := directives.package
    operationId := id
    customHandler := directives.customHandler
    response
    request
    params
    status }

/-- The operations of a document by path and method. -/
def operations (d : Document) : List (String × List Parameter × Method × Operation) :=
  d.paths.flatMap fun (path, item) =>
    item.operations.map fun (method, operation) => (path, item.parameters, method, operation)

/-- The endpoints of a document. The first operation that is not sound ends the run. -/
def ofDocument (d : Document) : Diagnosed (List Endpoint) :=
  (operations d).mapM fun (path, shared, method, operation) =>
    ofOperation d path shared method operation

end Endpoint

end ApiScaffold
