import ApiScaffold.Model.Endpoint
/-!
# Routes

The table of routes has two parts: routes that are free to anyone, and routes that ask for an
authorization. Both keep the order of the endpoints.
-/
namespace ApiScaffold

structure Route where
  method : Method
  path : String
  package : String
  handler : String
  paged : Bool
  deriving DecidableEq

structure RouteTable where
  free : List Route
  guarded : List Route
  packages : Texts
  deriving DecidableEq

def Route.ofEndpoint (e : Endpoint) : Route where
  method := e.method
  path := e.path
  package := e.package
  handler := Naming.exported e.operationId
  paged := e.isPaged

namespace RouteTable

def ofEndpoints (endpoints : List Endpoint) : RouteTable where
  free := (endpoints.filter (·.visibility = .free)).map Route.ofEndpoint
  guarded := (endpoints.filter (·.visibility = .guarded)).map Route.ofEndpoint
  packages := Texts.ofList (endpoints.map (·.package))

def needsAuthorization (t : RouteTable) : Bool := !t.guarded.isEmpty

def needsPaging (t : RouteTable) : Bool := (t.free ++ t.guarded).any (·.paged)

def isEmpty (t : RouteTable) : Bool := t.free.isEmpty && t.guarded.isEmpty

end RouteTable

end ApiScaffold
