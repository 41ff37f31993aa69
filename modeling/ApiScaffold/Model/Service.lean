import ApiScaffold.Model.ErrorCatalog
import ApiScaffold.Model.Handler
import ApiScaffold.Model.Record
import ApiScaffold.Model.Route
/-!
# Services

Everything that the sources of a service are written from.
-/
namespace ApiScaffold

structure Service where
  module : String
  types : DataTypes
  endpoints : List Endpoint
  handlers : Handlers
  routes : RouteTable
  errors : Option ErrorCatalog
  deriving DecidableEq

/-- Compiles a description. The first failure ends the run. -/
def Service.ofDocument (d : Document) (c : Context) : Diagnosed Service := do
  let types ← DataTypes.ofDocument d c
  let endpoints ← Endpoint.ofDocument d
  let handlers ← Handlers.ofEndpoints endpoints
  let errors ← ErrorCatalog.ofDocument d
  return ⟨c.module, types, endpoints, handlers, .ofEndpoints endpoints, errors⟩

end ApiScaffold
