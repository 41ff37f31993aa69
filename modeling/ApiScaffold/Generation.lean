import ApiScaffold.Artifact
import ApiScaffold.Go.Source
/-!
# Generation

From a description to the files of its service. The layout is fixed: data types by group, one
package for each enumeration, one for each package of handlers, the route table, and the errors.
-/
namespace ApiScaffold

namespace Generation

open ApiScaffold.Go

def file (path content : String) : Artifact := ⟨path, content, none⟩

def groupPath (name : String) : String := "internal/data/dto/" ++ name ++ ".go"

def enumPath (package : String) : String :=
  "internal/data/dto/" ++ package ++ "/" ++ package ++ ".go"

def handlerPath (package : String) : String :=
  "internal/rest/handler/" ++ package ++ "/generated.go"

/-- The files of a service, in the order in which they are written out. -/
def render (s : Service) : Except Failure (List Artifact) := do
  let handlers ← s.handlers.packages.mapM fun p => do
    let view ← HandlerPackageView.ofPackage s.module p
    return file (handlerPath p.name) (handlerPackageText s.module view)
  return [file "internal/data/dto/generated.go" timeTypes] ++
    s.types.groups.map (fun g => file (groupPath g.name) (groupText (.ofGroup s.module g))) ++
    s.types.enums.map
      (fun e => file (enumPath e.package) (enumText s.module (.ofEnumeration e))) ++
    handlers ++
    [file "internal/rest/register/generated.go" (registerText (.ofTable s.module s.routes))] ++
    match s.errors with
    | some catalog =>
      [file "internal/errors/custom_generated.go" (errorsText (.ofCatalog catalog))]
    | none => []

/-- Every path once, in order. -/
def arrange (artifacts : List Artifact) : Except Failure (List Artifact) :=
  let sorted := Artifact.sortByPath artifacts
  match Artifact.firstRepeated [] sorted with
  | some a => .error (.unrenderable (.renderedTwice a.path))
  | none => .ok sorted

/-- The finished files of a description. -/
def generate (d : Document) (c : Context) : Diagnosed (List Artifact) := do
  c.validate
  let service ← Service.ofDocument d c
  let artifacts ← render service
  arrange (artifacts.map (Artifact.tidy c.language.extension))

end Generation

end ApiScaffold
