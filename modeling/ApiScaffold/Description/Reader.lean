import ApiScaffold.Description.Document
import ApiScaffold.Description.SchemaReader
/-!
# Reading descriptions

A JSON value becomes a document. Shared parameters, bodies, responses and path items are put in
the place of the references to them. The first fault ends the reading.
-/
namespace ApiScaffold.Description

/-- What reading needs to know of the whole description: its value, and how many schemas may
stand inside one another. -/
structure Source where
  root : Json
  room : Nat

/-- Schemas that stand inside one another more often than there are values repeat themselves. -/
def Source.of (root : Json) : Source := ⟨root, root.nodes.length⟩

namespace Source

/-- Reads a schema position. One that has no end is reported as it is given. -/
def position (src : Source) (node : Json) : Except Failure SchemaRef :=
  match readPosition src.root (readSchema src.root src.room) node with
  | .error (.endlessSchema _) => .error (.endlessSchema node)
  | result => result

/-- The schema position under the key `schema`, if there is one. -/
def schemaUnder (src : Source) (node : Json) : Except Failure (Option SchemaRef) :=
  readOptional src.position (node.get? "schema")

def location (name : String) : Option String → Except Failure ParameterLocation
  | some "path" => .ok .path
  | some "query" => .ok .query
  | some "header" => .ok .header
  | some "cookie" => .ok .cookie
  | given => .error (.invalidDescription none (.unknownLocation given name))

def isSet (key : String) (node : Json) : Bool := ((node.get? key).bind Json.asBool?).getD false

def parameter (src : Source) (node : Json) : Except Failure Parameter := do
  let node ← follow src.root node
  let some name := node.text? "name"
    | throw (.invalidDescription none .unnamedParameter)
  let location ← location name (node.text? "in")
  let schema ← src.schemaUnder node
  return ⟨name, location, isSet "required" node, schema, node.text? "description"⟩

/-- The parameters of a path item or an operation. -/
def parameters (src : Source) (node : Json) : Except Failure (List Parameter) :=
  match node.get? "parameters" with
  | some (.array nodes) => nodes.mapM src.parameter
  | _ => .ok []

def content (src : Source) (node : Json) : Except Failure (Keyed MediaType) :=
  match node.get? "content" with
  | some (.object types) => mapMembers (fun media => (src.schemaUnder media).map .mk) types
  | _ => .ok []

def requestBody (src : Source) (node : Json) : Except Failure RequestBody := do
  let node ← follow src.root node
  return ⟨isSet "required" node, ← src.content node⟩

def response (src : Source) (node : Json) : Except Failure Response := do
  let node ← follow src.root node
  return ⟨node.text? "description", ← src.content node⟩

def operation (src : Source) (members : Keyed Json) : Except Failure Operation := do
  let node := Json.object members
  let parameters ← src.parameters node
  let requestBody ← readOptional src.requestBody (node.get? "requestBody")
  let responses ← match node.get? "responses" with
    | some (.object responses) => mapMembers src.response responses
    | _ => .ok []
  return {
    operationId := node.text? "operationId"
    summary := node.text? "summary"
    description := node.text? "description"
    parameters
    requestBody
    responses
    extensions := extensionsOf members }

/-- Names the operation in a fault found inside it. -/
def inOperation (label : String) : Failure → Failure
  | .invalidDescription none fault => .invalidDescription (some label) fault
  | failure => failure

/-- The operations that a path item declares: the methods whose value is an object. -/
def declared (item : Json) : List (Method × Keyed Json) :=
  Method.all.filterMap fun method =>
    ((item.get? method.key).bind Json.asObject?).map (method, ·)

def pathItem (src : Source) (path : String) (node : Json) : Except Failure PathItem := do
  let item ← follow src.root node
  let parameters ← src.parameters item
  let operations ← (declared item).mapM fun (method, members) =>
    ((src.operation members).mapError (inOperation (method.label path))).map (method, ·)
  return ⟨parameters, operations⟩

def paths (src : Source) : Except Failure (Keyed PathItem) :=
  match src.root.get? "paths" with
  | some (.object paths) =>
    paths.mapM fun (path, node) => (src.pathItem path node).map (path, ·)
  | _ => .error (.invalidDescription none .missingPaths)

/-- A component that is only a reference to another is composed of that one. -/
def component (src : Source) (node : Json) : Except Failure Schema := do
  match ← src.position node with
  | .inline schema => return schema
  | .reference name => return { Schema.empty with allOf := [.reference name] }

def schemas (src : Source) : Except Failure (Keyed Schema) :=
  match (src.root.get? "components").bind (·.get? "schemas") with
  | some (.object schemas) => mapMembers src.component schemas
  | _ => .ok []

def version (src : Source) : Except Failure String :=
  match src.root.text? "openapi" with
  | none => .error (.invalidDescription none .missingVersion)
  | some version =>
    if version.toList.head? = some '3' then .ok version
    else .error (.invalidDescription none (.unsupportedVersion version))

def info (src : Source) : Except Failure Info := do
  let info := src.root.get? "info"
  let some title := info.bind (·.text? "title")
    | throw (.invalidDescription none .missingTitle)
  let some version := info.bind (·.text? "version")
    | throw (.invalidDescription none .missingInfoVersion)
  return ⟨title, version, info.bind (·.text? "description")⟩

def document (src : Source) : Except Failure Document := do
  let version ← src.version
  let info ← src.info
  let paths ← src.paths
  let schemas ← src.schemas
  return ⟨version, info, paths, schemas, extensionsOf (src.root.asObject?.getD [])⟩

end Source

/-- Reads the value of a description. -/
def read (root : Json) : Except Failure Document := (Source.of root).document

end ApiScaffold.Description
