import ApiScaffold.Description.Document
import ApiScaffold.Json.Shape
import ApiScaffold.Text.Blank
/-!
# Extensions

Directives for the generator stand in members whose names start with `x-`: the package of an
operation, the group and rules of a schema, the paging marker, the module path and the errors of
the service. An extension with fields may be given in place or as a text that holds JSON.
-/
namespace ApiScaffold

open ApiScaffold.Json (Tree Given fields?)
open ApiScaffold.Text

/-- What `x-generated` says about an operation. -/
structure Directives where
  package : String
  customHandler : Bool
  isPublic : Bool
  deriving DecidableEq

/-- An entry of `x-errors`. -/
structure ErrorDeclaration where
  message : String
  httpCode : Nat
  hasValues : Bool
  description : Option String
  deriving DecidableEq

namespace Extension

/-- The tree of an extension with fields: its own, or the one that its text holds. -/
def tree? : Json → Option Tree
  | .string raw => Tree.read? raw
  | value => some value.toTree

/-- Decodes an extension with fields, if there is one of that name. -/
def decode {α : Type} (owner name : String) (decoder : Tree → Option α)
    (extensions : Keyed Json) : Except Failure (Option α) :=
  match Keyed.get? name extensions with
  | none => .ok none
  | some value =>
    match (tree? value).bind decoder with
    | some decoded => .ok (some decoded)
    | none => .error (.invalidExtension owner name .undecodable)

/-- The module path of `x-configuration`. -/
def module (d : Document) : Except Failure String := do
  let decoder (tree : Tree) : Option (Option String) := do
    match ← fields? ["module"] tree with
    | [module] => module.optionalText?
    | _ => none
  match ← decode "document" "x-configuration" decoder d.extensions with
  | none => throw (.missingModule .unconfigured)
  | some none => throw (.missingModule .undefined)
  | some (some module) =>
    if blankText module then throw (.missingModule .undefined) else return module

/-- The group of a schema, if it has one. -/
def group (name : String) (schema : Schema) : Except Failure (Option String) :=
  match Keyed.get? "x-group" schema.extensions with
  | none | some .null => .ok none
  | some (.string group) =>
    if blankText group then .error (.invalidExtension name "x-group" (.notAGroup (.string group)))
    else .ok (some group)
  | some other => .error (.invalidExtension name "x-group" (.notAGroup other))

def token (owner : String) : Json → Except Failure String
  | .string token => .ok token
  | other => .error (.invalidExtension owner "x-validate" (.tokenNotText other))

/-- The validation rules of a schema in their order: a list of texts, or a text that separates
them by commas. -/
def validationTokens (owner : String) (schema : Schema) : Except Failure (List String) := do
  let tokens ← match Keyed.get? "x-validate" schema.extensions with
    | none | some .null => .ok []
    | some (.string raw) => .ok ((splitBy (· = ',') raw.toList).map String.ofList)
    | some (.array tokens) => tokens.mapM (token owner)
    | some other => .error (.invalidExtension owner "x-validate" (.notATokenList other))
  return (tokens.map trimText).filter (· ≠ "")

def isPackageChar (c : Char) : Bool := c.isLower || c.isDigit || c = '_'

/-- The fields of `x-generated`: the package, whether the handler is a custom one, and whether
the operation is public. -/
def generated? (tree : Tree) : Option (Option String × Bool × Bool) := do
  match ← fields? ["package", "customHandler", "isPublic"] tree with
  | [package, customHandler, isPublic] =>
    some (← package.optionalText?, ← customHandler.flag?, ← isPublic.flag?)
  | _ => none

/-- The directives of an operation. A package is required. -/
def directives (method : Method) (path : String) (extensions : Keyed Json) :
    Except Failure Directives := do
  let owner := method.label path
  match ← decode owner "x-generated" generated? extensions with
  | some (some package, customHandler, isPublic) =>
    if blankText package then throw (.missingPackage method.upper path)
    else if package.toList.all isPackageChar then return ⟨package, customHandler, isPublic⟩
    else throw (.invalidExtension owner "x-generated" (.packageName package))
  | _ => throw (.missingPackage method.upper path)

/-- Schemas composed more deeply are not searched for a paging marker. -/
def pageDepth : Nat := 8

def pageMarker (schema : Schema) : Except Failure Bool :=
  match Keyed.get? "x-page" schema.extensions with
  | none | some .null => .ok false
  | some (.bool marked) => .ok marked
  | some other => .error (.invalidExtension "schema" "x-page" (.notABoolean other))

/-- Looks for the paging marker on up to `depth` schemas, each the first part of the one
before. -/
def isPageWithin (d : Document) : Nat → Schema → Except Failure Bool
  | 0, _ => .ok false
  | depth + 1, schema => do
    if ← pageMarker schema then return true
    match schema.allOf with
    | [] => return false
    | first :: _ => isPageWithin d depth (← d.resolve first)

def isPage (d : Document) (schema : Schema) : Except Failure Bool :=
  isPageWithin d pageDepth schema

/-- The component that the items of `content` refer to, if the schema says so. -/
def contentItem (d : Document) (schema : Schema) : Except Failure (Option String) :=
  match Keyed.get? "content" schema.properties with
  | none => .ok none
  | some content => do return ((← d.resolve content).items).bind SchemaRefOf.reference?

def firstContentItem (d : Document) : List Schema → Except Failure (Option String)
  | [] => .ok none
  | schema :: schemas => do
    match ← contentItem d schema with
    | some item => return some item
    | none => firstContentItem d schemas

/-- If the position holds a paging envelope, the component of its items, which it may fail to
name. -/
def pageEnvelope (d : Document) (position : SchemaRef) :
    Except Failure (Option (Option String)) := do
  let schema ← d.resolve position
  if ← isPage d schema then
    let parts ← schema.allOf.mapM d.resolve
    return some (← firstContentItem d (schema :: parts))
  else return none

def errorDeclaration? (tree : Tree) : Option ErrorDeclaration := do
  match ← fields? ["message", "httpCode", "hasValues", "description"] tree with
  | [message, httpCode, hasValues, description] =>
    some ⟨← message.text?, ← httpCode.word?, ← hasValues.flag?, ← description.optionalText?⟩
  | _ => none

def errorTable? : Tree → Option (Keyed ErrorDeclaration)
  | .object members => do
    return Keyed.ofList (← members.mapM fun (code, tree) => do
      return (← code, ← errorDeclaration? tree))
  | _ => none

/-- The errors that the service declares, by code. -/
def errorDeclarations (d : Document) : Except Failure (Keyed ErrorDeclaration) := do
  return (← decode "document" "x-errors" errorTable? d.extensions).getD []

end Extension

end ApiScaffold
