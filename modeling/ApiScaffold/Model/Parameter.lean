import ApiScaffold.Description.Document
import ApiScaffold.Diagnosed
import ApiScaffold.Model.ResolvedType
import ApiScaffold.Naming
import ApiScaffold.Text.Quoted
/-!
# Parameters

The parameters of an operation come from the operation and from its path. Headers and cookies do
not take part, and neither do the parameters that a paged operation leaves to paging.
-/
namespace ApiScaffold

open ApiScaffold.Text

inductive ParamScope where
  | path
  | query
  deriving DecidableEq, Inhabited

/-- The kinds of values that can be taken from a request, and anything else by its type and
format. -/
inductive ValueKind where
  | string
  | int32
  | int64
  | boolean
  | date
  | dateTime
  | stringArray
  | int32Array
  | int64Array
  | unsupported (descriptor : String)
  deriving DecidableEq, Inhabited

namespace ValueKind

def isArray : ValueKind → Bool
  | stringArray | int32Array | int64Array => true
  | _ => false

def display : ValueKind → String
  | string => "String"
  | int32 => "Int32"
  | int64 => "Int64"
  | boolean => "Boolean"
  | date => "Date"
  | dateTime => "DateTime"
  | stringArray => "StringArray"
  | int32Array => "Int32Array"
  | int64Array => "Int64Array"
  | unsupported descriptor => "Unsupported(" ++ quoted descriptor ++ ")"

def ofItems (items : Schema) : ValueKind :=
  let type := items.type.getD ""
  if type ≠ "string" ∧ type ≠ "integer" then unsupported ("array:" ++ type)
  else match Primitive.ofType type items.format with
    | .string => stringArray
    | .int32 => int32Array
    | .int64 => int64Array
    | _ => unsupported ("array:" ++ type ++ ":" ++ items.format.getD "")

def ofScalar (type : String) (format : Option String) : ValueKind :=
  match Primitive.ofType type format with
  | .string => string
  | .int32 => int32
  | .int64 => int64
  | .boolean => boolean
  | .date => date
  | .dateTime => dateTime
  | _ => unsupported (type ++ ":" ++ format.getD "")

/-- The kind of a parameter with that schema. -/
def ofSchema (d : Document) : Option SchemaRef → Except Failure ValueKind
  | none => .ok (unsupported "none")
  | some position => do
    let schema ← d.resolve position
    match schema.type, schema.items with
    | none, _ => return unsupported "untyped"
    | some "array", none => return unsupported "array:"
    | some "array", some items => return ofItems (← d.resolve items)
    | some "object", _ => return unsupported "object"
    | some type, _ => return ofScalar type schema.format

end ValueKind

/-- A parameter, with the local that holds its value. -/
structure ParamSpec where
  name : String
  ident : String
  scope : ParamScope
  kind : ValueKind
  required : Bool
  deriving DecidableEq

/-- The parameters of an operation, each list in the order of declaration. -/
structure ParameterPlan where
  path : List ParamSpec
  query : List ParamSpec
  deriving DecidableEq

namespace ParameterPlan

/-- Query parameters that a paged operation leaves to paging. -/
def pagingNames : List String := ["page", "size", "sort"]

def scope? : ParameterLocation → Option ParamScope
  | .path => some .path
  | .query => some .query
  | .header => none
  | .cookie => none

/-- The declarations that take part, with their scopes. -/
def kept (paged : Bool) (declared : List Parameter) : List (ParamScope × Parameter) :=
  declared.filterMap fun p =>
    match scope? p.location with
    | none => none
    | some scope =>
      if paged && scope = .query && pagingNames.contains p.name then none else some (scope, p)

/-- The parameter after those in `done`. -/
def spec (d : Document) (operation : String) (done : List ParamSpec) (scope : ParamScope)
    (p : Parameter) : Except Failure ParamSpec := do
  if done.any (·.name = p.name) then throw (.duplicateParameter operation p.name)
  if scope = .path ∧ !p.required then throw (.optionalPathParameter operation p.name)
  let ident := Naming.camelCase p.name
  match done.find? (·.ident = ident) with
  | some first => throw (.parameterCollision operation first.name p.name ident)
  | none => return ⟨p.name, ident, scope, ← ValueKind.ofSchema d p.schema, p.required⟩

def specsAfter (d : Document) (operation : String) (done : List ParamSpec) :
    List (ParamScope × Parameter) → Except Failure (List ParamSpec)
  | [] => .ok done
  | (scope, p) :: rest => do
    let next ← spec d operation done scope p
    specsAfter d operation (done ++ [next]) rest

/-- The names of placeholders, where `name` holds what was read (reversed) since a brace that is
still open. -/
def placeholdersAfter (name : Option (List Char)) : List Char → List (List Char)
  | [] => []
  | c :: rest =>
    if c = '\x7b' then placeholdersAfter (some []) rest
    else if c = '\x7d' then
      match name with
      | some (last :: before) => (last :: before).reverse :: placeholdersAfter none rest
      | _ => placeholdersAfter none rest
    else if c = '/' then placeholdersAfter none rest
    else placeholdersAfter (name.map (c :: ·)) rest

/-- The names between braces in a path template. A name is not empty and has no brace or slash
in it. -/
def placeholders (path : String) : List String :=
  (placeholdersAfter none path.toList).map String.ofList

def coverage (operation : String) (template : List String) (path : List ParamSpec) :
    Except Failure Unit :=
  match template.find? fun name => !path.any (·.name = name) with
  | some name => .error (.missingPathParameter operation name)
  | none => .ok ()

def warnUnused (operation : String) (template : List String) : List ParamSpec → Diagnosed Unit
  | [] => return
  | p :: rest => do
    if !template.contains p.name then .warn (.unusedPathParameter operation p.name)
    warnUnused operation template rest

/-- Plans the parameters of an operation. Every placeholder of the path has to be declared. -/
def plan (d : Document) (operation path : String) (pathLevel operationLevel : List Parameter)
    (paged : Bool) : Diagnosed ParameterPlan := do
  let specs ← specsAfter d operation [] (kept paged (operationLevel ++ pathLevel))
  let plan : ParameterPlan := ⟨specs.filter (·.scope = .path), specs.filter (·.scope = .query)⟩
  let template := placeholders path
  coverage operation template plan.path
  warnUnused operation template plan.path
  return plan

end ParameterPlan

/-- Taking one parameter from a request, as a kind that there is a helper for. -/
structure Extraction where
  param : ParamSpec
  kind : ValueKind
  fallible : Bool
  deriving DecidableEq

namespace Extraction

/-- Whether there is a helper for the kind in the scope. -/
def isSupported : ParamScope → ValueKind → Bool
  | _, .unsupported _ => false
  | .path, kind => !kind.isArray && kind ≠ .date
  | .query, _ => true

def isFallible : ValueKind → Bool
  | .string | .stringArray => false
  | _ => true

/-- A parameter without a helper is taken as text. -/
def ofParam (operation : String) (p : ParamSpec) : Diagnosed Extraction := do
  if isSupported p.scope p.kind then return ⟨p, p.kind, isFallible p.kind⟩
  else
    .warn (.unsupportedKind operation p.name p.kind.display)
    return ⟨p, .string, false⟩

/-- The extractions of an operation: path parameters first. -/
def ofPlan (operation : String) (plan : ParameterPlan) : Diagnosed (List Extraction) :=
  (plan.path ++ plan.query).mapM (ofParam operation)

end Extraction

end ApiScaffold
