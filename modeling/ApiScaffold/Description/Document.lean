import ApiScaffold.Description.Schema
/-!
# Descriptions of a service

A description holds the operations of a service by path and method, and its component schemas
by name.
-/
namespace ApiScaffold

/-- The methods in the order in which the operations of a path are taken. -/
inductive Method where
  | delete
  | get
  | head
  | options
  | patch
  | post
  | put
  | trace
  deriving DecidableEq, Inhabited

namespace Method

def all : List Method := [delete, get, head, options, patch, post, put, trace]

/-- The key of a path item that holds the operation. -/
def key : Method → String
  | delete => "delete"
  | get => "get"
  | head => "head"
  | options => "options"
  | patch => "patch"
  | post => "post"
  | put => "put"
  | trace => "trace"

def capitalized : Method → String
  | delete => "Delete"
  | get => "Get"
  | head => "Head"
  | options => "Options"
  | patch => "Patch"
  | post => "Post"
  | put => "Put"
  | trace => "Trace"

def upper : Method → String
  | delete => "DELETE"
  | get => "GET"
  | head => "HEAD"
  | options => "OPTIONS"
  | patch => "PATCH"
  | post => "POST"
  | put => "PUT"
  | trace => "TRACE"

/-- How an operation is named in messages. -/
def label (method : Method) (path : String) : String := method.upper ++ " " ++ path

end Method

inductive ParameterLocation where
  | path
  | query
  | header
  | cookie
  deriving DecidableEq, Inhabited

structure Parameter where
  name : String
  location : ParameterLocation
  required : Bool
  schema : Option SchemaRef
  description : Option String

/-- The body for one content type. -/
structure MediaType where
  schema : Option SchemaRef

structure RequestBody where
  required : Bool
  content : Keyed MediaType

structure Response where
  description : Option String
  content : Keyed MediaType

structure Operation where
  operationId : Option String
  summary : Option String
  description : Option String
  parameters : List Parameter
  requestBody : Option RequestBody
  /-- By status code as written. -/
  responses : Keyed Response
  extensions : Keyed Json

/-- The operations of a path, in the order of `Method.all`, and the parameters they share. -/
structure PathItem where
  parameters : List Parameter
  operations : List (Method × Operation)

structure Info where
  title : String
  version : String
  description : Option String

structure Document where
  version : String
  info : Info
  paths : Keyed PathItem
  schemas : Keyed Schema
  extensions : Keyed Json

namespace Document

def schema? (d : Document) (name : String) : Option Schema := Keyed.get? name d.schemas

/-- The schema at a position, after following its reference. -/
def resolve (d : Document) : SchemaRef → Except Failure Schema
  | .inline schema => .ok schema
  | .reference name =>
    match d.schema? name with
    | some schema => .ok schema
    | none => .error (.unresolvable name .noSuchSchema)

/-- Whether the schema at a position is there and declares literals. -/
def isEnum (d : Document) (position : SchemaRef) : Bool :=
  match d.resolve position with
  | .ok schema => schema.isEnum
  | .error _ => false

end Document

end ApiScaffold
