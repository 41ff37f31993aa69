import ApiScaffold.Keyed
/-!
# Resolved types

What a schema means to a generated service, whatever the target language. Only the type of a
whole position may be absent; the elements of lists and maps may not.
-/
namespace ApiScaffold

inductive Primitive where
  | string
  | int32
  | int64
  | float32
  | float64
  | boolean
  | date
  | time
  | localDateTime
  | dateTime
  | any
  | record
  deriving DecidableEq, Inhabited

namespace Primitive

/-- Numbers and truth values always have a value, so nothing can require one. -/
def isValue : Primitive → Bool
  | int32 | int64 | float32 | float64 | boolean => true
  | _ => false

def name : Primitive → String
  | string => "string"
  | int32 => "int32"
  | int64 => "int64"
  | float32 => "float32"
  | float64 => "float64"
  | boolean => "boolean"
  | date => "date"
  | time => "time"
  | localDateTime => "local-date-time"
  | dateTime => "date-time"
  | any => "any"
  | record => "record"

/-- The primitive of a scalar type with a format. -/
def ofType (type : String) (format : Option String) : Primitive :=
  match type, format with
  | "integer", some "int32" => int32
  | "integer", some "int" => int32
  | "integer", _ => int64
  | "number", some "float" => float32
  | "number", some "float32" => float32
  | "number", _ => float64
  | "boolean", _ => boolean
  | "string", some "date" => date
  | "string", some "time" => time
  | "string", some "local-date-time" => localDateTime
  | "string", some "date-time" => dateTime
  | _, _ => string

end Primitive

/-- What a file has to import for a type. -/
inductive Dependency where
  | enum (name : String)
  | timestamp
  deriving DecidableEq

namespace Dependency

/-- Enumerations come by name, the timestamp after them. -/
def before : Dependency → Dependency → Bool
  | enum a, enum b => a < b
  | enum _, timestamp => true
  | timestamp, _ => false

/-- Adds a dependency to a list in order, unless it is there. -/
def insert (new : Dependency) : List Dependency → List Dependency
  | [] => [new]
  | old :: rest =>
    if new = old then old :: rest
    else if before new old then new :: old :: rest
    else old :: insert new rest

def union (new old : List Dependency) : List Dependency := new.foldr insert old

end Dependency

/-- References and enumerations name a component; a composed component lends its fields. -/
inductive Shape where
  | primitive (p : Primitive)
  | list (element : Shape)
  | map (element : Shape)
  | reference (name : String)
  | enum (name : String)
  | composed (name : String)
  deriving DecidableEq, Inhabited

namespace Shape

def imports : Shape → List Dependency
  | primitive .dateTime => [.timestamp]
  | primitive _ => []
  | list element => element.imports
  | map element => element.imports
  | reference _ => []
  | enum name => [.enum name]
  | composed _ => []

def element? : Shape → Option Shape
  | list element => some element
  | map element => some element
  | _ => none

def name : Shape → String
  | primitive p => p.name
  | list element => "list<" ++ element.name ++ ">"
  | map element => "map<" ++ element.name ++ ">"
  | reference name => name
  | enum name => name
  | composed name => name

/-- Lists of records are validated element by element. -/
def isRecordList : Shape → Bool
  | list (.reference _) => true
  | _ => false

def isValuePrimitive : Shape → Bool
  | primitive p => p.isValue
  | _ => false

def referenceName? : Shape → Option String
  | reference name => some name
  | _ => none

end Shape

structure ResolvedType where
  shape : Shape
  nullable : Bool
  deriving DecidableEq, Inhabited

namespace ResolvedType

def imports (t : ResolvedType) : List Dependency := t.shape.imports

/-- The name, with a question mark if the value may be absent. -/
def display (t : ResolvedType) : String :=
  if t.nullable then t.shape.name ++ "?" else t.shape.name

end ResolvedType

end ApiScaffold
