import ApiScaffold.Failure
/-!
# Schemas

References to component schemas stay symbolic, so that schemas may refer to one another in
cycles.
-/
namespace ApiScaffold

/-- A schema position: the name of a component, or a schema written in place. -/
inductive SchemaRefOf (α : Type) where
  | reference (name : String)
  | inline (schema : α)

/-- How a schema is bound to XML. -/
structure XmlBinding where
  name : Option String
  nsPrefix : Option String
  asAttribute : Bool
  deriving DecidableEq, Inhabited

/-- A schema. `additional` is the schema of additional properties, if it is given as one. -/
structure Schema where
  type : Option String
  format : Option String
  description : Option String
  properties : List (String × SchemaRefOf Schema)
  required : List String
  items : Option (SchemaRefOf Schema)
  additional : Option (SchemaRefOf Schema)
  literals : List Json
  allOf : List (SchemaRefOf Schema)
  xml : Option XmlBinding
  extensions : List (String × Json)

abbrev SchemaRef := SchemaRefOf Schema

def SchemaRefOf.reference? {α : Type} : SchemaRefOf α → Option String
  | .reference name => some name
  | .inline _ => none

namespace Schema

def empty : Schema where
  type := none
  format := none
  description := none
  properties := []
  required := []
  items := none
  additional := none
  literals := []
  allOf := []
  xml := none
  extensions := []

instance : Inhabited Schema := ⟨empty⟩

/-- A schema with literals is an enumeration. -/
def isEnum (s : Schema) : Bool := !s.literals.isEmpty

def hasType (s : Schema) (name : String) : Bool := s.type = some name

def isRequired (s : Schema) (property : String) : Bool := s.required.contains property

end Schema

end ApiScaffold
