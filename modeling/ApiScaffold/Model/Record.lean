import ApiScaffold.Model.Context
import ApiScaffold.Model.Enumeration
import ApiScaffold.Model.Resolution
import ApiScaffold.Naming
/-!
# Records

Component schemas become records, sorted into groups, and enumerations. A record takes over the
fields of the schemas that it is composed of.
-/
namespace ApiScaffold

/-- The XML name of a field. -/
structure FieldXml where
  name : String
  nsPrefix : Option String
  asAttribute : Bool
  deriving DecidableEq

/-- A member of a record. An embedded one is a component whose fields count as the record's. -/
structure Field where
  name : String
  ident : String
  type : ResolvedType
  rules : List String
  key : String
  omitEmpty : Bool
  embedded : Bool
  xml : Option FieldXml
  deriving DecidableEq

structure XmlRoot where
  name : String
  nsPrefix : Option String
  deriving DecidableEq

/-- A record with an alias is only another name for that type. -/
structure Record where
  name : String
  description : Option String
  fields : List Field
  xmlRoot : Option XmlRoot
  aliasOf : Option ResolvedType
  deriving DecidableEq

namespace Record

def ruleRequired : String := "required"

def ruleDive : String := "dive"

def addRule (rule : String) (rules : List String) : List String :=
  if rules.contains rule then rules else rules ++ [rule]

/-- Adds the rules that a type implies: a required value has to be there, unless its type always
has one, and the records of a list are validated too. -/
def addRules (rules : List String) (type : ResolvedType) (required : Bool) : List String :=
  let rules :=
    if required && !type.shape.isValuePrimitive then addRule ruleRequired rules else rules
  if type.shape.isRecordList then addRule ruleDive rules else rules

def embeddedField (component : String) : Field where
  name := component
  ident := component
  type := ⟨.composed component, false⟩
  rules := []
  key := ""
  omitEmpty := false
  embedded := true
  xml := none

/-- A field takes the place of an earlier one of its name. -/
def putField (field : Field) : List Field → List Field
  | [] => [field]
  | f :: rest => if f.name = field.name then field :: rest else f :: putField field rest

def inlineSchema? : SchemaRef → Option Schema
  | .inline schema => some schema
  | .reference _ => none

/-- The XML name of a property. In a record bound to XML every field has one. -/
def fieldXml (property : String) (xmlBound : Bool) (binding : Option XmlBinding) :
    Option FieldXml :=
  match binding with
  | some xml => some ⟨xml.name.getD property, xml.nsPrefix, xml.asAttribute⟩
  | none => if xmlBound then some ⟨property, none, false⟩ else none

/-- The field of a property of `holder`, inside the record of `owner`. -/
def field (d : Document) (owner : String) (holder : Schema) (xmlBound : Bool)
    (property : String) (position : SchemaRef) : Diagnosed Field := do
  let required := holder.isRequired property
  let type ← Resolution.resolve d position required
  let schema := inlineSchema? position
  let tokens ← match schema with
    | some schema => .ofExcept (Extension.validationTokens (owner ++ "." ++ property) schema)
    | none => pure []
  return {
    name := property
    ident := Naming.exported property
    type
    rules := addRules tokens type required
    key := property
    omitEmpty := !required
    embedded := false
    xml := fieldXml property xmlBound (schema.bind (·.xml)) }

/-- A declaration of a field: a component that the record is composed of, or a property of one of
its holders. -/
inductive Declaration where
  | component (name : String)
  | property (holder : Schema) (name : String) (position : SchemaRef)

def ownDeclarations (holder : Schema) : List Declaration :=
  holder.properties.map fun (name, position) => .property holder name position

/-- Components first, then the properties of the parts written in place, then the schema's own. -/
def declarations (schema : Schema) : List Declaration :=
  schema.allOf.filterMap (·.reference?.map .component) ++
    (schema.allOf.filterMap inlineSchema?).flatMap ownDeclarations ++
    ownDeclarations schema

def declaredField (d : Document) (owner : String) (xmlBound : Bool) :
    Declaration → Diagnosed Field
  | .component name =>
    if (d.schema? name).isNone then .fail (.unresolvable name (.composedInto owner))
    else return embeddedField name
  | .property holder name position => field d owner holder xmlBound name position

/-- Puts the fields of declarations, in their order, into those there are. -/
def putDeclared (d : Document) (owner : String) (xmlBound : Bool) (fields : List Field) :
    List Declaration → Diagnosed (List Field)
  | [] => return fields
  | declaration :: rest => do
    let field ← declaredField d owner xmlBound declaration
    putDeclared d owner xmlBound (putField field fields) rest

/-- Whether the schema is only another name for a list or a map. -/
def isAlias (schema : Schema) : Bool :=
  schema.hasType "array" ||
    (schema.additional.isSome && schema.properties.isEmpty && schema.allOf.isEmpty)

def ofSchema (d : Document) (name : String) (schema : Schema) : Diagnosed Record := do
  let xmlRoot := schema.xml.map fun xml => (⟨xml.name.getD name, xml.nsPrefix⟩ : XmlRoot)
  let aliasOf ←
    if isAlias schema then (do return some (← Resolution.resolve d (.inline schema) true))
    else pure none
  let fields ← putDeclared d name xmlRoot.isSome [] (declarations schema)
  return ⟨name, schema.description, fields, xmlRoot, aliasOf⟩

/-- What the types of a record need to be imported. -/
def imports (r : Record) : List Dependency :=
  let fields := r.fields.foldl (fun done f => Dependency.union f.type.imports done) []
  match r.aliasOf with
  | some type => Dependency.union type.imports fields
  | none => fields

end Record

/-- Records that share a file, with everything that file has to import for them. -/
structure Group where
  name : String
  records : List Record
  dependencies : List Dependency
  deriving DecidableEq

namespace Group

def add (group : Group) (record : Record) : Group where
  name := group.name
  records := group.records ++ [record]
  dependencies := Dependency.union record.imports group.dependencies

/-- Adds a record to the group of that name. Groups stand in the order of their names. -/
def insert (name : String) (record : Record) : List Group → List Group
  | [] => [add ⟨name, [], []⟩ record]
  | group :: rest =>
    if name = group.name then group.add record :: rest
    else if name < group.name then add ⟨name, [], []⟩ record :: group :: rest
    else group :: insert name record rest

end Group

/-- The records and enumerations of a description. -/
structure DataTypes where
  groups : List Group
  enums : List Enumeration
  deriving DecidableEq

namespace DataTypes

/-- What a component schema becomes. -/
inductive Emitted where
  | skipped
  | enum (definition : Enumeration)
  | page
  | record (group : String) (record : Record)

def emitted (d : Document) (c : Context) (name : String) (schema : Schema) : Diagnosed Emitted := do
  if c.isSkipped name then return .skipped
  if schema.isEnum then return .enum (← Enumeration.ofSchema name schema)
  if ← Extension.isPage d schema then return .page
  match ← Extension.group name schema with
  | none => .fail (.missingGroup name)
  | some group => return .record group (← Record.ofSchema d name schema)

def add (types : DataTypes) : Emitted → DataTypes
  | .skipped | .page => types
  | .enum definition => { types with enums := types.enums ++ [definition] }
  | .record group record => { types with groups := Group.insert group record types.groups }

def addSchemas (d : Document) (c : Context) (types : DataTypes) :
    Keyed Schema → Diagnosed DataTypes
  | [] => return types
  | (name, schema) :: rest => do
    addSchemas d c (types.add (← emitted d c name schema)) rest

def ofDocument (d : Document) (c : Context) : Diagnosed DataTypes :=
  addSchemas d c ⟨[], []⟩ d.schemas

end DataTypes

end ApiScaffold
