import ApiScaffold.Model.Service
/-!
# Views of a service for Go

What the sources of a service say, spelled in Go: types, struct tags, imports, literals and the
names of helpers. Printing a view takes no further decisions.
-/
namespace ApiScaffold.Go

open ApiScaffold.Text

/-- An interpreted string literal. The escapes of JSON all have the same meaning in Go. -/
def stringLiteral (s : String) : String := Json.printText s

/-- The lines of a text that go into a comment: without trailing blanks, and no blank lines. -/
def commentLines (text : Option String) : List String :=
  match text with
  | none => []
  | some text => (((lines text.toList).map trimEnd).filter (!·.isEmpty)).map String.ofList

/-- The spelling of a primitive. `qualifier` goes before names of the package of the data
types. -/
def primitiveType (qualifier : String) : Primitive → String
  | .string => "string"
  | .int32 => "int32"
  | .int64 => "int64"
  | .float32 => "float32"
  | .float64 => "float64"
  | .boolean => "bool"
  | .date => qualifier ++ "LocalDate"
  | .time => qualifier ++ "LocalTime"
  | .localDateTime => qualifier ++ "LocalDateTime"
  | .dateTime => "time.Time"
  | .any => "interface\x7b\x7d"
  | .record => "map[string]interface\x7b\x7d"

/-- The spelling of a type, without the pointer of a value that may be absent. -/
def typeName (qualifier : String) : Shape → String
  | .primitive p => primitiveType qualifier p
  | .list element => "[]" ++ typeName qualifier element
  | .map element => "map[string]" ++ typeName qualifier element
  | .reference name => qualifier ++ name
  | .composed name => qualifier ++ name
  | .enum name => lowerText name ++ "." ++ name

/-- Whether the spelling outside of the package of the data types mentions that package. -/
def usesDataPackage : Shape → Bool
  | .primitive p => p = .date || p = .time || p = .localDateTime
  | .list element => usesDataPackage element
  | .map element => usesDataPackage element
  | .reference _ => true
  | .composed _ => true
  | .enum _ => false

/-- A member of a struct and its getter. -/
structure FieldView where
  ident : String
  embedded : Bool
  type : String
  valueType : String
  pointer : Bool
  tag : String

structure RecordView where
  name : String
  comment : List String
  receiver : String
  aliasOf : Option String
  xmlName : Option String
  fields : List FieldView

structure GroupView where
  name : String
  stdImports : Texts
  moduleImports : Texts
  records : List RecordView

structure EnumValueView where
  ident : String
  value : String
  text : String

structure EnumView where
  name : String
  package : String
  comment : List String
  baseType : String
  stringBacked : Bool
  unknownValue : String
  values : List EnumValueView

structure ExtractionView where
  var : String
  helper : String
  name : String
  fallible : Bool

/-- What is validated of a decoded body. -/
inductive Validation where
  | none
  | single
  | each
  deriving DecidableEq

structure BodyView where
  declaration : String
  validate : Validation

inductive Answer where
  | json
  | page
  | status
  deriving DecidableEq

structure HandlerView where
  method : String
  route : String
  extractions : List ExtractionView
  body : Option BodyView
  arguments : List String
  answer : Answer
  status : Nat

structure HandlerPackageView where
  name : String
  stdImports : Texts
  moduleImports : Texts
  handlers : List HandlerView

structure RouteView where
  method : String
  path : String
  handler : String
  paged : Bool

structure RegisterView where
  module : String
  packages : List String
  needsAuthorization : Bool
  needsPaging : Bool
  free : List RouteView
  guarded : List RouteView

structure ErrorView where
  ident : String
  code : String
  comment : List String
  parameters : String
  message : String
  status : Nat
  values : String

structure ErrorsView where
  needsFmt : Bool
  errors : List ErrorView

def qualifiedXmlName (nsPrefix : Option String) (name : String) : String :=
  match nsPrefix with
  | some "" => name
  | some p => p ++ ":" ++ name
  | none => name

/-- The tag of a field: its key, its rules if there are any, and its XML name if it is bound. -/
def structTag (f : Field) (xmlBound : Bool) : String :=
  let json := "json:\"" ++ f.key ++ (if f.omitEmpty then ",omitempty" else "") ++ "\""
  let rules :=
    if f.rules.isEmpty then "" else " validate:\"" ++ ",".intercalate f.rules ++ "\""
  let xml := match f.xml with
    | some xml =>
      " xml:\"" ++ qualifiedXmlName xml.nsPrefix xml.name ++
        (if xml.asAttribute then ",attr" else "") ++ "\""
    | none => if xmlBound then " xml:\"" ++ f.key ++ "\"" else ""
  json ++ rules ++ xml

def FieldView.ofField (xmlBound : Bool) (f : Field) : FieldView :=
  let valueType := typeName "" f.type.shape
  let pointer := f.type.nullable && !f.embedded
  { ident := f.ident
    embedded := f.embedded
    type := if pointer then "*" ++ valueType else valueType
    valueType
    pointer
    tag := structTag f xmlBound }

def RecordView.ofRecord (r : Record) : RecordView where
  name := r.name
  comment := commentLines r.description
  receiver := Naming.localName (Naming.lowerFirstLetter r.name)
  aliasOf := r.aliasOf.map fun type => typeName "" type.shape
  xmlName := r.xmlRoot.map fun root => qualifiedXmlName root.nsPrefix root.name
  fields := r.fields.map (FieldView.ofField r.xmlRoot.isSome)

def dataImport (module : String) : String := module ++ "/internal/data/dto"

def enumImport (module name : String) : String :=
  module ++ "/internal/data/dto/" ++ lowerText name

def helperImport (module : String) : String := module ++ "/internal/rest/handler"

/-- The packages of the standard library that dependencies come from. -/
def stdImportsOf (dependencies : List Dependency) : List String :=
  if dependencies.contains .timestamp then ["time"] else []

/-- The packages of the module that dependencies come from. -/
def enumImports (module : String) (dependencies : List Dependency) : List String :=
  dependencies.filterMap fun
    | .enum name => some (enumImport module name)
    | .timestamp => none

def GroupView.ofGroup (module : String) (g : Group) : GroupView where
  name := g.name
  stdImports := Texts.ofList <|
    stdImportsOf g.dependencies ++
      if g.records.any (·.xmlRoot.isSome) then ["encoding/xml"] else []
  moduleImports := Texts.ofList (enumImports module g.dependencies)
  records := g.records.map RecordView.ofRecord

def EnumView.ofEnumeration (e : Enumeration) : EnumView where
  name := e.name
  package := e.package
  comment := commentLines e.description
  baseType := match e.base with
    | .string => "string"
    | .int32 => "int32"
    | .int64 => "int64"
  stringBacked := e.isStringBacked
  unknownValue := if e.isStringBacked then stringLiteral Enumeration.unknownIdent else "-1"
  values := e.values.map fun value =>
    { ident := value.ident
      value := if e.isStringBacked then stringLiteral value.literal else value.literal
      text := stringLiteral value.literal }

def scopeWord : ParamScope → String
  | .path => "Path"
  | .query => "Query"

def kindWord? : ValueKind → Except String String
  | .string => .ok "String"
  | .int32 => .ok "Int32"
  | .int64 => .ok "Int64"
  | .boolean => .ok "Bool"
  | .date => .ok "LocalDate"
  | .dateTime => .ok "DateTime"
  | .stringArray => .ok "ArrayString"
  | .int32Array => .ok "ArrayInt32"
  | .int64Array => .ok "ArrayInt64"
  | .unsupported descriptor => .error descriptor

/-- The helper that takes a parameter from a request. Optional values come as pointers, but
lists do not. -/
def helperName (x : Extraction) : Except Failure String :=
  match kindWord? x.kind with
  | .error descriptor => .error (.unrenderable (.noHelper descriptor x.param.name))
  | .ok kind =>
    let optional := x.param.scope = .query && !x.param.required && !x.kind.isArray
    .ok (scopeWord x.param.scope ++ (if optional then "Optional" else "") ++ "ParamTo" ++ kind)

def ExtractionView.ofExtraction (x : Extraction) : Except Failure ExtractionView := do
  let helper ← helperName x
  return ⟨Naming.localName x.param.ident, helper, x.param.name, x.fallible⟩

def BodyView.ofDecode : BodyDecode → BodyView
  | .record name => ⟨"req := dto." ++ name ++ "\x7b\x7d", .single⟩
  | .recordList name => ⟨"req := []dto." ++ name ++ "\x7b\x7d", .each⟩
  | .value type => ⟨"var req " ++ typeName "dto." type.shape, .none⟩

def argument (body : Option BodyDecode) : CallArgument → String
  | .context => "r.Context()"
  | .body =>
    match body with
    | some (.record _) => "&req"
    | _ => "req"
  | .param ident => Naming.localName ident
  | .page => "page"
  | .size => "size"
  | .sort => "sort"

def answerOf : ResponseWrite → Answer × Nat
  | .json status => (.json, status)
  | .page status => (.page, status)
  | .status status => (.status, status)

def HandlerView.ofPlan (p : HandlerPlan) : Except Failure HandlerView := do
  let extractions ← p.extractions.mapM ExtractionView.ofExtraction
  let (answer, status) := answerOf p.response
  return {
    method := p.method
    route := p.route
    extractions
    body := p.body.map BodyView.ofDecode
    arguments := p.arguments.map (argument p.body)
    answer
    status }

/-- What the body of a handler needs from the standard library. -/
def bodyStdImports : Option BodyDecode → List String
  | none => []
  | some (.value type) => "encoding/json" :: stdImportsOf type.imports
  | some _ => ["encoding/json"]

/-- What the body of a handler needs from the module. -/
def bodyModuleImports (module : String) : Option BodyDecode → List String
  | none => []
  | some (.value type) =>
    enumImports module type.imports ++
      if usesDataPackage type.shape then [dataImport module] else []
  | some _ => [dataImport module, helperImport module]

/-- Helpers take parameters and write answers other than a bare status. -/
def callsHelper (v : HandlerView) : Bool := !v.extractions.isEmpty || v.answer ≠ .status

def HandlerPackageView.ofPackage (module : String) (p : HandlerPackage) :
    Except Failure HandlerPackageView := do
  let handlers ← p.handlers.mapM HandlerView.ofPlan
  return {
    name := p.name
    stdImports := Texts.ofList
      ("net/http" :: p.handlers.flatMap fun plan => bodyStdImports plan.body)
    moduleImports := Texts.ofList <|
      (module ++ "/internal/service/" ++ p.name) ::
        (p.handlers.flatMap fun plan => bodyModuleImports module plan.body) ++
        if handlers.any callsHelper then [helperImport module] else []
    handlers }

def RouteView.ofRoute (r : Route) : RouteView where
  method := r.method.capitalized
  path := r.path
  handler := r.package ++ "Handler." ++ r.handler
  paged := r.paged

def RegisterView.ofTable (module : String) (t : RouteTable) : RegisterView where
  module := module
  packages := t.packages
  needsAuthorization := t.needsAuthorization
  needsPaging := t.needsPaging
  free := t.free.map RouteView.ofRoute
  guarded := t.guarded.map RouteView.ofRoute

def ErrorView.ofEntry (e : ErrorEntry) : ErrorView where
  ident := e.ident
  code := stringLiteral e.code
  comment := (e.ident ++ " " ++ e.message) :: commentLines e.description
  parameters := ", ".intercalate <|
    (if e.hasValues then ["values map[string]any"] else []) ++
      if e.isFormat then ["args ...any"] else []
  message :=
    if e.isFormat then "fmt.Sprintf(" ++ stringLiteral e.message ++ ", args...)"
    else stringLiteral e.message
  status := e.httpStatus
  values := if e.hasValues then "values" else "nil"

def ErrorsView.ofCatalog (c : ErrorCatalog) : ErrorsView where
  needsFmt := c.entries.any (·.isFormat)
  errors := c.entries.map ErrorView.ofEntry

end ApiScaffold.Go
