import ApiScaffold.Json.Printer
import ApiScaffold.Text.Quoted
/-!
# Failures

What can go wrong between a description and its Go sources, as causes; `Failure.message` holds
all of the wording.
-/
namespace ApiScaffold

open ApiScaffold.Text

/-- Why a JSON value is no description. -/
inductive DescriptionFault where
  | missingVersion
  | unsupportedVersion (version : String)
  | missingTitle
  | missingInfoVersion
  | missingPaths
  | unnamedParameter
  | unknownLocation (given : Option String) (parameter : String)
  | notASchema (given : Json)

def DescriptionFault.message : DescriptionFault → String
  | .missingVersion => "Missing OpenAPI version"
  | .unsupportedVersion version => s!"Unsupported OpenAPI version {version}, expected 3.x"
  | .missingTitle => "Missing info.title"
  | .missingInfoVersion => "Missing info.version"
  | .missingPaths => "Missing 'paths' object"
  | .unnamedParameter => "Parameter missing name"
  | .unknownLocation given parameter =>
    let shown := match given with
      | some text => "Some(" ++ quoted text ++ ")"
      | none => "None"
    s!"Invalid location {shown} for parameter {parameter}"
  | .notASchema given => s!"Schema must be an object, got {given.print}"

/-- Why a description cannot be loaded. -/
inductive LoadFault where
  | malformedYaml
  | malformedText
  | unrepresentableNumber (number : String)
  | unsupportedKey (shown : String)
  | externalReference (reference : String)
  | longReferenceChain (limit : Nat)
  | unreadable (source cause : String)
  | remote (source : String)

def LoadFault.message : LoadFault → String
  | .malformedYaml => "Failed to parse YAML: malformed"
  | .malformedText => "Failed to parse OpenAPI description: neither JSON nor YAML"
  | .unrepresentableNumber number => s!"Unrepresentable number {number}"
  | .unsupportedKey shown => s!"Unsupported mapping key {shown}"
  | .externalReference reference => s!"External reference {reference} is not supported"
  | .longReferenceChain limit => s!"Reference chain longer than {limit} hops"
  | .unreadable source cause => s!"Failed to read {source}: {cause}"
  | .remote source => s!"Failed to fetch OpenAPI description from {source}: no network"

/-- What is wrong with the value of an extension. -/
inductive ExtensionFault where
  | undecodable
  | notABoolean (given : Json)
  | notAGroup (given : Json)
  | notATokenList (given : Json)
  | tokenNotText (token : Json)
  | packageName (package : String)
  | emptyMessage
  | notAnHttpStatus (code : Nat)

def ExtensionFault.message : ExtensionFault → String
  | .undecodable => "unexpected shape"
  | .notABoolean given => s!"expected a boolean, got {given.print}"
  | .notAGroup given => s!"expected a non-empty string, got {given.print}"
  | .notATokenList given => s!"expected a list of strings, got {given.print}"
  | .tokenNotText token => s!"token {token.print} is not a string"
  | .packageName package => s!"package {quoted package} is not a lowercase identifier"
  | .emptyMessage => "message is empty"
  | .notAnHttpStatus code => s!"httpCode {code} is not an HTTP status"

/-- Why no module path is known. -/
inductive ModuleFault where
  | unconfigured
  | undefined
  | empty
  deriving DecidableEq

def ModuleFault.message : ModuleFault → String
  | .unconfigured => "x-configuration not defined"
  | .undefined => "module not defined"
  | .empty => "module path is empty"

/-- Why a schema reference leads nowhere. -/
inductive Unresolved where
  | noSuchSchema
  | noTarget
  | endlessMap
  | composedInto (owner : String)
  | pageWithoutItem
  deriving DecidableEq

def Unresolved.message : Unresolved → String
  | .noSuchSchema => "no such component schema"
  | .noTarget => "reference target not found"
  | .endlessMap => "additionalProperties chain is cyclic or too deep"
  | .composedInto owner => s!"composed into {owner} but not defined"
  | .pageWithoutItem => "paging envelope does not reference a content item schema"

/-- Why literals do not form an enumeration. -/
inductive EnumFault where
  | unsupportedType (given : String)
  | notText (literal : Json)
  | emptyLiteral
  | notAnInteger (literal : String)
  | notAnIdentifier (literal : String)

def EnumFault.message : EnumFault → String
  | .unsupportedType given => s!"unsupported enum type {given}"
  | .notText literal => s!"literal {literal.print} is not a string"
  | .emptyLiteral => "empty literal"
  | .notAnInteger literal => s!"literal {quoted literal} is not an integer"
  | .notAnIdentifier literal => s!"literal {quoted literal} does not normalize to an identifier"

/-- Why a model cannot be written as sources. -/
inductive RenderFault where
  | renderedTwice (path : String)
  | noHelper (descriptor parameter : String)
  deriving DecidableEq

def RenderFault.message : RenderFault → String
  | .renderedTwice path => s!"{path} rendered more than once"
  | .noHelper descriptor parameter =>
    s!"no extraction helper for {descriptor} parameter {parameter}"

inductive Failure where
  /-- The operation is named when the fault lies inside one. -/
  | invalidDescription (operation : Option String) (fault : DescriptionFault)
  | moduleWithBlank (module : String)
  | unloadable (fault : LoadFault)
  | malformedJson
  | invalidExtension (owner extension : String) (fault : ExtensionFault)
  | missingModule (fault : ModuleFault)
  | missingGroup (schema : String)
  | unresolvable (reference : String) (why : Unresolved)
  | arrayWithoutItems (array : String)
  | invalidEnum (name : String) (fault : EnumFault)
  | enumCollision (name first second ident : String)
  | missingPackage (method path : String)
  | missingOperationId (method path : String)
  | missingStatus (operation : String)
  | unsupportedContentType (operation contentType : String)
  | duplicateParameter (operation name : String)
  | parameterCollision (operation first second ident : String)
  | optionalPathParameter (operation name : String)
  | missingPathParameter (operation name : String)
  | unknownErrorCode (code : String)
  | unrenderable (fault : RenderFault)
  | unsupportedLanguage (language : String)
  /-- A command could not be run at all. -/
  | commandNotRun (reason : String)
  /-- Stands for no answer: reading the schema that is given here never comes to an end. -/
  | endlessSchema (given : Json)
  /-- Stands for no answer: resolving a type never comes to an end. -/
  | endlessType

def Failure.message : Failure → String
  | .invalidDescription none fault => s!"Validation error: {fault.message}"
  | .invalidDescription (some operation) fault => s!"Validation error: {operation}: {fault.message}"
  | .moduleWithBlank module =>
    s!"Validation error: Module path {quoted module} contains whitespace"
  | .unloadable fault => s!"OpenAPI loading error: {fault.message}"
  | .malformedJson => "Serialization error: malformed"
  | .invalidExtension owner extension fault =>
    s!"Invalid extension {extension} on {owner}: {fault.message}"
  | .missingModule fault => s!"x-configuration not defined or module missing: {fault.message}"
  | .missingGroup schema => s!"Schema {schema} has no x-group and is not an enum"
  | .unresolvable reference why => s!"Unresolvable schema {reference}: {why.message}"
  | .arrayWithoutItems array => s!"Array schema {array} has no items"
  | .invalidEnum name fault => s!"Invalid enum {name}: {fault.message}"
  | .enumCollision name first second ident =>
    s!"Enum {name}: literals {quoted first} and {quoted second} both normalize to {ident}"
  | .missingPackage method path =>
    s!"Operation {method} {path} does not define x-generated package"
  | .missingOperationId method path => s!"Operation {method} {path} does not define an operationId"
  | .missingStatus operation => s!"Operation {operation} does not define a success response code"
  | .unsupportedContentType operation contentType =>
    s!"Operation {operation} uses unsupported content type {contentType}"
  | .duplicateParameter operation name =>
    s!"Operation {operation} declares parameter {name} multiple times"
  | .parameterCollision operation first second ident =>
    s!"Operation {operation} parameters {first} and {second} both map to local {ident}"
  | .optionalPathParameter operation name =>
    s!"Operation {operation} declares optional path parameter {name}"
  | .missingPathParameter operation name =>
    s!"Operation {operation} has no path parameter for placeholder \x7b{name}\x7d"
  | .unknownErrorCode code => s!"Error code {code} is not part of the ApplicationError code enum"
  | .unrenderable fault => s!"Render error: {fault.message}"
  | .unsupportedLanguage language => s!"Unsupported language: {language}"
  | .commandNotRun reason => s!"Post-processing error: {reason}"
  | .endlessSchema given => s!"Schema {given.print} contains itself without end"
  | .endlessType => "Type contains itself without end"

end ApiScaffold
