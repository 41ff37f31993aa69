import ApiScaffold.Description.Reader
import ApiScaffold.Json.Reader
import ApiScaffold.Yaml.Conversion
/-!
# Formats of a description

A description is written in JSON or YAML. Where neither its source nor its content type tells,
it is read as JSON, and if it is not, as YAML.
-/
namespace ApiScaffold

inductive Format where
  | json
  | yaml
  | unknown
  deriving DecidableEq, Repr

namespace Format

/-- A query or fragment does not belong to the name of a source. -/
def sourceName (source : String) : List Char :=
  source.toList.takeWhile fun c => c ≠ '?' && c ≠ '#'

/-- Whether a text holds another one. -/
def holds (part : List Char) : List Char → Bool
  | [] => part.isEmpty
  | c :: cs => part.isPrefixOf (c :: cs) || holds part cs

/-- The format that a content type or the ending of a source's name tells; JSON is looked for
first. -/
def detect (source : String) (contentType : Option String) : Format :=
  let name := sourceName source
  let type := (contentType.getD "").toList
  let endsWith (ending : String) := ending.toList.isSuffixOf name
  if holds "json".toList type || endsWith ".json" then json
  else if holds "yaml".toList type || endsWith ".yaml" || endsWith ".yml" then yaml
  else unknown

def readYaml (text : String) : Except LoadFault Json :=
  match Yaml.Value.read? text with
  | some value => value.toJson
  | none => .error .malformedYaml

/-- Reads a text that is in a format. -/
def decode (format : Format) (text : String) : Except Failure Json :=
  match format with
  | json =>
    match Json.read? text with
    | some value => .ok value
    | none => .error .malformedJson
  | yaml => (readYaml text).mapError .unloadable
  | unknown =>
    match Json.read? text with
    | some value => .ok value
    | none => (readYaml text).mapError fun _ => .unloadable .malformedText

end Format

/-- Whether a source is fetched rather than read from a file. -/
def isRemote (source : String) : Bool :=
  "http://".toList.isPrefixOf source.toList || "https://".toList.isPrefixOf source.toList

/-- Reads the description that a file holds. -/
def Description.load (source text : String) : Except Failure Document := do
  let value ← (Format.detect source none).decode text
  Description.read value

end ApiScaffold
