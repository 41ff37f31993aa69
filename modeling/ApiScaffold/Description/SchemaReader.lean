import ApiScaffold.Description.Reference
import ApiScaffold.Description.Schema
/-!
# Reading schemas

References to components stay symbolic. Any other reference is replaced by the schema it leads
to, wherever it stands, so a schema that stands inside itself has no finite reading. The reader
is given room for a number of schemas inside one another, and fails as endless when that is not
enough.
-/
namespace ApiScaffold.Description

/-- The type of a schema; of a list of types the first other than `null`. -/
def typeOf (members : Keyed Json) : Option String :=
  match Keyed.get? "type" members with
  | some (.string name) => some name
  | some (.array names) => (names.filterMap Json.asText?).find? (· ≠ "null")
  | _ => none

def textAt (key : String) (members : Keyed Json) : Option String :=
  (Keyed.get? key members).bind Json.asText?

def flagAt (key : String) (members : Keyed Json) : Bool :=
  ((Keyed.get? key members).bind Json.asBool?).getD false

def listAt (key : String) (members : Keyed Json) : List Json :=
  ((Keyed.get? key members).bind Json.asArray?).getD []

def membersAt (key : String) (members : Keyed Json) : Keyed Json :=
  ((Keyed.get? key members).bind Json.asObject?).getD []

def xmlOf (members : Keyed Json) : Option XmlBinding :=
  ((Keyed.get? "xml" members).bind Json.asObject?).map fun xml =>
    ⟨textAt "name" xml, textAt "prefix" xml, flagAt "attribute" xml⟩

/-- The members whose names start with `x-`. -/
def extensionsOf (members : Keyed Json) : Keyed Json :=
  members.filter fun (key, _) => ['x', '-'].isPrefixOf key.toList

/-- The schema of additional properties; a truth value in its place is dropped. -/
def additionalNode? (members : Keyed Json) : Option Json :=
  ((Keyed.get? "additionalProperties" members).bind Json.asObject?).map .object

/-- Reads each member, in order. -/
def mapMembers {α : Type} (read : Json → Except Failure α) (members : Keyed Json) :
    Except Failure (Keyed α) :=
  members.mapM fun (key, node) => (read node).map (key, ·)

def readOptional {α : Type} (read : Json → Except Failure α) : Option Json →
    Except Failure (Option α)
  | some node => (read node).map some
  | none => .ok none

/-- Reads a schema position, with `read` for the schema that stands there. -/
def readPosition (root : Json) (read : Json → Except Failure Schema) (node : Json) :
    Except Failure SchemaRef :=
  match reference? node with
  | none => (read node).map .inline
  | some reference =>
    match componentName? reference with
    | some name => .ok (.reference name)
    | none => do return .inline (← read (← follow root node))

/-- Reads a schema in which at most `room` schemas stand inside one another. -/
def readSchema (root : Json) : Nat → Json → Except Failure Schema
  | 0, node => .error (.endlessSchema node)
  | room + 1, .object members => do
    let position := readPosition root (readSchema root room)
    let properties ← mapMembers position (membersAt "properties" members)
    let items ← readOptional position (Keyed.get? "items" members)
    let additional ← readOptional position (additionalNode? members)
    let allOf ← (listAt "allOf" members).mapM position
    return {
      type := typeOf members
      format := textAt "format" members
      description := textAt "description" members
      properties
      required := (listAt "required" members).filterMap Json.asText?
      items
      additional
      literals := listAt "enum" members
      allOf
      xml := xmlOf members
      extensions := extensionsOf members }
  | _ + 1, other => .error (.invalidDescription none (.notASchema other))

end ApiScaffold.Description
