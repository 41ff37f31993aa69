import ApiScaffold.Description.Document
import ApiScaffold.Diagnosed
import ApiScaffold.Model.ResolvedType
/-!
# Resolving schemas to types

A reference is never expanded into the members of its component; the component is only asked
whether it is an enumeration. Maps of maps are unwrapped through references, and such a chain of
value schemas has a greatest length. Lists and formats end a chain and may begin another one, so
a type may stand inside itself. The resolver is given room for a number of types inside one
another, and fails as endless when that is not enough.
-/
namespace ApiScaffold

/-- What decides the type of a schema that is written in place. -/
inductive SchemaForm where
  | any
  | record
  | list (items : Option SchemaRef)
  | map (value : SchemaRef)
  | untyped
  | primitive (p : Primitive)

namespace Schema

/-- Some formats decide alone, then the type does, and without a type the members do. -/
def form (s : Schema) : SchemaForm :=
  let untyped := s.type.isNone
  if s.format = some "interface" then .any
  else if s.format = some "map" && (untyped || s.hasType "object") then .record
  else if s.hasType "array" then .list s.items
  else if untyped || s.hasType "object" then
    match s.additional with
    | some value => .map value
    | none =>
      if !untyped || !s.properties.isEmpty || !s.allOf.isEmpty then .record else .untyped
  else .primitive (.ofType (s.type.getD "") s.format)

/-- An object that says nothing of its values. -/
def isPlainObject (s : Schema) : Bool :=
  s.hasType "object" && s.format.isNone && s.additional.isNone

/-- The value schema at which a chain of maps goes on. A format or the type of an array ends
the chain. -/
def nextValue (s : Schema) : Option SchemaRef :=
  if s.format.isNone && !s.hasType "array" then s.additional else none

end Schema

namespace Resolution

/-- The greatest number of value schemas in a chain of maps. -/
def chainLimit : Nat := 64

/-- Follows the chain of value schemas from `value` for up to `more` further ones: their number,
and the last of them. -/
def valueChain (d : Document) : Nat → SchemaRef → Except Failure (Nat × SchemaRef)
  | more, value => do
    match (← d.resolve value).nextValue with
    | none => return (1, value)
    | some next =>
      match more with
      | 0 => throw (.unresolvable (value.reference?.getD "additionalProperties") .endlessMap)
      | more + 1 =>
        let (count, last) ← valueChain d more next
        return (count + 1, last)

def wrapMaps : Nat → Shape → Shape
  | 0, shape => shape
  | n + 1, shape => .map (wrapMaps n shape)

/-- The type of a reference: enumerations may be absent unless required, records always may. -/
def ofReference (d : Document) (name : String) (required : Bool) : Except Failure ResolvedType := do
  let target ← d.resolve (.reference name)
  return if target.isEnum then ⟨.enum name, !required⟩ else ⟨.reference name, true⟩

/-- The shape of an item of a list or a value of a map, with `inner` for the type of a schema
that is written there. -/
def elementShape (d : Document) (inner : Schema → Diagnosed ResolvedType) :
    SchemaRef → Diagnosed Shape
  | .reference name => do return (← ofReference d name true).shape
  | .inline schema =>
    if schema.isPlainObject then return .primitive .record
    else do return (← inner schema).shape

/-- The shape of a map whose values are given by `value`. -/
def mapShape (d : Document) (inner : Schema → Diagnosed ResolvedType) (value : SchemaRef) :
    Diagnosed Shape := do
  let (count, last) ← valueChain d (chainLimit - 1) value
  return wrapMaps count (← elementShape d inner last)

/-- The type of a schema written in place, in which at most `room` such schemas stand inside one
another. -/
def inlineType (d : Document) : Nat → Schema → Bool → Diagnosed ResolvedType
  | 0, _, _ => .fail .endlessType
  | room + 1, schema, required =>
    let inner (part : Schema) := inlineType d room part true
    match schema.form with
    | .any => return ⟨.primitive .any, false⟩
    | .record => return ⟨.primitive .record, !required⟩
    | .list (some items) => do return ⟨.list (← elementShape d inner items), false⟩
    | .list none => .fail (.arrayWithoutItems (schema.description.getD "inline array"))
    | .map value => do return ⟨← mapShape d inner value, false⟩
    | .untyped => do
      .warn (.untyped (schema.description.getD ""))
      return ⟨.primitive .any, false⟩
    | .primitive p => return ⟨.primitive p, !required⟩

/-- Resolves a position with a given room. -/
def resolveWithin (d : Document) (room : Nat) (position : SchemaRef) (required : Bool) :
    Diagnosed ResolvedType :=
  match position with
  | .reference name => .ofExcept (ofReference d name required)
  | .inline schema => inlineType d room schema required

def resolveElementWithin (d : Document) (room : Nat) (position : SchemaRef) : Diagnosed Shape :=
  elementShape d (fun schema => inlineType d room schema true) position

mutual

/-- The schemas that are met in a schema without following a reference: itself, and those that
its items and values hold. -/
def schemaParts : Schema → List Schema
  | schema@⟨_, _, _, _, _, items, additional, _, _, _, _⟩ =>
    schema :: (optionalParts items ++ optionalParts additional)

def optionalParts : Option SchemaRef → List Schema
  | some position => positionParts position
  | none => []

def positionParts : SchemaRef → List Schema
  | .reference _ => []
  | .inline schema => schemaParts schema

end

/-- Room for everything that can be met from a position. -/
def roomFor (d : Document) (position : SchemaRef) : Nat :=
  (positionParts position ++ d.schemas.values.flatMap schemaParts).length

/-- The type of a position where `required` decides whether the value may be absent. -/
def resolve (d : Document) (position : SchemaRef) (required : Bool) : Diagnosed ResolvedType :=
  resolveWithin d (roomFor d position) position required

def resolveElement (d : Document) (position : SchemaRef) : Diagnosed Shape :=
  resolveElementWithin d (roomFor d position) position

end Resolution

end ApiScaffold
