import ApiScaffold.Json.Pointer
import ApiScaffold.Failure
/-!
# References inside a description

A node with a text `$ref` stands for the node that its pointer designates. Chains of references
are followed for a limited number of hops.
-/
namespace ApiScaffold.Description

def hopLimit : Nat := 16

/-- The reference of a node that is one. -/
def reference? (node : Json) : Option String := node.text? "$ref"

/-- The node one hop further. -/
def hop (root : Json) (reference : String) : Except Failure Json :=
  match reference.toList with
  | '#' :: pointer =>
    match root.pointer? pointer with
    | some target => .ok target
    | none => .error (.unresolvable reference .noTarget)
  | _ => .error (.unloadable (.externalReference reference))

/-- Looks at up to `rounds` nodes for one that is no reference. -/
def followWithin (root : Json) : Nat → Json → Except Failure Json
  | 0, _ => .error (.unloadable (.longReferenceChain hopLimit))
  | rounds + 1, node =>
    match reference? node with
    | none => .ok node
    | some reference => do followWithin root rounds (← hop root reference)

def follow (root node : Json) : Except Failure Json := followWithin root hopLimit node

def componentRoot : String := "#/components/schemas/"

/-- The component that a reference names. The name is taken as it is written. -/
def componentName? (reference : String) : Option String :=
  let start := componentRoot.toList
  let text := reference.toList
  if start.isPrefixOf text then some (String.ofList (text.drop start.length)) else none

end ApiScaffold.Description
