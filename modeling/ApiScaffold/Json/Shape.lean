import ApiScaffold.Json.Reader
/-!
# Values of a fixed shape

A value with named fields is written as an object, in which unknown members do not matter, or as
the list of its fields in order. In an object a field may be left out or given once. A list may
only end early before flags.
-/
namespace ApiScaffold.Json

/-- What is given for a field. -/
inductive Given where
  | tree (value : Tree)
  | leftOut
  | pastEnd

namespace Given

def flag? : Given → Option Bool
  | tree (.bool b) => some b
  | tree _ => none
  | leftOut => some false
  | pastEnd => some false

def text? : Given → Option String
  | tree (.text s) => s
  | _ => none

/-- A text that may be null or left out. -/
def optionalText? : Given → Option (Option String)
  | tree .null => some none
  | tree (.text s) => s.map some
  | tree _ => none
  | leftOut => some none
  | pastEnd => none

/-- An integer of sixteen bits. -/
def word? : Given → Option Nat
  | tree (.number (some (.int n))) => if 0 ≤ n ∧ n < 65536 then some n.toNat else none
  | _ => none

end Given

/-- The values written for a key. -/
def valuesOf (name : String) (members : List (Option String × Tree)) : List Tree :=
  members.filterMap fun (key, value) => if key = some name then some value else none

def field? (members : List (Option String × Tree)) (name : String) : Option Given :=
  match valuesOf name members with
  | [] => some .leftOut
  | [value] => some (.tree value)
  | _ => none

/-- What is given for each of the named fields. -/
def fields? (names : List String) : Tree → Option (List Given)
  | .object members =>
    if members.all fun (key, _) => key.isSome then names.mapM (field? members) else none
  | .array items =>
    if names.length < items.length then none
    else some (items.map .tree ++ List.replicate (names.length - items.length) .pastEnd)
  | _ => none

end ApiScaffold.Json
