import ApiScaffold.Decimal.Shortest
import ApiScaffold.Keyed
/-!
# JSON values
-/
namespace ApiScaffold

namespace Json

/-- Integers from `-2 ^ 63` to `2 ^ 64 - 1` are kept exactly; any other number is a double. -/
inductive Number where
  | int (value : Int)
  | real (value : Binary64)
  deriving DecidableEq, Inhabited

end Json

/-- The members of an object stand in increasing order of their names. -/
inductive Json where
  | null
  | bool (value : Bool)
  | number (value : Json.Number)
  | string (value : String)
  | array (items : List Json)
  | object (members : List (String × Json))
  deriving Inhabited

namespace Json

/-- The member of an object; nothing for any other value. -/
def get? (key : String) : Json → Option Json
  | .object members => Keyed.get? key members
  | _ => none

def asText? : Json → Option String
  | .string s => some s
  | _ => none

def asBool? : Json → Option Bool
  | .bool b => some b
  | _ => none

def asArray? : Json → Option (List Json)
  | .array items => some items
  | _ => none

def asObject? : Json → Option (Keyed Json)
  | .object members => some members
  | _ => none

/-- The text of a member that holds text. -/
def text? (key : String) (j : Json) : Option String := (j.get? key).bind asText?

mutual

/-- A value and all values inside it. -/
def nodes : Json → List Json
  | .array items => .array items :: itemNodes items
  | .object members => .object members :: memberNodes members
  | value => [value]

def itemNodes : List Json → List Json
  | [] => []
  | item :: items => nodes item ++ itemNodes items

def memberNodes : List (String × Json) → List Json
  | [] => []
  | (_, value) :: members => nodes value ++ memberNodes members

end

end Json

end ApiScaffold
