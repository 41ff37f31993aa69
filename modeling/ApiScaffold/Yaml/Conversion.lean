import ApiScaffold.Failure
import ApiScaffold.Yaml.Reader
/-!
# YAML values as JSON

Keys that are numbers or truth values become text, and of members with one key the last is kept.
Tags are dropped. Other keys and numbers that are not finite have no JSON form.
-/
namespace ApiScaffold.Yaml

def Number.toJson : Number → Except LoadFault Json
  | .int n => .ok (.number (.int n))
  | .real x => .ok (.number (.real x))
  | n => .error (.unrepresentableNumber n.shown)

/-- The name of the member that a key becomes. -/
def Value.memberName : Value → Except LoadFault String
  | .text s => .ok s
  | .number n => .ok n.shown
  | .bool b => .ok (toString b)
  | key => .error (.unsupportedKey key.shown)

mutual

def Value.toJson : Value → Except LoadFault Json
  | .null => .ok .null
  | .bool b => .ok (.bool b)
  | .number n => n.toJson
  | .text s => .ok (.string s)
  | .sequence items => (itemsToJson items).map .array
  | .mapping pairs => (pairsToJson [] pairs).map .object
  | .tagged _ value => value.toJson

def itemsToJson : List Value → Except LoadFault (List Json)
  | [] => .ok []
  | item :: items => do
    let item ← item.toJson
    return item :: (← itemsToJson items)

/-- Adds pairs to the members made of those before them. -/
def pairsToJson (done : Keyed Json) : List (Value × Value) → Except LoadFault (Keyed Json)
  | [] => .ok done
  | (key, value) :: pairs => do
    let name ← key.memberName
    let value ← value.toJson
    pairsToJson (Keyed.insert name value done) pairs

end

end ApiScaffold.Yaml
