import ApiScaffold.Json.Basic
import ApiScaffold.Text.Quoted
import ApiScaffold.Yaml.Node
/-!
# YAML values

The values that documents denote, when two of them are equal, and how a message shows them.
-/
namespace ApiScaffold.Yaml

open ApiScaffold.Text

inductive Number where
  | int (value : Int)
  | real (value : Binary64)
  | infinite (negative : Bool)
  | undefined
  deriving DecidableEq

inductive Value where
  | null
  | bool (value : Bool)
  | number (value : Number)
  | text (value : String)
  | sequence (items : List Value)
  | mapping (pairs : List (Value × Value))
  | tagged (tag : String) (value : Value)
  deriving Inhabited

/-! ## Equality -/

/-- The two zeros are equal; an integer equals no real. -/
def Number.same : Number → Number → Bool
  | .real x, .real y => x = y || (x.significand = 0 && y.significand = 0)
  | x, y => x = y

mutual

/-- The order of a mapping's pairs does not count. -/
def Value.same : Value → Value → Bool
  | .null, .null => true
  | .bool x, .bool y => x = y
  | .number x, .number y => x.same y
  | .text x, .text y => x = y
  | .sequence xs, .sequence ys => sameItems xs ys
  | .mapping xs, .mapping ys => xs.length = ys.length && samePairs xs ys
  | .tagged s x, .tagged t y => s = t && x.same y
  | _, _ => false

def sameItems : List Value → List Value → Bool
  | [], [] => true
  | x :: xs, y :: ys => x.same y && sameItems xs ys
  | _, _ => false

def samePairs : List (Value × Value) → List (Value × Value) → Bool
  | [], _ => true
  | (k, v) :: xs, ys => ys.any (fun (k', v') => k.same k' && v.same v') && samePairs xs ys

end

/-! ## Shown values -/

/-- The exponent of a double is shown below `1e-5` and from `1e16` on. -/
def spelling : Binary64.Spelling := ⟨-5, 15, false⟩

def Number.shown : Number → String
  | .int n => toString n
  | .real x => String.ofList (x.chars spelling)
  | .infinite negative => if negative then "-.inf" else ".inf"
  | .undefined => ".nan"

mutual

def Value.shown : Value → String
  | .null => "Null"
  | .bool b => s!"Bool({b})"
  | .number n => s!"Number({n.shown})"
  | .text s => s!"String({quoted s})"
  | .sequence items => "Sequence [" ++ ", ".intercalate (shownItems items) ++ "]"
  | .mapping pairs => "Mapping \x7b" ++ ", ".intercalate (shownPairs pairs) ++ "\x7d"
  | .tagged tag value => "TaggedValue \x7b tag: !" ++ tag ++ ", value: " ++ value.shown ++ " \x7d"

def shownItems : List Value → List String
  | [] => []
  | item :: items => item.shown :: shownItems items

def shownPairs : List (Value × Value) → List String
  | [] => []
  | (key, value) :: pairs => (shownKey key ++ ": " ++ value.shown) :: shownPairs pairs

/-- Simple keys are shown without their kind. -/
def shownKey : Value → String
  | .bool b => toString b
  | .number n => n.shown
  | .text s => quoted s
  | .null => "Null"
  | .sequence items => "Sequence [" ++ ", ".intercalate (shownItems items) ++ "]"
  | .mapping pairs => "Mapping \x7b" ++ ", ".intercalate (shownPairs pairs) ++ "\x7d"
  | .tagged tag value => "TaggedValue \x7b tag: !" ++ tag ++ ", value: " ++ value.shown ++ " \x7d"

end

end ApiScaffold.Yaml
