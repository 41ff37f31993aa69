import ApiScaffold.Json.Numeral
import ApiScaffold.Text.Blank
/-!
# JSON pointers

A pointer is empty or a sequence of steps, each after a slash. In a step `~1` stands for a
slash and `~0` for a tilde.
-/
namespace ApiScaffold.Json

def unescapeStep : List Char → List Char
  | '~' :: '1' :: rest => '/' :: unescapeStep rest
  | '~' :: '0' :: rest => '~' :: unescapeStep rest
  | c :: rest => c :: unescapeStep rest
  | [] => []

/-- A position in an array: digits without a leading zero. -/
def position? (step : List Char) : Option Nat :=
  if isDigits step && (step.length = 1 || step.head? != some '0') then
    let n := naturalOf step
    if n ≤ greatestNatural then some n else none
  else none

def step? (node : Json) (step : List Char) : Option Json :=
  match node with
  | .object members => Keyed.get? (String.ofList step) members
  | .array items => (position? step).bind (items[·]?)
  | _ => none

def pointerSteps? : List Char → Option (List (List Char))
  | [] => some []
  | '/' :: rest => some ((Text.splitBy (· = '/') rest).map unescapeStep)
  | _ => none

/-- The node that a pointer designates. -/
def pointer? (root : Json) (pointer : List Char) : Option Json :=
  (pointerSteps? pointer).bind fun steps => steps.foldlM step? root

end ApiScaffold.Json
