import ApiScaffold.Json.Token
/-!
# Written JSON

A JSON text as a tree: members stand in the order in which they are written, as often as they
are written, and a number out of range or a broken text does not spoil the rest. The reader takes
one token at a time and keeps the arrays and objects that are still open, innermost first.
-/
namespace ApiScaffold.Json

inductive Tree where
  | null
  | bool (value : Bool)
  | number (value : Option Number)
  | text (value : Option String)
  | array (items : List Tree)
  | object (members : List (Option String × Tree))
  deriving Inhabited

/-- An open array or object with what it holds so far (reversed). -/
inductive Frame where
  | array (reversed : List Tree)
  | object (reversed : List (Option String × Tree)) (key : Option String)

/-- What may come next. -/
inductive Expecting where
  | value
  | valueOrEnd
  | keyOrEnd
  | key (reversed : List (Option String × Tree))
  | colon
  | separator (value : Tree)

structure Reading where
  frames : List Frame
  expecting : Expecting

namespace Reading

def start : Reading := ⟨[], .value⟩

/-- Puts a finished value where one was expected. -/
def finish (frames : List Frame) (value : Tree) : Option Reading :=
  some ⟨frames, .separator value⟩

/-- Takes the first token of a value; at most `depth` arrays and objects are open at a time. -/
def beginValue (depth : Nat) (frames : List Frame) : Token → Option Reading
  | .text units => finish frames (.text (textOf? units))
  | .number n => finish frames (.number n)
  | .null => finish frames .null
  | .bool b => finish frames (.bool b)
  | .openArray =>
    if frames.length < depth then some ⟨.array [] :: frames, .valueOrEnd⟩ else none
  | .openObject => if frames.length < depth then some ⟨frames, .keyOrEnd⟩ else none
  | _ => none

/-- Closes the innermost array or object around its last value. -/
def close (value : Tree) : List Frame → Token → Option Reading
  | .array reversed :: frames, .closeArray =>
    finish frames (.array (value :: reversed).reverse)
  | .object reversed key :: frames, .closeObject =>
    finish frames (.object ((key, value) :: reversed).reverse)
  | .array reversed :: frames, .comma => some ⟨.array (value :: reversed) :: frames, .value⟩
  | .object reversed key :: frames, .comma => some ⟨frames, .key ((key, value) :: reversed)⟩
  | _, _ => none

def step (depth : Nat) (r : Reading) (token : Token) : Option Reading :=
  match r.expecting, token with
  | .value, token => beginValue depth r.frames token
  | .valueOrEnd, .closeArray =>
    match r.frames with
    | .array reversed :: frames => finish frames (.array reversed.reverse)
    | _ => none
  | .valueOrEnd, token => beginValue depth r.frames token
  | .keyOrEnd, .closeObject => finish r.frames (.object [])
  | .keyOrEnd, .text units => some ⟨.object [] (textOf? units) :: r.frames, .colon⟩
  | .key reversed, .text units => some ⟨.object reversed (textOf? units) :: r.frames, .colon⟩
  | .colon, .colon => some ⟨r.frames, .value⟩
  | .separator value, token => close value r.frames token
  | _, _ => none

/-- The value read, when nothing is open any more. -/
def result? (r : Reading) : Option Tree :=
  match r.frames, r.expecting with
  | [], .separator value => some value
  | _, _ => none

end Reading

/-- Reads one value that takes up the whole text and nests at most `depth` deep. -/
def Tree.readWithin? (depth : Nat) (text : String) : Option Tree := do
  let tokens ← tokens? text.toList
  let last ← tokens.foldlM (Reading.step depth) .start
  last.result?

/-- Reads a value of any depth. -/
def Tree.read? (text : String) : Option Tree :=
  Tree.readWithin? text.length text

end ApiScaffold.Json
