import ApiScaffold.Json.Tree
/-!
# Reading JSON

Of a member that is written several times the last is kept; every number has to be in range and
every text sound.
-/
namespace ApiScaffold.Json

mutual

def ofTree? : Tree → Option Json
  | .null => some .null
  | .bool b => some (.bool b)
  | .number n => n.map .number
  | .text s => s.map .string
  | .array items => (ofItems? items).map .array
  | .object members => (ofMembers? members []).map .object

def ofItems? : List Tree → Option (List Json)
  | [] => some []
  | item :: items => do
    let value ← ofTree? item
    let values ← ofItems? items
    some (value :: values)

/-- Adds members to those read before. -/
def ofMembers? : List (Option String × Tree) → Keyed Json → Option (Keyed Json)
  | [], done => some done
  | (key, tree) :: members, done => do
    let key ← key
    let value ← ofTree? tree
    ofMembers? members (Keyed.insert key value done)

end

/-- Reads one value that takes up the whole text and nests at most `depth` deep. -/
def readWithin? (depth : Nat) (text : String) : Option Json :=
  (Tree.readWithin? depth text).bind ofTree?

/-- The nesting that a description may have. -/
def nestingLimit : Nat := 127

def read? (text : String) : Option Json := readWithin? nestingLimit text

mutual

/-- The tree that a value is written as. -/
def toTree : Json → Tree
  | .null => .null
  | .bool b => .bool b
  | .number n => .number (some n)
  | .string s => .text (some s)
  | .array items => .array (toItems items)
  | .object members => .object (toMembers members)

def toItems : List Json → List Tree
  | [] => []
  | item :: items => toTree item :: toItems items

def toMembers : List (String × Json) → List (Option String × Tree)
  | [] => []
  | (key, value) :: members => (some key, toTree value) :: toMembers members

end

end ApiScaffold.Json
