import ApiScaffold.Yaml.Typing
/-!
# Reading YAML

A document's nodes become values in two passes. The first types scalars, spells out tags and
numbers anchors; the second puts what an alias stands for in its place, within limits on nesting
and on the number of aliases.
-/
namespace ApiScaffold.Yaml

/-- A node whose scalars are typed. Anchors and aliases are numbers. -/
inductive Linked where
  | aliasTo (number : Nat)
  | scalar (anchor : Option Nat) (value : Value)
  | sequence (anchor : Option Nat) (tag : Option String) (items : List Linked)
  | mapping (anchor : Option Nat) (tag : Option String) (pairs : List (Linked × Linked))
  deriving Inhabited

/-! ## Tags -/

/-- What the handles stand for that need no declaration. -/
def standardHandles : Handles := [("!", "!"), ("!!", "tag:yaml.org,2002:")]

def Tag.text? (handles : Handles) (tag : Tag) : Option String :=
  if tag.handle.isEmpty then some tag.ending
  else ((handles ++ standardHandles).lookup tag.handle).map (· ++ tag.ending)

/-- The name of a tag that is not of the core schema: it starts with an exclamation mark. -/
def ownTag? (tag : String) : Option String :=
  match tag.toList with
  | ['!'] => some "!"
  | '!' :: name => some (String.ofList name)
  | _ => none

def Value.tagWith (tag : Option String) (value : Value) : Value :=
  match tag.bind ownTag? with
  | some name => .tagged name value
  | none => value

/-! ## First pass -/

/-- The numbers of the anchor names met so far. -/
abbrev Names := List (String × Nat)

/-- An anchor has the number of names known before it. A name that is met again is known
already, so its number may be given once more. -/
def Names.put (name : String) (names : Names) : Names :=
  let number := names.length
  if names.any (·.1 = name) then
    names.map fun (known, n) => (known, if known = name then number else n)
  else (name, number) :: names

abbrev Linking := StateT Names Option

def numberAnchor (p : Properties) : Linking (Option Nat) := do
  match p.anchor with
  | none => return none
  | some name =>
    modify (Names.put name)
    return (← get).lookup name

def tagOf (handles : Handles) (p : Properties) : Linking (Option String) :=
  match p.tag with
  | none => return none
  | some tag => do
    let text ← tag.text? handles
    return some text

mutual

def link (handles : Handles) : Node → Linking Linked
  | .aliasTo name => do
    let number ← (← get).lookup name
    return .aliasTo number
  | .scalar p plain text => do
    let tag ← tagOf handles p
    let anchor ← numberAnchor p
    let own := (tag.bind ownTag?).isSome
    let value ← scalarValue? (if own then none else tag) plain text
    return .scalar anchor (value.tagWith tag)
  | .sequence p items => do
    let tag ← tagOf handles p
    let anchor ← numberAnchor p
    return .sequence anchor tag (← linkItems handles items)
  | .mapping p pairs => do
    let tag ← tagOf handles p
    let anchor ← numberAnchor p
    return .mapping anchor tag (← linkPairs handles pairs)

def linkItems (handles : Handles) : List Node → Linking (List Linked)
  | [] => return []
  | item :: items => do
    let item ← link handles item
    return item :: (← linkItems handles items)

def linkPairs (handles : Handles) : List (Node × Node) → Linking (List (Linked × Linked))
  | [] => return []
  | (key, value) :: pairs => do
    let key ← link handles key
    let value ← link handles value
    return (key, value) :: (← linkPairs handles pairs)

end

/-! ## Second pass -/

mutual

/-- The nodes with anchors, in the order of their starts. -/
def anchored : Linked → List (Nat × Linked)
  | .aliasTo _ => []
  | .scalar anchor value => anchor.toList.map (·, .scalar anchor value)
  | .sequence anchor tag items =>
    anchor.toList.map (·, .sequence anchor tag items) ++ anchoredItems items
  | .mapping anchor tag pairs =>
    anchor.toList.map (·, .mapping anchor tag pairs) ++ anchoredPairs pairs

def anchoredItems : List Linked → List (Nat × Linked)
  | [] => []
  | item :: items => anchored item ++ anchoredItems items

def anchoredPairs : List (Linked × Linked) → List (Nat × Linked)
  | [] => []
  | (key, value) :: pairs => anchored key ++ anchored value ++ anchoredPairs pairs

end

mutual

/-- Starts and ends of collections count one each. -/
def extent : Linked → Nat
  | .aliasTo _ => 1
  | .scalar _ _ => 1
  | .sequence _ _ items => 2 + extentItems items
  | .mapping _ _ pairs => 2 + extentPairs pairs

def extentItems : List Linked → Nat
  | [] => 0
  | item :: items => extent item + extentItems items

def extentPairs : List (Linked × Linked) → Nat
  | [] => 0
  | (key, value) :: pairs => extent key + extent value + extentPairs pairs

end

/-- Of nodes with one number the last stands. -/
abbrev Targets := List (Nat × Linked)

/-- Counts down the aliases that may still be followed. -/
abbrev Composing := StateT Nat Option

/-- What stands at a node: for an alias, its target. -/
def target (targets : Targets) : Linked → Composing Linked
  | .aliasTo number => do
    let left ← get
    if left = 0 then failure
    else
      set (left - 1)
      let found ← targets.lookup number
      return found
  | node => return node

/-- No key may stand in a mapping twice. -/
def distinctKeys : List (Value × Value) → Bool
  | [] => true
  | (key, _) :: pairs => pairs.all (fun (other, _) => !key.same other) && distinctKeys pairs

/-- The value of a node in which at most `depth` collections are nested. -/
def compose (targets : Targets) (depth : Nat) (node : Linked) : Composing Value := do
  match ← target targets node, depth with
  | .scalar _ value, _ => return value
  | .sequence _ tag items, depth + 1 =>
    let items ← items.mapM (compose targets depth)
    return (Value.sequence items).tagWith tag
  | .mapping _ tag pairs, depth + 1 =>
    let pairs ← pairs.mapM fun (key, value) => do
      return (← compose targets depth key, ← compose targets depth value)
    if distinctKeys pairs then return (Value.mapping pairs).tagWith tag else failure
  | _, _ => failure

def nestingLimit : Nat := 128

def aliasesPerEvent : Nat := 100

def Value.ofNode? (handles : Handles) (root : Node) : Option Value := do
  let (linked, _) ← (link handles root).run []
  let composed ← (compose (anchored linked).reverse nestingLimit linked).run
    (extent linked * aliasesPerEvent)
  some composed.1

/-- A text without a document is null. -/
def Value.read? (text : String) : Option Value := do
  let tokens ← Token.read? text
  let written ← Written.ofTokens? tokens
  match written.root with
  | some root => Value.ofNode? written.handles root
  | none => some .null

end ApiScaffold.Yaml
