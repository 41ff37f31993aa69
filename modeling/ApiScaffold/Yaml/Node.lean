import ApiScaffold.Yaml.Layout
/-!
# YAML nodes

The tree that tokens spell. Reading takes one token at a time and keeps the collections that are
still open, innermost first; a node that is left out counts as an empty plain scalar.
-/
namespace ApiScaffold.Yaml

/-- What may be written before a node. -/
structure Properties where
  anchor : Option String
  tag : Option Tag
  deriving DecidableEq, Inhabited

def Properties.none : Properties := ⟨Option.none, Option.none⟩

inductive Node where
  | aliasTo (name : String)
  | scalar (properties : Properties) (plain : Bool) (text : String)
  | sequence (properties : Properties) (items : List Node)
  | mapping (properties : Properties) (pairs : List (Node × Node))
  deriving Inhabited

def Node.empty (p : Properties) : Node := .scalar p true ""

/-- Which part of a mapping in braces comes next: a key that may stand without a value, a key
behind its `?`, or the value of a key. -/
inductive Side where
  | entry
  | key
  | value (key : Node)

/-- An open collection with what it holds so far (reversed). A mapping knows the key whose value
comes next. -/
inductive Frame where
  | blockSequence (properties : Properties) (items : List Node)
  /-- A sequence in a block mapping that is not indented any further. -/
  | flatSequence (properties : Properties) (items : List Node)
  | blockMapping (properties : Properties) (pairs : List (Node × Node)) (key : Option Node)
  | flowSequence (properties : Properties) (items : List Node)
  | flowMapping (properties : Properties) (pairs : List (Node × Node)) (side : Side)
  /-- A mapping of one pair, without braces, in a sequence in brackets. -/
  | flowPair (key : Option Node)

inductive NodeReading where
  /-- A node comes next; some properties of it are read. -/
  | wanting (given : Properties) (frames : List Frame)
  | between (frames : List Frame)
  | finished (root : Node)
  | ended (root : Node)

namespace NodeReading

/-- Puts a finished node into the innermost open collection. -/
def attach (node : Node) : List Frame → NodeReading
  | [] => finished node
  | .blockSequence p items :: frames => between (.blockSequence p (node :: items) :: frames)
  | .flatSequence p items :: frames => between (.flatSequence p (node :: items) :: frames)
  | .blockMapping p pairs none :: frames => between (.blockMapping p pairs (some node) :: frames)
  | .blockMapping p pairs (some key) :: frames =>
    between (.blockMapping p ((key, node) :: pairs) none :: frames)
  | .flowSequence p items :: frames => between (.flowSequence p (node :: items) :: frames)
  | .flowMapping p pairs .entry :: frames =>
    between (.flowMapping p ((node, .empty .none) :: pairs) .entry :: frames)
  | .flowMapping p pairs .key :: frames => between (.flowMapping p pairs (.value node) :: frames)
  | .flowMapping p pairs (.value key) :: frames =>
    between (.flowMapping p ((key, node) :: pairs) .entry :: frames)
  | .flowPair none :: frames => between (.flowPair (some node) :: frames)
  | .flowPair (some key) :: frames => attach (.mapping .none [(key, node)]) frames

def want (frames : List Frame) : Option NodeReading := some (wanting .none frames)

/-- A token where a block mapping has no key without a value. -/
def stepBlockMapping (p : Properties) (pairs : List (Node × Node)) (frames : List Frame) :
    Token → Option NodeReading
  | .key => want (.blockMapping p pairs none :: frames)
  | .blockEnd => some (attach (.mapping p pairs.reverse) frames)
  | _ => none

/-- A token behind a whole part of a block mapping; a key may be left without a value. -/
def resumeBlockMapping (p : Properties) (pairs : List (Node × Node)) (key : Option Node)
    (frames : List Frame) (token : Token) : Option NodeReading :=
  match key with
  | some k =>
    if token = .value then want (.blockMapping p pairs key :: frames)
    else stepBlockMapping p ((k, .empty .none) :: pairs) frames token
  | none => stepBlockMapping p pairs frames token

def resumeFlowSequence (p : Properties) (items : List Node) (frames : List Frame) :
    Token → Option NodeReading
  | .flowEntry => want (.flowSequence p items :: frames)
  | .flowSequenceEnd => some (attach (.sequence p items.reverse) frames)
  | _ => none

def resumeFlowMapping (p : Properties) (pairs : List (Node × Node)) (frames : List Frame) :
    Token → Option NodeReading
  | .flowEntry => want (.flowMapping p pairs .entry :: frames)
  | .flowMappingEnd => some (attach (.mapping p pairs.reverse) frames)
  | _ => none

/-- A token where no node is expected. -/
def resume : List Frame → Token → Option NodeReading
  | .blockSequence p items :: frames, .blockEntry => want (.blockSequence p items :: frames)
  | .blockSequence p items :: frames, .blockEnd => some (attach (.sequence p items.reverse) frames)
  | .flatSequence p items :: frames, .blockEntry => want (.flatSequence p items :: frames)
  | .flatSequence p items :: .blockMapping q pairs none :: frames, token =>
    resumeBlockMapping q pairs (some (.sequence p items.reverse)) frames token
  | .flatSequence p items :: .blockMapping q pairs (some key) :: frames, token =>
    resumeBlockMapping q ((key, .sequence p items.reverse) :: pairs) none frames token
  | .blockMapping p pairs key :: frames, token => resumeBlockMapping p pairs key frames token
  | .flowSequence p items :: frames, token => resumeFlowSequence p items frames token
  | .flowMapping p pairs (.value key) :: frames, token =>
    if token = .value then want (.flowMapping p pairs (.value key) :: frames)
    else resumeFlowMapping p ((key, .empty .none) :: pairs) frames token
  | .flowMapping p pairs _ :: frames, token => resumeFlowMapping p pairs frames token
  | .flowPair (some key) :: frames, .value => want (.flowPair (some key) :: frames)
  | .flowPair (some key) :: .flowSequence p items :: frames, token =>
    resumeFlowSequence p (.mapping .none [(key, .empty .none)] :: items) frames token
  | _, _ => none

/-- A token in place of a node, where the node may be left out. The key of a single pair takes
the token along. -/
def leaveOut (frames : List Frame) (token : Token) : Option NodeReading :=
  let node := Node.empty .none
  let resumeWith : Option NodeReading :=
    match attach node frames with
    | between frames => resume frames token
    | _ => none
  match frames, token with
  | .blockSequence .. :: _, .blockEntry => resumeWith
  | .blockSequence .. :: _, .blockEnd => resumeWith
  | .flatSequence .. :: _, .blockEntry => resumeWith
  | .flatSequence .. :: _, .key => resumeWith
  | .flatSequence .. :: _, .value => resumeWith
  | .flatSequence .. :: _, .blockEnd => resumeWith
  | .blockMapping .. :: _, .key => resumeWith
  | .blockMapping .. :: _, .value => resumeWith
  | .blockMapping .. :: _, .blockEnd => resumeWith
  | .flowSequence p items :: frames, .flowSequenceEnd =>
    some (attach (.sequence p items.reverse) frames)
  | .flowSequence p items :: frames, .key =>
    want (.flowPair none :: .flowSequence p items :: frames)
  | .flowPair none :: _, .value => some (attach node frames)
  | .flowPair none :: _, .flowEntry => some (attach node frames)
  | .flowPair none :: _, .flowSequenceEnd => some (attach node frames)
  | .flowPair (some _) :: _, .flowEntry => resumeWith
  | .flowPair (some _) :: _, .flowSequenceEnd => resumeWith
  | .flowMapping p pairs .entry :: frames, .flowMappingEnd =>
    some (attach (.mapping p pairs.reverse) frames)
  | .flowMapping p pairs .entry :: frames, .key => want (.flowMapping p pairs .key :: frames)
  | .flowMapping _ _ .key :: _, .value => resumeWith
  | .flowMapping _ _ .key :: _, .flowEntry => resumeWith
  | .flowMapping _ _ .key :: _, .flowMappingEnd => resumeWith
  | .flowMapping _ _ (.value _) :: _, .flowEntry => resumeWith
  | .flowMapping _ _ (.value _) :: _, .flowMappingEnd => resumeWith
  | _, _ => none

def isBlock : List Frame → Bool
  | .flowSequence .. :: _ => false
  | .flowMapping .. :: _ => false
  | .flowPair .. :: _ => false
  | _ => true

def isBlockMapping : List Frame → Bool
  | .blockMapping .. :: _ => true
  | _ => false

/-- The first token of a node's content. A lone `!` says nothing about a scalar. -/
def content? (given : Properties) (frames : List Frame) : Token → Option NodeReading
  | .scalar plain text =>
    let p := if given.tag = some ⟨"", "!"⟩ then { given with tag := none } else given
    some (attach (.scalar p plain text) frames)
  | .flowSequenceStart => want (.flowSequence given [] :: frames)
  | .flowMappingStart => want (.flowMapping given [] .entry :: frames)
  | .blockSequenceStart =>
    if isBlock frames then some (between (.blockSequence given [] :: frames)) else none
  | .blockMappingStart =>
    if isBlock frames then some (between (.blockMapping given [] none :: frames)) else none
  | .blockEntry =>
    if isBlockMapping frames then want (.flatSequence given [] :: frames) else none
  | _ => none

/-- A token where a node is expected. -/
def begin? (given : Properties) (frames : List Frame) (token : Token) : Option NodeReading :=
  match token, given with
  | .anchor name, ⟨none, tag⟩ => some (wanting ⟨some name, tag⟩ frames)
  | .tag t, ⟨anchor, none⟩ => some (wanting ⟨anchor, some t⟩ frames)
  | .aliasTo name, ⟨none, none⟩ => some (attach (.aliasTo name) frames)
  | token, given =>
    match content? given frames token with
    | some reading => some reading
    | none =>
      if given = .none then leaveOut frames token
      else match attach (.empty given) frames with
        | between frames => resume frames token
        | finished root =>
          match token with
          | .documentEnd => some (finished root)
          | .streamEnd => some (ended root)
          | _ => none
        | _ => none

def step (r : NodeReading) (token : Token) : Option NodeReading :=
  match r, token with
  | wanting given frames, token => begin? given frames token
  | between frames, token => resume frames token
  | finished root, .documentEnd => some (finished root)
  | finished root, .streamEnd => some (ended root)
  | _, _ => none

end NodeReading

/-- What the handles of tags stand for. -/
abbrev Handles := List (String × String)

/-- A document with the handles it declares; nothing if the stream holds no document. -/
structure Written where
  handles : Handles
  root : Option Node

/-- Takes the directives before a document. The version may be given once, as 1.1 or 1.2, and a
handle may be declared once. -/
def directives? (versioned : Bool) (handles : Handles) :
    List Token → Option (Bool × Handles × List Token)
  | .version major minor :: rest =>
    if versioned || major ≠ 1 || (minor ≠ 1 && minor ≠ 2) then none
    else directives? true handles rest
  | .handle name beginning :: rest =>
    if handles.any (·.1 = name) then none
    else directives? versioned (handles ++ [(name, beginning)]) rest
  | rest => some (versioned || !handles.isEmpty, handles, rest)

/-- How a document starts. Behind directives it is marked, and a marked one may be left out. -/
def opening? (directed : Bool) : List Token → Option (NodeReading × List Token)
  | .documentStart :: .documentEnd :: rest => some (.finished (.empty .none), rest)
  | .documentStart :: .streamEnd :: rest => some (.ended (.empty .none), rest)
  | .documentStart :: rest => some (.wanting .none [], rest)
  | rest => if directed then none else some (.wanting .none [], rest)

/-- Reads a stream of at most one document. -/
def Written.ofTokens? (tokens : List Token) : Option Written :=
  match directives? false [] tokens with
  | some (false, _, [.streamEnd]) => some ⟨[], none⟩
  | some (directed, handles, tokens) => do
    let (start, tokens) ← opening? directed tokens
    match ← tokens.foldlM NodeReading.step start with
    | .ended root => some ⟨handles, some root⟩
    | _ => none
  | none => none

end ApiScaffold.Yaml
