import ApiScaffold.Yaml.Token
/-!
# From characters to tokens

Reading tokens keeps track of layout: the columns of the open block collections, the depth of
brackets, and, at each depth, a place where the key of a mapping may have started. A colon behind
such a place makes it a key in hindsight.
-/
namespace ApiScaffold.Yaml

/-- A place where a key may start. A required one stands where nothing but a key may. -/
structure KeyPlace where
  required : Bool
  /-- How many tokens come before it. -/
  token : Nat
  mark : Mark

structure Layout where
  rest : List Mark
  /-- The tokens so far, reversed. -/
  tokens : List Token
  /-- The columns of the open block collections, innermost first. -/
  columns : List Int
  keyAllowed : Bool
  /-- The place outside brackets, or directly inside the innermost ones. -/
  place : Option KeyPlace
  /-- The places further out. -/
  outer : List (Option KeyPlace)

namespace Layout

def start (ms : List Mark) : Layout := ⟨ms, [], [], true, none, []⟩

def here (s : Layout) : Mark := s.rest.headD ⟨endChar, 0, 0, 0⟩

def inFlow (s : Layout) : Bool := !s.outer.isEmpty

/-- The column of the innermost block collection, −1 outside all. -/
def column (s : Layout) : Int := s.columns.headD (-1)

def push (token : Token) (s : Layout) : Layout := { s with tokens := token :: s.tokens }

/-- Puts a token behind the first `n`. -/
def insert (n : Nat) (token : Token) (s : Layout) : Layout :=
  let (later, before) := s.tokens.splitAt (s.tokens.length - n)
  { s with tokens := later ++ token :: before }

/-- Opens a block collection unless one is open at the column already. -/
def indentTo (column : Int) (token : Token) (n : Nat) (s : Layout) : Layout :=
  if !s.inFlow && s.column < column then
    { s with columns := column :: s.columns }.insert n token
  else s

/-- Closes the block collections to the right of a column. -/
def unindent (column : Int) (s : Layout) : Layout :=
  if s.inFlow then s
  else
    let closed := s.columns.takeWhile (column < ·)
    { s with
      columns := s.columns.drop closed.length
      tokens := List.replicate closed.length .blockEnd ++ s.tokens }

/-- Gives up the place for a key; impossible if a key is required there. -/
def dropPlace? (s : Layout) : Option Layout :=
  match s.place with
  | some place => if place.required then none else some { s with place := none }
  | none => some s

/-- Marks a place for a key, where one is allowed. -/
def notePlace? (s : Layout) : Option Layout :=
  if s.keyAllowed then do
    let s ← s.dropPlace?
    let required := !s.inFlow && s.column = s.here.column
    some { s with place := some ⟨required, s.tokens.length, s.here⟩ }
  else some s

/-- The longest way from the start of a key to its colon. -/
def keyLimit : Nat := 1024

def isStale (here : Mark) (place : KeyPlace) : Bool :=
  place.mark.line < here.line || place.mark.index + keyLimit < here.index

/-- A key stands on one line and is not too long. -/
def refreshPlace? (here : Mark) : Option KeyPlace → Option (Option KeyPlace)
  | some place =>
    if isStale here place then if place.required then none else some none
    else some (some place)
  | none => some none

def refresh? (s : Layout) : Option Layout := do
  let place ← refreshPlace? s.here s.place
  let outer ← s.outer.mapM (refreshPlace? s.here)
  some { s with place, outer }

/-- Where a key may start, tabs are no blanks. -/
def skipBlanks (flow : Bool) (comment : Bool) (keyAllowed : Bool) : List Mark → Bool × List Mark
  | [] => (keyAllowed, [])
  | m :: rest =>
    let c := m.char
    if isBreak c then skipBlanks flow false (keyAllowed || !flow) rest
    else if c = endChar then (keyAllowed, m :: rest)
    else if comment then skipBlanks flow true keyAllowed rest
    else if c = ' ' || (c = '\t' && (flow || !keyAllowed)) || (m.index = 0 && c = byteOrderMark)
    then skipBlanks flow false keyAllowed rest
    else if c = '#' then skipBlanks flow true keyAllowed rest
    else (keyAllowed, m :: rest)

def skip (n : Nat) (s : Layout) : Layout := { s with rest := s.rest.drop n }

def streamEnd? (s : Layout) : Option Layout := do
  let s ← (s.unindent (-1)).dropPlace?
  some (s.push .streamEnd)

def documentMarker? (token : Token) (s : Layout) : Option Layout := do
  let s ← (s.unindent (-1)).dropPlace?
  some ({ s with keyAllowed := false }.push token |>.skip 3)

def directiveLine? (s : Layout) : Option Layout := do
  let s ← (s.unindent (-1)).dropPlace?
  let (token, rest) ← directive? (s.rest.drop 1)
  some ({ s with keyAllowed := false, rest }.push token)

def openFlow? (token : Token) (s : Layout) : Option Layout := do
  let s ← s.notePlace?
  let s := { s with place := none, outer := s.place :: s.outer, keyAllowed := true }
  some (s.push token |>.skip 1)

def closeFlow? (token : Token) (s : Layout) : Option Layout := do
  let s ← s.dropPlace?
  let s := match s.outer with
    | place :: outer => { s with place, outer }
    | [] => s
  some ({ s with keyAllowed := false }.push token |>.skip 1)

def flowEntry? (s : Layout) : Option Layout := do
  let s ← s.dropPlace?
  some ({ s with keyAllowed := true }.push .flowEntry |>.skip 1)

def blockEntry? (s : Layout) : Option Layout :=
  if !s.inFlow && !s.keyAllowed then none
  else do
    let s ← (s.indentTo s.here.column .blockSequenceStart s.tokens.length).dropPlace?
    some ({ s with keyAllowed := true }.push .blockEntry |>.skip 1)

def key? (s : Layout) : Option Layout :=
  if !s.inFlow && !s.keyAllowed then none
  else do
    let s ← (s.indentTo s.here.column .blockMappingStart s.tokens.length).dropPlace?
    some ({ s with keyAllowed := !s.inFlow }.push .key |>.skip 1)

/-- At a colon, what started at the place for a key becomes a key. -/
def value? (s : Layout) : Option Layout :=
  match s.place with
  | some place =>
    let s := (s.insert place.token .key).indentTo place.mark.column .blockMappingStart place.token
    some ({ s with place := none, keyAllowed := false }.push .value |>.skip 1)
  | none =>
    if !s.inFlow && !s.keyAllowed then none
    else
      let s := s.indentTo s.here.column .blockMappingStart s.tokens.length
      some ({ s with keyAllowed := !s.inFlow }.push .value |>.skip 1)

/-- A token that may start a key. -/
def starter? (read : List Mark → Option (Token × List Mark)) (s : Layout) : Option Layout := do
  let s ← s.notePlace?
  let (token, rest) ← read (s.rest.drop 1)
  some ({ s with keyAllowed := false, rest }.push token)

/-- A tag ends at a gap, or inside brackets at a comma. -/
def tagWithin? (flow : Bool) (ms : List Mark) : Option (Token × List Mark) := do
  let (tag, rest) ← tag? ms
  if isGap (charAt 0 rest) || (flow && charAt 0 rest = ',') then some (.tag tag, rest) else none

def blockScalar? (literal : Bool) (s : Layout) : Option Layout := do
  let s ← s.dropPlace?
  let scanned ← block? literal s.column (s.rest.drop 1)
  some ({ s with keyAllowed := true, rest := scanned.rest }.push (.scalar false scanned.text))

def quotedScalar? (scan : List Mark → Option Scanned) (s : Layout) : Option Layout :=
  s.starter? fun ms => (scan ms).map fun scanned => (.scalar false scanned.text, scanned.rest)

/-- A line break behind a plain scalar makes a key possible again. -/
def plainScalar? (s : Layout) : Option Layout := do
  let s ← s.notePlace?
  let (scanned, broken) ← plainFrom s.inFlow (s.column + 1) [] .none s.rest
  some ({ s with keyAllowed := broken, rest := scanned.rest }.push (.scalar true scanned.text))

/-- Whether a plain scalar may start with a character that has the next one behind it. -/
def startsPlain (flow : Bool) (c next : Char) : Bool :=
  if c = '-' then !isSpace next
  else if c = '?' || c = ':' then !flow && !isGap next
  else !isGap c && !(",[]\x7b\x7d#&*!|>'\"%@".toList.contains c) && c ≠ '\x60'

/-- Reads one more token, with those that it implies; the layout stands at its first
character. -/
def token? (s : Layout) : Option Layout :=
  let c := s.here.char
  let next := charAt 1 s.rest
  let flow := s.inFlow
  if c = endChar then s.streamEnd?
  else if s.here.column = 0 && c = '%' then s.directiveLine?
  else if isDocumentStart s.rest then s.documentMarker? .documentStart
  else if isDocumentEnd s.rest then s.documentMarker? .documentEnd
  else if c = '[' then s.openFlow? .flowSequenceStart
  else if c = '\x7b' then s.openFlow? .flowMappingStart
  else if c = ']' then s.closeFlow? .flowSequenceEnd
  else if c = '\x7d' then s.closeFlow? .flowMappingEnd
  else if c = ',' then s.flowEntry?
  else if c = '-' && isGap next then s.blockEntry?
  else if c = '?' && (flow || isGap next) then s.key?
  else if c = ':' && (flow || isGap next) then s.value?
  else if c = '*' then s.starter? fun ms => (name? ms).map fun (name, rest) => (.aliasTo name, rest)
  else if c = '&' then s.starter? fun ms => (name? ms).map fun (name, rest) => (.anchor name, rest)
  else if c = '!' then s.starter? (tagWithin? flow)
  else if c = '|' && !flow then s.blockScalar? true
  else if c = '>' && !flow then s.blockScalar? false
  else if c = '\'' then s.quotedScalar? (singleQuotedFrom [] .none)
  else if c = '"' then s.quotedScalar? (doubleQuotedFrom [] .none .free)
  else if startsPlain flow c next then s.plainScalar?
  else none

def step? (s : Layout) : Option Layout := do
  let (keyAllowed, rest) := skipBlanks s.inFlow false s.keyAllowed s.rest
  let s ← { s with keyAllowed, rest }.refresh?
  (s.unindent s.here.column).token?

/-- Reads tokens up to the end of the text; each takes up a character at least. -/
def finish? : Nat → Layout → Option (List Token)
  | 0, _ => none
  | n + 1, s => do
    let next ← s.step?
    if next.tokens.head? = some .streamEnd then some next.tokens.reverse else finish? n next

end Layout

def Token.read? (text : String) : Option (List Token) := do
  let ms ← marks? text
  (Layout.start ms).finish? (ms.length + 1)

end ApiScaffold.Yaml
