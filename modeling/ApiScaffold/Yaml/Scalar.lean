import ApiScaffold.Json.Token
import ApiScaffold.Yaml.Mark
/-!
# Scalars

The text of plain, quoted and block scalars. In a flowing scalar one line break between words
counts as a space and each further one as a line break.
-/
namespace ApiScaffold.Yaml

open ApiScaffold.Json (hexValue?)

/-- What stands between two words of a flowing scalar. Characters are reversed. An escaped line
break has no character of its own. -/
inductive Gap where
  | none
  | spaces (reversed : List Char)
  | breaks (first : Option Char) (reversed : List Char)

namespace Gap

def addSpace (c : Char) : Gap → Gap
  | none => spaces [c]
  | spaces cs => spaces (c :: cs)
  | breaks first more => breaks first more

def addBreak (c : Char) : Gap → Gap
  | breaks first more => breaks first (c :: more)
  | _ => breaks (some c) []

/-- What the gap counts as, reversed. -/
def folded : Gap → List Char
  | none => []
  | spaces cs => cs
  | breaks (some '\n') [] => [' ']
  | breaks (some '\n') more => more
  | breaks (some c) more => more ++ [c]
  | breaks Option.none more => more

def isBroken : Gap → Bool
  | breaks .. => true
  | _ => false

def isNone : Gap → Bool
  | none => true
  | _ => false

end Gap

def ofReversed (cs : List Char) : String := String.ofList cs.reverse

/-- Whether a character ends a plain scalar inside brackets. -/
def isFlowIndicator (c : Char) : Bool :=
  c = ',' || c = '[' || c = ']' || c = '\x7b' || c = '\x7d'

structure Scanned where
  text : String
  rest : List Mark

/-- Reads on in a plain scalar; outside brackets its later lines have to reach column `indent`.
The flag tells whether a line break stands behind it. -/
def plainFrom (flow : Bool) (indent : Int) (done : List Char) (gap : Gap) :
    List Mark → Option (Scanned × Bool)
  | [] => none
  | m :: rest =>
    let c := m.char
    let stop := some (⟨ofReversed done, m :: rest⟩, gap.isBroken)
    if isSpace c then
      if gap.isBroken && m.column < indent && c = '\t' then none
      else plainFrom flow indent done (gap.addSpace c) rest
    else if isBreak c then plainFrom flow indent done (gap.addBreak c) rest
    else if c = endChar then stop
    else if !gap.isNone && ((!flow && m.column < indent) || isDocumentMarker (m :: rest) || c = '#')
    then stop
    else if flow && c = ':' && (isFlowIndicator (charAt 0 rest) || charAt 0 rest = '?') then none
    else if (c = ':' && isGap (charAt 0 rest)) || (flow && isFlowIndicator c) then stop
    else plainFrom flow indent (c :: gap.folded ++ done) .none rest

/-- The character that an escape letter stands for. -/
def escape? : Char → Option Char
  | '0' => some '\x00'
  | 'a' => some '\x07'
  | 'b' => some '\x08'
  | 't' => some '\t'
  | '\t' => some '\t'
  | 'n' => some '\n'
  | 'v' => some '\x0b'
  | 'f' => some '\x0c'
  | 'r' => some '\r'
  | 'e' => some '\x1b'
  | ' ' => some ' '
  | '"' => some '"'
  | '/' => some '/'
  | '\\' => some '\\'
  | 'N' => some '\x85'
  | '_' => some '\xa0'
  | 'L' => some '\u2028'
  | 'P' => some '\u2029'
  | _ => none

/-- How many hexadecimal digits follow an escape letter. -/
def escapedDigits? : Char → Option Nat
  | 'x' => some 2
  | 'u' => some 4
  | 'U' => some 8
  | _ => none

/-- The character of a number, if it is one. -/
def charOf? (n : Nat) : Option Char :=
  if n.isValidChar then some (Char.ofNat n) else none

/-- Where a double-quoted scalar stands: among its characters, behind a backslash, or with some
digits of a character's number still to come. -/
inductive Quoting where
  | free
  | escaped
  | number (missing value : Nat)

def doubleQuotedFrom (done : List Char) (gap : Gap) (quoting : Quoting) : List Mark → Option Scanned
  | [] => none
  | m :: rest =>
    let c := m.char
    match quoting with
    | .free =>
      if isDocumentMarker (m :: rest) || c = endChar then none
      else if isSpace c then doubleQuotedFrom done (gap.addSpace c) .free rest
      else if isBreak c then doubleQuotedFrom done (gap.addBreak c) .free rest
      else
        let done := gap.folded ++ done
        if c = '"' then some ⟨ofReversed done, rest⟩
        else if c = '\\' then doubleQuotedFrom done .none .escaped rest
        else doubleQuotedFrom (c :: done) .none .free rest
    | .escaped =>
      if isBreak c then doubleQuotedFrom done (.breaks none []) .free rest
      else match escape? c, escapedDigits? c with
        | some e, _ => doubleQuotedFrom (e :: done) .none .free rest
        | none, some n => doubleQuotedFrom done .none (.number n 0) rest
        | none, none => none
    | .number missing value =>
      match hexValue? c with
      | none => none
      | some digit =>
        let value := value * 16 + digit
        if missing ≤ 1 then
          match charOf? value with
          | some e => doubleQuotedFrom (e :: done) .none .free rest
          | none => none
        else doubleQuotedFrom done .none (.number (missing - 1) value) rest

/-- Two quotes in a row stand for one. -/
def singleQuotedFrom (done : List Char) (gap : Gap) : List Mark → Option Scanned
  | [] => none
  | m :: rest =>
    let c := m.char
    if isDocumentMarker (m :: rest) || c = endChar then none
    else if isSpace c then singleQuotedFrom done (gap.addSpace c) rest
    else if isBreak c then singleQuotedFrom done (gap.addBreak c) rest
    else
      let done := gap.folded ++ done
      if c = '\'' then
        match rest with
        | next :: rest' =>
          if next.char = '\'' then singleQuotedFrom ('\'' :: done) .none rest'
          else some ⟨ofReversed done, rest⟩
        | [] => some ⟨ofReversed done, rest⟩
      else singleQuotedFrom (c :: done) .none rest

/-- Which line breaks at the end of a block scalar are kept. -/
inductive Chomping where
  | strip
  | clip
  | keep

def chomping? : Char → Option Chomping
  | '-' => some .strip
  | '+' => some .keep
  | _ => none

structure BlockHeader where
  chomping : Chomping
  indentation : Option Nat

/-- The indicators behind `|` or `>`: a chomping sign and a digit in either order. -/
def blockHeader? (ms : List Mark) : Option (BlockHeader × List Mark) :=
  let isDigit (c : Char) := c.isDigit
  let digit (c : Char) := c.toNat - '0'.toNat
  let first := charAt 0 ms
  let second := charAt 1 ms
  match chomping? first with
  | some chomping =>
    if !isDigit second then some (⟨chomping, none⟩, ms.drop 1)
    else if second = '0' then none
    else some (⟨chomping, some (digit second)⟩, ms.drop 2)
  | none =>
    if !isDigit first then some (⟨.clip, none⟩, ms)
    else if first = '0' then none
    else match chomping? second with
      | some chomping => some (⟨chomping, some (digit first)⟩, ms.drop 2)
      | none => some (⟨.clip, some (digit first)⟩, ms.drop 1)

/-- Skips the blank lines that come before the first line of a block scalar. Gives their breaks
(reversed) and the deepest column reached; the scalar is indented by no tabs. -/
def leadingBreaks (done : List Char) (deepest : Nat) :
    List Mark → Option (List Char × Nat × List Mark)
  | [] => none
  | m :: rest =>
    if m.char = ' ' then leadingBreaks done deepest rest
    else
      let deepest := max deepest m.column
      if m.char = '\t' then none
      else if isBreak m.char then leadingBreaks (m.char :: done) deepest rest
      else some (done, deepest, m :: rest)

structure BlockState where
  /-- The text so far, reversed. -/
  done : List Char
  /-- The break that ends the last line read. -/
  ending : Option Char
  /-- The breaks of the blank lines behind it, reversed. -/
  blankLines : List Char
  /-- Whether the last line starts with a blank. -/
  indented : Bool

/-- The text up to the start of a further line. Two lines are joined by a space in a folded
scalar unless one of them starts with a blank or a blank line stands between them. -/
def BlockState.joined (literal : Bool) (next : Char) (s : BlockState) : List Char :=
  let ending :=
    if !literal && s.ending = some '\n' && !s.indented && !isSpace next then
      if s.blankLines.isEmpty then [' '] else []
    else s.ending.toList
  s.blankLines ++ ending ++ s.done

def BlockState.text (chomping : Chomping) (s : BlockState) : String :=
  ofReversed (match chomping with
    | .strip => s.done
    | .clip => s.ending.toList ++ s.done
    | .keep => s.blankLines ++ s.ending.toList ++ s.done)

/-- Reads the lines of a block scalar; `inLine` holds within a line. -/
def blockFrom (literal : Bool) (chomping : Chomping) (indent : Nat) (inLine : Bool)
    (s : BlockState) : List Mark → Option Scanned
  | [] => none
  | m :: rest =>
    let c := m.char
    if inLine then
      if isBreak c then blockFrom literal chomping indent false { s with ending := some c } rest
      else if c = endChar then some ⟨s.text chomping, m :: rest⟩
      else blockFrom literal chomping indent true { s with done := c :: s.done } rest
    else if m.column < indent && c = ' ' then blockFrom literal chomping indent false s rest
    else if m.column < indent && c = '\t' then none
    else if isBreak c then
      blockFrom literal chomping indent false { s with blankLines := c :: s.blankLines } rest
    else if m.column = indent && c ≠ endChar then
      blockFrom literal chomping indent true
        ⟨c :: s.joined literal c, none, [], isSpace c⟩ rest
    else some ⟨s.text chomping, m :: rest⟩

/-- Skips blanks and a comment, up to the end of the line. -/
def lineEnd? (ms : List Mark) : Option (List Mark) :=
  let ms := skipWhile isSpace ms
  let ms := if charAt 0 ms = '#' then skipWhile (fun c => !isBreakOrEnd c) ms else ms
  if isBreak (charAt 0 ms) then some (ms.drop 1)
  else if charAt 0 ms = endChar then some ms
  else none

/-- Reads a block scalar behind its `|` or `>`, inside a collection at column `parent` (−1
outside all). Without a digit its first lines tell its indentation. -/
def block? (literal : Bool) (parent : Int) (ms : List Mark) : Option Scanned := do
  let (header, ms) ← blockHeader? ms
  let ms ← lineEnd? ms
  match header.indentation with
  | some n => blockFrom literal header.chomping (parent.toNat + n) false ⟨[], none, [], false⟩ ms
  | none =>
    let (breaks, deepest, ms) ← leadingBreaks [] 0 ms
    blockFrom literal header.chomping (max deepest (max (parent + 1).toNat 1)) false
      ⟨[], none, breaks, false⟩ ms

end ApiScaffold.Yaml
