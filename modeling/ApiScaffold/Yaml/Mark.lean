/-!
# Characters with their places

YAML gives meaning to columns, so a text is read as a list of marks. A mark for the end of the
text comes last; a carriage return, with or without a line feed, and a next-line character are
marked as a line feed.
-/
namespace ApiScaffold.Yaml

structure Mark where
  char : Char
  index : Nat
  line : Nat
  column : Nat
  deriving Inhabited

/-- Stands for the end of the text, where no text may hold it. -/
def endChar : Char := '\x00'

def isAllowed (c : Char) : Bool :=
  let n := c.toNat
  n = 0x9 || n = 0xA || n = 0xD || (0x20 ≤ n && n ≤ 0x7E) || n = 0x85
    || (0xA0 ≤ n && n ≤ 0xFFFD) || 0x10000 ≤ n

/-- The line and paragraph separators stay distinct from a line feed. -/
def isBreak (c : Char) : Bool := c = '\n' || c = '\u2028' || c = '\u2029'

def isSpace (c : Char) : Bool := c = ' ' || c = '\t'

/-- A line break or the end of the text. -/
def isBreakOrEnd (c : Char) : Bool := isBreak c || c = endChar

def isGap (c : Char) : Bool := isSpace c || isBreakOrEnd c

/-- The characters of names. -/
def isWordChar (c : Char) : Bool := c.isAlphanum || c = '_' || c = '-'

def marksFrom (index line column : Nat) : List Char → List Mark
  | [] => [⟨endChar, index, line, column⟩]
  | '\r' :: '\n' :: rest => ⟨'\n', index, line, column⟩ :: marksFrom (index + 2) (line + 1) 0 rest
  | c :: rest =>
    let c := if c = '\r' || c = '\x85' then '\n' else c
    ⟨c, index, line, column⟩ ::
      (if isBreak c then marksFrom (index + 1) (line + 1) 0 rest
      else marksFrom (index + 1) line (column + 1) rest)

def byteOrderMark : Char := '\ufeff'

/-- One byte order mark may stand before the text. -/
def marks? (text : String) : Option (List Mark) :=
  if text.toList.all isAllowed then
    match text.toList with
    | c :: rest => some (marksFrom 0 0 0 (if c = byteOrderMark then rest else c :: rest))
    | [] => some (marksFrom 0 0 0 [])
  else none

/-- The character at a place ahead; the end beyond the end. -/
def charAt (n : Nat) (ms : List Mark) : Char := (ms[n]?.map Mark.char).getD endChar

/-- Whether a line starts here with one character three times and nothing right behind. -/
def startsWithThree (c : Char) : List Mark → Bool
  | m :: ms =>
    m.column = 0 && m.char = c && charAt 0 ms = c && charAt 1 ms = c && isGap (charAt 2 ms)
  | [] => false

def isDocumentStart (ms : List Mark) : Bool := startsWithThree '-' ms

def isDocumentEnd (ms : List Mark) : Bool := startsWithThree '.' ms

def isDocumentMarker (ms : List Mark) : Bool := isDocumentStart ms || isDocumentEnd ms

def skipWhile (p : Char → Bool) (ms : List Mark) : List Mark := ms.dropWhile (p ·.char)

/-- The characters that satisfy `p`, and what follows them. -/
def takeWhile (p : Char → Bool) (ms : List Mark) : List Char × List Mark :=
  ((ms.takeWhile (p ·.char)).map Mark.char, ms.dropWhile (p ·.char))

end ApiScaffold.Yaml
