import ApiScaffold.Yaml.Scalar
/-!
# YAML tokens

The tokens of a text, and those of them that are read without regard to where they stand: names,
tags and directives.
-/
namespace ApiScaffold.Yaml

open ApiScaffold.Json (hexValue?)

/-- A tag as written: its handle, which stands for a beginning, and what comes behind it. -/
structure Tag where
  handle : String
  ending : String
  deriving DecidableEq, Inhabited

inductive Token where
  | version (major minor : Nat)
  /-- A declaration of what a tag handle stands for. -/
  | handle (name beginning : String)
  | documentStart
  | documentEnd
  | streamEnd
  | blockSequenceStart
  | blockMappingStart
  | blockEnd
  | flowSequenceStart
  | flowSequenceEnd
  | flowMappingStart
  | flowMappingEnd
  | blockEntry
  | flowEntry
  | key
  | value
  | aliasTo (name : String)
  | anchor (name : String)
  | tag (tag : Tag)
  | scalar (plain : Bool) (text : String)
  deriving DecidableEq, Inhabited

/-- Reads the name of an anchor or alias. -/
def name? (ms : List Mark) : Option (String × List Mark) :=
  let (name, rest) := takeWhile isWordChar ms
  let next := charAt 0 rest
  if name.isEmpty then none
  else if isGap next || ['?', ':', ',', ']', '\x7d', '%', '@', '\x60'].contains next then
    some (String.ofList name, rest)
  else none

/-- The bytes that percent escapes spell, and what follows the last of them. -/
def escapedBytes? : List Mark → Option (List UInt8 × List Mark)
  | m :: a :: b :: rest =>
    if m.char = '%' then
      match hexValue? a.char, hexValue? b.char with
      | some high, some low =>
        (escapedBytes? rest).map fun (bytes, rest) => (UInt8.ofNat (high * 16 + low) :: bytes, rest)
      | _, _ => none
    else some ([], m :: a :: b :: rest)
  | ms => if charAt 0 ms = '%' then none else some ([], ms)

def isTagChar (verbatim : Bool) (c : Char) : Bool :=
  isWordChar c || (";/?:@&=+$.!~*'()".toList.contains c)
    || (verbatim && (c = ',' || c = '[' || c = ']'))

/-- Runs of tag characters and percent escapes, at most `n` of them. -/
def tagText? (verbatim : Bool) : Nat → List Mark → Option (String × List Mark)
  | 0, ms => some ("", ms)
  | n + 1, ms =>
    let (plain, rest) := takeWhile (isTagChar verbatim) ms
    if charAt 0 rest = '%' then do
      let (bytes, rest) ← escapedBytes? rest
      let escaped ← String.fromUTF8? (ByteArray.mk bytes.toArray)
      let (more, rest) ← tagText? verbatim n rest
      some (String.ofList plain ++ escaped ++ more, rest)
    else some (String.ofList plain, rest)

def tagTextOf? (verbatim : Bool) (ms : List Mark) : Option (String × List Mark) :=
  tagText? verbatim (ms.takeWhile (fun m => !isGap m.char)).length ms

/-- A tag behind its first `!`: `<…>` is verbatim, `name!…` has a handle, and anything else
belongs to the handle `!`. A lone `!` has no handle. -/
def tag? (ms : List Mark) : Option (Tag × List Mark) :=
  if charAt 0 ms = '<' then do
    let (text, rest) ← tagTextOf? true (ms.drop 1)
    if text.isEmpty || charAt 0 rest ≠ '>' then none else some (⟨"", text⟩, rest.drop 1)
  else
    let (word, rest) := takeWhile isWordChar ms
    if charAt 0 rest = '!' then do
      let (text, rest) ← tagTextOf? false (rest.drop 1)
      if text.isEmpty then none else some (⟨"!" ++ String.ofList word ++ "!", text⟩, rest)
    else do
      let (text, rest) ← tagTextOf? false ms
      some (if text.isEmpty then ⟨"", "!"⟩ else ⟨"!", text⟩, rest)

def number? (ms : List Mark) : Option (Nat × List Mark) :=
  let (digits, rest) := takeWhile Char.isDigit ms
  if digits.isEmpty || 9 < digits.length then none
  else some (Nat.ofDigitChars 10 digits 0, rest)

/-- A handle in its declaration: `!`, or a name between two of them. -/
def declaredHandle? (ms : List Mark) : Option (String × List Mark) :=
  if charAt 0 ms ≠ '!' then none
  else
    let (word, rest) := takeWhile isWordChar (ms.drop 1)
    if charAt 0 rest = '!' then some ("!" ++ String.ofList word ++ "!", rest.drop 1)
    else if word.isEmpty then some ("!", rest)
    else none

/-- A directive behind its `%`, with its line. -/
def directive? (ms : List Mark) : Option (Token × List Mark) := do
  let (name, rest) := takeWhile isWordChar ms
  let ms := skipWhile isSpace rest
  let (token, ms) ←
    if !isGap (charAt 0 rest) then none
    else if name = ['Y', 'A', 'M', 'L'] then do
      let (major, ms) ← number? ms
      if charAt 0 ms ≠ '.' then none
      else
        let (minor, ms) ← number? (ms.drop 1)
        some (Token.version major minor, ms)
    else if name = ['T', 'A', 'G'] then do
      let (handle, ms) ← declaredHandle? ms
      if !isSpace (charAt 0 ms) then none
      else
        let (beginning, ms) ← tagTextOf? true (skipWhile isSpace ms)
        if beginning.isEmpty || !isGap (charAt 0 ms) then none
        else some (Token.handle handle beginning, ms)
    else none
  some (token, ← lineEnd? ms)

end ApiScaffold.Yaml
