/-!
# Text in bytes

Bytes are read as UTF-8. Where they are not, each longest beginning of a character, or else each
single byte, reads as the replacement character.
-/
namespace ApiScaffold.Text

abbrev Bytes := List UInt8

def bytes (s : String) : Bytes := s.toUTF8.toList

/-- A character of which some bytes are read: its bits so far, how many bytes are missing, and
between which bounds the next one lies. -/
structure Partial where
  value : Nat
  missing : Nat
  low : Nat
  high : Nat

def replacement : Char := '\ufffd'

/-- What the first byte of a character tells: the character itself, or the start of a longer one.
Bounds on the second byte rule out surrogates, overlong forms and what lies beyond the last
character. -/
def firstByte (b : Nat) : List Char × Option Partial :=
  if b < 0x80 then ([Char.ofNat b], none)
  else if 0xC2 ≤ b ∧ b < 0xE0 then ([], some ⟨b % 32, 1, 0x80, 0xBF⟩)
  else if b = 0xE0 then ([], some ⟨0, 2, 0xA0, 0xBF⟩)
  else if b = 0xED then ([], some ⟨0xD, 2, 0x80, 0x9F⟩)
  else if 0xE1 ≤ b ∧ b < 0xF0 then ([], some ⟨b % 16, 2, 0x80, 0xBF⟩)
  else if b = 0xF0 then ([], some ⟨0, 3, 0x90, 0xBF⟩)
  else if 0xF1 ≤ b ∧ b < 0xF4 then ([], some ⟨b % 8, 3, 0x80, 0xBF⟩)
  else if b = 0xF4 then ([], some ⟨4, 3, 0x80, 0x8F⟩)
  else ([replacement], none)

def nextByte (b : Nat) : Option Partial → List Char × Option Partial
  | none => firstByte b
  | some p =>
    if p.low ≤ b ∧ b ≤ p.high then
      let value := p.value * 64 + b % 64
      if p.missing ≤ 1 then ([Char.ofNat value], none)
      else ([], some ⟨value, p.missing - 1, 0x80, 0xBF⟩)
    else
      let (chars, next) := firstByte b
      (replacement :: chars, next)

def charsFrom (p : Option Partial) : Bytes → List Char
  | [] => if p.isSome then [replacement] else []
  | b :: rest =>
    let (chars, next) := nextByte b.toNat p
    chars ++ charsFrom next rest

def ofBytes (bs : Bytes) : String := String.ofList (charsFrom none bs)

end ApiScaffold.Text
