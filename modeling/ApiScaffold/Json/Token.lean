import ApiScaffold.Json.Numeral
/-!
# JSON tokens
-/
namespace ApiScaffold.Json

/-- A text is given by its code units, with surrogates that stand for one character still
apart. A numeral is given by its number, if that is in range. -/
inductive Token where
  | openArray
  | closeArray
  | openObject
  | closeObject
  | comma
  | colon
  | text (units : List Nat)
  | number (value : Option Number)
  | null
  | bool (value : Bool)

def hexValue? (c : Char) : Option Nat :=
  if c.isDigit then some (digitValue c)
  else if 'a' ≤ c && c ≤ 'f' then some (c.toNat - 'a'.toNat + 10)
  else if 'A' ≤ c && c ≤ 'F' then some (c.toNat - 'A'.toNat + 10)
  else none

/-- The code unit that four hexadecimal digits spell. -/
def unit? (a b c d : Char) : Option Nat := do
  some (((← hexValue? a) * 16 + (← hexValue? b)) * 256 + (← hexValue? c) * 16 + (← hexValue? d))

def isHighSurrogate (n : Nat) : Bool := 0xD800 ≤ n && n < 0xDC00

def isLowSurrogate (n : Nat) : Bool := 0xDC00 ≤ n && n < 0xE000

/-- The characters of code units; nothing if a surrogate stands alone. -/
def join? : List Nat → Option (List Char)
  | [] => some []
  | [unit] => if isHighSurrogate unit || isLowSurrogate unit then none else some [Char.ofNat unit]
  | unit :: low :: rest =>
    if isHighSurrogate unit then
      if isLowSurrogate low then
        (join? rest).map (Char.ofNat (0x10000 + (unit - 0xD800) * 0x400 + (low - 0xDC00)) :: ·)
      else none
    else if isLowSurrogate unit then none
    else (join? (low :: rest)).map (Char.ofNat unit :: ·)

def textOf? (units : List Nat) : Option String := (join? units).map String.ofList

def shortEscape? : Char → Option Char
  | '"' => some '"'
  | '\\' => some '\\'
  | '/' => some '/'
  | 'b' => some '\x08'
  | 'f' => some '\x0c'
  | 'n' => some '\n'
  | 'r' => some '\r'
  | 't' => some '\t'
  | _ => none

/-- The code unit of an escape after its backslash, and what follows. -/
def escaped? : List Char → Option (Nat × List Char)
  | 'u' :: a :: b :: c :: d :: rest => (unit? a b c d).map (·, rest)
  | c :: rest => (shortEscape? c).map (·.toNat, rest)
  | [] => none

theorem length_of_escaped? {cs rest : List Char} {unit : Nat}
    (h : escaped? cs = some (unit, rest)) : rest.length < cs.length := by
  unfold escaped? at h
  split at h
  · simp at h
    obtain ⟨_, -, -, rfl⟩ := h
    simp
    omega
  · simp at h
    obtain ⟨_, -, -, rfl⟩ := h
    simp
  · simp at h

/-- The code units of a text after its opening quote, put onto `done` (reversed), and what
follows the closing quote. -/
def textAfter? (done : List Nat) : List Char → Option (List Nat × List Char)
  | [] => none
  | c :: rest =>
    if c = '"' then some (done.reverse, rest)
    else if c = '\\' then
      match h : escaped? rest with
      | some (unit, rest') =>
        have := length_of_escaped? h
        textAfter? (unit :: done) rest'
      | none => none
    else if c.toNat < 32 then none
    else textAfter? (c.toNat :: done) rest
termination_by cs => cs.length

theorem length_of_textAfter? {done units : List Nat} {cs rest : List Char}
    (h : textAfter? done cs = some (units, rest)) : rest.length < cs.length := by
  fun_induction textAfter? done cs with
  | case1 => simp at h
  | case2 =>
    simp at h
    simp [h.2]
  | case3 done cs hq e rest' he hlt ih =>
    have := ih h
    simp
    omega
  | case4 => simp at h
  | case5 => simp at h
  | case6 done c cs _ _ _ ih =>
    have := ih h
    simp
    omega

def literal? (word : List Char) : Option Token :=
  if word = ['n', 'u', 'l', 'l'] then some .null
  else if word = ['t', 'r', 'u', 'e'] then some (.bool true)
  else if word = ['f', 'a', 'l', 's', 'e'] then some (.bool false)
  else none

def isSpace (c : Char) : Bool := c = ' ' || c = '\n' || c = '\t' || c = '\r'

def punctuation? : Char → Option Token
  | '[' => some .openArray
  | ']' => some .closeArray
  | '\x7b' => some .openObject
  | '\x7d' => some .closeObject
  | ',' => some .comma
  | ':' => some .colon
  | _ => none

def isNumeralChar (c : Char) : Bool :=
  c.isDigit || c = '-' || c = '+' || c = '.' || c = 'e' || c = 'E'

/-- The tokens of a text. A numeral or word runs as far as its characters do, since none of
them may follow it. -/
def tokens? : List Char → Option (List Token)
  | [] => some []
  | c :: rest =>
    if isSpace c then tokens? rest
    else if c = '"' then
      match h : textAfter? [] rest with
      | some (units, rest') =>
        have := length_of_textAfter? h
        (tokens? rest').map (.text units :: ·)
      | none => none
    else match punctuation? c with
      | some token => (tokens? rest).map (token :: ·)
      | none =>
        if c.isDigit || c = '-' then
          have := (List.dropWhile_suffix isNumeralChar (l := rest)).length_le
          do
            let n ← numeral? (c :: rest.takeWhile isNumeralChar)
            let more ← tokens? (rest.dropWhile isNumeralChar)
            some (.number n.value? :: more)
        else
          have := (List.dropWhile_suffix Char.isAlpha (l := rest)).length_le
          do
            let word ← literal? (c :: rest.takeWhile Char.isAlpha)
            let more ← tokens? (rest.dropWhile Char.isAlpha)
            some (word :: more)
termination_by cs => cs.length
decreasing_by all_goals simp <;> omega

end ApiScaffold.Json
