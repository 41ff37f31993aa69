import Mathlib.Logic.Function.Defs
import ApiScaffold.Go.View
import ApiScaffold.Text.Bytes
/-!
# Texts as literals of Go

An interpreted string literal stands between double quotes and has no line break in it. A backslash
begins an escape: a letter or a sign for one byte, a byte in octal or hexadecimal digits, or the
number of a character. What the literal denotes are bytes. A text that is quoted denotes its own.
-/
namespace ApiScaffold

open Text

/-! ## Bytes -/

namespace Text

private theorem toList_loop (b : ByteArray) (i : Nat) (done : List UInt8) :
    ByteArray.toList.loop b i done = done.reverse ++ b.data.toList.drop i := by
  fun_induction ByteArray.toList.loop b i done with
  | case1 i done inside ih =>
    have bound : i < b.data.toList.length := by simpa using inside
    have byte : b.get! i = b.data.toList[i] := by
      simp only [ByteArray.get!, Array.getElem_toList]
      exact getElem!_pos b.data i inside
    rw [ih, List.drop_eq_getElem_cons bound, byte, List.reverse_cons, List.append_assoc]
    rfl
  | case2 i done outside =>
    rw [List.drop_eq_nil_of_le (by simpa using Nat.le_of_not_lt outside), List.append_nil]

theorem bytes_eq (s : String) : bytes s = s.toList.flatMap String.utf8EncodeChar := by
  have all (b : ByteArray) : b.toList = b.data.toList := toList_loop b 0 []
  have encoded : s.toUTF8 = (s.toList.flatMap String.utf8EncodeChar).toByteArray :=
    String.utf8Encode_toList.symm
  rw [bytes, all, encoded, List.toList_data_toByteArray]

theorem bytes_injective : Function.Injective bytes := by
  intro s t same
  rw [bytes_eq, bytes_eq] at same
  apply String.toByteArray_inj.mp
  rw [← String.utf8Encode_toList, ← String.utf8Encode_toList]
  exact congrArg List.toByteArray same

end Text

namespace Go

/-! ## What a literal denotes -/

def escapedByte? : Char → Option UInt8
  | 'a' => some 7
  | 'b' => some 8
  | 't' => some 9
  | 'n' => some 10
  | 'v' => some 11
  | 'f' => some 12
  | 'r' => some 13
  | '"' => some 34
  | '\\' => some 92
  | _ => none

def digit? (base : Nat) (c : Char) : Option Nat :=
  let value :=
    if '0' ≤ c ∧ c ≤ '9' then c.toNat - '0'.toNat
    else if 'a' ≤ c ∧ c ≤ 'f' then c.toNat - 'a'.toNat + 10
    else if 'A' ≤ c ∧ c ≤ 'F' then c.toNat - 'A'.toNat + 10
    else base
  if value < base then some value else none

/-- What the number of an escape stands for. -/
inductive Escape where
  | byte
  | character

/-- A byte has 8 bits. A surrogate half is no character, and neither is a number beyond the last
one. -/
def Escape.bytes? : Escape → Nat → Option Bytes
  | .byte, n => if n < 256 then some [UInt8.ofNat n] else none
  | .character, n =>
    if n.isValidChar then some (String.utf8EncodeChar (Char.ofNat n)) else none

/-- Where the reader of a literal is: outside of escapes, after a backslash, or at a number whose
`left` digits are missing. -/
inductive Place where
  | plain
  | escape
  | number (of : Escape) (base left value : Nat)

/-- The bytes of what follows up to the closing quote, which has to come last. -/
def denoted : Place → List Char → Option Bytes
  | _, [] => none
  | .plain, c :: rest =>
    if c = '"' then if rest.isEmpty then some [] else none
    else if c = '\n' then none
    else if c = '\\' then denoted .escape rest
    else (denoted .plain rest).map (String.utf8EncodeChar c ++ ·)
  | .escape, c :: rest =>
    match escapedByte? c with
    | some byte => (denoted .plain rest).map (byte :: ·)
    | none =>
      if c = 'x' then denoted (.number .byte 16 2 0) rest
      else if c = 'u' then denoted (.number .character 16 4 0) rest
      else if c = 'U' then denoted (.number .character 16 8 0) rest
      else
        match digit? 8 c with
        | some digit => denoted (.number .byte 8 2 digit) rest
        | none => none
  | .number of base left value, c :: rest =>
    match digit? base c with
    | none => none
    | some digit =>
      let value := value * base + digit
      if 1 < left then denoted (.number of base (left - 1) value) rest
      else
        match of.bytes? value with
        | some bytes => (denoted .plain rest).map (bytes ++ ·)
        | none => none

def unquote (literal : String) : Option Bytes :=
  match literal.toList with
  | '"' :: rest => denoted .plain rest
  | _ => none

/-! ## Quoted texts -/

private theorem digit?_hexDigit {n : Nat} (h : n < 16) : digit? 16 (Json.hexDigit n) = some n := by
  decide +revert

private theorem denoted_digit {of : Escape} {left value n : Nat} (h : n < 16) (more : 1 < left)
    (rest : List Char) :
    denoted (.number of 16 left value) (Json.hexDigit n :: rest) =
      denoted (.number of 16 (left - 1) (value * 16 + n)) rest := by
  rw [denoted, digit?_hexDigit h]
  exact if_pos more

private theorem denoted_lastDigit {of : Escape} {value n : Nat} {bytes : Bytes} (h : n < 16)
    (known : of.bytes? (value * 16 + n) = some bytes) (rest : List Char) :
    denoted (.number of 16 1 value) (Json.hexDigit n :: rest) =
      (denoted .plain rest).map (bytes ++ ·) := by
  rw [denoted, digit?_hexDigit h]
  simp only [Nat.lt_irrefl, if_false, known]

theorem denoted_escape {c : Char} {byte : UInt8} (h : escapedByte? c = some byte)
    (rest : List Char) :
    denoted .plain ('\\' :: c :: rest) = (denoted .plain rest).map (byte :: ·) := by
  rw [denoted, if_neg (by decide), if_neg (by decide), if_pos rfl, denoted, h]

private theorem denoted_control {c : Char} (h : c.toNat < 32) (rest : List Char) :
    denoted .plain ('\\' :: 'u' :: '0' :: '0' :: Json.hexDigit (c.toNat / 16) ::
        Json.hexDigit (c.toNat % 16) :: rest) =
      (denoted .plain rest).map (String.utf8EncodeChar c ++ ·) := by
  have valid : c.toNat.isValidChar := c.valid
  have whole : (0 * 16 + c.toNat / 16) * 16 + c.toNat % 16 = c.toNat := by omega
  have known : Escape.character.bytes? ((0 * 16 + c.toNat / 16) * 16 + c.toNat % 16) =
      some (String.utf8EncodeChar c) := by
    rw [whole, Escape.bytes?, if_pos valid, Char.ofNat_toNat]
  have zero : '0' = Json.hexDigit 0 := rfl
  have begun : denoted .plain ('\\' :: 'u' :: '0' :: '0' :: Json.hexDigit (c.toNat / 16) ::
      Json.hexDigit (c.toNat % 16) :: rest) =
        denoted (.number .character 16 4 0) ('0' :: '0' :: Json.hexDigit (c.toNat / 16) ::
          Json.hexDigit (c.toNat % 16) :: rest) := rfl
  rw [begun, zero, denoted_digit (by decide) (by decide), denoted_digit (by decide) (by decide),
    denoted_digit (by omega) (by decide)]
  exact denoted_lastDigit (Nat.mod_lt _ (by decide)) known rest

private theorem denoted_escapeChar (c : Char) (rest : List Char) :
    denoted .plain (Json.escapeChar c ++ rest) =
      (denoted .plain rest).map (String.utf8EncodeChar c ++ ·) := by
  by_cases short : c ∈ ['"', '\\', '\x08', '\x0c', '\n', '\r', '\t']
  · simp only [List.mem_cons, List.not_mem_nil, or_false] at short
    rcases short with rfl | rfl | rfl | rfl | rfl | rfl | rfl <;> exact denoted_escape rfl rest
  · simp only [List.mem_cons, List.not_mem_nil, or_false, not_or] at short
    obtain ⟨quote, backslash, backspace, feed, line, carriage, tab⟩ := short
    by_cases control : c.toNat < 32
    · simp only [Json.escapeChar, quote, backslash, backspace, feed, line, carriage, tab, control,
        if_true, if_false]
      exact denoted_control control rest
    · simp only [Json.escapeChar, quote, backslash, backspace, feed, line, carriage, tab, control,
        if_false, List.singleton_append, denoted]

private theorem denoted_escaped (cs : List Char) :
    denoted .plain (cs.flatMap Json.escapeChar ++ ['"']) =
      some (cs.flatMap String.utf8EncodeChar) := by
  induction cs with
  | nil => rfl
  | cons c cs ih =>
    rw [List.flatMap_cons, List.append_assoc, denoted_escapeChar, ih]
    rfl

/-- A quoted text denotes the text. -/
theorem unquote_stringLiteral (s : String) : unquote (stringLiteral s) = some (bytes s) := by
  have spelled : (stringLiteral s).toList = '"' :: (s.toList.flatMap Json.escapeChar ++ ['"']) :=
    String.toList_ofList
  rw [unquote, spelled, bytes_eq]
  exact denoted_escaped s.toList

end Go

end ApiScaffold
