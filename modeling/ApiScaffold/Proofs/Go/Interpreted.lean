import ApiScaffold.Proofs.Go.Literals
/-!
# The grammar of interpreted string literals

Between its quotes such a literal is a row of characters and escapes, each of which stands for some
bytes. The reader of literals accepts exactly what the grammar has, with the bytes that it gives.
A quoted text is in the grammar and has no control characters in it, and no other text is denoted by
the same literal. A byte order mark stands in it as it is; a compiler may refuse that one in any
source.
-/
namespace ApiScaffold.Go

open ApiScaffold.Text

/-! ## The grammar -/

/-- How an escape gives a number. -/
inductive EscapeForm where
  | octal
  | hexadecimal
  | short
  | long

namespace EscapeForm

def lead : EscapeForm → List Char
  | octal => []
  | hexadecimal => ['x']
  | short => ['u']
  | long => ['U']

def base : EscapeForm → Nat
  | octal => 8
  | hexadecimal | short | long => 16

def width : EscapeForm → Nat
  | octal => 3
  | hexadecimal => 2
  | short => 4
  | long => 8

def of : EscapeForm → Escape
  | octal | hexadecimal => .byte
  | short | long => .character

end EscapeForm

def numberFrom (base value : Nat) (digits : List Char) : Option Nat :=
  digits.foldlM (fun value c => (digit? base c).map (value * base + ·)) value

/-- What may stand between the quotes, with the bytes that it denotes. -/
inductive Body : List Char → Bytes → Prop
  | nil : Body [] []
  | plain {c : Char} {rest : List Char} {bytes : Bytes} :
      c ≠ '"' → c ≠ '\n' → c ≠ '\\' → Body rest bytes →
        Body (c :: rest) (String.utf8EncodeChar c ++ bytes)
  | sign {c : Char} {byte : UInt8} {rest : List Char} {bytes : Bytes} :
      escapedByte? c = some byte → Body rest bytes → Body ('\\' :: c :: rest) (byte :: bytes)
  | number (form : EscapeForm) {digits rest : List Char} {n : Nat} {own bytes : Bytes} :
      digits.length = form.width → numberFrom form.base 0 digits = some n →
        form.of.bytes? n = some own → Body rest bytes →
          Body ('\\' :: form.lead ++ digits ++ rest) (own ++ bytes)

def Encloses (literal : String) (body : List Char) : Prop :=
  literal.toList = '"' :: body ++ ['"']

/-! ## What is in the grammar is read -/

private theorem numberFrom_cons {base value n : Nat} {c : Char} {digits : List Char} :
    numberFrom base value (c :: digits) = some n ↔
      ∃ digit, digit? base c = some digit ∧
        numberFrom base (value * base + digit) digits = some n := by
  simp only [numberFrom, List.foldlM_cons, Option.bind_eq_bind, Option.bind_eq_some_iff,
    Option.map_eq_some_iff]
  constructor
  · rintro ⟨_, ⟨digit, known, rfl⟩, rest⟩
    exact ⟨digit, known, rest⟩
  · rintro ⟨digit, known, rest⟩
    exact ⟨_, ⟨digit, known, rfl⟩, rest⟩

private theorem numberFrom_concat {base value n digit : Nat} {c : Char} {digits : List Char}
    (before : numberFrom base value digits = some n) (known : digit? base c = some digit) :
    numberFrom base value (digits ++ [c]) = some (n * base + digit) := by
  simp only [numberFrom] at before ⊢
  simp [before, known]

private theorem denoted_digits {of : Escape} {base left value n : Nat} {digits rest : List Char}
    {own : Bytes} (more : 0 < left) (all : digits.length = left)
    (read : numberFrom base value digits = some n) (known : of.bytes? n = some own) :
    denoted (.number of base left value) (digits ++ rest) =
      (denoted .plain rest).map (own ++ ·) := by
  induction digits generalizing left value with
  | nil =>
    rw [List.length_nil] at all
    omega
  | cons c digits ih =>
    obtain ⟨digit, first, read⟩ := numberFrom_cons.mp read
    rw [List.length_cons] at all
    rw [List.cons_append, denoted, first]
    by_cases last : digits = []
    · subst last
      cases read
      have one : ¬ 1 < left := by
        rw [← all, List.length_nil]
        omega
      simp only [one, if_false, known, List.nil_append]
    · have positive : 0 < digits.length := List.length_pos_iff.mpr last
      have others : 1 < left := by omega
      simp only [others, if_true]
      exact ih (by omega) (by omega) read

private theorem digit?_octal_unescaped {c : Char} {digit : Nat} (h : digit? 8 c = some digit) :
    escapedByte? c = none ∧ c ≠ 'x' ∧ c ≠ 'u' ∧ c ≠ 'U' := by
  refine ⟨?_, ?_, ?_, ?_⟩
  · unfold escapedByte?
    split <;> first | rfl | cases h
  · rintro rfl
    cases h
  · rintro rfl
    cases h
  · rintro rfl
    cases h

private theorem denoted_number (form : EscapeForm) {digits rest : List Char} {n : Nat} {own : Bytes}
    (all : digits.length = form.width) (read : numberFrom form.base 0 digits = some n)
    (known : form.of.bytes? n = some own) :
    denoted .plain ('\\' :: form.lead ++ digits ++ rest) =
      (denoted .plain rest).map (own ++ ·) := by
  cases form with
  | hexadecimal => exact denoted_digits (by decide) all read known
  | short => exact denoted_digits (by decide) all read known
  | long => exact denoted_digits (by decide) all read known
  | octal =>
    cases digits with
    | nil => cases all
    | cons c digits =>
      obtain ⟨digit, first, others⟩ := numberFrom_cons.mp read
      have first : digit? 8 c = some digit := first
      obtain ⟨unescaped, x, u, U⟩ := digit?_octal_unescaped first
      have begun : denoted .plain ('\\' :: EscapeForm.octal.lead ++ c :: digits ++ rest) =
          denoted (.number .byte 8 2 digit) (digits ++ rest) := by
        simp [denoted, EscapeForm.lead, unescaped, x, u, U, first]
      have start : 0 * 8 + digit = digit := by omega
      rw [begun]
      exact denoted_digits (by decide) (Nat.succ.inj all) (start ▸ others) known

private theorem denoted_of_body {body : List Char} {bytes : Bytes} (h : Body body bytes) :
    denoted .plain (body ++ ['"']) = some bytes := by
  induction h with
  | nil => rfl
  | plain quote line backslash _ ih =>
    rw [List.cons_append, denoted, if_neg quote, if_neg line, if_neg backslash, ih]
    rfl
  | sign known _ ih =>
    rw [List.cons_append, List.cons_append, denoted_escape known, ih]
    rfl
  | number form all read known _ ih =>
    rw [List.append_assoc, denoted_number form all read known, ih]
    rfl

/-! ## What is read is in the grammar -/

/-- The characters that have been read of an element which goes on at a place. -/
inductive Begun : Place → List Char → Prop
  | plain : Begun .plain []
  | escape : Begun .escape ['\\']
  | number (form : EscapeForm) (digits : List Char) {value left : Nat} :
      numberFrom form.base 0 digits = some value → digits.length + left = form.width →
        0 < left → Begun (.number form.of form.base left value) ('\\' :: form.lead ++ digits)

/-- Whatever has been begun before these characters is a body with them, if they are read. -/
def Closes (cs : List Char) : Prop :=
  ∀ {place : Place} {read : List Char} {bytes : Bytes}, Begun place read →
    denoted place cs = some bytes → ∃ body, read ++ cs = body ++ ['"'] ∧ Body body bytes

section

variable {c : Char} {cs : List Char} {bytes : Bytes}

private theorem closes_plain (rest : Closes cs) (h : denoted .plain (c :: cs) = some bytes) :
    ∃ body, c :: cs = body ++ ['"'] ∧ Body body bytes := by
  by_cases quote : c = '"'
  · subst quote
    cases cs with
    | cons => simp [denoted] at h
    | nil =>
      cases h
      exact ⟨[], rfl, .nil⟩
  by_cases line : c = '\n'
  · simp [denoted, line] at h
  by_cases backslash : c = '\\'
  · subst backslash
    exact rest .escape h
  · rw [denoted, if_neg quote, if_neg line, if_neg backslash] at h
    obtain ⟨others, later, rfl⟩ := Option.map_eq_some_iff.mp h
    obtain ⟨body, same, inside⟩ := rest .plain later
    exact ⟨c :: body, congrArg (c :: ·) same, .plain quote line backslash inside⟩

private theorem closes_escape (rest : Closes cs) (h : denoted .escape (c :: cs) = some bytes) :
    ∃ body, '\\' :: c :: cs = body ++ ['"'] ∧ Body body bytes := by
  cases short : escapedByte? c with
  | some byte =>
    rw [denoted, short] at h
    obtain ⟨others, later, rfl⟩ := Option.map_eq_some_iff.mp h
    obtain ⟨body, same, inside⟩ := rest .plain later
    exact ⟨'\\' :: c :: body, congrArg ('\\' :: c :: ·) same, .sign short inside⟩
  | none =>
    by_cases two : c = 'x'
    · subst two
      exact rest (.number .hexadecimal [] rfl rfl (by decide)) h
    by_cases four : c = 'u'
    · subst four
      exact rest (.number .short [] rfl rfl (by decide)) h
    by_cases eight : c = 'U'
    · subst eight
      exact rest (.number .long [] rfl rfl (by decide)) h
    cases octal : digit? 8 c with
    | none => simp [denoted, short, two, four, eight, octal] at h
    | some digit =>
      simp only [denoted, short, two, four, eight, octal, if_false] at h
      have value : numberFrom 8 0 [c] = some digit := by simp [numberFrom, octal]
      exact rest (.number .octal [c] value rfl (by decide)) h

private theorem closes_number (rest : Closes cs) {form : EscapeForm} {digits : List Char}
    {value left : Nat} (before : numberFrom form.base 0 digits = some value)
    (all : digits.length + left = form.width) (more : 0 < left)
    (h : denoted (.number form.of form.base left value) (c :: cs) = some bytes) :
    ∃ body, '\\' :: form.lead ++ digits ++ c :: cs = body ++ ['"'] ∧ Body body bytes := by
  rw [denoted] at h
  split at h
  case h_1 => cases h
  case h_2 digit known =>
    have longer := numberFrom_concat before known
    have length : (digits ++ [c]).length = digits.length + 1 := List.length_append
    by_cases others : 1 < left
    · simp only [others, if_true] at h
      have missing : (digits ++ [c]).length + (left - 1) = form.width := by omega
      simpa using rest (.number form (digits ++ [c]) longer missing (by omega)) h
    · simp only [others, if_false] at h
      have whole : (digits ++ [c]).length = form.width := by omega
      cases written : form.of.bytes? (value * form.base + digit) with
      | none => simp [written] at h
      | some own =>
        rw [written] at h
        obtain ⟨bytes, later, rfl⟩ := Option.map_eq_some_iff.mp h
        obtain ⟨body, rfl, inside⟩ := rest .plain later
        refine ⟨_, ?_, .number form whole longer written inside⟩
        simp

end

private theorem closes (cs : List Char) : Closes cs := by
  induction cs with
  | nil =>
    intro _ _ _ _ h
    simp [denoted] at h
  | cons c cs ih =>
    intro place read bytes begun h
    cases begun with
    | plain => exact closes_plain ih h
    | escape => exact closes_escape ih h
    | number form digits before all more => exact closes_number ih before all more h

/-- The reader has exactly what the grammar has. -/
theorem unquote_eq_some_iff {literal : String} {bytes : Bytes} :
    unquote literal = some bytes ↔ ∃ body, Encloses literal body ∧ Body body bytes := by
  constructor
  · intro h
    unfold unquote at h
    split at h
    case h_1 rest spelled =>
      obtain ⟨body, rfl, inside⟩ := closes rest .plain h
      exact ⟨body, spelled, inside⟩
    case h_2 => cases h
  · rintro ⟨body, spelled, inside⟩
    rw [unquote, spelled]
    exact denoted_of_body inside

/-! ## Quoted texts -/

private theorem toNat_hexDigit {n : Nat} (h : n < 16) : 32 ≤ (Json.hexDigit n).toNat := by
  decide +revert

private theorem toNat_of_mem_escapeChar {c d : Char} (h : d ∈ Json.escapeChar c) :
    32 ≤ d.toNat := by
  by_cases short : c ∈ ['"', '\\', '\x08', '\x0c', '\n', '\r', '\t']
  · simp only [List.mem_cons, List.not_mem_nil, or_false] at short
    rcases short with rfl | rfl | rfl | rfl | rfl | rfl | rfl
    all_goals
      simp only [Json.escapeChar, Char.reduceEq, if_true, if_false, List.mem_cons,
        List.not_mem_nil, or_false] at h
      rcases h with rfl | rfl
      · decide
      · decide
  · simp only [List.mem_cons, List.not_mem_nil, or_false, not_or] at short
    obtain ⟨quote, backslash, backspace, feed, line, carriage, tab⟩ := short
    by_cases control : c.toNat < 32
    · have first := toNat_hexDigit (n := c.toNat / 16) (by omega)
      have second := toNat_hexDigit (n := c.toNat % 16) (Nat.mod_lt _ (by decide))
      simp only [Json.escapeChar, quote, backslash, backspace, feed, line, carriage, tab, control,
        if_true, if_false, List.mem_cons, List.not_mem_nil, or_false] at h
      rcases h with rfl | rfl | rfl | rfl | rfl | rfl
      · decide
      · decide
      · decide
      · decide
      · exact first
      · exact second
    · simp only [Json.escapeChar, quote, backslash, backspace, feed, line, carriage, tab, control,
        if_false, List.mem_singleton] at h
      subst h
      omega

private theorem toNat_of_mem_stringLiteral {s : String} {c : Char}
    (h : c ∈ (stringLiteral s).toList) :
    32 ≤ c.toNat := by
  have spelled : (stringLiteral s).toList = '"' :: (s.toList.flatMap Json.escapeChar ++ ['"']) :=
    String.toList_ofList
  rw [spelled, List.mem_cons, List.mem_append, List.mem_singleton] at h
  rcases h with rfl | inside | rfl
  · decide
  · obtain ⟨own, -, member⟩ := List.mem_flatMap.mp inside
    exact toNat_of_mem_escapeChar member
  · decide

/-- A quoted text is a literal by the grammar, on one line and without control characters. What it
denotes are the bytes of the text, and of no other, so different texts have different literals. -/
theorem stringLiteral_denotes (s : String) :
    (∃ body, Encloses (stringLiteral s) body ∧ Body body (bytes s)) ∧
      (∀ c ∈ (stringLiteral s).toList, 32 ≤ c.toNat) ∧
        (∀ t, unquote (stringLiteral s) = some (bytes t) ↔ t = s) ∧
          Function.Injective stringLiteral := by
  have read := unquote_stringLiteral s
  refine ⟨unquote_eq_some_iff.mp read, fun c => toNat_of_mem_stringLiteral, fun t => ?_, ?_⟩
  · rw [read, Option.some_inj]
    exact ⟨fun same => (bytes_injective same).symm, fun same => congrArg bytes same.symm⟩
  · intro t u same
    have denoted := congrArg unquote same
    rw [unquote_stringLiteral, unquote_stringLiteral] at denoted
    exact bytes_injective (Option.some.inj denoted)

end ApiScaffold.Go
