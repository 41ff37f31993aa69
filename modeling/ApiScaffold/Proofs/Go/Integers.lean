import ApiScaffold.Proofs.Go.Enumerations
import ApiScaffold.Proofs.Json.Numerals
/-!
# Enumerations of integers in Go

The source of an enumeration of integers declares a constant for each literal and has the literals
as they are written. They are decimal digits, but Go reads digits after a leading zero as octal
ones, and a constant has to fit into the type of the enumeration. What the constants denote is
compared with the integers that the enumeration accepted.
-/
namespace ApiScaffold.Go

open ApiScaffold.Enumeration ApiScaffold.Json

/-! ## Integers as literals -/

/-- The number that digits of a base make behind those of `value`. An underscore may stand before a
digit. -/
def numberOnto (base : Nat) : Nat → List Char → Option Nat
  | value, [] => some value
  | value, '_' :: c :: rest =>
    (digit? base c).bind fun digit => numberOnto base (value * base + digit) rest
  | value, c :: rest =>
    (digit? base c).bind fun digit => numberOnto base (value * base + digit) rest

/-- The base that a letter behind a leading zero names. -/
def baseOf? : Char → Option Nat
  | 'b' | 'B' => some 2
  | 'o' | 'O' => some 8
  | 'x' | 'X' => some 16
  | _ => none

/-- The number that an integer literal denotes. Behind a leading zero digits are octal unless a
letter names the base. -/
def natural? : List Char → Option Nat
  | [] => none
  | ['0'] => some 0
  | '0' :: c :: rest =>
    match baseOf? c with
    | some base => if rest.isEmpty then none else numberOnto base 0 rest
    | none => numberOnto 8 0 (c :: rest)
  | c :: rest => (digit? 10 c).bind fun digit => numberOnto 10 digit rest

/-- The integer that a literal with an optional minus sign denotes. -/
def constant? : List Char → Option Int
  | '-' :: literal => (natural? literal).map fun n => -n
  | literal => (natural? literal).map Int.ofNat

/-! ## Decimal digits -/

private theorem digit?_of_isDigit {base : Nat} {c : Char} (h : c.isDigit = true) :
    digit? base c = if digitValue c < base then some (digitValue c) else none := by
  have decimal : '0' ≤ c ∧ c ≤ '9' := by
    simpa [Char.isDigit, Char.le_def] using h
  unfold digit? digitValue
  rw [if_pos decimal]

private theorem numberOnto_cons {base value : Nat} {c : Char} (h : c.isDigit = true)
    (rest : List Char) :
    numberOnto base value (c :: rest) =
      if digitValue c < base then numberOnto base (value * base + digitValue c) rest else none := by
  have read : numberOnto base value (c :: rest) =
      (digit? base c).bind fun digit => numberOnto base (value * base + digit) rest := by
    rw [numberOnto.eq_def]
    split
    next same => cases same
    next same =>
      cases same
      exact absurd h (by decide)
    next _ same =>
      cases same
      rfl
  rw [read, digit?_of_isDigit h]
  split <;> rfl

def decimalOnto (value : Nat) (digits : List Char) : Nat :=
  digits.foldl (fun n c => n * 10 + digitValue c) value

private theorem digitValue_lt {c : Char} (h : c.isDigit = true) : digitValue c < 10 := by
  have last : c.toNat ≤ 57 := by
    simp only [Char.isDigit, Bool.and_eq_true, decide_eq_true_eq] at h
    exact h.2
  have zero : '0'.toNat = 48 := rfl
  rw [digitValue, zero]
  omega

private theorem numberOnto_decimal {digits : List Char} (h : ∀ c ∈ digits, c.isDigit = true)
    (value : Nat) :
    numberOnto 10 value digits = some (decimalOnto value digits) := by
  induction digits generalizing value with
  | nil => rfl
  | cons c digits ih =>
    obtain ⟨first, rest⟩ := List.forall_mem_cons.mp h
    have small : digitValue c < 10 := digitValue_lt first
    rw [numberOnto_cons first, if_pos small, ih rest]
    rfl

private theorem lt_of_numberOnto_octal {digits : List Char} (h : ∀ c ∈ digits, c.isDigit = true)
    {less value n : Nat} (lt : less < value) (octal : numberOnto 8 less digits = some n) :
    n < decimalOnto value digits := by
  induction digits generalizing less value with
  | nil =>
    cases octal
    exact lt
  | cons c digits ih =>
    obtain ⟨first, rest⟩ := List.forall_mem_cons.mp h
    rw [numberOnto_cons first] at octal
    have behind : less * 8 + digitValue c < value * 10 + digitValue c := by omega
    split at octal
    · exact ih rest behind octal
    · cases octal

/-- Zeros aside, octal digits make the same number as decimal ones only if there is just one. -/
theorem numberOnto_octal_iff {digits : List Char} (h : ∀ c ∈ digits, c.isDigit = true) :
    numberOnto 8 0 digits = some (decimalOnto 0 digits) ↔ decimalOnto 0 digits < 8 := by
  induction digits with
  | nil => exact ⟨fun _ => by decide, fun _ => rfl⟩
  | cons c digits ih =>
    obtain ⟨first, rest⟩ := List.forall_mem_cons.mp h
    have onto : decimalOnto 0 (c :: digits) = decimalOnto (digitValue c) digits := by
      rw [decimalOnto, List.foldl_cons, Nat.zero_mul, Nat.zero_add]
      rfl
    rw [numberOnto_cons first, onto, Nat.zero_mul, Nat.zero_add]
    by_cases zero : digitValue c = 0
    · rw [zero, if_pos (by decide)]
      exact ih rest
    · cases digits with
      | nil =>
        change (if digitValue c < 8 then some (digitValue c) else none) = some (digitValue c) ↔
          digitValue c < 8
        split <;> simp [*]
      | cons next digits =>
        have large : ¬ decimalOnto (digitValue c) (next :: digits) < 8 := by
          have le : digitValue c * 10 + digitValue next ≤
              decimalOnto (digitValue c) (next :: digits) :=
            le_foldl_digits (digitValue c * 10 + digitValue next) digits
          omega
        refine ⟨fun octal => ?_, fun small => absurd small large⟩
        split at octal
        · obtain ⟨second, rest⟩ := List.forall_mem_cons.mp rest
          rw [numberOnto_cons second] at octal
          split at octal
          · have lt : digitValue c * 8 + digitValue next <
                digitValue c * 10 + digitValue next := by omega
            exact absurd (lt_of_numberOnto_octal rest lt octal) (Nat.lt_irrefl _)
          · cases octal
        · cases octal

/-- An integer literal of decimal digits is read as such, unless it has a leading zero before
anything but a single octal digit. -/
theorem natural?_eq_iff {digits : List Char} (h : isDigits digits = true) :
    natural? digits = some (naturalOf digits) ↔
      (digits.head? = some '0' → naturalOf digits < 8) := by
  obtain ⟨nonempty, all⟩ := isDigits_iff.mp h
  cases digits with
  | nil => exact absurd rfl nonempty
  | cons c digits =>
    obtain ⟨first, rest⟩ := List.forall_mem_cons.mp all
    by_cases zero : c = '0'
    · subst zero
      have octal : natural? ('0' :: digits) = numberOnto 8 0 digits := by
        cases digits with
        | nil => rfl
        | cons next digits =>
          have plain : baseOf? next = none := by
            have digit := (List.forall_mem_cons.mp rest).1
            unfold baseOf?
            split <;> first | rfl | exact absurd digit (by decide)
          simp only [natural?, plain]
      have same : naturalOf ('0' :: digits) = decimalOnto 0 digits := rfl
      rw [octal, same, numberOnto_octal_iff rest]
      exact ⟨fun small _ => small, fun small => small rfl⟩
    · have decimal : natural? (c :: digits) = numberOnto 10 (digitValue c) digits := by
        have ten : digit? 10 c = some (digitValue c) := by
          rw [digit?_of_isDigit first, if_pos (digitValue_lt first)]
        unfold natural?
        split
        next same => cases same
        next same =>
          cases same
          exact absurd rfl zero
        next same =>
          cases same
          exact absurd rfl zero
        next same =>
          cases same
          rw [ten]
          rfl
      have same : naturalOf (c :: digits) = decimalOnto (digitValue c) digits := by
        rw [naturalOf, List.foldl_cons, Nat.zero_mul, Nat.zero_add]
        rfl
      rw [decimal, numberOnto_decimal rest, same]
      simp [zero]

/-! ## Accepted literals -/

private theorem foldl_int {digits : List Char} (h : ∀ c ∈ digits, c.isDigit = true) (value : Nat) :
    digits.foldl (fun (n : Int) c => n * 10 + ((c.toNat : Int) - ('0'.toNat : Int))) value =
      decimalOnto value digits := by
  induction digits generalizing value with
  | nil => rfl
  | cons c digits ih =>
    obtain ⟨first, rest⟩ := List.forall_mem_cons.mp h
    have least : '0'.toNat ≤ c.toNat := by
      simp only [Char.isDigit, Bool.and_eq_true, decide_eq_true_eq] at first
      exact first.1
    have step : (value : Int) * 10 + ((c.toNat : Int) - ('0'.toNat : Int)) =
        ((value * 10 + digitValue c : Nat) : Int) := by
      rw [digitValue, Nat.cast_add, Nat.cast_sub least, Nat.cast_mul]
      rfl
    rw [List.foldl_cons, step, ih rest]
    rfl

private theorem ne_sign_of_identChars {c : Char} {rest : List Char}
    (characters : ∀ d ∈ identChars (c :: rest), Text.isAlphanumeric d ∨ d = '_') :
    c ≠ '-' ∧ c ≠ '+' := by
  constructor
  · rintro rfl
    exact absurd (characters '-' List.mem_cons_self) (by decide)
  · rintro rfl
    exact absurd (characters '+' List.mem_cons_self) (by decide)

private theorem integer?_of_accepted {literal : List Char} (integer : (integer? literal).isSome)
    (characters : ∀ c ∈ identChars literal, Text.isAlphanumeric c ∨ c = '_') :
    isDigits literal = true ∧ integer? literal = some (naturalOf literal : Int) ∧
      naturalOf literal < 0x8000000000000000 := by
  have unsigned : integer? literal =
      if literal.isEmpty || !literal.all Char.isDigit then none
      else
        let n := literal.foldl
          (fun (n : Int) c => n * 10 + ((c.toNat : Int) - ('0'.toNat : Int))) (0 : Nat)
        if inSignedRange n then some n else none := by
    unfold integer?
    split
    next => exact absurd rfl (ne_sign_of_identChars characters).1
    next => exact absurd rfl (ne_sign_of_identChars characters).2
    next => rfl
  rw [unsigned] at integer ⊢
  split at integer
  · cases integer
  next digits =>
    have digits : isDigits literal = true := by
      unfold isDigits
      grind
    have number : literal.foldl
        (fun (n : Int) c => n * 10 + ((c.toNat : Int) - ('0'.toNat : Int))) (0 : Nat) =
          naturalOf literal := foldl_int (isDigit_of_isDigits digits) 0
    rw [number] at integer ⊢
    dsimp only at integer ⊢
    split at integer
    next inRange =>
      refine ⟨digits, by simp [*], ?_⟩
      unfold inSignedRange at inRange
      grind
    next => cases integer

/-! ## Sources -/

/-- The type and the literals of the constants, the cases of the switch over constants with the
texts that they return, and those of the switch over texts with the constants. -/
structure IntegerEnum where
  name : String
  type : String
  unknown : String
  constants : List (String × String)
  texts : List (String × String)
  cases : List (String × String)

namespace IntegerEnum

def textCaseText (entry : String × String) : String :=
  s!"\n\tcase {entry.1}:\n\t\treturn {entry.2}"

def text (t : IntegerEnum) : String :=
  s!"\ntype {t.name} {t.type}\n" ++
    s!"\nconst (\n\tUNKNOWN_VALUE {t.name} = {t.unknown}" ++
    each t.constants (TextEnum.constantText t.name) ++ "\n)\n" ++
    s!"\nfunc (c {t.name}) String() string \x7b" ++
    "\n\tswitch c \x7b" ++ each t.texts textCaseText ++
    "\n\tdefault:\n\t\treturn \"UNKNOWN_VALUE\"\n\t\x7d" ++ "\n\x7d\n" ++
    s!"\nfunc StringTo{t.name}(source string) ({t.name}, error) \x7b\n\tswitch source \x7b" ++
    each t.cases TextEnum.caseText ++
    "\n\tdefault:\n\t\treturn UNKNOWN_VALUE, errors.Validation(fmt.Errorf(" ++
    s!"\"invalid value ('%s') passed to {t.name}\", source), nil)\n\t\x7d\n\x7d\n"

def ofView (view : EnumView) : IntegerEnum where
  name := view.name
  type := view.baseType
  unknown := view.unknownValue
  constants := view.values.map fun v => (v.ident, v.value)
  texts := view.values.map fun v => (v.ident, v.text)
  cases := view.values.map fun v => (v.text, v.ident)

private theorem enumText_eq {view : EnumView} (integers : view.stringBacked = false)
    (module : String) :
    enumText module view = enumPreamble module view ++ (ofView view).text := by
  have shown (s : String) : toString s = s := rfl
  have constants : constantLine view =
      fun v => TextEnum.constantText view.name (v.ident, v.value) := rfl
  have texts : textCase = fun v => textCaseText (v.ident, v.text) := rfl
  have cases : valueCase = fun v => TextEnum.caseText (v.text, v.ident) := rfl
  unfold enumText enumPreamble text ofView
  simp only [each_map, constants, texts, cases, integers, Bool.false_eq_true, if_false, shown,
    String.append_assoc]

/-! ## What they denote -/

def IsValue : String → Int → Prop
  | "int32", n => -0x80000000 ≤ n ∧ n < 0x80000000
  | "int64", n => -0x8000000000000000 ≤ n ∧ n < 0x8000000000000000
  | _, _ => False

def denoted (t : IntegerEnum) : List (Option Int) :=
  t.constants.map fun entry => constant? entry.2.toList

/-- The constants are the integers that were accepted, all of their type, none of them that of the
unknown value, and no two alike. -/
structure Sound (t : IntegerEnum) (e : Enumeration) : Prop where
  accepted : t.denoted = e.literals.map fun literal => integer? literal.toList
  fits : ∀ value ∈ t.denoted, ∃ n, value = some n ∧ IsValue t.type n
  known : ∀ value ∈ t.denoted, value ≠ constant? t.unknown.toList
  apart : t.denoted.Nodup

end IntegerEnum

def number (literal : String) : Nat := naturalOf literal.toList

private theorem constant?_of_isDigits {digits : List Char} (h : isDigits digits = true) :
    constant? digits = (natural? digits).map Int.ofNat := by
  unfold constant?
  split
  next literal => exact absurd rfl (ne_of_isDigit (isDigit_of_isDigits h '-' List.mem_cons_self)).1
  next => rfl

private theorem constant?_eq_iff {digits : List Char} (h : isDigits digits = true) :
    constant? digits = some (naturalOf digits : Int) ↔
      (digits.head? = some '0' → naturalOf digits < 8) := by
  rw [← natural?_eq_iff h, constant?_of_isDigits h, Option.map_eq_some_iff]
  constructor
  · intro read
    obtain ⟨n, read, same⟩ := read
    rw [read, Int.ofNat_inj.mp same]
  · intro read
    exact ⟨_, read, rfl⟩

section

variable {name : String} {schema : Schema} {e : Enumeration}

private theorem accepted_of_ofSchema (h : Enumeration.ofSchema name schema = .ok e)
    (integers : e.isStringBacked = false) {literal : String} (member : literal ∈ e.literals) :
    isDigits literal.toList = true ∧ integer? literal.toList = some (number literal : Int) ∧
      number literal < 0x8000000000000000 := by
  obtain ⟨v, inside, rfl⟩ := List.mem_map.mp member
  obtain ⟨before, given, added⟩ := exists_value_of_ofSchema h inside
  obtain ⟨-, -, integer, ident, characters, -⟩ := value_eq_ok added
  have base : e.base ≠ .string := of_decide_eq_false integers
  rw [ident, identFor, String.toList_ofList] at characters
  exact integer?_of_accepted (integer base) characters

private theorem denoted_ofEnumeration (integers : e.isStringBacked = false) :
    (IntegerEnum.ofView (.ofEnumeration e)).denoted =
      e.literals.map fun literal => constant? literal.toList := by
  simp only [IntegerEnum.denoted, IntegerEnum.ofView, EnumView.ofEnumeration, integers,
    Bool.false_eq_true, if_false, literals, List.map_map]
  rfl

private theorem isValue_type_iff (integers : e.isStringBacked = false) {n : Nat}
    (small : n < 0x8000000000000000) :
    IntegerEnum.IsValue (IntegerEnum.ofView (.ofEnumeration e)).type n ↔
      (e.base = .int32 → n < 0x80000000) := by
  have notText : e.base ≠ .string := of_decide_eq_false integers
  simp only [IntegerEnum.ofView, EnumView.ofEnumeration]
  cases base : e.base with
  | string => exact absurd base notText
  | int32 =>
    simp only [IntegerEnum.IsValue, true_implies]
    omega
  | int64 =>
    simp only [IntegerEnum.IsValue, reduceCtorEq, false_implies, iff_true]
    omega

private theorem unknown_ofEnumeration (integers : e.isStringBacked = false) :
    constant? (IntegerEnum.ofView (.ofEnumeration e)).unknown.toList = some (-1) := by
  simp only [IntegerEnum.ofView, EnumView.ofEnumeration, integers, Bool.false_eq_true, if_false]
  decide

private theorem constant?_ne_unknown {digits : List Char} (h : isDigits digits = true) :
    constant? digits ≠ some (-1) := by
  rw [constant?_of_isDigits h]
  intro same
  obtain ⟨n, -, same⟩ := Option.map_eq_some_iff.mp same
  cases same

private theorem denoted_eq_iff (h : Enumeration.ofSchema name schema = .ok e)
    (integers : e.isStringBacked = false) :
    ((IntegerEnum.ofView (.ofEnumeration e)).denoted =
        e.literals.map fun literal => integer? literal.toList) ↔
      ∀ literal ∈ e.literals, literal.toList.head? = some '0' → number literal < 8 := by
  rw [denoted_ofEnumeration integers, List.map_inj_left]
  refine forall₂_congr fun literal member => ?_
  obtain ⟨digits, integer, -⟩ := accepted_of_ofSchema h integers member
  rw [integer]
  exact constant?_eq_iff digits

private theorem integers_eq_numbers (h : Enumeration.ofSchema name schema = .ok e)
    (integers : e.isStringBacked = false) :
    (e.literals.map fun literal => integer? literal.toList) =
      e.literals.map fun literal => some (number literal : Int) :=
  List.map_congr_left fun _ member => (accepted_of_ofSchema h integers member).2.1

private theorem fits_iff (h : Enumeration.ofSchema name schema = .ok e)
    (integers : e.isStringBacked = false)
    (same : (IntegerEnum.ofView (.ofEnumeration e)).denoted =
      e.literals.map fun literal => some (number literal : Int)) :
    (∀ value ∈ (IntegerEnum.ofView (.ofEnumeration e)).denoted, ∃ n, value = some n ∧
        IntegerEnum.IsValue (IntegerEnum.ofView (.ofEnumeration e)).type n) ↔
      (e.base = .int32 → ∀ literal ∈ e.literals, number literal < 0x80000000) := by
  have isValue {literal : String} (member : literal ∈ e.literals) :=
    isValue_type_iff integers (accepted_of_ofSchema h integers member).2.2
  rw [same, List.forall_mem_map]
  constructor
  · intro fits short literal member
    obtain ⟨n, read, value⟩ := fits literal member
    cases read
    exact (isValue member).mp value short
  · intro small literal member
    exact ⟨number literal, rfl, (isValue member).mpr fun short => small short literal member⟩

/-- The source of an enumeration of integers declares what was accepted exactly if a literal with a
leading zero stands for an octal digit, the literals of a type of 32 bits fit into it, and no two
literals denote the same number. No literal denotes the integer of the unknown value. -/
theorem IntegerEnum.sound_iff (h : Enumeration.ofSchema name schema = .ok e)
    (integers : e.isStringBacked = false) (module : String) :
    enumText module (.ofEnumeration e) =
        enumPreamble module (.ofEnumeration e) ++ (ofView (.ofEnumeration e)).text ∧
      constant? (ofView (.ofEnumeration e)).unknown.toList = some (-1) ∧
      (∀ literal ∈ e.literals, isDigits literal.toList = true ∧
        integer? literal.toList = some (number literal : Int) ∧
        constant? literal.toList ≠ some (-1)) ∧
      ((ofView (.ofEnumeration e)).Sound e ↔
        (∀ literal ∈ e.literals, literal.toList.head? = some '0' → number literal < 8) ∧
          (e.base = .int32 → ∀ literal ∈ e.literals, number literal < 0x80000000) ∧
          (e.literals.map number).Nodup) := by
  have numbers := integers_eq_numbers h integers
  have distinct : (e.literals.map fun literal => some (number literal : Int)).Nodup ↔
      (e.literals.map number).Nodup := by
    have injective : Function.Injective fun n : Nat => some (n : Int) :=
      fun _ _ same => Int.ofNat_inj.mp (Option.some.inj same)
    rw [← List.nodup_map_iff injective, List.map_map]
    rfl
  refine ⟨enumText_eq integers module, unknown_ofEnumeration integers, ?_, ?_, ?_⟩
  · intro literal member
    obtain ⟨digits, integer, -⟩ := accepted_of_ofSchema h integers member
    exact ⟨digits, integer, constant?_ne_unknown digits⟩
  · intro sound
    have same := sound.accepted.trans numbers
    refine ⟨(denoted_eq_iff h integers).mp sound.accepted,
      (fits_iff h integers same).mp sound.fits, distinct.mp ?_⟩
    exact same ▸ sound.apart
  · intro conditions
    obtain ⟨plain, short, apart⟩ := conditions
    have read := (denoted_eq_iff h integers).mpr plain
    have same := read.trans numbers
    refine ⟨read, (fits_iff h integers same).mpr short, ?_, same ▸ distinct.mpr apart⟩
    intro value member
    rw [denoted_ofEnumeration integers] at member
    obtain ⟨literal, inside, rfl⟩ := List.mem_map.mp member
    rw [unknown_ofEnumeration integers]
    exact constant?_ne_unknown (accepted_of_ofSchema h integers inside).1

end

/-- Literals at the limits: a single octal digit behind zeros, and the greatest integer of 32
bits. -/
def prioritySchema : Schema :=
  { Schema.empty with
    type := some "integer"
    format := some "int32"
    literals := [.number (.int 1), .string "20", .string "007", .number (.int 2147483647)] }

theorem IntegerEnum.sound_iff_priority :
    ∃ e, Enumeration.ofSchema "Priority" prioritySchema = .ok e ∧ e.isStringBacked = false ∧
      (ofView (.ofEnumeration e)).Sound e := by
  have built : ∃ e, Enumeration.ofSchema "Priority" prioritySchema = .ok e ∧
      e.isStringBacked = false ∧ e.literals = ["1", "20", "007", "2147483647"] :=
    ⟨_, rfl, rfl, by decide +kernel⟩
  obtain ⟨e, h, integers, literals⟩ := built
  obtain ⟨-, -, -, sound⟩ := sound_iff h integers "example.com/queue"
  rw [literals] at sound
  refine ⟨e, h, integers, sound.mpr ⟨?_, fun _ => ?_, ?_⟩⟩ <;> decide +kernel

/-- Literals that Go reads as other integers, as one and the same, as integers of more than 32 bits
and not at all. -/
def levelSchema : Schema :=
  { Schema.empty with
    type := some "integer"
    format := some "int32"
    literals := [.string "010", .string "8", .number (.int 3000000000), .string "09"] }

theorem IntegerEnum.not_sound_level :
    ∃ e, Enumeration.ofSchema "Level" levelSchema = .ok e ∧ e.isStringBacked = false ∧
      (ofView (.ofEnumeration e)).denoted = [some 8, some 8, some 3000000000, none] ∧
      ¬ (ofView (.ofEnumeration e)).Sound e := by
  have built : ∃ e, Enumeration.ofSchema "Level" levelSchema = .ok e ∧
      e.isStringBacked = false ∧
      (ofView (.ofEnumeration e)).denoted = [some 8, some 8, some 3000000000, none] :=
    ⟨_, rfl, rfl, by decide +kernel⟩
  obtain ⟨e, h, integers, denoted⟩ := built
  refine ⟨e, h, integers, denoted, fun sound => ?_⟩
  have apart := sound.apart
  rw [denoted] at apart
  exact absurd apart (by decide)

end ApiScaffold.Go
