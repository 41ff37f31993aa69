import Mathlib.Data.List.TakeWhile
import ApiScaffold.Json.Printer
import ApiScaffold.Json.Token
import ApiScaffold.Proofs.Decimal.Shortest
/-!
# Numerals of printed numbers

Every number is printed as a numeral. An integer in range is read back from it, and any other
integer is read as a double. A double is printed with a point or an exponent, so it is never read
as an integer, but it may be read as another double: of its digits only those that fit into 64 bits
count.
-/
namespace ApiScaffold

namespace Json

/-! ## Numerals in parts -/

private theorem splitFirst_none {p : Char → Bool} {cs : List Char} (h : ∀ c ∈ cs, p c = false) :
    splitFirst p cs = (cs, none) := by
  have all : cs.dropWhile (!p ·) = [] := by
    rw [List.dropWhile_eq_nil_iff]
    intro c member
    rw [h c member]
    rfl
  rw [splitFirst, all]

private theorem splitFirst_append {p : Char → Bool} {before after : List Char} {c : Char}
    (h : ∀ c ∈ before, p c = false) (hc : p c = true) :
    splitFirst p (before ++ c :: after) = (before, some after) := by
  have pass : ∀ c ∈ before, (!p c) = true := fun c member => by
    rw [h c member]
    rfl
  have rest : (before ++ c :: after).dropWhile (!p ·) = c :: after := by
    rw [List.dropWhile_append_of_pos pass, List.dropWhile_cons, hc]
    rfl
  have first : (before ++ c :: after).takeWhile (!p ·) = before := by
    rw [List.takeWhile_append_of_pos pass, List.takeWhile_cons, hc]
    exact List.append_nil _
  rw [splitFirst, rest, first]

private theorem splitFirst_elim {p : Char → Bool} {before : List Char} {mark : Char}
    (h : ∀ c ∈ before, p c = false) (hm : p mark = true) (part : Option (List Char)) :
    splitFirst p (before ++ part.elim [] (mark :: ·)) = (before, part) := by
  cases part with
  | none =>
    rw [Option.elim_none, List.append_nil]
    exact splitFirst_none h
  | some part => exact splitFirst_append h hm

def unsigned? (negative : Bool) (cs : List Char) : Option Numeral :=
  let (mantissa, power) := splitFirst (fun c => c = 'e' || c = 'E') cs
  let (whole, fraction) := splitFirst (· = '.') mantissa
  let wholeOk := isDigits whole && (whole.head? != some '0' || whole.length = 1)
  if !(wholeOk && fraction.all isDigits) then none
  else match power with
    | none => some ⟨negative, whole, fraction, none⟩
    | some power => (signedExponent? power).map fun e => ⟨negative, whole, fraction, some e⟩

private theorem numeral?_neg (cs : List Char) : numeral? ('-' :: cs) = unsigned? true cs := rfl

private theorem numeral?_of_head? {cs : List Char} (h : cs.head? ≠ some '-') :
    numeral? cs = unsigned? false cs := by
  cases cs with
  | nil => rfl
  | cons c cs =>
    have plain : c ≠ '-' := fun minus => h (congrArg some minus)
    simp only [numeral?]
    split
    next first _ same => exact absurd (List.cons.inj same).1 plain
    next => rfl

/-- The characters of a numeral that has a fraction and a power if they are given. -/
def spelled (negative : Bool) (whole : List Char) (fraction power : Option (List Char)) :
    List Char :=
  (if negative then ['-'] else []) ++
    ((whole ++ fraction.elim [] ('.' :: ·)) ++ power.elim [] ('e' :: ·))

structure Spells (whole : List Char) (fraction power : Option (List Char)) : Prop where
  digits : isDigits whole = true
  lead : whole.head? ≠ some '0' ∨ whole.length = 1
  places : ∀ f ∈ fraction, isDigits f = true
  exponent : ∀ p ∈ power, (signedExponent? p).isSome = true

theorem isDigits_iff {cs : List Char} :
    isDigits cs = true ↔ cs ≠ [] ∧ ∀ c ∈ cs, c.isDigit = true := by
  simp [isDigits]

theorem isDigit_of_isDigits {cs : List Char} (h : isDigits cs = true) :
    ∀ c ∈ cs, c.isDigit = true := (isDigits_iff.mp h).2

theorem ne_of_isDigit {c : Char} (h : c.isDigit = true) :
    c ≠ '-' ∧ c ≠ '.' ∧ c ≠ 'e' ∧ c ≠ 'E' := by
  refine ⟨?_, ?_, ?_, ?_⟩ <;> (rintro rfl; revert h; decide)

section

variable {whole : List Char} {fraction power : Option (List Char)} (h : Spells whole fraction power)

include h

private theorem Spells.mantissa :
    ∀ c ∈ whole ++ fraction.elim [] ('.' :: ·), c.isDigit = true ∨ c = '.' := by
  intro c member
  rcases List.mem_append.mp member with member | member
  · exact .inl (isDigit_of_isDigits h.digits c member)
  · cases fraction with
    | none => cases member
    | some f =>
      rcases List.mem_cons.mp member with rfl | member
      · exact .inr rfl
      · exact .inl (isDigit_of_isDigits (h.places f rfl) c member)

private theorem unsigned?_spelled (negative : Bool) :
    unsigned? negative ((whole ++ fraction.elim [] ('.' :: ·)) ++ power.elim [] ('e' :: ·)) =
      some ⟨negative, whole, fraction, power.bind signedExponent?⟩ := by
  have noPower : ∀ c ∈ whole ++ fraction.elim [] ('.' :: ·),
      (decide (c = 'e') || decide (c = 'E')) = false := by
    intro c member
    rcases h.mantissa c member with digit | rfl
    · simp [ne_of_isDigit digit]
    · rfl
  have noPoint : ∀ c ∈ whole, decide (c = '.') = false := by
    intro c member
    simp [ne_of_isDigit (isDigit_of_isDigits h.digits c member)]
  have powered : splitFirst (fun c => c = 'e' || c = 'E')
      ((whole ++ fraction.elim [] ('.' :: ·)) ++ power.elim [] ('e' :: ·)) =
        (whole ++ fraction.elim [] ('.' :: ·), power) := splitFirst_elim noPower rfl power
  have pointed : splitFirst (· = '.') (whole ++ fraction.elim [] ('.' :: ·)) =
      (whole, fraction) := splitFirst_elim noPoint rfl fraction
  have sound : (isDigits whole && (whole.head? != some '0' || decide (whole.length = 1))) =
      true := by
    simpa [h.digits] using h.lead
  have places : fraction.all isDigits = true := by
    cases fraction with
    | none => rfl
    | some f => exact h.places f rfl
  simp only [unsigned?, powered, pointed, sound, places]
  cases power with
  | none => rfl
  | some p =>
    obtain ⟨e, found⟩ := Option.isSome_iff_exists.mp (h.exponent p rfl)
    simp [found]

private theorem numeral?_spelled (negative : Bool) :
    numeral? (spelled negative whole fraction power) =
      some ⟨negative, whole, fraction, power.bind signedExponent?⟩ := by
  cases negative with
  | true => exact (numeral?_neg _).trans (unsigned?_spelled h true)
  | false =>
    refine (numeral?_of_head? ?_).trans (unsigned?_spelled h false)
    cases whole with
    | nil => cases h.digits
    | cons c whole =>
      intro minus
      cases minus
      exact absurd rfl (ne_of_isDigit (isDigit_of_isDigits h.digits '-' List.mem_cons_self)).1

end

/-! ## The digits of a natural number -/

private theorem isDigits_toDigits (n : Nat) : isDigits (Nat.toDigits 10 n) = true :=
  isDigits_iff.mpr
    ⟨Nat.toDigits_ne_nil, fun _ => Nat.isDigit_of_mem_toDigits (by decide) (by decide)⟩

private theorem head?_toDigits {n : Nat} (h : n ≠ 0) : (Nat.toDigits 10 n).head? ≠ some '0' := by
  induction n using Nat.strongRecOn with
  | ind n ih =>
    rw [Nat.toDigits_eq_if (by decide)]
    split
    next small =>
      intro zero
      exact h (Nat.digitChar_eq_zero.mp (Option.some.inj zero))
    next large =>
      have first := ih (n / 10) (by omega) (by omega)
      cases digits : Nat.toDigits 10 (n / 10) with
      | nil => exact absurd digits Nat.toDigits_ne_nil
      | cons c cs =>
        rw [digits] at first
        exact first

private theorem lead_toDigits (n : Nat) :
    (Nat.toDigits 10 n).head? ≠ some '0' ∨ (Nat.toDigits 10 n).length = 1 := by
  by_cases zero : n = 0
  · subst zero
    exact .inr rfl
  · exact .inl (head?_toDigits zero)

private theorem naturalOf_toDigits (n : Nat) : naturalOf (Nat.toDigits 10 n) = n := by
  have back : Nat.ofDigitChars 10 (Nat.toDigits 10 n) 0 = n :=
    Nat.ofDigitChars_toDigits (by decide) (by decide)
  simp only [Nat.ofDigitChars_eq_foldl, Nat.mul_comm 10] at back
  exact back

theorem le_foldl_digits (value : Nat) (digits : List Char) :
    value ≤ digits.foldl (fun n c => n * 10 + digitValue c) value := by
  induction digits generalizing value with
  | nil => exact Nat.le_refl value
  | cons c digits ih => exact Nat.le_trans (by omega) (ih (value * 10 + digitValue c))

private theorem absorb_of_le {digits : List Char} {value : Nat}
    (h : digits.foldl (fun n c => n * 10 + digitValue c) value ≤ greatestNatural) :
    absorb value digits = (digits.foldl (fun n c => n * 10 + digitValue c) value, []) := by
  induction digits generalizing value with
  | nil => rfl
  | cons c digits ih =>
    have fits : value * 10 + digitValue c ≤ greatestNatural :=
      Nat.le_trans (le_foldl_digits _ digits) h
    rw [absorb]
    simp only [fits, if_true]
    exact ih h

private theorem foldl_of_absorb {digits : List Char} {value kept : Nat}
    (h : absorb value digits = (kept, [])) :
    digits.foldl (fun n c => n * 10 + digitValue c) value = kept := by
  induction digits generalizing value with
  | nil => exact congrArg Prod.fst h
  | cons c digits ih =>
    rw [absorb] at h
    split at h
    · exact ih h
    · cases h

private theorem absorb_toDigits {n : Nat} (h : n ≤ greatestNatural) :
    absorb 0 (Nat.toDigits 10 n) = (n, []) := by
  have back := naturalOf_toDigits n
  rw [naturalOf] at back
  have read := absorb_of_le (back.trans_le h)
  rwa [back] at read

/-! ## Integers -/

def InRange (i : Int) : Prop := -0x8000000000000000 ≤ i ∧ i ≤ greatestNatural

private theorem spells_toDigits (n : Nat) : Spells (Nat.toDigits 10 n) none none where
  digits := isDigits_toDigits n
  lead := lead_toDigits n
  places := nofun
  exponent := nofun

private theorem chars_int (i : Int) :
    Number.chars (.int i) = spelled (decide (i < 0)) (Nat.toDigits 10 i.natAbs) none none := by
  rw [Number.chars, Int.toString_eq_repr, Int.repr_eq_if, spelled]
  by_cases negative : i < 0
  · have magnitude : (-i).toNat = i.natAbs := by omega
    simp [negative, magnitude, Int.not_le.mpr negative]
  · have magnitude : i.toNat = i.natAbs := by omega
    simp [negative, magnitude, Int.not_lt.mp negative]

private theorem value?_int {i : Int} (h : InRange i) :
    Numeral.value? ⟨decide (i < 0), Nat.toDigits 10 i.natAbs, none, none⟩ = some (.int i) := by
  obtain ⟨above, below⟩ := h
  generalize size : i.natAbs = n
  have fits : n ≤ greatestNatural := by
    rw [greatestNatural] at *
    omega
  simp only [Numeral.value?, absorb_toDigits fits]
  by_cases negative : i < 0
  · have magnitude : -(n : Int) = i := by omega
    have least : 0 < n ∧ n ≤ 0x8000000000000000 := by omega
    simp [negative, magnitude, least]
  · have magnitude : (n : Int) = i := by omega
    simp [negative, magnitude]

private theorem value?_ne_int {n : Numeral} (h : n.fraction.isSome ∨ n.exponent.isSome ∨
    (absorb 0 n.whole).2 ≠ []) (i : Int) : n.value? ≠ some (.int i) := by
  have rounded : (n.fraction.isNone && n.exponent.isNone &&
      (absorb 0 n.whole).2.isEmpty) = false := by
    rcases h with given | given | left
    · obtain ⟨_, given⟩ := Option.isSome_iff_exists.mp given
      simp [given]
    · obtain ⟨_, given⟩ := Option.isSome_iff_exists.mp given
      simp [given]
    · simp [left]
  intro whole
  simp only [Numeral.value?, rounded, Bool.false_eq_true, if_false] at whole
  obtain ⟨_, -, real⟩ := Option.map_eq_some_iff.mp whole
  cases real

private theorem eq_of_value?_int {i j : Int}
    (h : Numeral.value? ⟨decide (i < 0), Nat.toDigits 10 i.natAbs, none, none⟩ = some (.int j)) :
    j = i := by
  cases read : absorb 0 (Nat.toDigits 10 i.natAbs) with
  | mk kept dropped =>
    cases dropped with
    | nil =>
      have all : kept = i.natAbs := (foldl_of_absorb read).symm.trans (naturalOf_toDigits _)
      simp only [Numeral.value?, read, Option.isNone_none, List.isEmpty_nil, Bool.and_self,
        if_true] at h
      split at h
      next natural =>
        have least : ¬ i < 0 := by simpa using natural
        cases h
        omega
      next natural =>
        have negative : i < 0 := by simpa using natural
        split at h
        · cases h
          omega
        · obtain ⟨_, -, real⟩ := Option.map_eq_some_iff.mp h
          cases real
    | cons c dropped =>
      exact absurd h (value?_ne_int (.inr (.inr (by simp [read]))) j)

/-! ## Doubles -/

private theorem signedExponent?_isSome {digits sign : List Char} (h : isDigits digits = true)
    (hs : sign = [] ∨ sign = ['-'] ∨ sign = ['+']) :
    (signedExponent? (sign ++ digits)).isSome = true := by
  rcases hs with rfl | rfl | rfl
  · cases digits with
    | nil => cases h
    | cons c digits =>
      have digit := isDigit_of_isDigits h c List.mem_cons_self
      rw [List.nil_append, signedExponent?]
      · simp [h]
      · rintro cs same
        cases same
        revert digit
        decide
      · rintro cs same
        cases same
        revert digit
        decide
  · simp [signedExponent?, h]
  · simp [signedExponent?, h]

def Spelled (cs : List Char) : Prop :=
  ∃ whole fraction power, cs = spelled false whole fraction power ∧
    Spells whole fraction power ∧ (fraction.isSome ∨ power.isSome)

private theorem spelled_pointed {digits power : List Char} (h : isDigits digits = true)
    (hp : (signedExponent? power).isSome = true) :
    Spelled (Binary64.pointed digits ++ 'e' :: power) := by
  have read (p : List Char) (same : p ∈ some power) : (signedExponent? p).isSome = true := by
    cases same
    exact hp
  have each := isDigit_of_isDigits h
  match digits, h with
  | [c], first => exact ⟨[c], none, some power, rfl, ⟨first, .inr rfl, nofun, read⟩, .inr rfl⟩
  | c :: c' :: rest, _ =>
    have first : isDigits [c] = true :=
      isDigits_iff.mpr ⟨List.cons_ne_nil _ _, by simpa using each c List.mem_cons_self⟩
    have places : isDigits (c' :: rest) = true :=
      isDigits_iff.mpr ⟨List.cons_ne_nil _ _, fun c member => each c (.tail _ member)⟩
    refine ⟨[c], some (c' :: rest), some power, rfl, ⟨first, .inr rfl, ?_, read⟩, .inr rfl⟩
    rintro _ ⟨⟩
    exact places

private theorem spelled_point {whole fraction : List Char} (h : isDigits whole = true)
    (hl : whole.head? ≠ some '0' ∨ whole.length = 1) (hf : isDigits fraction = true) :
    Spelled (whole ++ '.' :: fraction) := by
  refine ⟨whole, some fraction, none, by simp [spelled], ⟨h, hl, ?_, nofun⟩, .inl rfl⟩
  rintro _ ⟨⟩
  exact hf

private theorem isDigits_zeros_append (zeros n : Nat) :
    isDigits (List.replicate zeros '0' ++ Nat.toDigits 10 n) = true := by
  refine isDigits_iff.mpr ⟨List.append_ne_nil_of_right_ne_nil _ Nat.toDigits_ne_nil, ?_⟩
  intro c member
  rcases List.mem_append.mp member with zero | digit
  · rw [List.eq_of_mem_replicate zero]
    rfl
  · exact isDigit_of_isDigits (isDigits_toDigits n) c digit

private theorem isDigits_append_zeros (n zeros : Nat) :
    isDigits (Nat.toDigits 10 n ++ List.replicate zeros '0') = true := by
  refine isDigits_iff.mpr ⟨List.append_ne_nil_of_left_ne_nil Nat.toDigits_ne_nil _, ?_⟩
  intro c member
  refine isDigit_of_isDigits (isDigits_zeros_append zeros n) c ?_
  rw [List.mem_append] at member ⊢
  exact member.symm

private theorem spelled_filled {n zeros : Nat} (h : n = 0 → zeros = 0) :
    Spelled (Nat.toDigits 10 n ++ List.replicate zeros '0' ++ ['.', '0']) := by
  refine spelled_point (isDigits_append_zeros n zeros) ?_ rfl
  by_cases zero : n = 0
  · rw [h zero, zero]
    exact .inr rfl
  · left
    have first := head?_toDigits zero
    cases digits : Nat.toDigits 10 n with
    | nil => exact absurd digits Nat.toDigits_ne_nil
    | cons c cs =>
      rw [digits] at first
      exact first

private theorem spelled_split {n places : Nat} (h : places ≠ 0)
    (hp : places < (Nat.toDigits 10 n).length) :
    Spelled ((Nat.toDigits 10 n).take places ++ '.' :: (Nat.toDigits 10 n).drop places) := by
  have each := isDigit_of_isDigits (isDigits_toDigits n)
  have whole : isDigits ((Nat.toDigits 10 n).take places) = true := by
    refine isDigits_iff.mpr ⟨fun none => ?_, fun c member => each c (List.mem_of_mem_take member)⟩
    rw [List.take_eq_nil_iff] at none
    exact none.elim h Nat.toDigits_ne_nil
  have fraction : isDigits ((Nat.toDigits 10 n).drop places) = true := by
    refine isDigits_iff.mpr ⟨fun none => ?_, fun c member => each c (List.mem_of_mem_drop member)⟩
    rw [List.drop_eq_nil_iff] at none
    omega
  refine spelled_point whole ?_ fraction
  rw [List.head?_take, if_neg h]
  exact (lead_toDigits n).imp_right fun one => by omega

private theorem sign_cases (negative plusSign : Bool) :
    (if negative then ['-'] else if plusSign then ['+'] else []) = [] ∨
      (if negative then ['-'] else if plusSign then ['+'] else []) = ['-'] ∨
      (if negative then ['-'] else if plusSign then ['+'] else []) = ['+'] := by
  cases negative <;> cases plusSign <;> simp

private theorem spelled_decimal {d : Binary64.Decimal} (h : d.digits = 0 → d.exponent ≤ 0)
    (s : Binary64.Spelling) : Spelled (d.chars s) := by
  have digits := isDigits_toDigits d.digits
  rw [Binary64.Decimal.chars]
  generalize he : d.exponent + (Nat.toDigits 10 d.digits).length - 1 = lead
  dsimp only
  split
  next =>
    -- the point after the first digit, and an exponent
    have power := signedExponent?_isSome (isDigits_toDigits lead.natAbs)
      (sign_cases (decide (lead < 0)) s.plusSign)
    rw [List.append_assoc, List.append_assoc]
    simp only [decide_eq_true_eq] at power
    exact spelled_pointed digits power
  next =>
    split
    next whole =>
      -- all digits before the point
      exact spelled_filled fun zero => by
        have least := h zero
        omega
    next =>
      split
      next inside =>
        -- the point among the digits
        rw [List.append_assoc]
        exact spelled_split (by omega) (by omega)
      next =>
        -- all digits after the point
        have whole : isDigits ['0'] = true := rfl
        exact spelled_point whole (.inr rfl) (isDigits_zeros_append _ _)

/-! ## Numbers -/

/-- The number that is read from the numeral of a printed number. -/
def Number.reread (n : Number) : Option Number := (numeral? n.chars).bind Numeral.value?

def Number.short? : Number → Option Number
  | .int i => if 0 ≤ i ∧ i < 65536 then some (.int i) else none
  | .real _ => none

private theorem digits_shortest_eq_zero {x : Binary64} (h : x.shortest.digits = 0) :
    x.shortest.exponent ≤ 0 := by
  by_cases zero : x.significand = 0
  · rw [Binary64.shortest, if_pos zero]
  · exact absurd h (Binary64.digits_shortest zero)

private theorem chars_real (x : Binary64) :
    ∃ whole fraction power, Number.chars (.real x) = spelled x.negative whole fraction power ∧
      Spells whole fraction power ∧ (fraction.isSome ∨ power.isSome) := by
  obtain ⟨whole, fraction, power, same, spells, marked⟩ :=
    spelled_decimal digits_shortest_eq_zero spelling
  refine ⟨whole, fraction, power, ?_, spells, marked⟩
  rw [Number.chars, Binary64.chars, same]
  rfl

private theorem Number.chars_spelled (n : Number) :
    ∃ negative whole fraction power, n.chars = spelled negative whole fraction power ∧
      Spells whole fraction power := by
  cases n with
  | int i => exact ⟨_, _, none, none, chars_int i, spells_toDigits _⟩
  | real x =>
    obtain ⟨whole, fraction, power, same, spells, -⟩ := chars_real x
    exact ⟨_, whole, fraction, power, same, spells⟩

theorem Number.numeral?_chars (n : Number) :
    ∃ m, numeral? n.chars = some m ∧ m.value? = n.reread := by
  obtain ⟨negative, whole, fraction, power, same, spells⟩ := n.chars_spelled
  have read := numeral?_spelled spells negative
  rw [← same] at read
  exact ⟨_, read, by rw [Number.reread, read, Option.bind_some]⟩

private theorem reread_int {i : Int} (h : InRange i) :
    (Number.int i).reread = some (.int i) := by
  rw [Number.reread, chars_int, numeral?_spelled (spells_toDigits _), Option.bind_some]
  exact value?_int h

private theorem eq_of_reread_int {i j : Int} (h : (Number.int i).reread = some (.int j)) :
    j = i := by
  rw [Number.reread, chars_int, numeral?_spelled (spells_toDigits _), Option.bind_some] at h
  exact eq_of_value?_int h

private theorem reread_real_ne_int (x : Binary64) (i : Int) :
    (Number.real x).reread ≠ some (.int i) := by
  obtain ⟨whole, fraction, power, same, spells, marked⟩ := chars_real x
  rw [Number.reread, same, numeral?_spelled spells, Option.bind_some]
  refine value?_ne_int (marked.imp_right fun given => .inl ?_) i
  obtain ⟨p, rfl⟩ := Option.isSome_iff_exists.mp given
  exact spells.exponent p rfl

/-- Integers of sixteen bits are kept, and no other number becomes one. -/
theorem Number.short?_reread (n : Number) : n.reread.bind short? = n.short? := by
  cases n with
  | int i =>
    by_cases short : 0 ≤ i ∧ i < 65536
    · have inRange : InRange i := by
        rw [InRange, greatestNatural]
        omega
      rw [reread_int inRange, Option.bind_some]
    · have none_of_int : (Number.int i).short? = none := if_neg short
      rw [none_of_int]
      cases read : (Number.int i).reread with
      | none => rfl
      | some m =>
        cases m with
        | int j => rwa [eq_of_reread_int read, Option.bind_some]
        | real y => rfl
  | real x =>
    cases read : (Number.real x).reread with
    | none => rfl
    | some m =>
      cases m with
      | int i => exact absurd read (reread_real_ne_int x i)
      | real y => rfl

private theorem isNumeralChar_of_isDigits {cs : List Char} (h : isDigits cs = true) :
    ∀ c ∈ cs, isNumeralChar c = true := fun c member => by
  simp [isNumeralChar, isDigit_of_isDigits h c member]

private theorem isNumeralChar_of_signedExponent? {p : List Char}
    (h : (signedExponent? p).isSome = true) :
    ∀ c ∈ p, isNumeralChar c = true := by
  rw [signedExponent?.eq_def] at h
  split at h <;> simp only [Option.isSome_ite] at h <;> have digits := isNumeralChar_of_isDigits h
  · exact List.forall_mem_cons.mpr ⟨rfl, digits⟩
  · exact List.forall_mem_cons.mpr ⟨rfl, digits⟩
  · exact digits

private theorem Spells.isNumeralChar {whole : List Char} {fraction power : Option (List Char)}
    (h : Spells whole fraction power) (negative : Bool) :
    ∀ c ∈ spelled negative whole fraction power, isNumeralChar c = true := by
  have sign : ∀ c ∈ (if negative then ['-'] else []), Json.isNumeralChar c = true := by
    cases negative <;> simp [Json.isNumeralChar]
  have places : ∀ c ∈ fraction.elim [] ('.' :: ·), Json.isNumeralChar c = true := by
    cases fraction with
    | none => nofun
    | some f => exact List.forall_mem_cons.mpr ⟨rfl, isNumeralChar_of_isDigits (h.places f rfl)⟩
  have exponent : ∀ c ∈ power.elim [] ('e' :: ·), Json.isNumeralChar c = true := by
    cases power with
    | none => nofun
    | some p =>
      exact List.forall_mem_cons.mpr ⟨rfl, isNumeralChar_of_signedExponent? (h.exponent p rfl)⟩
  simp only [spelled, List.forall_mem_append]
  exact ⟨sign, ⟨isNumeralChar_of_isDigits h.digits, places⟩, exponent⟩

theorem Number.chars_eq_cons (n : Number) :
    ∃ c cs, n.chars = c :: cs ∧ (c.isDigit || c = '-') = true ∧
      ∀ d ∈ cs, isNumeralChar d = true := by
  obtain ⟨negative, whole, fraction, power, same, spells⟩ := n.chars_spelled
  have all := spells.isNumeralChar negative
  rw [same]
  cases negative with
  | true => exact ⟨'-', _, rfl, rfl, fun d member => all d (.tail _ member)⟩
  | false =>
    obtain ⟨nonempty, digits⟩ := isDigits_iff.mp spells.digits
    obtain ⟨c, rest, rfl⟩ := List.exists_cons_of_ne_nil nonempty
    have digit := digits c List.mem_cons_self
    exact ⟨c, _, rfl, by simp [digit], fun d member => all d (.tail _ member)⟩

end Json
end ApiScaffold
