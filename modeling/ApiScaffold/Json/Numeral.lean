import ApiScaffold.Json.Basic
/-!
# JSON numerals

A numeral without point and exponent is an integer if it is in range. Of any other numeral the
digits that fit into 64 bits are kept; they are rounded to a double, and that is multiplied or
divided by a double power of ten.
-/
namespace ApiScaffold.Json

def greatestNatural : Nat := 0xFFFFFFFFFFFFFFFF

def digitValue (c : Char) : Nat := c.toNat - '0'.toNat

def naturalOf (digits : List Char) : Nat := digits.foldl (fun n c => n * 10 + digitValue c) 0

/-- Reads digits onto `value` as long as the result fits into 64 bits; the digits left over are
returned. -/
def absorb (value : Nat) : List Char → Nat × List Char
  | [] => (value, [])
  | c :: rest =>
    let next := value * 10 + digitValue c
    if next ≤ greatestNatural then absorb next rest else (value, c :: rest)

def powerOfTen? (n : Nat) : Option Binary64 := Binary64.ofNat? (Nat.pow 10 n)

/-- `x * 10 ^ e`, in steps that each stay within the powers of ten that are doubles. -/
def scale? (x : Binary64) (e : Int) : Option Binary64 :=
  if 0 ≤ e then
    if e ≤ 308 then (powerOfTen? e.toNat).bind x.mul?
    else if x.significand = 0 then some x else none
  else if -308 ≤ e then (powerOfTen? (-e).toNat).bind x.div?
  else if x.significand = 0 then some x
  else ((powerOfTen? 308).bind x.div?).bind fun y => scale? y (e + 308)
termination_by (-e).toNat
decreasing_by omega

/-- A numeral in parts: digits before and after the point, and a signed exponent. -/
structure Numeral where
  negative : Bool
  whole : List Char
  fraction : Option (List Char)
  exponent : Option Int

def Numeral.value? (n : Numeral) : Option Number :=
  let (kept, dropped) := absorb 0 n.whole
  let real (digits : Nat) (e : Int) : Option Number :=
    ((Binary64.ofNat? digits).bind (scale? · e)).map fun x =>
      .real (if n.negative then x.neg else x)
  if n.fraction.isNone && n.exponent.isNone && dropped.isEmpty then
    if !n.negative then some (.int kept)
    else if 0 < kept && kept ≤ 0x8000000000000000 then some (.int (-kept))
    else real kept 0
  else
    let fraction := n.fraction.getD []
    let (all, unread) := absorb kept fraction
    let places : Int := fraction.length - unread.length
    real all (dropped.length - places + n.exponent.getD 0)

/-- At least one digit and nothing else. -/
def isDigits (cs : List Char) : Bool := !cs.isEmpty && cs.all Char.isDigit

def signedExponent? : List Char → Option Int
  | '-' :: cs => if isDigits cs then some (-naturalOf cs) else none
  | '+' :: cs => if isDigits cs then some (naturalOf cs) else none
  | cs => if isDigits cs then some (naturalOf cs) else none

/-- Splits at the first character that satisfies `p`; the second part starts after it. -/
def splitFirst (p : Char → Bool) (cs : List Char) : List Char × Option (List Char) :=
  match cs.dropWhile (!p ·) with
  | [] => (cs, none)
  | _ :: rest => (cs.takeWhile (!p ·), some rest)

/-- A numeral has no plus sign, and its whole part starts with `0` only if that is all of it. -/
def numeral? (cs : List Char) : Option Numeral :=
  let (negative, cs) := match cs with
    | '-' :: cs => (true, cs)
    | cs => (false, cs)
  let (mantissa, power) := splitFirst (fun c => c = 'e' || c = 'E') cs
  let (whole, fraction) := splitFirst (· = '.') mantissa
  let wholeOk := isDigits whole && (whole.head? != some '0' || whole.length = 1)
  if !(wholeOk && fraction.all isDigits) then none
  else match power with
    | none => some ⟨negative, whole, fraction, none⟩
    | some power => (signedExponent? power).map fun e => ⟨negative, whole, fraction, some e⟩

end ApiScaffold.Json
