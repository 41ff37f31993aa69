/-!
# Doubles as exact numbers

A finite double is a signed significand times a power of two. Rounding a quotient of naturals
to a double is exact arithmetic, so every operation here has one mathematical meaning.
-/
namespace ApiScaffold

/-- The number `significand * 2 ^ exponent`, negated if `negative`. -/
structure Binary64 where
  negative : Bool
  significand : Nat
  exponent : Int
  deriving DecidableEq, Repr, Inhabited

namespace Binary64

def leastExponent : Int := -1074

def greatestExponent : Int := 971

/-- The least significand of 53 bits. -/
def leadingBit : Nat := Nat.pow 2 52

def zero (negative : Bool) : Binary64 := ⟨negative, 0, leastExponent⟩

/-- The natural number nearest to `n / d`; of two equally near, the even one. -/
def roundDiv (n d : Nat) : Nat :=
  let q := n / d
  let r := n % d
  if 2 * r < d then q else if d < 2 * r then q + 1 else q + q % 2

/-- The exponent at which the significand of `n / d` has 53 bits, or the least one. -/
def fittingExponent (n d : Nat) : Int :=
  let guess : Int := n.log2 - d.log2 - 52
  let tooFew := n * Nat.pow 2 (-guess).toNat < leadingBit * (d * Nat.pow 2 guess.toNat)
  max leastExponent (if tooFew then guess - 1 else guess)

/-- The double nearest to `n / d`, or nothing if that is beyond the greatest one. -/
def ofRatio? (negative : Bool) (n d : Nat) : Option Binary64 :=
  if n = 0 then some (zero negative)
  else
    let e := fittingExponent n d
    let q := roundDiv (n * Nat.pow 2 (-e).toNat) (d * Nat.pow 2 e.toNat)
    let x : Binary64 :=
      if q = 2 * leadingBit then ⟨negative, leadingBit, e + 1⟩ else ⟨negative, q, e⟩
    if greatestExponent < x.exponent then none else some x

/-- Numerator of the magnitude. -/
def num (x : Binary64) : Nat := x.significand * Nat.pow 2 x.exponent.toNat

/-- Denominator of the magnitude. -/
def den (x : Binary64) : Nat := Nat.pow 2 (-x.exponent).toNat

def mul? (x y : Binary64) : Option Binary64 :=
  ofRatio? (x.negative != y.negative) (x.num * y.num) (x.den * y.den)

/-- The quotient by a number other than zero. -/
def div? (x y : Binary64) : Option Binary64 :=
  ofRatio? (x.negative != y.negative) (x.num * y.den) (x.den * y.num)

def ofNat? (n : Nat) : Option Binary64 := ofRatio? false n 1

def neg (x : Binary64) : Binary64 := { x with negative := !x.negative }

def digitCount (n : Nat) : Nat := (Nat.toDigits 10 n).length

/-- The double nearest to `digits * 10 ^ exponent`, or nothing if that is beyond the greatest
one. Exponents that decide the answer by themselves are not raised to. -/
def ofDecimal? (negative : Bool) (digits : Nat) (exponent : Int) : Option Binary64 :=
  let magnitude := exponent + digitCount digits
  if digits = 0 ∨ magnitude < -400 then some (zero negative)
  else if 400 < magnitude then none
  else ofRatio? negative (digits * Nat.pow 10 exponent.toNat) (Nat.pow 10 (-exponent).toNat)

end Binary64

end ApiScaffold
