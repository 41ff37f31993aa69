import ApiScaffold.Decimal.Binary64
/-!
# Shortest decimals

The shortest decimal that reads back as a given double, and of the shortest the nearest. A
decimal reads back when it lies between the midpoints to the two neighbouring doubles; the
midpoints count when the significand is even.
-/
namespace ApiScaffold.Binary64

/-- The number `digits * 10 ^ exponent`. -/
structure Decimal where
  digits : Nat
  exponent : Int
  deriving DecidableEq, Repr

/-- The decimals that round to a double, as quarters of its unit: `low / 4` to `high / 4` times
`2 ^ exponent`. The gap below a power of two is half as wide. -/
structure Interval where
  low : Nat
  high : Nat
  exponent : Int
  closed : Bool

def interval (x : Binary64) : Interval where
  low :=
    if x.significand = leadingBit ∧ leastExponent < x.exponent then 4 * x.significand - 1
    else 4 * x.significand - 2
  high := 4 * x.significand + 2
  exponent := x.exponent - 2
  closed := x.significand % 2 = 0

def Interval.contains (i : Interval) (d : Decimal) : Bool :=
  let value := d.digits * Nat.pow 10 d.exponent.toNat * Nat.pow 2 (-i.exponent).toNat
  let unit := Nat.pow 10 (-d.exponent).toNat * Nat.pow 2 i.exponent.toNat
  if i.closed then i.low * unit ≤ value && value ≤ i.high * unit
  else i.low * unit < value && value < i.high * unit

/-- The exponent of the leading decimal digit of a magnitude other than zero. -/
def leadingExponent (x : Binary64) : Int :=
  let guess : Int := digitCount x.num - digitCount x.den
  if x.num * Nat.pow 10 (-guess).toNat < x.den * Nat.pow 10 guess.toNat then guess - 1 else guess

/-- The two neighbours of `x` on the grid of multiples of `10 ^ e`, the nearer one first. -/
def neighbours (x : Binary64) (e : Int) : List Decimal :=
  let n := x.num * Nat.pow 10 (-e).toNat
  let d := x.den * Nat.pow 10 e.toNat
  let below := n / d
  let r := n % d
  let lowerFirst := 2 * r < d ∨ (2 * r = d ∧ below % 2 = 0)
  if lowerFirst then [⟨below, e⟩, ⟨below + 1, e⟩] else [⟨below + 1, e⟩, ⟨below, e⟩]

/-- The finest of the grids tried has `places + 1` digits. -/
def shortestFrom (x : Binary64) (e : Int) : Nat → Decimal
  | 0 => ⟨x.num * Nat.pow 10 (-e).toNat / (x.den * Nat.pow 10 e.toNat), e⟩
  | places + 1 =>
    match (x.neighbours e).find? x.interval.contains with
    | some d => d
    | none => shortestFrom x (e - 1) places

/-- Moves trailing zeros of the digits into the exponent. -/
def Decimal.strip (d : Decimal) : Nat → Decimal
  | 0 => d
  | n + 1 =>
    if d.digits ≠ 0 ∧ d.digits % 10 = 0 then Decimal.strip ⟨d.digits / 10, d.exponent + 1⟩ n
    else d

def shortest (x : Binary64) : Decimal :=
  if x.significand = 0 then ⟨0, 0⟩
  else (shortestFrom x x.leadingExponent 18).strip 20

/-- How a double is spelled: the exponents of the leading digit for which the point is placed
among the digits, and whether the exponent of other numbers shows a plus sign. -/
structure Spelling where
  leastPlain : Int
  greatestPlain : Int
  plusSign : Bool

/-- The digits of a natural number with a point after the first one, if there are more. -/
def pointed (digits : List Char) : List Char :=
  match digits with
  | [] => []
  | [c] => [c]
  | c :: rest => c :: '.' :: rest

def Decimal.chars (d : Decimal) (spelling : Spelling) : List Char :=
  let digits := Nat.toDigits 10 d.digits
  let lead : Int := d.exponent + digits.length - 1
  if lead < spelling.leastPlain ∨ spelling.greatestPlain < lead then
    let sign := if lead < 0 then ['-'] else if spelling.plusSign then ['+'] else []
    pointed digits ++ ['e'] ++ sign ++ Nat.toDigits 10 lead.natAbs
  else if 0 ≤ d.exponent then
    digits ++ List.replicate d.exponent.toNat '0' ++ ['.', '0']
  else if 0 ≤ lead then
    digits.take (lead.toNat + 1) ++ ['.'] ++ digits.drop (lead.toNat + 1)
  else
    ['0', '.'] ++ List.replicate (-lead - 1).toNat '0' ++ digits

/-- The shortest spelling; a number without a fraction keeps `.0`. -/
def chars (x : Binary64) (spelling : Spelling) : List Char :=
  (if x.negative then ['-'] else []) ++ x.shortest.chars spelling

end ApiScaffold.Binary64
