import ApiScaffold.Json.Numeral
import ApiScaffold.Json.Token
import ApiScaffold.Yaml.Value
/-!
# The types of scalars

A plain scalar without a tag is null, a truth value or a number if it is spelled like one, and
text otherwise. A tag of the core schema asks for one type.
-/
namespace ApiScaffold.Yaml

open ApiScaffold.Json (hexValue? isDigits naturalOf signedExponent? splitFirst)

def null? (s : String) : Option Value :=
  if ["null", "Null", "NULL", "~"].contains s then some .null else none

def bool? (s : String) : Option Bool :=
  if ["true", "True", "TRUE"].contains s then some true
  else if ["false", "False", "FALSE"].contains s then some false
  else none

/-- At least one digit of a base up to sixteen, and nothing else. -/
def naturalIn? (base : Nat) (cs : List Char) : Option Nat :=
  if cs.isEmpty then none
  else cs.foldlM (fun n c => do
    let digit ← hexValue? c
    if digit < base then some (n * base + digit) else none) 0

/-- A number in base sixteen, eight or two says so. -/
def based? : List Char → Option Nat
  | '0' :: 'x' :: cs => naturalIn? 16 cs
  | '0' :: 'o' :: cs => naturalIn? 8 cs
  | '0' :: 'b' :: cs => naturalIn? 2 cs
  | _ => none

/-- Drops one sign. -/
def unsigned : List Char → List Char
  | '+' :: cs => cs
  | '-' :: cs => cs
  | cs => cs

/-- Digits behind a zero are text. -/
def isZeroPadded (cs : List Char) : Bool :=
  match unsigned cs with
  | '0' :: digits => isDigits digits
  | _ => false

def decimal? (cs : List Char) : Option Nat :=
  if isDigits cs && !isZeroPadded cs then some (naturalOf cs) else none

def integer? : List Char → Option Int
  | '-' :: cs => ((based? cs).or (decimal? cs)).map fun n => -Int.ofNat n
  | '+' :: cs => ((based? cs).or (decimal? cs)).map Int.ofNat
  | cs => ((based? cs).or (decimal? cs)).map Int.ofNat

/-- Digits with a point among them or at an end, and possibly an exponent. A number too great for
a double is none. -/
def double? (negative : Bool) (cs : List Char) : Option Number := do
  let (mantissa, power) := splitFirst (fun c => c = 'e' || c = 'E') cs
  let (whole, fraction) := splitFirst (· = '.') mantissa
  let fraction := fraction.getD []
  let power ← match power with
    | some power => signedExponent? power
    | none => some 0
  if isDigits (whole ++ fraction) then
    let x ← Binary64.ofDecimal? negative (naturalOf (whole ++ fraction)) (power - fraction.length)
    some (.real x)
  else none

def isInfinity (cs : List Char) : Bool :=
  [".inf", ".Inf", ".INF"].contains (String.ofList cs)

def isUndefined (cs : List Char) : Bool :=
  [".nan", ".NaN", ".NAN"].contains (String.ofList cs)

def real? (cs : List Char) : Option Number :=
  if isInfinity (unsigned cs) then some (.infinite (cs.head? = some '-'))
  else if isUndefined cs then some .undefined
  else double? (cs.head? = some '-') (unsigned cs)

/-- Integers that a signed or an unsigned word of 64 bits holds. -/
def fits (n : Int) : Bool := -0x8000000000000000 ≤ n && n ≤ 0xFFFFFFFFFFFFFFFF

/-- Integers that take up to 128 bits; there is no value for those that do not fit. -/
def isWide (n : Int) : Bool :=
  -0x80000000000000000000000000000000 ≤ n && n ≤ 0xFFFFFFFFFFFFFFFFFFFFFFFFFFFFFFFF

/-- The value of a plain scalar without a tag. -/
def plainValue? (s : String) : Option Value :=
  let cs := s.toList
  let real (cs : List Char) : Value :=
    match if isZeroPadded cs then none else real? cs with
    | some x => .number x
    | none => .text s
  if s.isEmpty then some .null
  else match null? s, bool? s, integer? cs with
    | some v, _, _ => some v
    | none, some b, _ => some (.bool b)
    | none, none, some n =>
      if fits n then some (.number (.int n)) else if isWide n then none else some (real cs)
    | none, none, none => some (real cs)

/-- The value of a scalar with a tag of its own kind of meaning, if there is one. -/
def coreValue? (tag s : String) : Option (Option Value) :=
  if tag = "tag:yaml.org,2002:bool" then some ((bool? s).map .bool)
  else if tag = "tag:yaml.org,2002:int" then
    some ((integer? s.toList).bind fun n => if fits n then some (.number (.int n)) else none)
  else if tag = "tag:yaml.org,2002:float" then some ((real? s.toList).map .number)
  else if tag = "tag:yaml.org,2002:null" then some (null? s)
  else none

/-- The value of a scalar. -/
def scalarValue? (tag : Option String) (plain : Bool) (s : String) : Option Value :=
  match tag with
  | none => if plain then plainValue? s else some (.text s)
  | some tag => (coreValue? tag s).getD (some (.text s))

end ApiScaffold.Yaml
