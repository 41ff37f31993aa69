import ApiScaffold.Description.Schema
import ApiScaffold.Text.Alphanumeric
import ApiScaffold.Text.Casing
/-!
# Enumerations

The literals of a schema become constants of Go. Two literals may not give one constant, so that
the text of a constant and the constant of a text are inverse to each other.
-/
namespace ApiScaffold

open ApiScaffold.Text

inductive EnumBase where
  | string
  | int32
  | int64
  deriving DecidableEq

structure EnumValue where
  literal : String
  ident : String
  deriving DecidableEq

/-- An enumeration, with the package that holds it. -/
structure Enumeration where
  name : String
  package : String
  base : EnumBase
  description : Option String
  values : List EnumValue
  deriving DecidableEq

namespace Enumeration

/-- The constant of a value that is not known, which every enumeration has. -/
def unknownIdent : String := "UNKNOWN_VALUE"

/-- The constant of a literal: points become underscores, and a leading digit gets a word before
it. -/
def identChars (literal : List Char) : List Char :=
  let spelled := match literal with
    | c :: _ => if c.isDigit then "ENUM_".toList ++ literal else literal
    | [] => []
  spelled.map fun c => if c = '.' then '_' else c

def identFor (literal : String) : String := String.ofList (identChars literal.toList)

def baseOf (name : String) (schema : Schema) : Except Failure EnumBase :=
  match schema.type, schema.format with
  | none, _ => .ok .string
  | some "string", _ => .ok .string
  | some "integer", some "int32" => .ok .int32
  | some "integer", some "int" => .ok .int32
  | some "integer", _ => .ok .int64
  | some other, _ => .error (.invalidEnum name (.unsupportedType other))

def inSignedRange (n : Int) : Bool := -0x8000000000000000 ≤ n && n < 0x8000000000000000

/-- The integer that a decimal numeral with an optional sign denotes, if it has 64 bits. -/
def integer? (literal : List Char) : Option Int :=
  let value? (negative : Bool) (digits : List Char) : Option Int :=
    if digits.isEmpty || !digits.all Char.isDigit then none
    else
      let n : Int := digits.foldl (fun n c => n * 10 + (c.toNat - '0'.toNat)) (0 : Nat)
      let n := if negative then -n else n
      if inSignedRange n then some n else none
  match literal with
  | '-' :: digits => value? true digits
  | '+' :: digits => value? false digits
  | digits => value? false digits

/-- The text of a literal. An enumeration of integers may give numbers. -/
def literalText (name : String) (base : EnumBase) : Json → Except Failure String
  | .string literal => .ok literal
  | .number (.int n) =>
    if base ≠ .string ∧ inSignedRange n then .ok (toString n)
    else .error (.invalidEnum name (.notText (.number (.int n))))
  | other => .error (.invalidEnum name (.notText other))

/-- The literal that already has a constant. -/
def taken? (done : List EnumValue) (ident : String) : Option String :=
  if ident = unknownIdent then some unknownIdent
  else (done.find? (·.ident = ident)).map (·.literal)

/-- The next value after those in `done`. -/
def value (name : String) (base : EnumBase) (done : List EnumValue) (given : Json) :
    Except Failure EnumValue := do
  let literal ← literalText name base given
  if literal = "" then throw (.invalidEnum name .emptyLiteral)
  if base ≠ .string ∧ (integer? literal.toList).isNone then
    throw (.invalidEnum name (.notAnInteger literal))
  let ident := identFor literal
  if !ident.toList.all fun c => isAlphanumeric c || c = '_' then
    throw (.invalidEnum name (.notAnIdentifier literal))
  match taken? done ident with
  | some first => throw (.enumCollision name first literal ident)
  | none => return ⟨literal, ident⟩

/-- The values of literals that follow those in `done`. -/
def valuesAfter (name : String) (base : EnumBase) (done : List EnumValue) :
    List Json → Except Failure (List EnumValue)
  | [] => .ok done
  | given :: rest => do
    let next ← value name base done given
    valuesAfter name base (done ++ [next]) rest

def ofSchema (name : String) (schema : Schema) : Except Failure Enumeration := do
  let base ← baseOf name schema
  let values ← valuesAfter name base [] schema.literals
  return ⟨name, lowerText name, base, schema.description, values⟩

def isStringBacked (e : Enumeration) : Bool := e.base = .string

/-- The text of a constant. -/
def textOf? (e : Enumeration) (ident : String) : Option String :=
  if ident = unknownIdent then some unknownIdent
  else (e.values.find? (·.ident = ident)).map (·.literal)

/-- The constant of a text. -/
def identOf? (e : Enumeration) (text : String) : Option String :=
  (e.values.find? (·.literal = text)).map (·.ident)

/-- Why a text is no value of an enumeration. -/
inductive ParseFault where
  | invalidValue (enum text : String)
  deriving DecidableEq

def ParseFault.message : ParseFault → String
  | .invalidValue enum text => s!"invalid value ('{text}') passed to {enum}"

/-- Accepts the declared literals. -/
def parse (e : Enumeration) (text : String) : Except ParseFault String :=
  match e.values.find? (·.literal = text) with
  | some value => .ok value.literal
  | none => .error (.invalidValue e.name text)

end Enumeration

end ApiScaffold
