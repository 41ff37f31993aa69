import ApiScaffold.Json.Basic
/-!
# Printing JSON

The compact form: no white space, short escapes where there are some, and doubles in their
shortest decimals.
-/
namespace ApiScaffold.Json

def hexDigit (n : Nat) : Char := Nat.digitChar n

def escapeChar (c : Char) : List Char :=
  if c = '"' then ['\\', '"']
  else if c = '\\' then ['\\', '\\']
  else if c = '\x08' then ['\\', 'b']
  else if c = '\x0c' then ['\\', 'f']
  else if c = '\n' then ['\\', 'n']
  else if c = '\r' then ['\\', 'r']
  else if c = '\t' then ['\\', 't']
  else if c.toNat < 32 then ['\\', 'u', '0', '0', hexDigit (c.toNat / 16), hexDigit (c.toNat % 16)]
  else [c]

def textChars (s : String) : List Char :=
  '"' :: s.toList.flatMap escapeChar ++ ['"']

/-- The exponent of a double is shown below `1e-5` and from `1e+16` on. -/
def spelling : Binary64.Spelling := ⟨-5, 15, true⟩

def Number.chars : Number → List Char
  | .int i => (toString i).toList
  | .real x => x.chars spelling

mutual

def chars : Json → List Char
  | .null => ['n', 'u', 'l', 'l']
  | .bool true => ['t', 'r', 'u', 'e']
  | .bool false => ['f', 'a', 'l', 's', 'e']
  | .number n => n.chars
  | .string s => textChars s
  | .array items => '[' :: itemChars items ++ [']']
  | .object members => '\x7b' :: memberChars members ++ ['\x7d']

def itemChars : List Json → List Char
  | [] => []
  | [item] => chars item
  | item :: items => chars item ++ ',' :: itemChars items

def memberChars : List (String × Json) → List Char
  | [] => []
  | [(key, value)] => textChars key ++ ':' :: chars value
  | (key, value) :: members => textChars key ++ ':' :: chars value ++ ',' :: memberChars members

end

def print (j : Json) : String := String.ofList (chars j)

def printText (s : String) : String := String.ofList (textChars s)

end ApiScaffold.Json
