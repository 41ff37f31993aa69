import ApiScaffold.Text.Alphanumeric
import ApiScaffold.Text.Casing
import ApiScaffold.Text.Blank
/-!
# Identifiers from names

Names of a description are cut into words, and words are joined again in the convention of
the place where they are used.
-/
namespace ApiScaffold.Naming

open ApiScaffold.Text

def isSeparator (c : Char) : Bool := c = '-' || c = '_' || c = ' ' || c = '.'

/-- The words read so far (reversed, joined by underscores) and whether the last character
was a lowercase letter. -/
structure WordScan where
  reversed : List Char
  afterLower : Bool

/-- A capital starts a word only after a lowercase letter; a separator ends one; what is
neither letter, digit nor separator is dropped. -/
def WordScan.step (scan : WordScan) (c : Char) : WordScan :=
  if isUppercase c then
    let joined := if scan.afterLower then '_' :: scan.reversed else scan.reversed
    ⟨(lower c).reverse ++ joined, false⟩
  else if isAlphanumeric c then
    ⟨c :: scan.reversed, isLowercase c⟩
  else if isSeparator c then
    match scan.reversed with
    | [] | '_' :: _ => ⟨scan.reversed, false⟩
    | done => ⟨'_' :: done, false⟩
  else scan

def trimUnderscores (cs : List Char) : List Char :=
  ((cs.dropWhile (· = '_')).reverse.dropWhile (· = '_')).reverse

def snakeChars (cs : List Char) : List Char :=
  trimUnderscores (cs.foldl WordScan.step ⟨[], false⟩).reversed.reverse

def raiseFirst : List Char → List Char
  | [] => []
  | c :: rest => raise c ++ rest

def lowerFirst : List Char → List Char
  | [] => []
  | c :: rest => lower c ++ rest

def properChars (cs : List Char) : List Char :=
  (splitBy (· = '_') (snakeChars cs)).flatMap raiseFirst

def camelChars (cs : List Char) : List Char := lowerFirst (properChars cs)

/-- Words in lowercase, joined by underscores. -/
def snakeCase (s : String) : String := String.ofList (snakeChars s.toList)

/-- Words with a capital each, joined without a separator. -/
def properCase (s : String) : String := String.ofList (properChars s.toList)

/-- Like `properCase` with a small first letter. -/
def camelCase (s : String) : String := String.ofList (camelChars s.toList)

def upperFirst (s : String) : String := String.ofList (raiseFirst s.toList)

def lowerFirstLetter (s : String) : String := String.ofList (lowerFirst s.toList)

/-- An exported identifier keeps the case inside each segment of the name. A leading underscore
is spelled out, and a leading digit gets a letter before it. -/
def exportedChars (cs : List Char) : List Char :=
  let (spelled, rest) := match cs with
    | '_' :: rest => ("Underscore".toList, rest)
    | rest => ([], rest)
  let segments := splitBy (fun c => !(isAlphanumeric c || c = '_')) rest
  let identifier := spelled ++ segments.flatMap raiseFirst
  match identifier with
  | c :: _ => if c.isDigit then 'N' :: identifier else identifier
  | [] => []

def exported (s : String) : String := String.ofList (exportedChars s.toList)

/-- Words that a local of a generated function may not be called: keywords of Go, and the
names the generated function uses itself. -/
def reservedLocals : List String := [
  "break", "case", "chan", "const", "continue", "default", "defer", "else", "fallthrough",
  "for", "func", "go", "goto", "if", "import", "interface", "map", "package", "range",
  "return", "select", "struct", "switch", "type", "var", "w", "r", "h", "req", "resp", "page",
  "size", "sort", "content", "total", "applicationErr", "handler", "item", "dto", "json",
  "http", "ngErrors", "svc"]

def localName (s : String) : String :=
  if reservedLocals.contains s then s ++ "Param" else s

end ApiScaffold.Naming
