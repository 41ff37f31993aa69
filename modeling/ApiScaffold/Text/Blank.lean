import ApiScaffold.Text.CodePoints
/-!
# Blanks and lines
-/
namespace ApiScaffold.Text

/-- White space beyond ASCII. -/
def blanks : CodePoints := [
  ⟨133, 133, 1⟩, ⟨160, 160, 1⟩, ⟨5760, 5760, 1⟩, ⟨8192, 8202, 1⟩, ⟨8232, 8233, 1⟩,
  ⟨8239, 8239, 1⟩, ⟨8287, 8287, 1⟩, ⟨12288, 12288, 1⟩]

def isBlank (c : Char) : Bool :=
  (9 ≤ c.toNat && c.toNat ≤ 13) || c = ' ' || blanks.contains c

def trimStart (cs : List Char) : List Char := cs.dropWhile isBlank

def trimEnd : List Char → List Char
  | [] => []
  | c :: rest =>
    match trimEnd rest with
    | [] => if isBlank c then [] else [c]
    | kept => c :: kept

def trim (cs : List Char) : List Char := trimEnd (trimStart cs)

def trimText (s : String) : String := String.ofList (trim s.toList)

/-- Whether a text holds nothing but white space. -/
def blankText (s : String) : Bool := s.toList.all isBlank

/-- The lines of `line` (reversed) followed by the rest. -/
def linesAfter (line : List Char) : List Char → List (List Char)
  | [] => if line.isEmpty then [] else [line.reverse]
  | '\n' :: rest =>
    (match line with
      | '\r' :: line => line.reverse
      | line => line.reverse) :: linesAfter [] rest
  | c :: rest => linesAfter (c :: line) rest

/-- A line ends at a line feed, and a carriage return just before it belongs to the ending.
The last line may lack its line feed. -/
def lines (cs : List Char) : List (List Char) := linesAfter [] cs

/-- The pieces between the characters that satisfy `p`: one more piece than there are such
characters. -/
def splitBy (p : Char → Bool) : List Char → List (List Char)
  | [] => [[]]
  | c :: rest =>
    if p c then [] :: splitBy p rest
    else match splitBy p rest with
      | [] => [[c]]
      | piece :: pieces => (c :: piece) :: pieces

end ApiScaffold.Text
