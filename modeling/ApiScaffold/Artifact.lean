import ApiScaffold.Path
/-!
# Artifacts

A generated file: a path under the root of the output, and its content. Before they are written,
sources are tidied.
-/
namespace ApiScaffold

open ApiScaffold.Text

structure Artifact where
  path : String
  content : String
  mode : Option Nat
  deriving DecidableEq

namespace Artifact

/-- Puts each line that is not blank on a line of its own, after an empty line if `gap`, or if a
blank line stood before it and there is a line above. -/
def tidyAfter (started gap : Bool) : List (List Char) → List Char
  | [] => []
  | line :: rest =>
    match trimEnd line with
    | [] => tidyAfter started true rest
    | kept => (if started && gap then ['\n'] else []) ++ kept ++ '\n' :: tidyAfter true false rest

/-- Strips blanks from the ends of lines, keeps one of several blank lines in a row, and none at
the start and the end. -/
def tidyText (content : String) : String :=
  String.ofList (tidyAfter false false (lines content.toList))

/-- Only files with the extension of the language are tidied. -/
def tidy (extension : String) (a : Artifact) : Artifact :=
  if Path.extension? a.path = some extension then { a with content := tidyText a.content } else a

/-- Puts an artifact behind those whose paths do not come after its own. -/
def insertByPath (a : Artifact) : List Artifact → List Artifact
  | [] => [a]
  | b :: rest => if Path.before a.path b.path then a :: b :: rest else b :: insertByPath a rest

def sortByPath (artifacts : List Artifact) : List Artifact :=
  artifacts.foldl (fun sorted a => insertByPath a sorted) []

/-- The first artifact, in order, whose path has come before. -/
def firstRepeated (seen : List String) : List Artifact → Option Artifact
  | [] => none
  | a :: rest =>
    if seen.any (Path.same a.path) then some a else firstRepeated (a.path :: seen) rest

end Artifact

end ApiScaffold
