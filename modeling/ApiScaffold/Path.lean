import ApiScaffold.Text.Blank
/-!
# Paths

A path is a text in which slashes part the steps. Doubled slashes, a slash at the end and dots
for the same directory do not matter, except that a relative path may start with one dot.
-/
namespace ApiScaffold

inductive PathStep where
  | root
  | here
  | up
  | named (name : String)
  deriving DecidableEq

namespace PathStep

def rank : PathStep → Nat
  | root => 0
  | here => 1
  | up => 2
  | named _ => 3

/-- The order of steps: root, here, up, then names. -/
def before : PathStep → PathStep → Bool
  | named a, named b => a < b
  | a, b => a.rank < b.rank

end PathStep

namespace Path

def segments (path : String) : List (List Char) := Text.splitBy (· = '/') path.toList

/-- What a segment after the first means. -/
def step? (segment : List Char) : Option PathStep :=
  if segment = [] ∨ segment = ['.'] then none
  else if segment = ['.', '.'] then some .up
  else some (.named (String.ofList segment))

def steps (path : String) : List PathStep :=
  match segments path with
  | [] => []
  | [[]] => []
  | [] :: rest => .root :: rest.filterMap step?
  | ['.'] :: rest => .here :: rest.filterMap step?
  | first :: rest => (first :: rest).filterMap step?

def isAbsolute (path : String) : Bool := path.toList.head? = some '/'

/-- Paths in the order of their steps. -/
def stepsBefore : List PathStep → List PathStep → Bool
  | [], [] => false
  | [], _ :: _ => true
  | _ :: _, [] => false
  | a :: as, b :: bs => if a = b then stepsBefore as bs else a.before b

def before (a b : String) : Bool := stepsBefore (steps a) (steps b)

/-- Two paths are the same if their steps are. -/
def same (a b : String) : Bool := steps a = steps b

/-- A path under a base; an absolute one replaces the base. -/
def join (base path : String) : String :=
  if isAbsolute path then path
  else
    match base.toList.getLast? with
    | none => path
    | some '/' => base ++ path
    | some _ => base ++ "/" ++ path

/-- Drops what adds no step from the end. -/
def dropIdle : List (List Char) → List (List Char)
  | [] => []
  | segment :: before => if (step? segment).isNone then dropIdle before else segment :: before

def ofSegments (segments : List (List Char)) : String :=
  "/".intercalate (segments.map String.ofList)

/-- The path without its last step, as it is written; nothing for a path without steps to drop. -/
def parent? (path : String) : Option String :=
  match segments path with
  | [] :: rest@(_ :: _) =>
    match dropIdle rest.reverse with
    | [] => none
    | _ :: before => some ("/" ++ ofSegments (dropIdle before).reverse)
  | ['.'] :: rest =>
    match dropIdle rest.reverse with
    | [] => some ""
    | _ :: before => some (ofSegments (['.'] :: (dropIdle before).reverse))
  | all =>
    match dropIdle all.reverse with
    | [] => none
    | _ :: before => some (ofSegments (dropIdle before).reverse)

/-- The name at the end of a path. -/
def fileName? (path : String) : Option String :=
  match (steps path).getLast? with
  | some (.named name) => some name
  | _ => none

/-- The part of the file name after its last dot, if something stands before that. -/
def extension? (path : String) : Option String :=
  (fileName? path).bind fun name =>
    let reversed := name.toList.reverse
    let last := reversed.takeWhile (· ≠ '.')
    match reversed.dropWhile (· ≠ '.') with
    | _ :: _ :: _ => some (String.ofList last.reverse)
    | _ => none

end Path

end ApiScaffold
