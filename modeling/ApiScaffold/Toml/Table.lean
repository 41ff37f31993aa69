import ApiScaffold.Toml.Token
/-!
# TOML tables

Tables grow as their settings are read. Which further settings a table may take depends on how
it came to be: by a header of its own, by the header of a table inside it, by a dotted key, or
written in braces.
-/
namespace ApiScaffold

inductive Toml.Origin where
  | header
  | innerHeader
  | dottedKey
  | braces
  deriving DecidableEq

/-- A value of a configuration: a text, a list or a table. -/
inductive Toml where
  | text (value : String)
  | list (items : List Toml)
  | table (origin : Toml.Origin) (members : List (String × Toml))
  deriving Inhabited

namespace Toml

/-- The members of a table, in the order in which they came. -/
abbrev Members := List (String × Toml)

def get? (key : String) (members : Members) : Option Toml := members.lookup key

/-- Replaces the value of a key, or adds the key at the end. -/
def put (key : String) (value : Toml) (members : Members) : Members :=
  if (get? key members).isSome then
    members.map fun (k, v) => if k = key then (k, value) else (k, v)
  else members ++ [(key, value)]

/-- Adds a setting under a dotted key. It adds no key twice, and nothing to a table with a header
of its own or in braces. -/
def set? (value : Toml) : List String → Members → Option Members
  | [], _ => none
  | [key], members => if (get? key members).isSome then none else some (put key value members)
  | key :: path, members =>
    match get? key members with
    | none => do
      let inner ← set? value path []
      some (put key (.table .dottedKey inner) members)
    | some (.table origin inner) =>
      if origin = .innerHeader || origin = .dottedKey then do
        let inner ← set? value path inner
        some (put key (.table origin inner) members)
      else none
    | some _ => none

/-- Opens the table of a header. A table has one header. -/
def openTable? : List String → Members → Option Members
  | [], _ => none
  | [key], members =>
    match get? key members with
    | none => some (put key (.table .header []) members)
    | some (.table .innerHeader inner) => some (put key (.table .header inner) members)
    | some _ => none
  | key :: path, members =>
    match get? key members with
    | none => do
      let inner ← openTable? path []
      some (put key (.table .innerHeader inner) members)
    | some (.table origin inner) =>
      if origin = .braces then none
      else do
        let inner ← openTable? path inner
        some (put key (.table origin inner) members)
    | some _ => none

/-- Changes the members of the table at a path. -/
def within? (change : Members → Option Members) : List String → Members → Option Members
  | [], members => change members
  | key :: path, members =>
    match get? key members with
    | some (.table origin inner) => do
      let inner ← within? change path inner
      some (put key (.table origin inner) members)
    | _ => none

end Toml

end ApiScaffold
