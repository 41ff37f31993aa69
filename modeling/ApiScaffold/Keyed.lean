/-!
# Keyed lists

Pairs in increasing order of their keys, each key once.
-/
namespace ApiScaffold

abbrev Keyed (α : Type) := List (String × α)

namespace Keyed

variable {α β : Type}

/-- Puts a value at a key, in place of the one that was there. -/
def insert (key : String) (value : α) : Keyed α → Keyed α
  | [] => [(key, value)]
  | (k, v) :: rest =>
    if key = k then (key, value) :: rest
    else if key < k then (key, value) :: (k, v) :: rest
    else (k, v) :: insert key value rest

def get? (key : String) : Keyed α → Option α
  | [] => none
  | (k, v) :: rest => if k = key then some v else get? key rest

/-- Of two pairs with one key the later is kept. -/
def ofList (pairs : List (String × α)) : Keyed α :=
  pairs.foldl (fun table (key, value) => insert key value table) []

def keys (table : Keyed α) : List String := List.map Prod.fst table

def values (table : Keyed α) : List α := List.map Prod.snd table

def mapValues (f : α → β) (table : Keyed α) : Keyed β :=
  List.map (fun (key, value) => (key, f value)) table

end Keyed

/-- Texts in increasing order, each once. -/
abbrev Texts := List String

namespace Texts

def insert (text : String) : Texts → Texts
  | [] => [text]
  | t :: rest =>
    if text = t then t :: rest
    else if text < t then text :: t :: rest
    else t :: insert text rest

def ofList (texts : List String) : Texts := texts.foldl (fun set text => insert text set) []

end Texts

end ApiScaffold
