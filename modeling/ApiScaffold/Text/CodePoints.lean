/-!
# Sets of characters

A set is a list of strides: every `step`-th code point from `first` to `last`.
-/
namespace ApiScaffold.Text

structure Stride where
  first : Nat
  last : Nat
  step : Nat

def Stride.contains (s : Stride) (c : Char) : Bool :=
  s.first ≤ c.toNat && c.toNat ≤ s.last && (c.toNat - s.first) % s.step = 0

abbrev CodePoints := List Stride

def CodePoints.contains (set : CodePoints) (c : Char) : Bool :=
  set.any (·.contains c)

end ApiScaffold.Text
