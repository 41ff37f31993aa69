import Mathlib.Algebra.Order.Ring.Nat
import Mathlib.Tactic.Ring
import ApiScaffold.Decimal.Shortest
/-!
# Digits of the shortest decimal

Every grid on which the shortest decimal of a number is searched is at least as fine as its leading
digit. So the decimal of a number other than zero has digits other than zero.
-/
namespace ApiScaffold.Binary64

private theorem lt_pow_digitCount (n : Nat) : n < 10 ^ digitCount n :=
  (Nat.length_toDigits_le_iff (by decide) Nat.length_toDigits_pos).mp (Nat.le_refl _)

private theorem pow_le_of_digitCount {n : Nat} (h : n ≠ 0) : 10 ^ (digitCount n - 1) ≤ n := by
  by_cases one : digitCount n - 1 = 0
  · rw [one]
    omega
  · have short : ¬ (Nat.toDigits 10 n).length ≤ digitCount n - 1 := by
      rw [← digitCount]
      omega
    rw [Nat.length_toDigits_le_iff (by decide) (Nat.pos_of_ne_zero one), Nat.not_lt] at short
    exact short

def Reaches (x : Binary64) (e : Int) : Prop :=
  x.den * Nat.pow 10 e.toNat ≤ x.num * Nat.pow 10 (-e).toNat

variable {x : Binary64} {e : Int}

private theorem Reaches.pred (h : x.Reaches e) : x.Reaches (e - 1) := by
  have coarser : Nat.pow 10 (e - 1).toNat ≤ Nat.pow 10 e.toNat :=
    Nat.pow_le_pow_right (by decide) (by omega)
  have finer : Nat.pow 10 (-e).toNat ≤ Nat.pow 10 (-(e - 1)).toNat :=
    Nat.pow_le_pow_right (by decide) (by omega)
  calc x.den * Nat.pow 10 (e - 1).toNat
      ≤ x.den * Nat.pow 10 e.toNat := Nat.mul_le_mul_left _ coarser
    _ ≤ x.num * Nat.pow 10 (-e).toNat := h
    _ ≤ x.num * Nat.pow 10 (-(e - 1)).toNat := Nat.mul_le_mul_left _ finer

private theorem den_pos (x : Binary64) : 0 < x.den := Nat.pow_pos (by decide)

private theorem num_ne_zero (h : x.significand ≠ 0) : x.num ≠ 0 :=
  Nat.mul_ne_zero h (Nat.pow_pos (by decide)).ne'

private theorem reaches_digitCount (h : x.significand ≠ 0) :
    x.Reaches (digitCount x.num - digitCount x.den - 1) := by
  have above := pow_le_of_digitCount (num_ne_zero h)
  have below := (lt_pow_digitCount x.den).le
  have positive : 0 < digitCount x.num := Nat.length_toDigits_pos
  rw [Reaches, Nat.pow_eq, Nat.pow_eq]
  generalize he : ((digitCount x.num : Int) - digitCount x.den - 1) = e
  have split : digitCount x.den + e.toNat = digitCount x.num - 1 + (-e).toNat := by omega
  calc x.den * 10 ^ e.toNat
      ≤ 10 ^ digitCount x.den * 10 ^ e.toNat := Nat.mul_le_mul_right _ below
    _ = 10 ^ (digitCount x.num - 1) * 10 ^ (-e).toNat := by rw [← pow_add, split, pow_add]
    _ ≤ x.num * 10 ^ (-e).toNat := Nat.mul_le_mul_right _ above

private theorem reaches_leadingExponent (h : x.significand ≠ 0) : x.Reaches x.leadingExponent := by
  rw [leadingExponent]
  split
  next => exact reaches_digitCount h
  next least => exact Nat.not_lt.mp least

private theorem digits_ne_zero_of_mem_neighbours (h : x.Reaches e) {d : Decimal}
    (member : d ∈ x.neighbours e) : d.digits ≠ 0 := by
  have positive : 0 < x.den * Nat.pow 10 e.toNat := Nat.mul_pos x.den_pos (Nat.pow_pos (by decide))
  have below : 0 < x.num * Nat.pow 10 (-e).toNat / (x.den * Nat.pow 10 e.toNat) :=
    Nat.div_pos h positive
  rw [neighbours] at member
  split at member <;>
    simp only [List.mem_cons, List.not_mem_nil, or_false] at member <;>
    rcases member with rfl | rfl <;> dsimp only <;> omega

private theorem digits_shortestFrom (h : x.Reaches e) (places : Nat) :
    (x.shortestFrom e places).digits ≠ 0 := by
  induction places generalizing e with
  | zero =>
    exact (Nat.div_pos h (Nat.mul_pos x.den_pos (Nat.pow_pos (by decide)))).ne'
  | succ places ih =>
    rw [shortestFrom]
    split
    next d found => exact digits_ne_zero_of_mem_neighbours h (List.mem_of_find?_eq_some found)
    next => exact ih h.pred

private theorem Decimal.digits_strip {d : Decimal} (h : d.digits ≠ 0) (n : Nat) :
    (d.strip n).digits ≠ 0 := by
  induction n generalizing d with
  | zero => exact h
  | succ n ih =>
    rw [strip]
    split
    next trailing => exact ih (by dsimp only; omega)
    next => exact h

theorem digits_shortest (h : x.significand ≠ 0) : x.shortest.digits ≠ 0 := by
  rw [shortest, if_neg h]
  exact Decimal.digits_strip (digits_shortestFrom (reaches_leadingExponent h) 18) 20

end ApiScaffold.Binary64
