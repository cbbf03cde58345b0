import Mathlib.Algebra.Order.Ring.Nat

/-! Numerals of fixed width, the most significant digit first. -/
namespace LiveRoute.Positional

def digits (base : Nat) : Nat → Nat → List Nat
  | 0, _ => []
  | width + 1, number => digits base width (number / base) ++ [number % base]

def value (base : Nat) (numeral : List Nat) : Nat :=
  numeral.foldl (fun number digit => number * base + digit) 0

@[simp] theorem length_digits : (digits base width number).length = width := by
  induction width generalizing number with
  | zero => rfl
  | succ _ ih => simp [digits, ih]

theorem digit_lt (hbase : 0 < base) (hmem : digit ∈ digits base width number) : digit < base := by
  induction width generalizing number with
  | zero => cases hmem
  | succ _ ih =>
    rcases List.mem_append.mp hmem with hmem | hlast
    · exact ih hmem
    · rw [List.mem_singleton.mp hlast]
      exact Nat.mod_lt number hbase

theorem value_append : value base (numeral ++ [digit]) = value base numeral * base + digit := by
  simp [value]

theorem value_digits (hfits : number < base ^ width) :
    value base (digits base width number) = number := by
  induction width generalizing number with
  | zero =>
    have hzero : number = 0 := by simpa using hfits
    rw [hzero]
    rfl
  | succ width ih =>
    have hrest : number / base < base ^ width := by
      apply Nat.div_lt_of_lt_mul
      rwa [Nat.mul_comm]
    rw [digits, value_append, ih hrest, Nat.mul_comm]
    exact Nat.div_add_mod number base

end LiveRoute.Positional
