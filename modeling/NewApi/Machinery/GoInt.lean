import Mathlib.Algebra.GroupWithZero.Nat
import Mathlib.Algebra.Ring.Int.Defs

/-!
# Machinery/GoInt — the arithmetic of a 64-bit `int`

Go's `+` and `-` on `int` give the exact result modulo `2 ^ 64`, read back with a sign.
-/

namespace GoInt

/-- `math.MaxInt`. -/
def maxInt : ℤ := 2 ^ 63 - 1

/-- `math.MinInt`. -/
def minInt : ℤ := -2 ^ 63

/-- The value a 64-bit `int` takes. -/
def wrap (n : ℤ) : ℤ := Int.bmod n (2 ^ 64)

/-- **In range, arithmetic is exact.** -/
theorem wrap_of_mem {n : ℤ} (h : minInt ≤ n ∧ n ≤ maxInt) : wrap n = n := by
  unfold minInt maxInt at h
  exact Int.bmod_eq_of_le (by omega) (by omega)

/-- A sum may be wrapped at any point. -/
@[simp] theorem wrap_wrap_add (a b : ℤ) : wrap (wrap a + b) = wrap (a + b) :=
  Int.bmod_add_bmod

theorem wrap_add_congr {a b : ℤ} (h : wrap a = wrap b) (c : ℤ) : wrap (a + c) = wrap (b + c) := by
  rw [← wrap_wrap_add, h, wrap_wrap_add]

end GoInt
