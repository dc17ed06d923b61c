import Mathlib.Algebra.Group.Nat.Defs
import Mathlib.Algebra.Ring.Int.Defs

/-!
# Conversions between the integer types of C

On a 64-bit machine. A number is kept modulo the size of the type, between the two halves of it for
a signed one.

## Main results

* `toInt32_of_lt`, `toUnsigned_of_lt` — numbers that a type has are kept
* `toUnsigned_toInt32` — what an `int` in between leaves of a number
-/

namespace Nrf70

/-- A count passed as an `int`. -/
def toInt32 (count : ℕ) : ℤ := Int.bmod count (2 ^ 32)

/-- An `int` as an `unsigned`. -/
def toUnsigned (count : ℤ) : ℕ := (count % 2 ^ 32).toNat

/-- A number converted to `size_t`. -/
def toSizeT (n : ℤ) : ℕ := (n % 2 ^ 64).toNat

theorem bmod_two_pow_32 (n : ℤ) :
    n.bmod (2 ^ 32) = if n % 2 ^ 32 < 2 ^ 31 then n % 2 ^ 32 else n % 2 ^ 32 - 2 ^ 32 := by
  unfold Int.bmod
  simp only [Int.natCast_pow, Nat.cast_ofNat]
  omega

theorem toInt32_eq (count : ℕ) :
    toInt32 count =
      if (count : ℤ) % 2 ^ 32 < 2 ^ 31 then (count : ℤ) % 2 ^ 32
      else (count : ℤ) % 2 ^ 32 - 2 ^ 32 :=
  bmod_two_pow_32 count

theorem toInt32_of_lt {count : ℕ} (hcount : count < 2 ^ 31) : toInt32 count = count := by
  rw [toInt32_eq]
  split_ifs <;> omega

theorem toUnsigned_of_lt {count : ℕ} (hcount : count < 2 ^ 32) : toUnsigned count = count := by
  rw [toUnsigned]
  omega

/-- A number that has been an `int` is the same as an `unsigned`. -/
theorem toUnsigned_toInt32 (count : ℕ) : toUnsigned (toInt32 count) = count % 2 ^ 32 := by
  rw [toUnsigned, toInt32_eq]
  split_ifs <;> omega

end Nrf70
