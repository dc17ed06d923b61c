import Nrf70.Lib.CInt
import Nrf70.Lib.Numeral

/-!
# Numbers as they are printed

`%d` prints its argument as an `int`, in decimal. What is printed is a numeral again, a negative one
with its sign, and tells the number it was printed of.

## Main definitions

* `IsInt` — the numbers of an `int`
* `printD` — what `%d` prints

## Main results

* `signedNumeral_printD` — what is printed denotes the number
* `printD_inj` — the number can be told from it
* `length_printD` — how long it gets
-/

namespace Nrf70

/-- A value of type `int`. -/
def IsInt (v : ℤ) : Prop := -2 ^ 31 ≤ v ∧ v < 2 ^ 31

instance (v : ℤ) : Decidable (IsInt v) := inferInstanceAs (Decidable (_ ∧ _))

/-- `%d`. The argument is converted to `int`. -/
def printD (v : ℤ) : List UInt8 := cBytes (toString (v.bmod (2 ^ 32)))

section Print

variable {v v' : ℤ}

theorem bmod_of_isInt (h : IsInt v) : v.bmod (2 ^ 32) = v := by
  rw [IsInt] at h
  rw [bmod_two_pow_32]
  split_ifs <;> omega

theorem isInt_bmod (v : ℤ) : IsInt (v.bmod (2 ^ 32)) := by
  rw [IsInt, bmod_two_pow_32]
  split_ifs <;> omega

theorem isInt_natCast {n bound : ℕ} (h : n ≤ bound) (hbound : bound < 2 ^ 31) : IsInt n :=
  ⟨by omega, by omega⟩

theorem toNat_ofNat_of_isInt {n : ℕ} (h : IsInt n) : (UInt64.ofNat n).toNat = n := by
  have hlt : n < 2 ^ 64 := by
    have hlt := h.2
    omega
  exact UInt64.toNat_ofNat_of_lt' hlt

/-- A negative number has a sign. -/
theorem toString_bytes_negSucc (n : ℕ) :
    cBytes (toString (Int.negSucc n)) = 45 :: cBytes (toString (n + 1)) := by
  have hrepr : toString (Int.negSucc n) = "-" ++ toString (n + 1) := rfl
  rw [hrepr, cBytes_append]
  rfl

/-- A number is denoted by its decimal text, a negative one with its sign. -/
theorem signedNumeral_toString (v : ℤ) : SignedNumeral true (cBytes (toString v)) v := by
  cases v with
  | ofNat n => exact .plain (numeral_toString n)
  | negSucc n =>
    rw [toString_bytes_negSucc]
    exact .minus rfl (numeral_toString (n + 1))

theorem signedNumeral_printD (h : IsInt v) : SignedNumeral true (printD v) v := by
  rw [printD, bmod_of_isInt h]
  exact signedNumeral_toString v

/-- A number that is not negative is printed without a sign. -/
theorem signedNumeral_printD_natCast {n : ℕ} (h : IsInt n) (signed : Bool) :
    SignedNumeral signed (printD n) n := by
  rw [printD, bmod_of_isInt h]
  exact .plain (numeral_toString n)

theorem printD_inj (h : IsInt v) (h' : IsInt v') : printD v = printD v' ↔ v = v' := by
  constructor
  · intro heq
    have hnum := signedNumeral_printD h
    rw [heq] at hnum
    exact hnum.unique (signedNumeral_printD h')
  · rintro rfl
    rfl

theorem printD_bmod (v : ℤ) : printD (v.bmod (2 ^ 32)) = printD v := by
  rw [printD, printD, bmod_of_isInt (isInt_bmod v)]

/-- An unsigned number of 32 bits can be told from what is printed of it. -/
theorem printD_natCast_inj {m n : ℕ} (hm : m < 2 ^ 32) (hn : n < 2 ^ 32) :
    printD m = printD n ↔ m = n := by
  rw [← printD_bmod m, ← printD_bmod n, printD_inj (isInt_bmod m) (isInt_bmod n),
    bmod_two_pow_32, bmod_two_pow_32]
  split_ifs <;> omega

/-- Ten digits and a sign. -/
theorem length_printD (v : ℤ) : (printD v).length ≤ 11 := by
  obtain ⟨hlow, hhigh⟩ := isInt_bmod v
  rw [printD]
  generalize v.bmod (2 ^ 32) = x at hlow hhigh
  cases x with
  | ofNat n =>
    have hn : n < 10 ^ 10 := by
      rw [Int.ofNat_eq_natCast] at hhigh
      omega
    exact Nat.le_succ_of_le (length_toString_le (by decide) hn)
  | negSucc n =>
    have hn : n + 1 < 10 ^ 10 := by
      rw [Int.negSucc_eq] at hlow
      omega
    rw [toString_bytes_negSucc, List.length_cons]
    exact Nat.succ_le_succ (length_toString_le (by decide) hn)

end Print

end Nrf70
