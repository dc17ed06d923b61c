import Mathlib.Algebra.Ring.Nat
import Mathlib.Data.List.Basic

/-!
# Byte memories

A memory is a function from addresses. `load` and `write` move consecutive cells, and
`lastWritten` is what a memory holds after a history of writes, so that "the cell most recently
written" is a definition and not an informal reading of a state.

## Main results

* `Memory.load_add`, `Memory.write_append` — consecutive blocks
* `Memory.load_write_self`, `Memory.load_write_load` — what was written is read
* `ofLe_le16`, `le32_ofLe32`, `ofLe32_le32` — little-endian numbers of two and four bytes
-/

namespace Nrf70

namespace Memory

variable {β : Type*} {m m' : ℕ → β} {a b n k : ℕ} {bs cs : List β}

/-- The `n` cells from address `a` on. -/
def load (m : ℕ → β) (a n : ℕ) : List β := (List.range n).map fun i => m (a + i)

/-- `bs` in the cells from address `a` on, and everything else as it was. -/
def write (m : ℕ → β) (a : ℕ) (bs : List β) (x : ℕ) : β :=
  if a ≤ x then bs[x - a]?.getD (m x) else m x

/-- What a memory that started as `m` holds after a history of writes, the newest first. -/
def lastWritten (m : ℕ → β) : List (ℕ × List β) → ℕ → β
  | [] => m
  | (a, bs) :: log => write (lastWritten m log) a bs

@[simp] theorem load_zero (m : ℕ → β) (a : ℕ) : load m a 0 = [] := rfl

@[simp] theorem length_load (m : ℕ → β) (a n : ℕ) : (load m a n).length = n := by simp [load]

/-- A block is a block followed by a block. -/
theorem load_add (m : ℕ → β) (a n k : ℕ) : load m a (n + k) = load m a n ++ load m (a + n) k := by
  simp [load, List.range_add, Nat.add_assoc]

/-- Blocks are equal when their cells are. -/
theorem load_congr (h : ∀ i < n, m (a + i) = m' (b + i)) : load m a n = load m' b n :=
  List.map_congr_left fun i hi => h i (List.mem_range.mp hi)

@[simp] theorem write_nil (m : ℕ → β) (a : ℕ) : write m a [] = m := by
  funext x
  simp [write]

/-- Nothing is written outside the block. -/
theorem write_of_outside {x : ℕ} (m : ℕ → β) (h : x < a ∨ a + bs.length ≤ x) :
    write m a bs x = m x := by
  by_cases hlow : a ≤ x
  · have hend : bs.length ≤ x - a := by omega
    simp [write, hlow, List.getElem?_eq_none hend]
  · simp [write, hlow]

/-- Two blocks, one behind the other, are one block. -/
theorem write_append (m : ℕ → β) (a : ℕ) (bs cs : List β) :
    write m a (bs ++ cs) = write (write m a bs) (a + bs.length) cs := by
  funext x
  by_cases hlow : a ≤ x
  · by_cases hbs : x - a < bs.length
    · -- in the first block, which the second does not reach
      have hcs : ¬ a + bs.length ≤ x := by omega
      simp [write, hlow, hcs, List.getElem?_append_left hbs]
    · have hcs : a + bs.length ≤ x := by omega
      have hidx : x - (a + bs.length) = x - a - bs.length := by omega
      rw [Nat.not_lt] at hbs
      simp [write, hlow, hcs, hidx, List.getElem?_append_right hbs, List.getElem?_eq_none hbs]
  · have hcs : ¬ a + bs.length ≤ x := by omega
    simp [write, hlow, hcs]

/-- A block is its first cell and the block behind it. -/
theorem write_cons (m : ℕ → β) (a : ℕ) (b : β) (bs : List β) :
    write m a (b :: bs) = write (Function.update m a b) (a + 1) bs := by
  have hcell : write m a [b] = Function.update m a b := by
    funext x
    by_cases hx : x = a
    · simp [write, hx]
    · rw [Function.update_of_ne hx]
      exact write_of_outside m (by rw [List.length_singleton]; omega)
  rw [← List.singleton_append, write_append, hcell, List.length_singleton]

/-- **What was written is read.** -/
theorem load_write_self (m : ℕ → β) (a : ℕ) (bs : List β) :
    load (write m a bs) a bs.length = bs := by
  refine List.ext_getElem (by simp) fun i hi _ => ?_
  have hi' : i < bs.length := by simpa using hi
  simp [load, write, hi']

/-- A block that is copied is read from where it was copied to. -/
theorem load_write_load (m m' : ℕ → β) (a b n : ℕ) :
    load (write m' a (load m b n)) a n = load m b n := by
  simpa using load_write_self m' a (load m b n)

end Memory

/-! ### Little-endian numbers -/

/-- The number that bytes are, the lowest first. -/
def ofLe : List UInt8 → ℕ
  | [] => 0
  | b :: bs => b.toNat + 256 * ofLe bs

/-- The two bytes of a half-word, the lower first. -/
def le16 (v : UInt16) : List UInt8 := [v.toUInt8, (v >>> 8).toUInt8]

theorem ofLe_le16 (v : UInt16) : ofLe (le16 v) = v.toNat := by
  have hv := v.toNat_lt
  have hhigh : (v >>> 8).toNat = v.toNat / 2 ^ 8 := by
    rw [UInt16.toNat_shiftRight, Nat.shiftRight_eq_div_pow]
    rfl
  simp only [le16, ofLe, UInt16.toNat_toUInt8, hhigh]
  omega

/-- The four bytes of a word, the lowest first. -/
def le32 (v : UInt32) : List UInt8 :=
  [v.toUInt8, (v >>> 8).toUInt8, (v >>> 16).toUInt8, (v >>> 24).toUInt8]

/-- The word that four bytes are. -/
def ofLe32 : List UInt8 → UInt32
  | [b₀, b₁, b₂, b₃] =>
    UInt32.ofNat (b₀.toNat + 2 ^ 8 * b₁.toNat + 2 ^ 16 * b₂.toNat + 2 ^ 24 * b₃.toNat)
  | _ => 0

@[simp] theorem length_le32 (v : UInt32) : (le32 v).length = 4 := rfl

theorem toNat_shiftRight_of_lt {v s : UInt32} (hs : s.toNat < 32) :
    (v >>> s).toNat = v.toNat / 2 ^ s.toNat := by
  rw [UInt32.toNat_shiftRight, Nat.mod_eq_of_lt hs, Nat.shiftRight_eq_div_pow]

theorem toNat_le32 (v : UInt32) : (le32 v).map UInt8.toNat =
    [v.toNat % 2 ^ 8, v.toNat / 2 ^ 8 % 2 ^ 8, v.toNat / 2 ^ 16 % 2 ^ 8,
      v.toNat / 2 ^ 24 % 2 ^ 8] := by
  simp only [le32, List.map_cons, List.map_nil, UInt32.toNat_toUInt8]
  rw [toNat_shiftRight_of_lt (by decide), toNat_shiftRight_of_lt (by decide),
    toNat_shiftRight_of_lt (by decide)]
  rfl

theorem le32_ofLe32 {bs : List UInt8} (hbs : bs.length = 4) : le32 (ofLe32 bs) = bs := by
  obtain ⟨b₀, b₁, b₂, b₃, rfl⟩ := List.length_eq_four.mp hbs
  have h₀ := b₀.toNat_lt
  have h₁ := b₁.toNat_lt
  have h₂ := b₂.toNat_lt
  have h₃ := b₃.toNat_lt
  refine List.map_injective_iff.mpr (fun _ _ => UInt8.toNat_inj.mp) ?_
  rw [toNat_le32]
  simp only [ofLe32, UInt32.toNat_ofNat', List.map_cons, List.map_nil, List.cons.injEq, and_true]
  omega

theorem ofLe32_le32 (v : UInt32) : ofLe32 (le32 v) = v := by
  have hbytes : (le32 (ofLe32 (le32 v))).map UInt8.toNat = (le32 v).map UInt8.toNat := by
    rw [le32_ofLe32 (length_le32 v)]
  have hv := v.toNat_lt
  have hw := (ofLe32 (le32 v)).toNat_lt
  simp only [toNat_le32, List.cons.injEq, and_true] at hbytes
  rw [← UInt32.toNat_inj]
  omega

/-- `0xFFFFFFFC` clears the low two bits, and those above the 32nd. -/
theorem and_wordMask (n : ℕ) : n &&& 0xFFFFFFFC = n % 2 ^ 32 / 4 * 4 := by
  have hmask : 0xFFFFFFFC = (2 ^ 30 - 1) <<< 2 := rfl
  have hwords : n % 2 ^ 32 / 4 * 4 = (n % 2 ^ 32) >>> 2 <<< 2 := by
    rw [Nat.shiftLeft_eq, Nat.shiftRight_eq_div_pow]
  rw [hmask, hwords]
  refine Nat.eq_of_testBit_eq fun i => ?_
  rw [Nat.testBit_and, Nat.testBit_shiftLeft, Nat.testBit_shiftLeft, Nat.testBit_shiftRight,
    Nat.testBit_two_pow_sub_one, Nat.testBit_mod_two_pow]
  by_cases hi : 2 ≤ i
  · have hup : 2 + (i - 2) = i := by omega
    have hlt : i - 2 < 30 ↔ i < 32 := by omega
    simp [hi, hup, hlt, Bool.and_comm]
  · simp [hi]

end Nrf70
