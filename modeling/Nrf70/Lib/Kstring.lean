import Mathlib.Algebra.Ring.Nat

/-!
# C strings and the kernel's number parsers

A C string is the list of its bytes before the terminating NUL. `strstr`, `kstrtoul` and `kstrtol`
follow the kernel's `lib/string.c` and `lib/kstrtox.c` on a 64-bit machine, where `unsigned long`
and `unsigned long long` are the same. The base argument is `0` in every call of this driver, so
the base is read off the number: `0x` before a hexadecimal digit, `0`, or neither.
-/

namespace Nrf70

/-- The bytes of a string literal. -/
def cBytes (s : String) : List UInt8 := s.toList.map Char.toUInt8

theorem cBytes_append (s t : String) : cBytes (s ++ t) = cBytes s ++ cBytes t := by
  rw [cBytes, String.toList_append, List.map_append]
  rfl

/-- The C string at the start of a buffer: what stands before the first NUL. -/
def cString (buf : List UInt8) : List UInt8 := buf.takeWhile (· ≠ 0)

/-- `strstr`: the string from the first occurrence of `str` on. -/
def strstr (str : List UInt8) : List UInt8 → Option (List UInt8)
  | [] => if str.isPrefixOf [] then some [] else none
  | b :: bs => if str.isPrefixOf (b :: bs) then some (b :: bs) else strstr str bs

theorem strstr_isSome_iff {str s : List UInt8} : (strstr str s).isSome = true ↔ str <:+: s := by
  induction s with
  | nil => cases str <;> simp [strstr]
  | cons b bs ih =>
    rw [strstr, List.infix_cons_iff, ← List.isPrefixOf_iff_prefix]
    split_ifs with h
    · exact iff_of_true rfl (Or.inl h)
    · rw [ih, or_iff_right h]

theorem strstr_suffix {str s r : List UInt8} (h : strstr str s = some r) : r <:+ s := by
  induction s with
  | nil =>
    rw [strstr] at h
    split_ifs at h
    exact Option.some.inj h ▸ List.suffix_refl []
  | cons b bs ih =>
    rw [strstr] at h
    split_ifs at h
    · exact Option.some.inj h ▸ List.suffix_refl (b :: bs)
    · exact (ih h).trans (List.suffix_cons b bs)

theorem isPrefix_of_strstr {str s r : List UInt8} (h : strstr str s = some r) : str <+: r := by
  induction s with
  | nil =>
    rw [strstr] at h
    split_ifs at h with hp
    exact Option.some.inj h ▸ List.isPrefixOf_iff_prefix.mp hp
  | cons b bs ih =>
    rw [strstr] at h
    split_ifs at h with hp
    · exact Option.some.inj h ▸ List.isPrefixOf_iff_prefix.mp hp
    · exact ih h

/-- What is found in a string is found in a longer one. -/
theorem strstr_append {str s r : List UInt8} (h : strstr str s = some r) (u : List UInt8) :
    strstr str (s ++ u) = some (r ++ u) := by
  induction s with
  | nil =>
    obtain rfl : r = [] := List.suffix_nil.mp (strstr_suffix h)
    obtain rfl : str = [] := List.prefix_nil.mp (isPrefix_of_strstr h)
    cases u <;> simp [strstr]
  | cons b bs ih =>
    rw [strstr] at h
    rw [List.cons_append, strstr]
    split_ifs at h with hp
    · rw [if_pos, ← Option.some.inj h, List.cons_append]
      exact List.isPrefixOf_iff_prefix.mpr
        ((List.isPrefixOf_iff_prefix.mp hp).trans (List.prefix_append (b :: bs) u))
    · rw [if_neg, ih h]
      -- the string is found further on, so it is too short to get past the end from here
      intro hp'
      have hle : str.length ≤ bs.length :=
        (strstr_isSome_iff.mp (by rw [h]; rfl)).length_le
      have hbs : (b :: bs) <+: b :: (bs ++ u) := List.prefix_append (b :: bs) u
      exact hp (List.isPrefixOf_iff_prefix.mpr
        (List.prefix_of_prefix_length_le (List.isPrefixOf_iff_prefix.mp hp') hbs
          (Nat.le_trans hle (by simp))))

/-- The first occurrence of a byte. -/
theorem strstr_singleton {c : UInt8} {pre : List UInt8} (h : c ∉ pre) (rest : List UInt8) :
    strstr [c] (pre ++ c :: rest) = some (c :: rest) := by
  induction pre with
  | nil => simp [strstr]
  | cons b pre ih =>
    have hne : c ≠ b := fun heq => h (heq ▸ List.mem_cons_self)
    have hno : ¬ [c].isPrefixOf (b :: (pre ++ c :: rest)) = true := by simpa using hne
    rw [List.cons_append, strstr, if_neg hno, ih fun hmem => h (List.mem_cons_of_mem b hmem)]

/-- What holds of every byte below `256` as a number holds of every byte. -/
theorem forall_byte {P : UInt8 → Prop} (h : ∀ n < 256, P (UInt8.ofNat n)) (c : UInt8) : P c := by
  have hc := h c.toNat c.toNat_lt
  rwa [UInt8.ofNat_toNat] at hc

/-- `_tolower`. -/
def toLower (c : UInt8) : UInt8 := c ||| 0x20

/-- The value of a digit in any base up to sixteen. -/
def digitValue (c : UInt8) : Option ℕ :=
  if 48 ≤ c ∧ c ≤ 57 then some (c.toNat - 48)
  else if 97 ≤ toLower c ∧ toLower c ≤ 102 then some ((toLower c).toNat - 87)
  else none

/-- `_parse_integer_fixup_radix` for base `0`: the base, and the string its digits start at. -/
def fixupRadix : List UInt8 → ℕ × List UInt8
  | 48 :: x :: c :: s =>
    if toLower x = 120 ∧ (digitValue c).isSome then (16, c :: s) else (8, 48 :: x :: c :: s)
  | 48 :: s => (8, 48 :: s)
  | s => (10, s)

/-- `_parse_integer`: the value of the digits at the front, how many there are, and the rest. The
value is exact, and its overflow is tested by the caller. -/
def parseInteger (base : ℕ) (res rv : ℕ) : List UInt8 → ℕ × ℕ × List UInt8
  | [] => (res, rv, [])
  | c :: s =>
    match digitValue c with
    | none => (res, rv, c :: s)
    | some val =>
      if base ≤ val then (res, rv, c :: s) else parseInteger base (res * base + val) (rv + 1) s

/-- `_kstrtoull`: a number, then at most a newline. -/
def kstrtoullUnsigned (s : List UInt8) : Option UInt64 :=
  let (base, s) := fixupRadix s
  let (res, rv, rest) := parseInteger base 0 0 s
  if 2 ^ 64 ≤ res then none
  else if rv = 0 then none
  else if rest = [] ∨ rest = [10] then some (UInt64.ofNat res)
  else none

/-- `kstrtoul`, which allows a plus sign. -/
def kstrtoul : List UInt8 → Option UInt64
  | 43 :: s => kstrtoullUnsigned s
  | s => kstrtoullUnsigned s

/-- `kstrtol`, which allows either sign. -/
def kstrtol : List UInt8 → Option Int64
  | 45 :: s =>
    match kstrtoullUnsigned s with
    | none => none
    | some tmp => if 2 ^ 63 < tmp.toNat then none else some (-tmp.toInt64)
  | s =>
    match kstrtoul s with
    | none => none
    | some tmp => if 2 ^ 63 ≤ tmp.toNat then none else some tmp.toInt64

end Nrf70
