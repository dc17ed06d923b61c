import Nrf70.Lib.ByteMemory
import Nrf70.Lib.CInt
import Nrf70.Lib.Hex

/-!
# Reading hexadecimal strings

`hex_str_to_val` reads a string of hexadecimal digits into an array of bytes. It checks the length
first and goes through the string in one loop, in which an `unsigned char` takes up one digit, is
shifted, takes up the next one and is stored. A capital letter is folded to a small one before it is
looked at, whether it is a digit or not.

Lengths are `int`, so a string is meant to be shorter than `2 ^ 31`.

## Main definitions

* `hexStrLoop`, `hexStrToVal` — the loop, and the function
* `HexRun.memory` — the memory from the array on, after a run

## Main results

* `hexStrLoop_of_hexText` — what the loop makes of a text of bytes
* `hexStrToVal_exact` — decoding is the inverse of encoding, for the strings that are taken
-/

namespace Nrf70

/-! ### The function -/

/-- The reasons to refuse a string, with what is printed about it. -/
inductive HexError
  | tooLong (len : ℤ) (hexArrSz : UInt32)
  | oddLength (len : ℤ)
  | invalidChar (ch : UInt8)
  deriving DecidableEq, Repr

/-- The text of an error. -/
def HexError.text : HexError → String
  | .tooLong len hexArrSz =>
    s!"hex_str_to_val: String length ({len}) greater than array size ({hexArrSz.toInt32})\n"
  | .oddLength len => s!"hex_str_to_val:String length = {len}, is not the multiple of 2\n"
  | .invalidChar ch => s!"hex_str_to_val: Invalid hex character in string {ch}\n"

/-- A run: what it ends with, and its writes to `hex_arr` in order, by index. -/
structure HexRun where
  result : Except HexError ℕ
  writes : List (ℕ × UInt8)

/-- The return value. -/
def HexRun.ret (r : HexRun) : ℤ :=
  match r.result with
  | .ok j => j
  | .error _ => -1

/-- The memory from `hex_arr` on, after the run. -/
def HexRun.memory (r : HexRun) (hexArr : ℕ → UInt8) : ℕ → UInt8 :=
  r.writes.foldl (fun m w => Function.update m w.1 w.2) hexArr

/-- The conversion to lower case. -/
def hexLower (c : UInt8) : UInt8 := if 65 ≤ c ∧ c ≤ 90 then c + 32 else c

/-- The value of a digit in lower case. -/
def hexCharVal (ch : UInt8) : UInt8 := if 48 ≤ ch ∧ ch ≤ 57 then ch - 48 else ch - 97 + 10

/-- The loop of `hex_str_to_val`, from character `i` on. -/
def hexStrLoop : (i j : ℕ) → (val : UInt8) → List UInt8 → HexRun
  | _, j, _, [] => ⟨.ok j, []⟩
  | i, j, val, c :: str =>
    let ch := hexLower c
    if (ch < 48 ∨ 57 < ch) ∧ (ch < 97 ∨ 102 < ch) then ⟨.error (.invalidChar ch), []⟩
    else
      let val := val + hexCharVal ch
      if i % 2 = 0 then hexStrLoop (i + 1) j (val <<< 4) str
      else
        let run := hexStrLoop (i + 1) (j + 1) 0 str
        ⟨run.result, (j, val) :: run.writes⟩

/-- `hex_str_to_val`. The quotient is compared as an `unsigned int`. -/
def hexStrToVal (hexArrSz : UInt32) (str : List UInt8) : HexRun :=
  let len := toInt32 str.length
  if hexArrSz.toNat < toUnsigned (len.tdiv 2) then ⟨.error (.tooLong len hexArrSz), []⟩
  else if len.tmod 2 ≠ 0 then ⟨.error (.oddLength len), []⟩
  else hexStrLoop 0 0 0 (str.take len.toNat)

/-! ### One character -/

section Character

variable {i j : ℕ} {val c : UInt8} {d : ℕ} {str : List UInt8}

/-- The characters that are refused are those that are no digit. Folding makes none of them one. -/
theorem hexLower_invalid_iff (c : UInt8) :
    ((hexLower c < 48 ∨ 57 < hexLower c) ∧ (hexLower c < 97 ∨ 102 < hexLower c)) ↔
      ¬ IsDigit 16 c :=
  @forall_byte
    (fun c => ((hexLower c < 48 ∨ 57 < hexLower c) ∧ (hexLower c < 97 ∨ 102 < hexLower c)) ↔
      ¬ IsDigit 16 c) (by decide +kernel) c

theorem hexCharVal_hexLower (h : digitValue c = some d) :
    hexCharVal (hexLower c) = UInt8.ofNat d :=
  @forall_byte (fun c => ∀ d < 16, digitValue c = some d → hexCharVal (hexLower c) = UInt8.ofNat d)
    (by decide +kernel) c d (lt_sixteen_of_digitValue h) h

theorem hexStrLoop_invalid (h : ¬ IsDigit 16 c) :
    hexStrLoop i j val (c :: str) = ⟨.error (.invalidChar (hexLower c)), []⟩ := by
  rw [hexStrLoop]
  exact if_pos ((hexLower_invalid_iff c).mpr h)

/-- The first digit of a byte. -/
theorem hexStrLoop_even (hc : digitValue c = some d) (hi : i % 2 = 0) :
    hexStrLoop i j val (c :: str) =
      hexStrLoop (i + 1) j ((val + UInt8.ofNat d) <<< 4) str := by
  have hdigit : IsDigit 16 c := ⟨d, lt_sixteen_of_digitValue hc, hc⟩
  rw [hexStrLoop]
  dsimp only
  rw [if_neg fun hinvalid => (hexLower_invalid_iff c).mp hinvalid hdigit, if_pos hi,
    hexCharVal_hexLower hc]

/-- The second digit of a byte. -/
theorem hexStrLoop_odd (hc : digitValue c = some d) (hi : i % 2 = 1) :
    hexStrLoop i j val (c :: str) =
      ⟨(hexStrLoop (i + 1) (j + 1) 0 str).result,
        (j, val + UInt8.ofNat d) :: (hexStrLoop (i + 1) (j + 1) 0 str).writes⟩ := by
  have hdigit : IsDigit 16 c := ⟨d, lt_sixteen_of_digitValue hc, hc⟩
  have hodd : ¬ i % 2 = 0 := by omega
  rw [hexStrLoop]
  dsimp only
  rw [if_neg fun hinvalid => (hexLower_invalid_iff c).mp hinvalid hdigit, if_neg hodd,
    hexCharVal_hexLower hc]

end Character

/-! ### The loop -/

section Loop

variable {s bs : List UInt8}

/-- The loop ends with the first character that is no digit, or with the bytes counted. A byte that
has been begun before it is one of them. -/
theorem hexStrLoop_result (i j : ℕ) (val : UInt8) (s : List UInt8) :
    (hexStrLoop i j val s).result =
      (s.find? (¬ IsDigit 16 ·)).elim (.ok (j + (s.length + i % 2) / 2))
        fun c => .error (.invalidChar (hexLower c)) := by
  induction s generalizing i j val with
  | nil =>
    have hzero : (0 + i % 2) / 2 = 0 := by omega
    rw [hexStrLoop, List.find?_nil, List.length_nil, hzero]
    rfl
  | cons c s ih =>
    by_cases hdigit : IsDigit 16 c
    · obtain ⟨d, -, hd⟩ := id hdigit
      rw [List.find?_cons_of_neg (by simpa using hdigit), List.length_cons]
      rcases Nat.mod_two_eq_zero_or_one i with hi | hi
      · have hcount : j + (s.length + (i + 1) % 2) / 2 = j + (s.length + 1 + i % 2) / 2 := by omega
        rw [hexStrLoop_even hd hi, ih, hcount]
      · have hcount : j + 1 + (s.length + (i + 1) % 2) / 2 = j + (s.length + 1 + i % 2) / 2 := by
          omega
        rw [hexStrLoop_odd hd hi, ih, hcount]
    · rw [List.find?_cons_of_pos (by simpa using hdigit), hexStrLoop_invalid hdigit]
      rfl

/-- Every write is at the index of a byte whose digits are all there. -/
theorem hexStrLoop_writes_lt (i j : ℕ) (val : UInt8) (s : List UInt8) :
    ∀ w ∈ (hexStrLoop i j val s).writes, w.1 < j + (s.length + i % 2) / 2 := by
  induction s generalizing i j val with
  | nil => simp [hexStrLoop]
  | cons c s ih =>
    intro w hw
    rw [List.length_cons]
    by_cases hdigit : IsDigit 16 c
    · obtain ⟨d, -, hd⟩ := hdigit
      rcases Nat.mod_two_eq_zero_or_one i with hi | hi
      · rw [hexStrLoop_even hd hi] at hw
        have hlt := ih _ _ _ w hw
        omega
      · rw [hexStrLoop_odd hd hi] at hw
        rcases List.mem_cons.mp hw with rfl | hw
        · show j < j + (s.length + 1 + i % 2) / 2
          omega
        · have hlt := ih _ _ _ w hw
          omega
    · rw [hexStrLoop_invalid hdigit] at hw
      exact absurd hw List.not_mem_nil

/-- The accumulator after the two digits of a byte. Nothing of it is lost. -/
theorem shiftLeft_add_ofNat {dhi dlo : ℕ} (hhi : dhi < 16) (hlo : dlo < 16) :
    (0 + UInt8.ofNat dhi) <<< 4 + UInt8.ofNat dlo = UInt8.ofNat (16 * dhi + dlo) := by
  have hall : ∀ dhi < 16, ∀ dlo < 16,
      (0 + UInt8.ofNat dhi) <<< 4 + UInt8.ofNat dlo = UInt8.ofNat (16 * dhi + dlo) := by
    decide +kernel
  exact hall dhi hhi dlo hlo

/-- **The loop over a text of bytes** stores them one behind the other. A round of the text is two
of the loop, with the accumulator at zero in between. -/
theorem hexStrLoop_of_hexText (h : HexText s bs) {i : ℕ} (hi : i % 2 = 0) (j : ℕ)
    (hexArr : ℕ → UInt8) :
    (hexStrLoop i j 0 s).memory hexArr = Memory.write hexArr j bs := by
  induction h generalizing i j hexArr with
  | nil =>
    rw [Memory.write_nil]
    rfl
  | @cons hi' lo dhi dlo s bs hhi hlo h ih =>
    have hi₁ : (i + 1) % 2 = 1 := by omega
    have hi₂ : (i + 1 + 1) % 2 = 0 := by omega
    have hbyte := shiftLeft_add_ofNat (lt_sixteen_of_digitValue hhi) (lt_sixteen_of_digitValue hlo)
    rw [hexStrLoop_even hhi hi, hexStrLoop_odd hlo hi₁, hbyte, Memory.write_cons, ← ih hi₂]
    rfl

end Loop

/-! ### The whole function -/

section Whole

variable {s bs : List UInt8}

/-- A string of less than `2 ^ 31` characters has its length as an `int`. -/
theorem hexStrToVal_eq (n : UInt32) (hlen : s.length < 2 ^ 31) :
    hexStrToVal n s =
      if n.toNat < s.length / 2 then ⟨.error (.tooLong s.length n), []⟩
      else if s.length % 2 ≠ 0 then ⟨.error (.oddLength s.length), []⟩
      else hexStrLoop 0 0 0 s := by
  have hquot : (s.length : ℤ).tdiv 2 = (s.length / 2 : ℕ) := by
    rw [Int.tdiv_eq_ediv_of_nonneg (Int.natCast_nonneg _), Int.natCast_ediv]
    rfl
  have hrem : (s.length : ℤ).tmod 2 ≠ 0 ↔ s.length % 2 ≠ 0 := by
    rw [Int.tmod_eq_emod_of_nonneg (Int.natCast_nonneg _)]
    omega
  rw [hexStrToVal, toInt32_of_lt hlen, hquot, toUnsigned_of_lt (by omega), Int.toNat_natCast,
    List.take_length]
  simp only [hrem]

/-- What a string is refused for, and in which order. -/
theorem hexStrToVal_result (n : UInt32) (hlen : s.length < 2 ^ 31) :
    (hexStrToVal n s).result =
      if n.toNat < s.length / 2 then .error (.tooLong s.length n)
      else if s.length % 2 ≠ 0 then .error (.oddLength s.length)
      else (s.find? (¬ IsDigit 16 ·)).elim (.ok (s.length / 2))
        fun c => .error (.invalidChar (hexLower c)) := by
  have hloop := hexStrLoop_result 0 0 0 s
  rw [Nat.zero_add, Nat.zero_mod, Nat.add_zero] at hloop
  rw [hexStrToVal_eq n hlen]
  split_ifs
  · rfl
  · rfl
  · exact hloop

theorem HexRun.nonneg_ret_iff (r : HexRun) : 0 ≤ r.ret ↔ ∃ j, r.result = .ok j := by
  rw [HexRun.ret]
  cases r.result with
  | ok j => exact iff_of_true (Int.natCast_nonneg j) ⟨j, rfl⟩
  | error e => exact iff_of_false (show ¬ (0 : ℤ) ≤ -1 by decide) fun ⟨j, hj⟩ => by simp at hj

/-- The strings that are taken. -/
theorem hexStrToVal_ok_iff (n : UInt32) (hlen : s.length < 2 ^ 31) (j : ℕ) :
    (hexStrToVal n s).result = .ok j ↔
      (s.length % 2 = 0 ∧ s.length / 2 ≤ n.toNat ∧ ∀ c ∈ s, IsDigit 16 c) ∧ j = s.length / 2 := by
  rw [hexStrToVal_result n hlen]
  split_ifs with hlong hodd
  · exact iff_of_false (by simp) fun h => absurd hlong (Nat.not_lt.mpr h.1.2.1)
  · exact iff_of_false (by simp) fun h => hodd h.1.1
  · rw [ne_eq, not_not] at hodd
    cases hfind : s.find? (¬ IsDigit 16 ·) with
    | none =>
      have hdigits : ∀ c ∈ s, IsDigit 16 c := by simpa using hfind
      constructor
      · intro hj
        exact ⟨⟨hodd, Nat.not_lt.mp hlong, hdigits⟩, (Except.ok.inj hj).symm⟩
      · rintro ⟨-, rfl⟩
        rfl
    | some c =>
      have hc : ¬ IsDigit 16 c := by simpa using List.find?_some hfind
      exact iff_of_false (by simp) fun h => hc (h.1.2.2 c (List.mem_of_find?_eq_some hfind))

/-- What a text of bytes that the array has room for ends with, and leaves in memory. -/
theorem hexStrToVal_of_hexText {n : UInt32} (hlen : s.length < 2 ^ 31) (h : HexText s bs)
    (hroom : bs.length ≤ n.toNat) :
    (hexStrToVal n s).ret = bs.length ∧
      ∀ hexArr, (hexStrToVal n s).memory hexArr = Memory.write hexArr 0 bs := by
  have hhalf : s.length / 2 = bs.length := by
    rw [h.length_eq, Nat.mul_div_cancel_left _ Nat.two_pos]
  have heven : s.length % 2 = 0 := by rw [h.length_eq, Nat.mul_mod_right]
  constructor
  · have hok := (hexStrToVal_ok_iff n hlen (s.length / 2)).mpr
      ⟨⟨heven, hhalf ▸ hroom, h.isDigit⟩, rfl⟩
    rw [HexRun.ret, hok, hhalf]
  · intro hexArr
    rw [hexStrToVal_eq n hlen, if_neg (by omega), if_neg (not_not.mpr heven)]
    exact hexStrLoop_of_hexText h rfl 0 hexArr

/-- **Decoding is the inverse of encoding.** A string is taken exactly when it is an even number of
digits, of either case, with room for its bytes; then the array begins with the bytes that it stands
for, and is as it was behind them. Whatever the string, nothing is written outside the array. Bytes
that the array has room for are what a string is decoded to exactly when it is one of their
encodings. -/
theorem hexStrToVal_exact (n : UInt32) (hlen : s.length < 2 ^ 31) :
    (0 ≤ (hexStrToVal n s).ret ↔
      s.length % 2 = 0 ∧ s.length / 2 ≤ n.toNat ∧ ∀ c ∈ s, IsDigit 16 c) ∧
    (0 ≤ (hexStrToVal n s).ret →
      (hexStrToVal n s).ret = (s.length / 2 : ℕ) ∧ ∃ bs, HexText s bs ∧
        ∀ hexArr, (hexStrToVal n s).memory hexArr = Memory.write hexArr 0 bs) ∧
    (∀ w ∈ (hexStrToVal n s).writes, w.1 < n.toNat) ∧
    ∀ bs : List UInt8, bs.length ≤ n.toNat →
      (((hexStrToVal n s).ret = bs.length ∧
        ∀ hexArr, (hexStrToVal n s).memory hexArr = Memory.write hexArr 0 bs) ↔
          ∃ upper, s = hexEncode upper bs) := by
  have htaken : 0 ≤ (hexStrToVal n s).ret ↔
      s.length % 2 = 0 ∧ s.length / 2 ≤ n.toNat ∧ ∀ c ∈ s, IsDigit 16 c := by
    rw [HexRun.nonneg_ret_iff]
    simp only [hexStrToVal_ok_iff n hlen, exists_and_left, exists_eq, and_true]
  -- a string that is taken is the text of some bytes, and there is room for those
  have htext : 0 ≤ (hexStrToVal n s).ret →
      ∃ bs, HexText s bs ∧ bs.length = s.length / 2 ∧ bs.length ≤ n.toNat := by
    intro hret
    obtain ⟨heven, hroom, hdigits⟩ := htaken.mp hret
    obtain ⟨bs, hbs⟩ := exists_hexText_iff.mpr ⟨heven, hdigits⟩
    have hhalf : bs.length = s.length / 2 := by
      rw [hbs.length_eq, Nat.mul_div_cancel_left _ Nat.two_pos]
    exact ⟨bs, hbs, hhalf, hhalf ▸ hroom⟩
  refine ⟨htaken, fun hret => ?_, ?_, fun bs hroom => ?_⟩
  · obtain ⟨bs, hbs, hhalf, hroom⟩ := htext hret
    obtain ⟨hcount, hmem⟩ := hexStrToVal_of_hexText hlen hbs hroom
    exact ⟨hcount.trans (congrArg _ hhalf), bs, hbs, hmem⟩
  · rw [hexStrToVal_eq n hlen]
    split_ifs with hlong hodd
    · simp
    · simp
    · intro w hw
      have hlt := hexStrLoop_writes_lt 0 0 0 s w hw
      omega
  · rw [← hexText_iff]
    constructor
    · rintro ⟨hcount, hmem⟩
      obtain ⟨bs', hbs', -, hroom'⟩ := htext (hcount ▸ Int.natCast_nonneg _)
      obtain ⟨hcount', hmem'⟩ := hexStrToVal_of_hexText hlen hbs' hroom'
      have hsame : bs'.length = bs.length := Int.natCast_inj.mp (hcount'.symm.trans hcount)
      -- the bytes are read back from the array
      have hread := Memory.load_write_self (fun _ => 0) 0 bs
      rw [← hmem, hmem', ← hsame, Memory.load_write_self] at hread
      exact hread ▸ hbs'
    · exact fun h => hexStrToVal_of_hexText hlen h hroom

/-- Digits of both cases, for two bytes. -/
theorem hexStrToVal_exact_mixed :
    (hexStrToVal 2 (cBytes "0aFf")).ret = 2 ∧
      (hexStrToVal 2 (cBytes "0aFf")).memory (fun _ => 0) =
        Memory.write (fun _ => 0) 0 [0x0a, 0xff] := by
  have hiff := (@hexStrToVal_exact (cBytes "0aFf") 2 (by decide)).2.2.2 [0x0a, 0xff] (by decide)
  obtain ⟨hret, hmem⟩ := hiff.mpr ⟨fun k => k = 2, by decide⟩
  exact ⟨hret, hmem _⟩

end Whole

end Nrf70
