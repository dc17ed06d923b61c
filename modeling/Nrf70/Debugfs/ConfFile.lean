import Mathlib.Data.Int.Notation
import Nrf70.Lib.Kstring

/-!
# The configuration files

The driver has two `conf` files, one for the radio test and one for normal operation. They read
their text with the same functions, which look for a name anywhere in it and take the number after
the first `=`.

## Main definitions

* `confBuf`, `confAccesses` — the buffer of a write, and the indices of it that are touched
* `paramGetVal`, `paramGetSval`, `paramGetMatch` — the readers
* `errStrOf` — an error text with a piece of the input in it

## Main results

* `confAccesses_lt_iff` — the writes that stay inside the buffer
-/

namespace Nrf70

/-- The error codes of a write to a `conf` file. -/
inductive Errno
  | enoexec | einval | efault
  deriving DecidableEq, Repr

/-- The value that is returned for an error. -/
def Errno.ret : Errno → ℤ
  | .enoexec => -8
  | .einval => -22
  | .efault => -14

/-- `MAX_CONF_BUF_SIZE`. -/
def maxConfBufSize : ℕ := 500

/-- `conf_buf` before it is read: the copy of the user's buffer with its last byte overwritten by a
NUL, and zeros. -/
def confBuf (inBuf : List UInt8) : List UInt8 :=
  inBuf.dropLast ++ List.replicate (maxConfBufSize - (inBuf.length - 1)) 0

/-- The indices of `conf_buf` that a write touches: the copy, the write of the NUL, the readers of
the text up to its end, and `more`. The index `count - 1` is a `size_t`. -/
def confAccesses (inBuf : List UInt8) (allocated copied : Bool) (more : List ℕ) : List ℕ :=
  if maxConfBufSize ≤ inBuf.length then []
  else if !allocated then []
  else if !copied then List.range inBuf.length
  else
    List.range inBuf.length ++ [(inBuf.length + 2 ^ 64 - 1) % 2 ^ 64] ++
      List.range ((cString (confBuf inBuf)).length + 1) ++ more

/-- `snprintf(err_str, MAX_ERR_STR_SIZE, text)`, with `rest` printed for its `%s`. -/
def errStrOf (text : String) (rest : List UInt8) : Option String :=
  some (String.ofList ((text.toList ++ rest.map fun b => Char.ofNat b.toNat).take 79))

/-! ### Reading the text -/

/-- `param_get_match`. -/
def paramGetMatch (buf : List UInt8) (str : String) : Bool := (strstr (cBytes str) buf).isSome

/-- `strstr(buf, "=") + 1`. -/
def afterEquals (buf : List UInt8) : List UInt8 := ((strstr (cBytes "=") buf).getD []).drop 1

/-- `param_get_val`. -/
def paramGetVal (buf : List UInt8) (str : String) : Option UInt64 :=
  if paramGetMatch buf str then kstrtoul (afterEquals buf) else none

/-- `param_get_sval`. -/
def paramGetSval (buf : List UInt8) (str : String) : Option Int64 :=
  if paramGetMatch buf str then kstrtol (afterEquals buf) else none

/-! ### The buffer of a write -/

section Buffer

variable {inBuf : List UInt8}

theorem cString_append_replicate (t : List UInt8) (n : ℕ) :
    cString (t ++ List.replicate n 0) = cString t := by
  induction t with
  | nil => cases n <;> simp [cString, List.replicate_succ]
  | cons c t ih =>
    simp only [cString, List.cons_append, List.takeWhile_cons] at ih ⊢
    rw [ih]

theorem cString_confBuf (inBuf : List UInt8) : cString (confBuf inBuf) = cString inBuf.dropLast :=
  cString_append_replicate _ _

/-- A write stays inside the buffer exactly when it has a byte to overwrite. -/
theorem confAccesses_lt_iff (h : inBuf.length < maxConfBufSize) (allocated copied : Bool)
    {more : List ℕ} (hmore : ∀ i ∈ more, i < maxConfBufSize) :
    (∀ i ∈ confAccesses inBuf allocated copied more, i < maxConfBufSize) ↔
      (allocated = true → copied = true → inBuf ≠ []) := by
  rw [confAccesses, if_neg (Nat.not_le.mpr h)]
  cases allocated with
  | false => simp
  | true =>
    cases copied with
    | false =>
      refine iff_of_true (fun i hi => ?_) fun _ h => absurd h Bool.false_ne_true
      exact Nat.lt_trans (List.mem_range.mp hi) h
    | true =>
      have hlen : (cString (confBuf inBuf)).length + 1 ≤ maxConfBufSize := by
        rw [cString_confBuf]
        have hle : (cString inBuf.dropLast).length ≤ inBuf.dropLast.length :=
          (List.takeWhile_sublist _).length_le
        rw [List.length_dropLast] at hle
        omega
      simp only [Bool.not_true, Bool.false_eq_true, if_false, List.mem_append, List.mem_singleton,
        List.mem_range, forall_const]
      constructor
      · rintro hall rfl
        exact absurd (hall (2 ^ 64 - 1) (Or.inl (Or.inl (Or.inr rfl)))) (by decide)
      · intro hne i hi
        have hpos := List.length_pos_iff.mpr hne
        rw [maxConfBufSize] at *
        rcases hi with ((hi | hi) | hi) | hi
        · exact Nat.lt_trans hi h
        · omega
        · omega
        · exact hmore i hi

end Buffer

end Nrf70
