import Mathlib.Algebra.Ring.Nat
import Mathlib.Data.List.Basic
import Nrf70.Lib.ByteMemory

/-!
# Radiotap headers

A radiotap header is a version, a byte of padding, its length, a word of presence bits and the
fields whose bits are set, in the order of the bits, each aligned to its natural boundary counted
from the start of the header. All numbers are little-endian. `radiotapFields` reads a header with
one word of presence bits in the radiotap namespace; a header that goes on to a second word or to
another namespace is not read at all.

## Main definitions

* `itVersion`, `itLen`, `itPresent` — the fixed part
* `radiotapFields` — the fields, in the order of their bits
-/

namespace Nrf70

/-- A field: the number of its bit and its bytes. -/
structure RadiotapField where
  index : ℕ
  arg : List UInt8
  deriving DecidableEq, Repr

/-- A byte of a field; one that is not there reads as zero. -/
def RadiotapField.byte (f : RadiotapField) (i : ℕ) : UInt8 := f.arg[i]?.getD 0

/-- The length of the fixed part. -/
def radiotapHdrSize : ℕ := 8

def itVersion (frame : List UInt8) : UInt8 := frame[0]?.getD 0

def itLen (frame : List UInt8) : ℕ := ofLe ((frame.drop 2).take 2)

def itPresent (frame : List UInt8) : ℕ := ofLe ((frame.drop 4).take 4)

/-- Alignment and size of a field of the radiotap namespace. -/
def radiotapAlignSize : ℕ → Option (ℕ × ℕ)
  | 0 => some (8, 8) -- TSFT
  | 1 => some (1, 1) -- FLAGS
  | 2 => some (1, 1) -- RATE
  | 3 => some (2, 4) -- CHANNEL
  | 4 => some (2, 2) -- FHSS
  | 5 => some (1, 1) -- DBM_ANTSIGNAL
  | 6 => some (1, 1) -- DBM_ANTNOISE
  | 7 => some (2, 2) -- LOCK_QUALITY
  | 8 => some (2, 2) -- TX_ATTENUATION
  | 9 => some (2, 2) -- DB_TX_ATTENUATION
  | 10 => some (1, 1) -- DBM_TX_POWER
  | 11 => some (1, 1) -- ANTENNA
  | 12 => some (1, 1) -- DB_ANTSIGNAL
  | 13 => some (1, 1) -- DB_ANTNOISE
  | 14 => some (2, 2) -- RX_FLAGS
  | 15 => some (2, 2) -- TX_FLAGS
  | 16 => some (1, 1) -- RTS_RETRIES
  | 17 => some (1, 1) -- DATA_RETRIES
  | 19 => some (1, 3) -- MCS
  | 20 => some (4, 8) -- AMPDU_STATUS
  | 21 => some (2, 12) -- VHT
  | _ => none

/-- The fields of the given bits from `pos` on. One that is not known, or does not fit into the
header, ends them. -/
def radiotapWalk (frame : List UInt8) : (bits : List ℕ) → (pos : ℕ) → List RadiotapField
  | [], _ => []
  | i :: bits, pos =>
    match radiotapAlignSize i with
    | none => []
    | some (align, size) =>
      let arg := (pos + (align - 1)) / align * align
      if itLen frame < arg + size then []
      else ⟨i, (frame.drop arg).take size⟩ :: radiotapWalk frame bits (arg + size)

/-- A field that is known and fits. -/
theorem radiotapWalk_cons {frame : List UInt8} {i align size : ℕ} {bits : List ℕ} {pos : ℕ}
    (arg : ℕ) (hi : radiotapAlignSize i = some (align, size))
    (harg : (pos + (align - 1)) / align * align = arg) (hfit : arg + size ≤ itLen frame) :
    radiotapWalk frame (i :: bits) pos =
      ⟨i, (frame.drop arg).take size⟩ :: radiotapWalk frame bits (arg + size) := by
  rw [radiotapWalk, hi]
  simp only [harg, Nat.not_lt.mpr hfit, if_false]

/-- The fields of the header at the front of a frame. -/
def radiotapFields (frame : List UInt8) : List RadiotapField :=
  if frame.length < radiotapHdrSize ∨ itVersion frame ≠ 0 ∨ frame.length < itLen frame ∨
      2 ^ 29 ≤ itPresent frame then []
  else radiotapWalk frame ((List.range 29).filter (itPresent frame).testBit) radiotapHdrSize

end Nrf70
