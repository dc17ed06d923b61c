import Mathlib.Tactic.IntervalCases
import Nrf70.Debugfs.RadioHandlers
import Nrf70.Lib.CInt

/-!
# The rates and the MCS values that are accepted

`tx_pkt_rate` and `tx_pkt_mcs` share one check. Bit 7 of its argument says that the rest is an MCS,
and the handler of `tx_pkt_mcs` sets that bit; nobody clears it for a rate. The argument is an `int`
and the parameters are `long`, so all the check sees of a value is its low half, and of an MCS the
low seven bits. A rate in a mode other than legacy leaves a message behind and is accepted all the
same.

## Main results

* `checkValidDataRate_eq_none` — what the check lets through
* `rate_checks_exact_iff` — the values for which the two handlers decide as they should
-/

namespace Nrf70

/-! ### Bit 7 -/

/-- Setting bit 7 of a number. -/
theorem or_bit7 (n : ℕ) : n ||| 128 = if n / 128 % 2 = 1 then n else n + 128 := by
  have hlow : ∀ s < 2 ^ 7, s ||| 2 ^ 7 = s + 2 ^ 7 := fun s hs => Nat.or_two_pow_eq_add_of_lt hs
  have hsplit : ∀ q, ∀ r < 2 ^ 8, 2 ^ 8 * q + r = 2 ^ 8 * q ||| r :=
    fun q r hr => Nat.two_pow_add_eq_or_of_lt hr q
  have hs := hlow (n % 2 ^ 7) (Nat.mod_lt _ (by decide))
  have hn : n = 2 ^ 8 * (n / 2 ^ 8) + n % 2 ^ 8 := by omega
  -- the low byte: its bit 7 is set already, or is added
  have hset : n % 2 ^ 8 ||| 2 ^ 7 = n % 2 ^ 7 + 2 ^ 7 := by
    by_cases hbit : n / 128 % 2 = 1
    · have hr : n % 2 ^ 8 = n % 2 ^ 7 + 2 ^ 7 := by omega
      rw [hr, ← hs, Nat.or_assoc, Nat.or_self]
    · have hr : n % 2 ^ 8 = n % 2 ^ 7 := by omega
      rw [hr, hs]
  have hor : n ||| 128 = 2 ^ 8 * (n / 2 ^ 8) + (n % 2 ^ 7 + 2 ^ 7) := by
    rw [hsplit _ _ (by omega), ← hset, ← Nat.or_assoc, ← hsplit _ _ (by omega), ← hn]
    rfl
  rw [hor]
  split_ifs <;> omega

theorem toInt_emod_int32 (x : Int32) : x.toInt % 2 ^ 32 = x.toBitVec.toNat := by
  have hx := x.toBitVec.isLt
  rw [← Int32.toInt_toBitVec, BitVec.toInt_eq_toNat_cond]
  split_ifs <;> omega

theorem toInt_emod_int64 (v : Int64) : v.toInt % 2 ^ 64 = v.toBitVec.toNat := by
  have hv := v.toBitVec.isLt
  rw [← Int64.toInt_toBitVec, BitVec.toInt_eq_toNat_cond]
  split_ifs <;> omega

theorem and_bit7_ne_zero_iff (x : Int32) : x &&& 0x80 ≠ 0 ↔ x.toInt / 128 % 2 = 1 := by
  have hbit : (x &&& 0x80).toBitVec = if x.toBitVec.getLsbD 7 then BitVec.twoPow 32 7 else 0 :=
    BitVec.and_twoPow x.toBitVec 7
  rw [BitVec.getLsbD, Nat.testBit_eq_decide_div_mod_eq] at hbit
  have hne : BitVec.twoPow 32 7 ≠ 0#32 := by decide
  have hiff : x &&& 0x80 ≠ 0 ↔ x.toBitVec.toNat / 2 ^ 7 % 2 = 1 := by
    rw [Ne, ← Int32.toBitVec_inj, hbit]
    simp [hne]
  have hx := toInt_emod_int32 x
  rw [hiff]
  omega

theorem toInt_and_low7 (x : Int32) : (x &&& 0x7f).toInt = x.toInt % 128 := by
  have hnat : (x &&& 0x7f).toBitVec.toNat = x.toBitVec.toNat % 2 ^ 7 :=
    Nat.and_two_pow_sub_one_eq_mod _ 7
  have hx := toInt_emod_int32 x
  have hand := toInt_emod_int32 (x &&& 0x7f)
  rw [← Int32.toInt_toBitVec, BitVec.toInt_eq_toNat_cond]
  split_ifs <;> omega

theorem toInt_or_bit7_emod (v : Int64) :
    (v ||| 0x80).toInt % 2 ^ 64 =
      (if v.toInt / 128 % 2 = 1 then v.toInt else v.toInt + 128) % 2 ^ 64 := by
  have hnat : (v ||| 0x80).toBitVec.toNat = v.toBitVec.toNat ||| 128 := rfl
  have hv := toInt_emod_int64 v
  have hor := toInt_emod_int64 (v ||| 0x80)
  rw [hnat, or_bit7] at hor
  split_ifs at hor ⊢ <;> omega

/-! ### The check -/

/-- The legacy rates, in Mb/s and `55` for 5.5. -/
def legacyRates : List ℤ := [1, 2, 55, 11, 6, 9, 12, 18, 24, 36, 48, 54]

variable (d : Nrfxlib)

/-- The throughput modes have the numbers of nrfxlib's public headers. -/
structure Nrfxlib.TputModes : Prop where
  ht : d.tputModeHt = 1
  vht : d.tputModeVht = 2
  heSu : d.tputModeHeSu = 3
  heErSu : d.tputModeHeErSu = 4
  heTb : d.tputModeHeTb = 5
  max : d.tputModeMax = 6

theorem tputModes_headers : Nrfxlib.headers.TputModes := ⟨rfl, rfl, rfl, rfl, rfl, rfl⟩

/-- The largest MCS of a throughput mode that has them. -/
def largestMcs (tputMode : ℕ) : ℤ :=
  if tputMode = d.tputModeVht then 9 else if tputMode = d.tputModeHeErSu then 2 else 7

variable {d} {tputMode : ℕ}

/-- A list of rates, as `int` and as numbers. -/
theorem mem_legacyRates_iff (dr : Int32) :
    dr ∈ ([1, 2, 55, 11, 6, 9, 12, 18, 24, 36, 48, 54, -1] : List Int32) ↔
      dr.toInt ∈ legacyRates ∨ dr.toInt = -1 := by
  have hinj : Function.Injective Int32.toInt := fun _ _ => Int32.toInt_inj.mp
  rw [← List.mem_map_of_injective hinj, ← List.mem_singleton (a := dr.toInt), ← List.mem_append]
  rfl

/-- A legacy rate does not have bit 7. -/
theorem bit7_of_mem_legacyRates {r : ℤ} (h : r ∈ legacyRates) : r / 128 % 2 = 0 := by
  have hrates : ∀ r ∈ legacyRates, r / 128 % 2 = 0 := by decide
  exact hrates r h

/-- **What the check lets through**, for one stream: `-1`, an MCS of the mode with bit 7 set, and a
legacy rate in any mode. -/
theorem checkValidDataRate_eq_none (hmodes : d.TputModes) (hmax : tputMode < d.tputModeMax)
    (dr : Int32) :
    checkValidDataRate d tputMode 1 dr = none ↔
      dr.toInt = -1 ∨
      (dr.toInt / 128 % 2 = 1 ∧ tputMode ≠ d.tputModeLegacy ∧
        dr.toInt % 128 ≤ largestMcs d tputMode) ∨
      dr.toInt ∈ legacyRates := by
  have hneg : dr = -1 ↔ dr.toInt = -1 := by
    rw [← Int32.toInt_inj]
    rfl
  rw [checkValidDataRate]
  by_cases hdr : dr = -1
  · rw [if_pos hdr]
    exact iff_of_true rfl (Or.inl (hneg.mp hdr))
  rw [if_neg hdr, or_iff_right (mt hneg.mpr hdr)]
  by_cases hbit : dr &&& 0x80 ≠ 0
  · have hset := (and_bit7_ne_zero_iff dr).mp hbit
    have hrate : dr.toInt ∉ legacyRates := by
      intro h
      have := bit7_of_mem_legacyRates h
      omega
    rw [if_pos hbit, or_iff_left hrate]
    have hle : ∀ a : Int32, (0 ≤ dr &&& 0x7f ∧ dr &&& 0x7f ≤ a) ↔ dr.toInt % 128 ≤ a.toInt := by
      intro a
      rw [Int32.le_iff_toInt_le, Int32.le_iff_toInt_le, toInt_and_low7]
      exact and_iff_right (Int.emod_nonneg _ (by decide))
    have h7 : Int32.toInt 7 = 7 := rfl
    have h9 : Int32.toInt 9 = 9 := rfl
    have h2 : Int32.toInt 2 = 2 := rfl
    rw [hmodes.max] at hmax
    simp only [and_iff_right hset, hle, largestMcs, hmodes.ht, hmodes.vht, hmodes.heSu,
      hmodes.heErSu, d.tputModeLegacy_eq, h7, h9, h2]
    -- the odd modes take the branch for HT
    interval_cases tputMode <;> simp
  · have hclear : ¬ dr.toInt / 128 % 2 = 1 := mt (and_bit7_ne_zero_iff dr).mpr hbit
    rw [if_neg hbit]
    simp only [hclear, false_and, false_or, mem_legacyRates_iff, or_iff_left (mt hneg.mpr hdr)]
    split_ifs with h <;> simp [h]

/-! ### The two handlers -/

/-- The low half of a `long` as an `int`. -/
theorem toInt_toInt32_eq (v : Int64) :
    v.toInt32.toInt =
      if v.toInt % 2 ^ 32 < 2 ^ 31 then v.toInt % 2 ^ 32 else v.toInt % 2 ^ 32 - 2 ^ 32 := by
  rw [Int64.toInt_toInt32, bmod_two_pow_32]

theorem lt_128_of_mem_legacyRates {r : ℤ} (h : r ∈ legacyRates) : 0 < r ∧ r < 128 := by
  have hrates : ∀ r ∈ legacyRates, 0 < r ∧ r < 128 := by decide
  exact hrates r h

variable (d tputMode)

/-- The values `tx_pkt_rate` is meant to take. -/
def RateLegal (v : Int64) : Prop :=
  v.toInt = -1 ∨ tputMode = d.tputModeLegacy ∧ v.toInt ∈ legacyRates

/-- The values `tx_pkt_mcs` is meant to take. -/
def McsLegal (v : Int64) : Prop :=
  v.toInt = -1 ∨ tputMode ≠ d.tputModeLegacy ∧ 0 ≤ v.toInt ∧ v.toInt ≤ largestMcs d tputMode

instance (v : Int64) : Decidable (RateLegal d tputMode v) := inferInstanceAs (Decidable (_ ∨ _))

instance (v : Int64) : Decidable (McsLegal d tputMode v) := inferInstanceAs (Decidable (_ ∨ _))

/-- A rate whose low half is `-1`, or has bit 7 and an MCS of the mode behind it, or is a legacy
rate that is not the value itself or not one of the mode. -/
def RateMisread (v : Int64) : Prop :=
  v.toInt ≠ -1 ∧
    (v.toInt % 2 ^ 32 = 2 ^ 32 - 1 ∨
      (v.toInt / 128 % 2 = 1 ∧ tputMode ≠ d.tputModeLegacy ∧
        v.toInt % 128 ≤ largestMcs d tputMode) ∨
      (v.toInt % 2 ^ 32 ∈ legacyRates ∧
        ¬ (tputMode = d.tputModeLegacy ∧ v.toInt ∈ legacyRates)))

/-- An MCS whose low half is `-1` once bit 7 is set, or one outside `0 .. 127` whose low seven bits
are an MCS of the mode. -/
def McsMisread (v : Int64) : Prop :=
  v.toInt ≠ -1 ∧
    (v.toInt % 2 ^ 32 = 2 ^ 32 - 1 ∨ v.toInt % 2 ^ 32 = 2 ^ 32 - 129 ∨
      (tputMode ≠ d.tputModeLegacy ∧ v.toInt % 128 ≤ largestMcs d tputMode ∧
        ¬ (0 ≤ v.toInt ∧ v.toInt < 128)))

variable {d tputMode} {ctx : RadioCtx}

/-- What `tx_pkt_rate` accepts. -/
theorem setTxPktRate_error (hmodes : d.TputModes) (hidle : ctx.Idle)
    (hnss : ctx.confParams.txPktNss = 1) (hmax : ctx.confParams.txPktTputMode < d.tputModeMax)
    (v : Int64) :
    (nrfWifiRadioTestSetTxPktRate d ctx v).error = none ↔
      v.toInt % 2 ^ 32 = 2 ^ 32 - 1 ∨
      (v.toInt / 128 % 2 = 1 ∧ ctx.confParams.txPktTputMode ≠ d.tputModeLegacy ∧
        v.toInt % 128 ≤ largestMcs d ctx.confParams.txPktTputMode) ∨
      v.toInt % 2 ^ 32 ∈ legacyRates := by
  have hchecks : (nrfWifiRadioTestSetTxPktRate d ctx v).error = none ↔
      checkValidDataRate d ctx.confParams.txPktTputMode 1 v.toInt32 = none := by
    rw [nrfWifiRadioTestSetTxPktRate, setParam_error_eq_none, hnss]
    simp [hidle]
  have hnarrow := toInt_toInt32_eq v
  have hrates : v.toInt32.toInt ∈ legacyRates ↔ v.toInt % 2 ^ 32 ∈ legacyRates := by
    by_cases hsmall : v.toInt % 2 ^ 32 < 2 ^ 31
    · rw [hnarrow, if_pos hsmall]
    · refine iff_of_false (fun h => ?_) fun h => ?_
      · have := lt_128_of_mem_legacyRates h
        omega
      · have := lt_128_of_mem_legacyRates h
        omega
  have hneg : v.toInt32.toInt = -1 ↔ v.toInt % 2 ^ 32 = 2 ^ 32 - 1 := by omega
  have hbit : v.toInt32.toInt / 128 % 2 = v.toInt / 128 % 2 := by omega
  have hlow : v.toInt32.toInt % 128 = v.toInt % 128 := by omega
  rw [hchecks, checkValidDataRate_eq_none hmodes hmax, hrates, hneg, hbit, hlow]

/-- What `tx_pkt_mcs` accepts. -/
theorem setTxPktMcs_error (hmodes : d.TputModes) (hidle : ctx.Idle)
    (hnss : ctx.confParams.txPktNss = 1) (hmax : ctx.confParams.txPktTputMode < d.tputModeMax)
    (hrate : ctx.confParams.txPktRate = -1) (v : Int64) :
    (nrfWifiRadioTestSetTxPktMcs d ctx v).error = none ↔
      (v.toInt % 2 ^ 32 = 2 ^ 32 - 1 ∨ v.toInt % 2 ^ 32 = 2 ^ 32 - 129) ∨
      (ctx.confParams.txPktTputMode ≠ d.tputModeLegacy ∧
        v.toInt % 128 ≤ largestMcs d ctx.confParams.txPktTputMode) := by
  have hchecks : (nrfWifiRadioTestSetTxPktMcs d ctx v).error = none ↔
      checkValidDataRate d ctx.confParams.txPktTputMode 1 (v ||| 0x80).toInt32 = none := by
    rw [nrfWifiRadioTestSetTxPktMcs, setParam_error_eq_none, hnss]
    simp [hidle, hrate]
  have hnarrow := toInt_toInt32_eq (v ||| 0x80)
  have hor := toInt_or_bit7_emod v
  have hneg : (v ||| 0x80).toInt32.toInt = -1 ↔
      v.toInt % 2 ^ 32 = 2 ^ 32 - 1 ∨ v.toInt % 2 ^ 32 = 2 ^ 32 - 129 := by omega
  have hbit : (v ||| 0x80).toInt32.toInt / 128 % 2 = 1 := by omega
  have hlow : (v ||| 0x80).toInt32.toInt % 128 = v.toInt % 128 := by omega
  have hrates : (v ||| 0x80).toInt32.toInt ∉ legacyRates := by
    intro h
    have := bit7_of_mem_legacyRates h
    omega
  rw [hchecks, checkValidDataRate_eq_none hmodes hmax, hneg, hlow, and_iff_right hbit,
    or_iff_left hrates]

/-- **Where the checks of rate and MCS are exact.** The two handlers accept what they are meant to
accept, and nothing else, at exactly the values they do not misread. -/
theorem rate_checks_exact_iff (hmodes : d.TputModes) (hidle : ctx.Idle)
    (hnss : ctx.confParams.txPktNss = 1) (hmax : ctx.confParams.txPktTputMode < d.tputModeMax)
    (v : Int64) :
    (((nrfWifiRadioTestSetTxPktRate d ctx v).error = none ↔
        RateLegal d ctx.confParams.txPktTputMode v) ↔
      ¬ RateMisread d ctx.confParams.txPktTputMode v) ∧
    (ctx.confParams.txPktRate = -1 →
      (((nrfWifiRadioTestSetTxPktMcs d ctx v).error = none ↔
          McsLegal d ctx.confParams.txPktTputMode v) ↔
        ¬ McsMisread d ctx.confParams.txPktTputMode v)) := by
  constructor
  · rw [setTxPktRate_error hmodes hidle hnss hmax, RateLegal, RateMisread]
    by_cases hneg : v.toInt = -1
    · simp [hneg]
    simp only [hneg, false_or, ne_eq, not_false_eq_true, true_and]
    -- a legal value is accepted as a legacy rate, and as nothing else
    have hmem : v.toInt ∈ legacyRates → v.toInt % 2 ^ 32 ∈ legacyRates := by
      intro h
      have hbound := lt_128_of_mem_legacyRates h
      have hsame : v.toInt % 2 ^ 32 = v.toInt := by omega
      rwa [hsame]
    have hlow : v.toInt ∈ legacyRates → v.toInt % 2 ^ 32 ≠ 2 ^ 32 - 1 := by
      intro h
      have hbound := lt_128_of_mem_legacyRates h
      omega
    by_cases hlegal : ctx.confParams.txPktTputMode = d.tputModeLegacy ∧ v.toInt ∈ legacyRates
    · obtain ⟨hlegacy, hrate⟩ := hlegal
      simp only [hlegacy, hrate, hmem hrate, hlow hrate, or_true, and_self, not_true_eq_false,
        and_false, false_and, or_self, not_false_eq_true]
    · simp only [hlegal, iff_false, not_false_eq_true, and_true]
  · intro hrate
    rw [setTxPktMcs_error hmodes hidle hnss hmax hrate, McsLegal, McsMisread]
    by_cases hneg : v.toInt = -1
    · simp [hneg]
    simp only [hneg, false_or, ne_eq, not_false_eq_true, true_and]
    have hlargest : largestMcs d ctx.confParams.txPktTputMode < 127 := by
      rw [largestMcs]
      split_ifs <;> decide
    -- a legal value is its own low seven bits
    have hsame : 0 ≤ v.toInt ∧ v.toInt < 128 → v.toInt % 128 = v.toInt := by omega
    have hlegal : v.toInt ≤ largestMcs d ctx.confParams.txPktTputMode → v.toInt < 128 := by omega
    have hfull : 0 ≤ v.toInt ∧ v.toInt < 128 →
        v.toInt % 2 ^ 32 ≠ 2 ^ 32 - 1 ∧ v.toInt % 2 ^ 32 ≠ 2 ^ 32 - 129 := by omega
    by_cases hrange : 0 ≤ v.toInt ∧ v.toInt < 128
    · simp only [hfull hrange, hsame hrange, hrange, false_or, or_false, and_true, true_and,
        not_true_eq_false, and_false, not_false_eq_true]
    · have hno : ¬ (0 ≤ v.toInt ∧ v.toInt ≤ largestMcs d ctx.confParams.txPktTputMode) :=
        fun h => hrange ⟨h.1, hlegal h.2⟩
      simp only [hno, hrange, and_false, iff_false, not_false_eq_true, and_true, or_assoc]

/-- The context of the tests: the defaults, no rate, and a throughput mode. -/
def ratesCtx (tputMode : ℕ) : RadioCtx :=
  { RadioCtx.zero with confParams :=
      { defaultParams .headers .success (0, 0) with txPktTputMode := tputMode, txPktRate := -1 } }

/-- For VHT, `tx_pkt_mcs=9` is accepted, `tx_pkt_mcs=10` is not, and neither is
`tx_pkt_rate=100`. -/
theorem rate_checks_exact_iff_vht :
    (nrfWifiRadioTestSetTxPktMcs .headers (ratesCtx 2) 9).error = none ∧
    (nrfWifiRadioTestSetTxPktMcs .headers (ratesCtx 2) 10).error ≠ none ∧
    (nrfWifiRadioTestSetTxPktRate .headers (ratesCtx 2) 100).error ≠ none := by
  have hexact (v : Int64) := @rate_checks_exact_iff .headers (ratesCtx 2) tputModes_headers
    (by decide) rfl (by decide) v
  refine ⟨((hexact 9).2 rfl).mpr ?_ |>.mpr ?_, mt (((hexact 10).2 rfl).mpr ?_).mp ?_,
    mt ((hexact 100).1.mpr ?_).mp ?_⟩
  · exact fun h => absurd h.2 (by decide)
  · exact Or.inr (by decide)
  · exact fun h => absurd h.2 (by decide)
  · exact fun h => absurd h (by decide)
  · exact fun h => absurd h.2 (by decide)
  · exact fun h => absurd h (by decide)

/-- **Values that are misread.** In VHT the rate `54` is accepted, and so is the rate `132`, which
is MCS 4 with bit 7; in legacy mode the rate `2 ^ 32 - 1` is accepted; and in HT the MCS `256`. -/
theorem rates_misread :
    (nrfWifiRadioTestSetTxPktRate .headers (ratesCtx 2) 54).error = none ∧
    ¬ RateLegal .headers 2 54 ∧
    (nrfWifiRadioTestSetTxPktRate .headers (ratesCtx 2) 132).error = none ∧
    ¬ RateLegal .headers 2 132 ∧
    (nrfWifiRadioTestSetTxPktRate .headers (ratesCtx 0) 4294967295).error = none ∧
    ¬ RateLegal .headers 0 4294967295 ∧
    (nrfWifiRadioTestSetTxPktMcs .headers (ratesCtx 1) 256).error = none ∧
    ¬ McsLegal .headers 1 256 := by
  refine ⟨rfl, ?_, rfl, ?_, rfl, ?_, rfl, ?_⟩
  · exact fun h => absurd h (by decide)
  · exact fun h => absurd h (by decide)
  · exact fun h => absurd h (by decide)
  · exact fun h => absurd h (by decide)

end Nrf70
