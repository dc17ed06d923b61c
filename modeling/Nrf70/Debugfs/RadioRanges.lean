import Nrf70.Debugfs.RadioHandlers

/-!
# The ranges of the radio-test parameters

Every parameter that has a range keeps it over every sequence of writes, whatever FMAC answers. The
fields a handler stores have just been checked, the defaults are in range, and so are the zeros a
failed `nrf_wifi_radio_test_conf_init` leaves behind.

## Main results

* `ranges_next` — every command keeps the ranges
* `ranges_throughout` — they hold throughout every sequence of writes from a zeroed `conf_params`
-/

namespace Nrf70

variable (d : Nrfxlib) (o : Outcomes)

/-- The values `nrf_wifi_radio_test_set_tx_pkt_cw` takes. -/
def contentionWindows : List ℕ := [0, 3, 7, 15, 31, 63, 127, 255, 511, 1023]

/-- Empty as a C string, two capital letters or `"00"`. -/
def CountryCodeAllowed (cc : UInt8 × UInt8) : Prop := cc.1 = 0 ∨ RegDomain cc.1 cc.2

/-- Every parameter with a range is in it. -/
structure ConfRanges (p : ConfParams) : Prop where
  heLtf : p.heLtf ≤ 2
  heGi : p.heGi ≤ 2
  txPktSgi : p.txPktSgi ≤ 1
  txPktTputMode : p.txPktTputMode < d.tputModeMax
  txPktPreamble : p.txPktPreamble ∈ [d.pktPreambleShort, d.pktPreambleLong, d.pktPreambleMixed]
  txPktGapUs : p.txPktGapUs ≤ 200000
  txPower : p.txPower ≤ d.maxTxPwrRadioTest ∨ p.txPower = d.maxTxPwrSysTest
  ruTone : p.ruTone ∈ [0, 26, 52, 106, 242]
  ruIndex : p.ruIndex ≤ 9
  captureLength : p.captureLength < 16384
  lnaGain : p.lnaGain ≤ 4
  bbGain : p.bbGain ≤ 31
  txPktCw : p.txPktCw ∈ contentionWindows
  bypassRegulatory : p.bypassRegulatory ≤ 1
  tests : p.tx ≤ 1 ∧ p.rx ≤ 1 ∧ ¬ (p.tx = 1 ∧ p.rx = 1)
  countryCode : CountryCodeAllowed p.countryCode

/-! ### Fresh configurations -/

/-- A zeroed configuration is in range, whatever its bytes of `rf_params` and its mode. -/
theorem ranges_clearedParams : ConfRanges d (clearedParams d o) where
  heLtf := Nat.zero_le _
  heGi := Nat.zero_le _
  txPktSgi := Nat.zero_le _
  txPktTputMode := d.tputModeMax_pos
  txPktPreamble := by simp [clearedParams, ConfParams.zero, d.pktPreambleShort_eq]
  txPktGapUs := Nat.zero_le _
  txPower := Or.inl (Nat.zero_le _)
  ruTone := by simp [clearedParams, ConfParams.zero]
  ruIndex := Nat.zero_le _
  captureLength := by simp [clearedParams, ConfParams.zero]
  lnaGain := Nat.zero_le _
  bbGain := Nat.zero_le _
  txPktCw := by simp [clearedParams, ConfParams.zero, contentionWindows]
  bypassRegulatory := Nat.zero_le _
  tests := ⟨Nat.zero_le _, Nat.zero_le _, by simp [clearedParams, ConfParams.zero]⟩
  countryCode := Or.inl rfl

theorem ranges_zero : ConfRanges d .zero :=
  { ranges_clearedParams d .success with }

variable {d o}

theorem ranges_defaultParams {cc : UInt8 × UInt8} (hcc : CountryCodeAllowed cc) :
    ConfRanges d (defaultParams d o cc) :=
  { ranges_clearedParams d o with
    heLtf := Nat.le_refl 2
    heGi := Nat.le_refl 2
    txPktPreamble := by simp [defaultParams, d.pktPreambleLong_eq]
    txPower := Or.inr rfl
    ruTone := by simp [defaultParams]
    ruIndex := by simp [defaultParams]
    txPktCw := by simp [defaultParams, contentionWindows]
    countryCode := by
      show CountryCodeAllowed (if cc.1 ≠ 0 then cc else (48, 48))
      split_ifs with hne
      · exact hcc
      · exact Or.inr (Or.inr ⟨rfl, rfl⟩) }

/-! ### Setters -/

section Setters

variable {ctx : RadioCtx} {checks : List (Option ConfError)} {store : ConfParams → ConfParams}

/-- A setter keeps the ranges when its assignment does under its checks. -/
theorem ranges_setParam (h : ConfRanges d ctx.confParams)
    (hstore : (∀ c ∈ checks, c = none) → ConfRanges d (store ctx.confParams)) :
    ConfRanges d (setParam checks store ctx).state.confParams := by
  rcases setParam_confParams with heq | ⟨hpass, heq⟩
  · rwa [heq]
  · rw [heq]
    exact hstore hpass

/-- A check on a value is a bound on the number. -/
theorem toNat_le_of_check {val bound : UInt64} {e : ConfError} {rest : List (Option ConfError)}
    (h : ∀ c ∈ checkThat (val ≤ bound) e :: rest, c = none) : val.toNat ≤ bound.toNat := by
  have hle := h _ List.mem_cons_self
  rw [checkThat_eq_none] at hle
  exact UInt64.le_iff_toNat_le.mp hle

theorem ranges_sval (h : ConfRanges d ctx.confParams) (key : SvalKey) (v : Int64) :
    ConfRanges d (key.handle d ctx v).state.confParams := by
  cases key with
  | txPktMcs => exact ranges_setParam h fun _ => { h with }
  | txPktRate => exact ranges_setParam h fun _ => { h with }
  | txPktNum => exact ranges_setParam h fun _ => { h with }

theorem ranges_setter (h : ConfRanges d ctx.confParams) {key : ValKey} (v : UInt64)
    (hset : key.isSetter = true) : ConfRanges d (key.handle d o ctx v).state.confParams := by
  cases key with
  | phyCalibRxdc | phyCalibTxdc | phyCalibTxpow | phyCalibRxiq | phyCalibTxiq =>
    exact ranges_setParam h fun _ => { h with }
  | heLtf => exact ranges_setParam h fun hp => { h with heLtf := toNat_le_of_check hp }
  | heGi => exact ranges_setParam h fun hp => { h with heGi := toNat_le_of_check hp }
  | txPktSgi => exact ranges_setParam h fun hp => { h with txPktSgi := toNat_le_of_check hp }
  | txPktGap => exact ranges_setParam h fun hp => { h with txPktGapUs := toNat_le_of_check hp }
  | rxLnaGain => exact ranges_setParam h fun hp => { h with lnaGain := toNat_le_of_check hp }
  | rxBbGain => exact ranges_setParam h fun hp => { h with bbGain := toNat_le_of_check hp }
  | bypassRegDomain =>
    exact ranges_setParam h fun hp => { h with bypassRegulatory := toNat_le_of_check hp }
  | txPktLen => exact ranges_setParam h fun _ => { h with }
  | txToneFreq => exact ranges_setParam h fun _ => { h with }
  | txPktTputMode =>
    refine ranges_setParam h fun hp => { h with txPktTputMode := ?_ }
    exact checkThat_eq_none.mp (hp _ List.mem_cons_self)
  | txPower =>
    refine ranges_setParam h fun hp => { h with txPower := ?_ }
    exact checkThat_eq_none.mp (hp _ List.mem_cons_self)
  | rxCaptureLength =>
    refine ranges_setParam h fun hp => { h with captureLength := ?_ }
    exact UInt64.lt_iff_toNat_lt.mp (checkThat_eq_none.mp (hp _ List.mem_cons_self))
  | txPktPreamble =>
    refine ranges_setParam h fun hp => { h with txPktPreamble := ?_ }
    have hallowed := checkThat_eq_none.mp (hp _ (List.mem_cons_of_mem _ List.mem_cons_self))
    show v.toNat ∈ _
    simp only [List.mem_cons, List.not_mem_nil, or_false]
    rw [PreambleAllowed] at hallowed
    split_ifs at hallowed
    · exact hallowed.elim Or.inl fun hl => Or.inr (Or.inl hl)
    · exact Or.inr (Or.inr hallowed)
  | ruTone =>
    refine ranges_setParam h fun hp => { h with ruTone := ?_ }
    have hmem := checkThat_eq_none.mp (hp _ List.mem_cons_self)
    show v.toNat ∈ _
    simp only [List.mem_cons, List.not_mem_nil, or_false] at hmem
    rcases hmem with rfl | rfl | rfl | rfl <;> decide
  | ruIndex =>
    refine ranges_setParam h fun hp => { h with ruIndex := ?_ }
    have hallowed := checkThat_eq_none.mp (hp _ List.mem_cons_self)
    show v.toNat ≤ 9
    rw [RuIndexAllowed] at hallowed
    omega
  | txPktCw =>
    refine ranges_setParam h fun hp => { h with txPktCw := ?_ }
    have hmem := checkThat_eq_none.mp (hp _ List.mem_cons_self)
    show v.toInt64.toInt.toNat ∈ contentionWindows
    generalize v.toInt64 = w at hmem
    simp only [List.mem_cons, List.not_mem_nil, or_false] at hmem
    rcases hmem with rfl | rfl | rfl | rfl | rfl | rfl | rfl | rfl | rfl | rfl <;> decide
  | _ => exact absurd hset (by decide)

end Setters

/-! ### All commands -/

section Commands

variable {ctx : RadioCtx}

theorem ranges_oneShot {checks : List (Option ConfError)} {test : RfTest} {call : FmacCall}
    {ok : Bool} {failed : ConfError} {store : ConfParams → ConfParams}
    (h : ConfRanges d ctx.confParams) (hstore : ConfRanges d (store ctx.confParams)) :
    ConfRanges d (oneShot checks test call ok failed store ctx).state.confParams := by
  by_cases hp : ∀ c ∈ checks, c = none
  · rw [oneShot_of_pass hp]
    split
    · exact hstore
    · exact h
  · obtain ⟨e, he⟩ := oneShot_of_not_pass test call ok failed store ctx hp
    rwa [he]

theorem ranges_setTx (h : ConfRanges d ctx.confParams) (v : UInt64) :
    ConfRanges d (nrfWifiRadioTestSetTx d o ctx v).state.confParams := by
  by_cases hallow : TxAllowed d ctx v
  · rw [setTx_of_allowed hallow]
    -- the ceiling that TX writes into `rf_params` has no range to keep
    have htests : v.toNat ≤ 1 ∧ ctx.confParams.rx ≤ 1 ∧
        ¬ (v.toNat = 1 ∧ ctx.confParams.rx = 1) := by
      rcases hallow.1 with rfl | ⟨rfl, hidle⟩
      · exact ⟨Nat.zero_le 1, h.tests.2.1, fun hb => absurd hb.1 (by decide)⟩
      · exact ⟨Nat.le_refl 1, h.tests.2.1, fun hb => absurd hb.2 (by simp [hidle.1])⟩
    show ConfRanges d (ctx.confParams.withTx d v)
    rw [ConfParams.withTx]
    split
    · exact { h with tests := htests }
    · exact { h with tests := htests }
  · obtain ⟨e, he⟩ := setTx_of_not_allowed (o := o) hallow
    rwa [he]

theorem ranges_setRx (h : ConfRanges d ctx.confParams) (v : UInt64) :
    ConfRanges d (nrfWifiRadioTestSetRx o ctx v).state.confParams := by
  by_cases hallow : SwitchAllowed ctx v
  · rw [setRx_of_allowed hallow]
    refine { h with tests := ?_ }
    rcases hallow with rfl | ⟨rfl, hidle⟩
    · exact ⟨h.tests.1, Nat.zero_le 1, fun hb => Nat.zero_ne_one hb.2⟩
    · exact ⟨h.tests.1, Nat.le_refl 1, fun hb => absurd hb.1 (by simp [hidle.2])⟩
  · obtain ⟨e, he⟩ := setRx_of_not_allowed (o := o) hallow
    rwa [he]

theorem ranges_init (h : ConfRanges d ctx.confParams) (v : UInt64) :
    ConfRanges d (nrfWifiRadioTestInit d o ctx v).state.confParams := by
  have hstopRx : ConfRanges d ctx.stopRx.confParams :=
    { h with tests := ⟨h.tests.1, Nat.zero_le 1, fun hb => Nat.zero_ne_one hb.2⟩ }
  have hstopTests : ConfRanges d ctx.stopTests.confParams :=
    { h with tests := ⟨Nat.zero_le 1, Nat.zero_le 1, fun hb => Nat.zero_ne_one hb.2⟩ }
  cases hval : checkValidChannel v.toUInt8 with
  | false =>
    rw [nrfWifiRadioTestInit, hval, if_neg Bool.false_ne_true]
    exact h
  | true =>
    have hexit := init_exit d o ctx hval
    generalize nrfWifiRadioTestInit d o ctx v = r at hexit
    cases hexit with
    | rxFailed => exact hstopRx
    | txFailed => exact hstopTests
    | toneFailed => exact hstopTests
    | confFailed => exact ranges_clearedParams d o
    | programmed => exact { ranges_defaultParams (o := o) h.countryCode with }

theorem ranges_regDomain (h : ConfRanges d ctx.confParams) (reg : List UInt8) :
    ConfRanges d (nrfWifiRadioTestSetRegDomain o ctx reg).state.confParams := by
  rcases setRegDomain_cases o ctx reg with ⟨-, e, he⟩ | ⟨a, b, -, hreg, hstate, -⟩
  · rwa [he]
  · rw [hstate]
    exact { h with countryCode := Or.inr hreg }

/-- **Every command keeps the ranges.** -/
theorem ranges_next {s : RadioState} {c : Command} (h : ConfRanges d s.ctx.confParams) :
    ConfRanges d (c.next d o s).ctx.confParams := by
  show ConfRanges d (c.handle d o s.ctx).state.confParams
  cases c with
  | setDefaults =>
    show ConfRanges d (if o.rfParamsGet = true then _ else _)
    split
    · exact ranges_defaultParams h.countryCode
    · exact ranges_clearedParams d o
  | bypassInvalid | unknown => exact h
  | sval key v => exact ranges_sval h key v
  | regDomain reg => exact ranges_regDomain h reg
  | val key v =>
    by_cases hset : key.isSetter = true
    · exact ranges_setter h v hset
    cases key with
    | tx => exact ranges_setTx h v
    | rx => exact ranges_setRx h v
    | init => exact ranges_init h v
    | txTone =>
      show ConfRanges d (nrfWifiRadioTestTxTone o s.ctx v).state.confParams
      rwa [txTone_confParams]
    | rxCap =>
      show ConfRanges d (nrfWifiRadioTestRxCap d o s.ctx v).state.confParams
      rwa [rxCap_confParams]
    | setXoVal => exact ranges_oneShot h { h with }
    | dpd | getTemperature | getRfRssi | computeOptimalXoVal => exact ranges_oneShot h h
    | _ => exact absurd rfl hset

end Commands

variable (d)

/-- **The ranges hold throughout every sequence of writes** that starts from a zeroed
`conf_params`, whatever FMAC answers. -/
theorem ranges_throughout (ctx : RadioCtx) (fw : Firmware) (ws : List ConfWrite) :
    (radioMachine d).Throughout (fun s => ConfRanges d s.ctx.confParams)
      ⟨{ ctx with confParams := .zero }, fw⟩ ws :=
  radioMachine_throughout d (P := fun s => ConfRanges d s.ctx.confParams) (fun h => ranges_next h)
    (ranges_zero d) ws

end Nrf70
