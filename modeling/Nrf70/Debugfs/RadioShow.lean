import Nrf70.Debugfs.ConfResult
import Nrf70.Debugfs.ConfShow
import Nrf70.Debugfs.RadioRanges
import Nrf70.Debugfs.RadioTypes

/-!
# Writing back what the radio test shows

Below its headline the `conf` file of the radio test shows twenty-nine lines. Three of them start
something when they are written, and the others are settings. Writing the settings back, one after
another and without the blanks, sets most of them to what they were, since what is stored is in
range. Some of them are checked against others, which may have been written before or come later,
and a few can not be set from their line at all.

## What is outside the repository

`Nrfxlib.CalibFlags` says that the calibrations have flags of their own.

## Main definitions

* `radioConfLines`, `nrfWifiWlanFmacRadioTestConfDisp` — the lines of the radio test, and its file
* `RadioSetting.put` — what writing the line of a setting does to a configuration
* `RadioRestorable` — the conditions under which a configuration comes back

## Main results

* `radioWrite_setting`, `radioWriteBack_map` — one line, and all of them
* `radioSettings_restored_iff` — what comes back
* `radio_restore_iff` — when a configuration comes back
-/

namespace Nrf70

/-! ### Flags -/

/-- Setting one flag leaves another alone. -/
theorem or_and_of_disjoint {f g : UInt32} (h : f &&& g = 0) (x : UInt32) :
    (x ||| f) &&& g = x &&& g := by
  rw [← UInt32.toBitVec_inj] at h ⊢
  ext i hi
  have hbit := congrArg (fun b => b.getLsbD i) h
  simp [hi] at hbit ⊢
  grind

/-- Clearing it as well. -/
theorem and_not_and_of_disjoint {f g : UInt32} (h : f &&& g = 0) (x : UInt32) :
    (x &&& ~~~f) &&& g = x &&& g := by
  rw [← UInt32.toBitVec_inj] at h ⊢
  ext i hi
  have hbit := congrArg (fun b => b.getLsbD i) h
  simp [hi] at hbit ⊢
  grind

theorem or_and_self (x f : UInt32) : (x ||| f) &&& f = f := by
  rw [← UInt32.toBitVec_inj]
  ext i hi
  simp only [UInt32.toBitVec_and, UInt32.toBitVec_or, BitVec.getElem_and, BitVec.getElem_or]
  exact Bool.and_eq_right_iff_imp.mpr fun h => Bool.or_eq_true_iff.mpr (.inr h)

theorem and_not_and_self (x f : UInt32) : (x &&& ~~~f) &&& f = 0 := by
  rw [UInt32.and_assoc, UInt32.not_and_self, UInt32.and_zero]

/-! ### What is shown -/

variable (d : Nrfxlib)

/-- The calibrations have flags of their own. -/
structure Nrfxlib.CalibFlags : Prop where
  ne_zero : ∀ calib, d.phyCalibFlag calib ≠ 0
  disjoint : ∀ calib calib', calib ≠ calib' → d.phyCalibFlag calib &&& d.phyCalibFlag calib' = 0

theorem calibFlags_headers : Nrfxlib.headers.CalibFlags where
  ne_zero := by
    rintro ⟨⟩ <;> decide
  disjoint := by
    rintro ⟨⟩ ⟨⟩ hne <;> first | exact absurd rfl hne | decide

/-- The calibration is on. -/
def CalibOn (calib : PhyCalib) (x : UInt32) : Prop := x &&& d.phyCalibFlag calib ≠ 0

instance (calib : PhyCalib) (x : UInt32) : Decidable (CalibOn d calib x) :=
  inferInstanceAs (Decidable (_ ≠ _))

/-- `(phy_calib & flag) ? 1 : 0`. -/
def calibShown (calib : PhyCalib) (p : ConfParams) : ℕ :=
  if CalibOn d calib p.phyCalib then 1 else 0

/-- A rate of `5` is shown as 5.5. -/
def rateShown (rate : ℤ) : List UInt8 := if rate = 5 then cBytes "5.5" else printD rate

/-- What is shown, and can be set. -/
inductive RadioSetting
  | phyCalib (calib : PhyCalib)
  | heLtf | heGi | txPktTputMode | txPktSgi | txPktPreamble | txPktMcs | txPktRate | txPktGap
  | txPktNum | txPktLen | txPower | ruTone | ruIndex | rxCaptureLength | rxLnaGain | rxBbGain
  | txToneFreq | xoVal | txPktCw | regDomain | bypassRegDomain
  deriving DecidableEq, Repr

namespace RadioSetting

/-- The settings that are shown first. -/
def first : List RadioSetting :=
  [.phyCalib .rxdc, .phyCalib .txdc, .phyCalib .txpow, .phyCalib .rxiq, .phyCalib .txiq, .heLtf,
    .heGi, .txPktTputMode, .txPktSgi, .txPktPreamble, .txPktMcs, .txPktRate, .txPktGap, .txPktNum,
    .txPktLen, .txPower, .ruTone, .ruIndex, .rxCaptureLength, .rxLnaGain, .rxBbGain, .txToneFreq,
    .xoVal]

/-- The settings that are shown after the channel and the tests in progress. -/
def last : List RadioSetting := [.txPktCw, .regDomain, .bypassRegDomain]

/-- The line of a setting. -/
def line (p : ConfParams) : RadioSetting → ShownLine
  | .phyCalib .rxdc => ⟨"phy_calib_rxdc", printD (calibShown d .rxdc p)⟩
  | .phyCalib .txdc => ⟨"phy_calib_txdc", printD (calibShown d .txdc p)⟩
  | .phyCalib .txpow => ⟨"phy_calib_txpow", printD (calibShown d .txpow p)⟩
  | .phyCalib .rxiq => ⟨"phy_calib_rxiq", printD (calibShown d .rxiq p)⟩
  | .phyCalib .txiq => ⟨"phy_calib_txiq", printD (calibShown d .txiq p)⟩
  | .heLtf => ⟨"he_ltf", printD p.heLtf⟩
  | .heGi => ⟨"he_gi", printD p.heGi⟩
  | .txPktTputMode => ⟨"tx_pkt_tput_mode", printD p.txPktTputMode⟩
  | .txPktSgi => ⟨"tx_pkt_sgi", printD p.txPktSgi⟩
  | .txPktPreamble => ⟨"tx_pkt_preamble", printD p.txPktPreamble⟩
  | .txPktMcs => ⟨"tx_pkt_mcs", printD p.txPktMcs⟩
  | .txPktRate => ⟨"tx_pkt_rate", rateShown p.txPktRate⟩
  | .txPktGap => ⟨"tx_pkt_gap", printD p.txPktGapUs⟩
  | .txPktNum => ⟨"tx_pkt_num", printD p.txPktNum⟩
  | .txPktLen => ⟨"tx_pkt_len", printD p.txPktLen⟩
  | .txPower => ⟨"tx_power", printD p.txPower⟩
  | .ruTone => ⟨"ru_tone", printD p.ruTone⟩
  | .ruIndex => ⟨"ru_index", printD p.ruIndex⟩
  | .rxCaptureLength => ⟨"rx_capture_length", printD p.captureLength⟩
  | .rxLnaGain => ⟨"rx_lna_gain", printD p.lnaGain⟩
  | .rxBbGain => ⟨"rx_bb_gain", printD p.bbGain⟩
  | .txToneFreq => ⟨"tx_tone_freq", printD p.txToneFreq⟩
  | .xoVal => ⟨"xo_val", printD (p.rfParams d.xoFreqByteOffset).toNat⟩
  | .txPktCw => ⟨"tx_pkt_cw", printD p.txPktCw⟩
  | .regDomain => ⟨"reg_domain", [p.countryCode.1, p.countryCode.2]⟩
  | .bypassRegDomain => ⟨"bypass_reg_domain", printD p.bypassRegulatory⟩

/-- The parameter of the name. `xo_val` is none, and `reg_domain` is not followed by a number. -/
def key : RadioSetting → Option ConfKey
  | .phyCalib .rxdc => some (.val .phyCalibRxdc)
  | .phyCalib .txdc => some (.val .phyCalibTxdc)
  | .phyCalib .txpow => some (.val .phyCalibTxpow)
  | .phyCalib .rxiq => some (.val .phyCalibRxiq)
  | .phyCalib .txiq => some (.val .phyCalibTxiq)
  | .heLtf => some (.val .heLtf)
  | .heGi => some (.val .heGi)
  | .txPktTputMode => some (.val .txPktTputMode)
  | .txPktSgi => some (.val .txPktSgi)
  | .txPktPreamble => some (.val .txPktPreamble)
  | .txPktMcs => some (.sval .txPktMcs)
  | .txPktRate => some (.sval .txPktRate)
  | .txPktGap => some (.val .txPktGap)
  | .txPktNum => some (.sval .txPktNum)
  | .txPktLen => some (.val .txPktLen)
  | .txPower => some (.val .txPower)
  | .ruTone => some (.val .ruTone)
  | .ruIndex => some (.val .ruIndex)
  | .rxCaptureLength => some (.val .rxCaptureLength)
  | .rxLnaGain => some (.val .rxLnaGain)
  | .rxBbGain => some (.val .rxBbGain)
  | .txToneFreq => some (.val .txToneFreq)
  | .txPktCw => some (.val .txPktCw)
  | .bypassRegDomain => some (.val .bypassRegDomain)
  | .xoVal | .regDomain => none

theorem mem_first_append_last (k : RadioSetting) : k ∈ first ++ last := by
  cases k with
  | phyCalib calib => cases calib <;> decide
  | _ => decide

/-- All the names. -/
theorem names : ∀ k ∈ first ++ last, IsName (line .headers .zero k).name ∧
    ∀ key ∈ k.key, cBytes (line .headers .zero k).name ++ cBytes "=" = cBytes key.str := by
  decide +kernel

/-- A name does not depend on what is shown. -/
theorem name_line (p : ConfParams) (k : RadioSetting) :
    (line d p k).name = (line .headers .zero k).name := by
  cases k with
  | phyCalib calib => cases calib <;> rfl
  | _ => rfl

theorem isName_line (p : ConfParams) (k : RadioSetting) : IsName (line d p k).name := by
  rw [name_line]
  exact (names k (mem_first_append_last k)).1

/-- The name and `=` are the text of the parameter. -/
theorem name_key (p : ConfParams) (k : RadioSetting) {key : ConfKey} (h : k.key = some key) :
    cBytes (line d p k).name ++ cBytes "=" = cBytes key.str := by
  rw [name_line]
  exact (names k (mem_first_append_last k)).2 key h

end RadioSetting

/-- What is shown below the headline. -/
def radioConfLines (p : ConfParams) : List ShownLine :=
  RadioSetting.first.map (RadioSetting.line d p) ++
    [⟨"init", printD p.chanPrimaryNum⟩, ⟨"tx", printD p.tx⟩, ⟨"rx", printD p.rx⟩] ++
    RadioSetting.last.map (RadioSetting.line d p)

/-- `nrf_wifi_wlan_fmac_radio_test_conf_disp`. -/
def nrfWifiWlanFmacRadioTestConfDisp (p : ConfParams) : List (List UInt8) :=
  shownFile (radioConfLines d p)

/-- The lines that are settings. To write one of the other three is to start what it names. -/
def radioSettings (p : ConfParams) : List ShownLine :=
  (RadioSetting.first ++ RadioSetting.last).map (RadioSetting.line d p)

/-! ### Writing one line -/

namespace RadioSetting

/-- The flag of a calibration is made that of `x`. -/
def putCalib (calib : PhyCalib) (x y : UInt32) : UInt32 :=
  if CalibOn d calib x then y ||| d.phyCalibFlag calib else y &&& ~~~ d.phyCalibFlag calib

/-- What writing the line that was shown of `p` does to a configuration `r`. -/
def put (p r : ConfParams) : RadioSetting → ConfParams
  | .phyCalib calib => { r with phyCalib := putCalib d calib p.phyCalib r.phyCalib }
  | .heLtf => { r with heLtf := p.heLtf }
  | .heGi => { r with heGi := p.heGi }
  | .txPktTputMode => { r with txPktTputMode := p.txPktTputMode }
  | .txPktSgi => { r with txPktSgi := p.txPktSgi }
  | .txPktPreamble =>
    { r with
      txPktPreamble :=
        if PreambleAllowed d r.txPktTputMode p.txPktPreamble then p.txPktPreamble
        else r.txPktPreamble }
  | .txPktMcs =>
    { r with
      txPktMcs :=
        if r.txPktRate = -1 ∧ checkValidDataRate d r.txPktTputMode r.txPktNss
          (Int64.ofInt p.txPktMcs ||| 0x80).toInt32 = none then p.txPktMcs
        else r.txPktMcs }
  | .txPktRate =>
    { r with
      txPktRate :=
        if checkValidDataRate d r.txPktTputMode r.txPktNss (Int64.ofInt p.txPktRate).toInt32 =
          none then p.txPktRate
        else r.txPktRate }
  | .txPktGap => { r with txPktGapUs := p.txPktGapUs }
  | .txPktNum =>
    { r with
      txPktNum :=
        if -1 ≤ p.txPktNum ∧ p.txPktNum ≠ 0 then p.txPktNum else r.txPktNum }
  | .txPktLen =>
    { r with
      txPktLen :=
        if p.txPktLen ≠ 0 ∧ r.txPktTputMode ≠ d.tputModeMax ∧
          txPktLenError d r.txPktTputMode r.ruTone p.txPktLen = none then p.txPktLen
        else r.txPktLen }
  | .txPower => { r with txPower := p.txPower }
  | .ruTone => { r with ruTone := if p.ruTone ≠ 0 then p.ruTone else r.ruTone }
  | .ruIndex =>
    { r with
      ruIndex :=
        if RuIndexAllowed r.ruTone p.ruIndex then p.ruIndex else r.ruIndex }
  | .rxCaptureLength => { r with captureLength := p.captureLength }
  | .rxLnaGain => { r with lnaGain := p.lnaGain }
  | .rxBbGain => { r with bbGain := p.bbGain }
  -- no frequency is accepted, and the command for the XO value has another name
  | .txToneFreq | .xoVal => r
  | .txPktCw => { r with txPktCw := p.txPktCw }
  | .regDomain =>
    { r with
      countryCode :=
        if p.countryCode.1 ≠ 0 then p.countryCode else r.countryCode }
  | .bypassRegDomain => { r with bypassRegulatory := p.bypassRegulatory }

theorem put_tests (p r : ConfParams) (k : RadioSetting) :
    (k.put d p r).tx = r.tx ∧ (k.put d p r).rx = r.rx := by
  cases k <;> exact ⟨rfl, rfl⟩

end RadioSetting

section Writes

variable {d} {o : Outcomes} {s : RadioState} {name : String} {n : ℕ} {v : ℤ} {r : ConfParams}
  {checks : List (Option ConfError)} {store : ConfParams → ConfParams}

/-- A line is written back. -/
def settingWrite (o : Outcomes) (l : ShownLine) : ConfWrite := ⟨l.setting ++ [10], true, true, o⟩

/-- A name and a value of a few bytes fit into the buffer. -/
theorem radioKey_fits (key : ConfKey) {rest : List UInt8} (hplain : IsPlain rest)
    (hlen : rest.length ≤ 11) :
    0 ∉ cBytes key.str ++ rest ∧ (cBytes key.str ++ rest).length < 499 := by
  have hall : ∀ key ∈ confKeys ++ [.val .bypassRegDomain],
      0 ∉ cBytes key.str ∧ (cBytes key.str).length ≤ 40 := by
    decide +kernel
  obtain ⟨h0, hkey⟩ := hall key (mem_radioKeys key)
  constructor
  · rw [List.mem_append, not_or]
    exact ⟨h0, hplain.not_mem (by simp)⟩
  · rw [List.length_append]
    omega

/-- A setter stores when it reports no error. -/
theorem next_of_setParam {c : Command} (hdo : c.handle d o s.ctx = setParam checks store s.ctx)
    (hpass : (c.handle d o s.ctx).error = none) :
    c.next d o s = ⟨{ s.ctx with confParams := store s.ctx.confParams }, s.fw⟩ := by
  rw [hdo, setParam_error_eq_none] at hpass
  rw [Command.next, hdo, setParam_of_pass hpass]
  rfl

theorem next_of_refused {c : Command} (hdo : c.handle d o s.ctx = setParam checks store s.ctx)
    (hfail : (c.handle d o s.ctx).error ≠ none) : c.next d o s = s := by
  rw [hdo] at hfail
  rw [Command.next, hdo, setParam_of_error hfail, setParam_events]
  rfl

/-- A line with a number that is not negative. -/
theorem radioStep_val (key : ValKey) (hname : cBytes name ++ cBytes "=" = cBytes key.text)
    (hn : IsInt n) : (radioStep d s (settingWrite o ⟨name, printD n⟩)).1 =
      (Command.val key (UInt64.ofNat n)).next d o s := by
  obtain ⟨h0, hlen⟩ := radioKey_fits (.val key) (isPlain_printD n) (length_printD n)
  have hcmd : (ConfWrite.mk (cBytes key.text ++ printD n ++ [10]) true true o).command =
      some (confCommand (cBytes key.text ++ printD n)) := command_concat h0 10 hlen o
  rw [radioStep_fst, settingWrite, setting_eq hname, hcmd, confCommand_val key hn]

theorem radioStep_sval (key : SvalKey) (hname : cBytes name ++ cBytes "=" = cBytes key.text)
    (hv : IsInt v) : (radioStep d s (settingWrite o ⟨name, printD v⟩)).1 =
      (Command.sval key (Int64.ofInt v)).next d o s := by
  obtain ⟨h0, hlen⟩ := radioKey_fits (.sval key) (isPlain_printD v) (length_printD v)
  have hcmd : (ConfWrite.mk (cBytes key.text ++ printD v ++ [10]) true true o).command =
      some (confCommand (cBytes key.text ++ printD v)) := command_concat h0 10 hlen o
  rw [radioStep_fst, settingWrite, setting_eq hname, hcmd, confCommand_sval key hv]

/-- A number that passes the checks of its parameter. -/
theorem radioWrite_val (key : ValKey) (hset : key.isSetter = true)
    (hname : cBytes name ++ cBytes "=" = cBytes key.text) (hn : IsInt n)
    (hpass : key.ChecksPass d s.ctx (UInt64.ofNat n))
    (hdo : key.handle d o s.ctx (UInt64.ofNat n) = setParam checks store s.ctx)
    (hstore : (UInt64.ofNat n).toNat = n → store s.ctx.confParams = r) :
    (radioStep d s (settingWrite o ⟨name, printD n⟩)).1 =
      ⟨{ s.ctx with confParams := r }, s.fw⟩ := by
  rw [radioStep_val key hname hn, ← hstore (toNat_ofNat_of_isInt hn)]
  exact next_of_setParam hdo ((setter_error_eq_none_iff hset _).mpr hpass)

/-- One that does not. -/
theorem radioWrite_val_refused (key : ValKey) (hset : key.isSetter = true)
    (hname : cBytes name ++ cBytes "=" = cBytes key.text) (hn : IsInt n)
    (hfail : ¬ key.ChecksPass d s.ctx (UInt64.ofNat n)) :
    (radioStep d s (settingWrite o ⟨name, printD n⟩)).1 = s := by
  obtain ⟨checks, store, hdo, -⟩ := ValKey.handle_of_isSetter d o s.ctx (UInt64.ofNat n) hset
  rw [radioStep_val key hname hn]
  exact next_of_refused hdo (mt (setter_error_eq_none_iff hset _).mp hfail)

/-- A number that passes the checks under a condition. -/
theorem radioWrite_val_iff (key : ValKey) (hset : key.isSetter = true)
    (hname : cBytes name ++ cBytes "=" = cBytes key.text) (hn : IsInt n) {ok : Prop}
    (hok : key.ChecksPass d s.ctx (UInt64.ofNat n) ↔ ok)
    (hdo : key.handle d o s.ctx (UInt64.ofNat n) = setParam checks store s.ctx)
    (hstore : ok → (UInt64.ofNat n).toNat = n → store s.ctx.confParams = r)
    (hkeep : ¬ ok → s.ctx.confParams = r) :
    (radioStep d s (settingWrite o ⟨name, printD n⟩)).1 =
      ⟨{ s.ctx with confParams := r }, s.fw⟩ := by
  by_cases h : ok
  · exact radioWrite_val key hset hname hn (hok.mpr h) hdo (hstore h)
  · rw [radioWrite_val_refused key hset hname hn (mt hok.mp h), ← hkeep h]

theorem radioWrite_sval_iff (key : SvalKey) (hname : cBytes name ++ cBytes "=" = cBytes key.text)
    (hv : IsInt v) {ok : Prop} (hok : key.ChecksPass d s.ctx (Int64.ofInt v) ↔ ok)
    (hdo : key.handle d s.ctx (Int64.ofInt v) = setParam checks store s.ctx)
    (hstore : ok → store s.ctx.confParams = r) (hkeep : ¬ ok → s.ctx.confParams = r) :
    (radioStep d s (settingWrite o ⟨name, printD v⟩)).1 =
      ⟨{ s.ctx with confParams := r }, s.fw⟩ := by
  have hiff := (sval_error_eq_none_iff key (Int64.ofInt v)).trans hok
  rw [radioStep_sval key hname hv]
  by_cases h : ok
  · rw [← hstore h]
    exact next_of_setParam hdo (hiff.mpr h)
  · rw [← hkeep h]
    exact next_of_refused hdo (mt hiff.mp h)

end Writes

section Settings

open RadioSetting (name_key)

variable {d} {s : RadioState} {p : ConfParams} {n : ℕ}

theorem ofNat_le_iff (hn : IsInt n) {bound : UInt64} :
    UInt64.ofNat n ≤ bound ↔ n ≤ bound.toNat := by
  rw [UInt64.le_iff_toNat_le, toNat_ofNat_of_isInt hn]

theorem ofNat_eq_iff (hn : IsInt n) {val : UInt64} : UInt64.ofNat n = val ↔ n = val.toNat := by
  rw [← UInt64.toNat_inj, toNat_ofNat_of_isInt hn]

theorem calibShown_le (calib : PhyCalib) (p : ConfParams) : calibShown d calib p ≤ 1 := by
  rw [calibShown]
  split_ifs <;> decide

/-- A calibration. -/
theorem radioWrite_calib (hidle : s.ctx.Idle) (o : Outcomes) (calib : PhyCalib) :
    (radioStep d s (settingWrite o (RadioSetting.line d p (.phyCalib calib)))).1 =
      ⟨{ s.ctx with confParams := RadioSetting.put d p s.ctx.confParams (.phyCalib calib) },
        s.fw⟩ := by
  have hint : IsInt (calibShown d calib p) := isInt_natCast (calibShown_le calib p) (by decide)
  have hpass : UInt64.ofNat (calibShown d calib p) ≤ 1 ∧ s.ctx.Idle :=
    ⟨(ofNat_le_iff hint).mpr (calibShown_le calib p), hidle⟩
  have hstore : (if UInt64.ofNat (calibShown d calib p) ≠ 0 then
        s.ctx.confParams.phyCalib ||| d.phyCalibFlag calib
      else s.ctx.confParams.phyCalib &&& ~~~ d.phyCalibFlag calib) =
      RadioSetting.putCalib d calib p.phyCalib s.ctx.confParams.phyCalib := by
    rw [calibShown, RadioSetting.putCalib]
    by_cases hon : CalibOn d calib p.phyCalib
    · rw [if_pos hon, if_pos hon, if_pos (by decide)]
    · rw [if_neg hon, if_neg hon, if_neg (by decide)]
  have hdo : setPhyCalib d calib s.ctx (UInt64.ofNat (calibShown d calib p)) =
      setParam _ _ s.ctx := rfl
  have hput := congrArg (fun x => { s.ctx.confParams with phyCalib := x }) hstore
  cases calib with
  | rxdc =>
    exact radioWrite_val .phyCalibRxdc rfl (name_key d p (.phyCalib .rxdc) rfl) hint hpass hdo
      fun _ => hput
  | txdc =>
    exact radioWrite_val .phyCalibTxdc rfl (name_key d p (.phyCalib .txdc) rfl) hint hpass hdo
      fun _ => hput
  | txpow =>
    exact radioWrite_val .phyCalibTxpow rfl (name_key d p (.phyCalib .txpow) rfl) hint hpass hdo
      fun _ => hput
  | rxiq =>
    exact radioWrite_val .phyCalibRxiq rfl (name_key d p (.phyCalib .rxiq) rfl) hint hpass hdo
      fun _ => hput
  | txiq =>
    exact radioWrite_val .phyCalibTxiq rfl (name_key d p (.phyCalib .txiq) rfl) hint hpass hdo
      fun _ => hput

/-- The windows are stored as they were written. -/
theorem contentionWindow_kept : ∀ n ∈ contentionWindows, n ≤ 1023 ∧
    (UInt64.ofNat n).toInt64 ∈ ([0, 3, 7, 15, 31, 63, 127, 255, 511, 1023] : List Int64) ∧
      (UInt64.ofNat n).toInt64.toInt.toNat = n := by
  decide

theorem isInt_txPktPreamble (hd : d.FieldTypes) (hp : ConfRanges d p) :
    IsInt p.txPktPreamble := by
  have hmem := hp.txPktPreamble
  have hmixed := hd.pktPreambleMixed
  rw [d.pktPreambleShort_eq, d.pktPreambleLong_eq] at hmem
  simp only [List.mem_cons, List.not_mem_nil, or_false] at hmem
  exact ⟨by omega, by omega⟩

theorem isInt_ruTone (hp : ConfRanges d p) : IsInt p.ruTone := by
  have hmem := hp.ruTone
  simp only [List.mem_cons, List.not_mem_nil, or_false] at hmem
  exact ⟨by omega, by omega⟩

/-! #### Settings that are checked against others -/

section Guarded

variable (hidle : s.ctx.Idle) (o : Outcomes)
include hidle

theorem radioWrite_txPktPreamble (hint : IsInt p.txPktPreamble) :
    (radioStep d s (settingWrite o (RadioSetting.line d p .txPktPreamble))).1 =
      ⟨{ s.ctx with confParams := RadioSetting.put d p s.ctx.confParams .txPktPreamble },
        s.fw⟩ := by
  have hok : ValKey.txPktPreamble.ChecksPass d s.ctx (UInt64.ofNat p.txPktPreamble) ↔
      PreambleAllowed d s.ctx.confParams.txPktTputMode p.txPktPreamble := by
    rw [ValKey.ChecksPass, toNat_ofNat_of_isInt hint, and_iff_right hidle]
  refine radioWrite_val_iff .txPktPreamble rfl (name_key d p .txPktPreamble rfl) hint hok
    (rfl : nrfWifiRadioTestSetTxPktPreamble d s.ctx _ = setParam _ _ s.ctx)
    (fun h hval => ?_) fun h => ?_
  · rw [RadioSetting.put, if_pos h, hval]
  · rw [RadioSetting.put, if_neg h]

theorem radioWrite_txPktMcs (hkept : Kept d.txPktMcs p.txPktMcs) :
    (radioStep d s (settingWrite o (RadioSetting.line d p .txPktMcs))).1 =
      ⟨{ s.ctx with confParams := RadioSetting.put d p s.ctx.confParams .txPktMcs }, s.fw⟩ := by
  refine radioWrite_sval_iff .txPktMcs (name_key d p .txPktMcs rfl) hkept.1 (and_iff_right hidle)
    (rfl : nrfWifiRadioTestSetTxPktMcs d s.ctx _ = setParam _ _ s.ctx) (fun h => ?_) fun h => ?_
  · rw [RadioSetting.put, if_pos h, hkept.2]
  · rw [RadioSetting.put, if_neg h]

theorem radioWrite_txPktRate (hkept : Kept d.txPktRate p.txPktRate) (hrate : p.txPktRate ≠ 5) :
    (radioStep d s (settingWrite o (RadioSetting.line d p .txPktRate))).1 =
      ⟨{ s.ctx with confParams := RadioSetting.put d p s.ctx.confParams .txPktRate }, s.fw⟩ := by
  rw [RadioSetting.line, rateShown, if_neg hrate]
  refine radioWrite_sval_iff .txPktRate (name_key d p .txPktRate rfl) hkept.1 (and_iff_right hidle)
    (rfl : nrfWifiRadioTestSetTxPktRate d s.ctx _ = setParam _ _ s.ctx) (fun h => ?_) fun h => ?_
  · rw [RadioSetting.put, if_pos h, hkept.2]
  · rw [RadioSetting.put, if_neg h]

theorem radioWrite_txPktNum (hkept : Kept d.txPktNum p.txPktNum) :
    (radioStep d s (settingWrite o (RadioSetting.line d p .txPktNum))).1 =
      ⟨{ s.ctx with confParams := RadioSetting.put d p s.ctx.confParams .txPktNum }, s.fw⟩ := by
  have hval := toInt_ofInt_of_isInt hkept.1
  have hok : SvalKey.txPktNum.ChecksPass d s.ctx (Int64.ofInt p.txPktNum) ↔
      -1 ≤ p.txPktNum ∧ p.txPktNum ≠ 0 := by
    rw [SvalKey.ChecksPass, and_iff_left hidle, not_or, Int64.lt_iff_toInt_lt, ← Int64.toInt_inj,
      hval]
    exact and_congr Int.not_lt Iff.rfl
  refine radioWrite_sval_iff .txPktNum (name_key d p .txPktNum rfl) hkept.1 hok
    (rfl : nrfWifiRadioTestSetTxPktNum d s.ctx _ = setParam _ _ s.ctx) (fun h => ?_) fun h => ?_
  · rw [RadioSetting.put, if_pos h, hkept.2]
  · rw [RadioSetting.put, if_neg h]

theorem radioWrite_txPktLen
    (hkept : IsInt p.txPktLen ∧ d.txPktLen (UInt64.ofNat p.txPktLen) = p.txPktLen) :
    (radioStep d s (settingWrite o (RadioSetting.line d p .txPktLen))).1 =
      ⟨{ s.ctx with confParams := RadioSetting.put d p s.ctx.confParams .txPktLen }, s.fw⟩ := by
  have hok : ValKey.txPktLen.ChecksPass d s.ctx (UInt64.ofNat p.txPktLen) ↔
      p.txPktLen ≠ 0 ∧ s.ctx.confParams.txPktTputMode ≠ d.tputModeMax ∧
        txPktLenError d s.ctx.confParams.txPktTputMode s.ctx.confParams.ruTone p.txPktLen =
          none := by
    rw [ValKey.ChecksPass, toNat_ofNat_of_isInt hkept.1, Ne, ofNat_eq_iff hkept.1,
      and_iff_left hidle]
    rfl
  refine radioWrite_val_iff .txPktLen rfl (name_key d p .txPktLen rfl) hkept.1 hok
    (rfl : nrfWifiRadioTestSetTxPktLen d s.ctx _ = setParam _ _ s.ctx) (fun h _ => ?_) fun h => ?_
  · rw [RadioSetting.put, if_pos h, hkept.2]
  · rw [RadioSetting.put, if_neg h]

theorem radioWrite_ruTone (hmem : p.ruTone ∈ [0, 26, 52, 106, 242]) :
    (radioStep d s (settingWrite o (RadioSetting.line d p .ruTone))).1 =
      ⟨{ s.ctx with confParams := RadioSetting.put d p s.ctx.confParams .ruTone }, s.fw⟩ := by
  have hall : ∀ n ∈ [0, 26, 52, 106, 242], n ≤ 242 ∧
      (UInt64.ofNat n ∈ ([26, 52, 106, 242] : List UInt64) ↔ n ≠ 0) := by
    decide
  obtain ⟨hle, hiff⟩ := hall _ hmem
  have hok : ValKey.ruTone.ChecksPass d s.ctx (UInt64.ofNat p.ruTone) ↔ p.ruTone ≠ 0 := by
    rw [ValKey.ChecksPass, and_iff_left hidle, hiff]
  refine radioWrite_val_iff .ruTone rfl (name_key d p .ruTone rfl) (isInt_natCast hle (by decide))
    hok (rfl : nrfWifiRadioTestSetRuTone s.ctx _ = setParam _ _ s.ctx) (fun h hval => ?_)
    fun h => ?_
  · rw [RadioSetting.put, if_pos h, hval]
  · rw [RadioSetting.put, if_neg h]

theorem radioWrite_ruIndex (hle : p.ruIndex ≤ 9) :
    (radioStep d s (settingWrite o (RadioSetting.line d p .ruIndex))).1 =
      ⟨{ s.ctx with confParams := RadioSetting.put d p s.ctx.confParams .ruIndex }, s.fw⟩ := by
  have hint : IsInt p.ruIndex := isInt_natCast hle (by decide)
  have hok : ValKey.ruIndex.ChecksPass d s.ctx (UInt64.ofNat p.ruIndex) ↔
      RuIndexAllowed s.ctx.confParams.ruTone p.ruIndex := by
    rw [ValKey.ChecksPass, toNat_ofNat_of_isInt hint, and_iff_left hidle]
  refine radioWrite_val_iff .ruIndex rfl (name_key d p .ruIndex rfl) hint hok
    (rfl : nrfWifiRadioTestSetRuIndex s.ctx _ = setParam _ _ s.ctx) (fun h hval => ?_) fun h => ?_
  · rw [RadioSetting.put, if_pos h, hval]
  · rw [RadioSetting.put, if_neg h]

end Guarded

/-! #### Settings that are not numbers or have no command -/

/-- No frequency is accepted. -/
theorem radioWrite_txToneFreq (htone : p.txToneFreq = 0) (o : Outcomes) :
    (radioStep d s (settingWrite o (RadioSetting.line d p .txToneFreq))).1 = s := by
  have hzero : p.txToneFreq = (0 : ℕ) := htone
  rw [RadioSetting.line, hzero]
  exact radioWrite_val_refused .txToneFreq rfl (name_key d p .txToneFreq rfl) (by decide) not_false

/-- A name that is none of the numeric parameters, with a value. -/
theorem numeric_foreign {name rest : List UInt8} (hname : 61 ∉ name ∧ 10 ∉ name)
    (hkeys : ∀ key ∈ confKeys ++ [.val .bypassRegDomain], ¬ cBytes key.str <:+ name ++ [61])
    (hplain : IsPlain rest) : radioKeys.numeric (name ++ 61 :: rest) = none := by
  refine numeric_eq_none_of_not_suffix hname.1 (hplain.not_mem (by simp)) ?_ fun k =>
    hkeys k (mem_radioKeys k)
  rw [List.mem_append, List.mem_cons, not_or, not_or]
  exact ⟨hname.2, by decide, hplain.not_mem (by simp)⟩

/-- `xo_val` is no parameter. The XO value is set by `set_xo_val`. -/
theorem confCommand_xoVal {rest : List UInt8} (hplain : IsPlain rest) :
    confCommand (cBytes "xo_val=" ++ rest) = .unknown (cBytes "xo_val=" ++ rest) := by
  obtain ⟨htext, hname, hkeys, hset, hreg, hlast⟩ :
      cBytes "xo_val=" = cBytes "xo_val" ++ [61] ∧
      (61 ∉ cBytes "xo_val" ∧ 10 ∉ cBytes "xo_val") ∧
      (∀ key ∈ confKeys ++ [.val .bypassRegDomain], ¬ cBytes key.str <:+ cBytes "xo_val" ++ [61]) ∧
      ¬ cBytes "set_defaults" <:+: cBytes "xo_val=" ∧
      ¬ cBytes "reg_domain=" <:+: cBytes "xo_val=" ∧
      (cBytes "reg_domain=").getLast? = some 61 := by
    decide +kernel
  refine confCommand_unknown (not_hasSetDefaults_append hset (hplain.not_mem (by simp))) ?_
    (not_infix_append hlast hreg (hplain.not_mem (by simp)))
  rw [htext, List.append_assoc, List.singleton_append]
  exact numeric_foreign hname hkeys hplain

theorem radioWrite_xoVal (o : Outcomes) :
    (radioStep d s (settingWrite o (RadioSetting.line d p .xoVal))).1 = s := by
  obtain ⟨hname, hzero, hlen⟩ : cBytes "xo_val" ++ cBytes "=" = cBytes "xo_val=" ∧
      0 ∉ cBytes "xo_val=" ∧ (cBytes "xo_val=").length = 7 := by
    decide +kernel
  have hplain := isPlain_printD (p.rfParams d.xoFreqByteOffset).toNat
  have hlen' := length_printD (p.rfParams d.xoFreqByteOffset).toNat
  rw [settingWrite, RadioSetting.line, setting_eq hname]
  generalize printD (p.rfParams d.xoFreqByteOffset).toNat = rest at hplain hlen'
  have h0 : 0 ∉ cBytes "xo_val=" ++ rest := by
    rw [List.mem_append, not_or]
    exact ⟨hzero, hplain.not_mem (by simp)⟩
  have hfits : (cBytes "xo_val=" ++ rest).length < 499 := by
    rw [List.length_append]
    omega
  rw [radioStep_fst, command_concat h0 10 hfits, confCommand_xoVal hplain]
  rfl

theorem eq_of_runs {c c' : Command} (h : c.runs = some c') : c = c' := by
  cases c with
  | bypassInvalid | unknown => exact absurd h (by simp [Command.runs])
  | _ => exact Option.some.inj h

/-- What comes after `reg_domain=` is the domain. -/
theorem confCommand_regDomain {rest : List UInt8} (hplain : IsPlain rest) :
    confCommand (cBytes "reg_domain=" ++ rest) = .regDomain rest := by
  obtain ⟨htext, hname, hkeys, hset, hbypass, hlast⟩ :
      cBytes "reg_domain=" = cBytes "reg_domain" ++ [61] ∧
      (61 ∉ cBytes "reg_domain" ∧ 10 ∉ cBytes "reg_domain") ∧
      (∀ key ∈ confKeys ++ [.val .bypassRegDomain],
        ¬ cBytes key.str <:+ cBytes "reg_domain" ++ [61]) ∧
      ¬ cBytes "set_defaults" <:+: cBytes "reg_domain=" ∧
      ¬ cBytes "bypass" <:+: cBytes "reg_domain=" ∧ (cBytes "bypass").getLast? = some 115 := by
    decide +kernel
  have hsplit : cBytes "reg_domain=" ++ rest = cBytes "reg_domain" ++ 61 :: rest := by
    rw [htext, List.append_assoc, List.singleton_append]
  have hnum : radioKeys.numeric (cBytes "reg_domain=" ++ rest) = none := by
    rw [hsplit]
    exact numeric_foreign hname hkeys hplain
  have hafter : afterEquals (cBytes "reg_domain=" ++ rest) = rest := by
    rw [hsplit, afterEquals_append hname.1]
  have hnames : NamesRegDomain (cBytes "reg_domain=" ++ rest) :=
    ⟨(List.prefix_append _ _).isInfix, not_infix_append hlast hbypass (hplain.not_mem (by simp))⟩
  refine eq_of_runs ?_
  rw [runs_of_none (not_hasSetDefaults_append hset (hplain.not_mem (by simp))) hnum,
    if_pos hnames, hafter]

/-- A capital letter or a zero. -/
theorem isPlain_regDomain {a b : UInt8} (h : RegDomain a b) : IsPlain [a, b] := by
  have hbyte : ∀ c : UInt8, (65 ≤ c ∧ c ≤ 90) ∨ c = 48 → c ∉ ([0, 10, 61, 115] : List UInt8) :=
    fun c => @forall_byte (fun c => (65 ≤ c ∧ c ≤ 90) ∨ c = 48 →
      c ∉ ([0, 10, 61, 115] : List UInt8)) (by decide +kernel) c
  intro c hc
  rw [List.mem_cons, List.mem_singleton] at hc
  refine hbyte c ?_
  rcases h with ⟨ha, hb⟩ | ⟨ha, hb⟩ <;> rcases hc with rfl | rfl
  · exact .inl ha
  · exact .inl hb
  · exact .inr ha
  · exact .inr hb

theorem cString_append_zero {t : List UInt8} (h0 : 0 ∉ t) (rest : List UInt8) :
    cString (t ++ 0 :: rest) = t := by
  rw [cString, List.takeWhile_append_of_pos]
  · simp
  · intro c hc
    simpa using fun h : c = 0 => h0 (h ▸ hc)

/-- The country code is stored also when a test is in progress. -/
theorem radioWrite_regDomain (hcc : CountryCodeAllowed p.countryCode) (o : Outcomes) :
    (radioStep d s (settingWrite o (RadioSetting.line d p .regDomain))).1 =
      ⟨{ s.ctx with confParams := RadioSetting.put d p s.ctx.confParams .regDomain }, s.fw⟩ := by
  obtain ⟨hname, hkey⟩ : cBytes "reg_domain" ++ cBytes "=" = cBytes "reg_domain=" ∧
      0 ∉ cBytes "reg_domain=" ∧ (cBytes "reg_domain=").length = 11 := by
    decide +kernel
  rw [settingWrite, RadioSetting.line, setting_eq hname, radioStep_fst, command_concat_cString 10]
  swap
  · rw [List.length_append, hkey.2]
    exact (by decide : 11 + 2 < 499)
  rcases Classical.em (p.countryCode.1 = 0) with hzero | hne
  · have hcmd := confCommand_regDomain isPlain_nil
    rw [List.append_nil] at hcmd
    rw [hzero, cString_append_zero hkey.1, hcmd, RadioSetting.put,
      if_neg (fun h => h hzero : ¬ p.countryCode.1 ≠ 0)]
    rfl
  · have hreg := hcc.resolve_left hne
    have hplain := isPlain_regDomain hreg
    have h0 : 0 ∉ cBytes "reg_domain=" ++ [p.countryCode.1, p.countryCode.2] := by
      rw [List.mem_append, not_or]
      exact ⟨hkey.1, hplain.not_mem (by simp)⟩
    rw [cString_eq_self h0, confCommand_regDomain hplain]
    rcases setRegDomain_cases o s.ctx [p.countryCode.1, p.countryCode.2] with
      ⟨hnot, -⟩ | ⟨a, b, heq, -, hstate, -, hfw⟩
    · exact absurd hreg (hnot _ _ rfl)
    · obtain ⟨rfl, rfl⟩ : p.countryCode.1 = a ∧ p.countryCode.2 = b := by simpa using heq
      show RadioState.mk (nrfWifiRadioTestSetRegDomain o s.ctx _).state _ = _
      rw [hstate, RadioSetting.put, if_pos hne]
      exact congrArg _ (hfw s.fw)

/-- A setting that is stored as it was shown. -/
theorem radioWrite_setting (hd : d.FieldTypes) (hp : ConfRanges d p) (ht : ConfTypes d p)
    (hidle : s.ctx.Idle) (o : Outcomes) (k : RadioSetting) :
    (radioStep d s (settingWrite o (k.line d p))).1 =
      ⟨{ s.ctx with confParams := k.put d p s.ctx.confParams }, s.fw⟩ := by
  cases k with
  | phyCalib calib => exact radioWrite_calib hidle o calib
  | heLtf =>
    have hint : IsInt p.heLtf := isInt_natCast hp.heLtf (by decide)
    have hpass : UInt64.ofNat p.heLtf ≤ 2 := (ofNat_le_iff hint).mpr hp.heLtf
    refine radioWrite_val .heLtf rfl (name_key d p .heLtf rfl) hint hpass
      (rfl : nrfWifiRadioTestSetHeLtf s.ctx _ = setParam _ _ s.ctx) fun hval => ?_
    rw [hval]
    rfl
  | heGi =>
    have hint : IsInt p.heGi := isInt_natCast hp.heGi (by decide)
    have hpass : UInt64.ofNat p.heGi ≤ 2 := (ofNat_le_iff hint).mpr hp.heGi
    refine radioWrite_val .heGi rfl (name_key d p .heGi rfl) hint hpass
      (rfl : nrfWifiRadioTestSetHeGi s.ctx _ = setParam _ _ s.ctx) fun hval => ?_
    rw [hval]
    rfl
  | txPktTputMode =>
    have hint : IsInt p.txPktTputMode := isInt_natCast hp.txPktTputMode.le hd.tputModeMax
    have hpass : (UInt64.ofNat p.txPktTputMode).toNat < d.tputModeMax ∧ s.ctx.Idle := by
      rw [toNat_ofNat_of_isInt hint]
      exact ⟨hp.txPktTputMode, hidle⟩
    refine radioWrite_val .txPktTputMode rfl (name_key d p .txPktTputMode rfl) hint hpass
      (rfl : nrfWifiRadioTestSetTxPktTputMode d s.ctx _ = setParam _ _ s.ctx) fun hval => ?_
    rw [hval]
    rfl
  | txPktSgi =>
    have hint : IsInt p.txPktSgi := isInt_natCast hp.txPktSgi (by decide)
    have hpass : UInt64.ofNat p.txPktSgi ≤ 1 := (ofNat_le_iff hint).mpr hp.txPktSgi
    refine radioWrite_val .txPktSgi rfl (name_key d p .txPktSgi rfl) hint hpass
      (rfl : nrfWifiRadioTestSetTxPktSgi s.ctx _ = setParam _ _ s.ctx) fun hval => ?_
    rw [hval]
    rfl
  | txPktGap =>
    have hint : IsInt p.txPktGapUs := isInt_natCast hp.txPktGapUs (by decide)
    have hpass : UInt64.ofNat p.txPktGapUs ≤ 200000 ∧ s.ctx.Idle :=
      ⟨(ofNat_le_iff hint).mpr hp.txPktGapUs, hidle⟩
    refine radioWrite_val .txPktGap rfl (name_key d p .txPktGap rfl) hint hpass
      (rfl : nrfWifiRadioTestSetTxPktGap s.ctx _ = setParam _ _ s.ctx) fun hval => ?_
    rw [hval]
    rfl
  | txPower =>
    have hint : IsInt p.txPower := by
      have hradio := hd.maxTxPwrRadioTest
      have hsys := hd.maxTxPwrSysTest
      rcases hp.txPower with h | h <;> exact ⟨by omega, by omega⟩
    have hpass : ((UInt64.ofNat p.txPower).toNat ≤ d.maxTxPwrRadioTest ∨
        (UInt64.ofNat p.txPower).toNat = d.maxTxPwrSysTest) ∧ s.ctx.Idle := by
      rw [toNat_ofNat_of_isInt hint]
      exact ⟨hp.txPower, hidle⟩
    refine radioWrite_val .txPower rfl (name_key d p .txPower rfl) hint hpass
      (rfl : nrfWifiRadioTestSetTxPower d s.ctx _ = setParam _ _ s.ctx) fun hval => ?_
    rw [hval]
    rfl
  | rxCaptureLength =>
    have hint : IsInt p.captureLength := isInt_natCast hp.captureLength.le (by decide)
    have hpass : UInt64.ofNat p.captureLength < 16384 ∧ s.ctx.Idle := by
      rw [UInt64.lt_iff_toNat_lt, toNat_ofNat_of_isInt hint]
      exact ⟨hp.captureLength, hidle⟩
    refine radioWrite_val .rxCaptureLength rfl (name_key d p .rxCaptureLength rfl) hint hpass
      (rfl : nrfWifiRadioTestSetRxCaptureLength s.ctx _ = setParam _ _ s.ctx) fun hval => ?_
    rw [hval]
    rfl
  | rxLnaGain =>
    have hint : IsInt p.lnaGain := isInt_natCast hp.lnaGain (by decide)
    have hpass : UInt64.ofNat p.lnaGain ≤ 4 ∧ s.ctx.Idle :=
      ⟨(ofNat_le_iff hint).mpr hp.lnaGain, hidle⟩
    refine radioWrite_val .rxLnaGain rfl (name_key d p .rxLnaGain rfl) hint hpass
      (rfl : nrfWifiRadioTestSetRxLnaGain s.ctx _ = setParam _ _ s.ctx) fun hval => ?_
    rw [hval]
    rfl
  | rxBbGain =>
    have hint : IsInt p.bbGain := isInt_natCast hp.bbGain (by decide)
    have hpass : UInt64.ofNat p.bbGain ≤ 31 ∧ s.ctx.Idle :=
      ⟨(ofNat_le_iff hint).mpr hp.bbGain, hidle⟩
    refine radioWrite_val .rxBbGain rfl (name_key d p .rxBbGain rfl) hint hpass
      (rfl : nrfWifiRadioTestSetRxBbGain s.ctx _ = setParam _ _ s.ctx) fun hval => ?_
    rw [hval]
    rfl
  | bypassRegDomain =>
    have hint : IsInt p.bypassRegulatory := isInt_natCast hp.bypassRegulatory (by decide)
    have hpass : UInt64.ofNat p.bypassRegulatory ≤ 1 ∧ s.ctx.Idle :=
      ⟨(ofNat_le_iff hint).mpr hp.bypassRegulatory, hidle⟩
    refine radioWrite_val .bypassRegDomain rfl (name_key d p .bypassRegDomain rfl) hint hpass
      (rfl : nrfWifiRadioTestSetBypassReg s.ctx _ = setParam _ _ s.ctx) fun hval => ?_
    rw [hval]
    rfl
  | txPktCw =>
    obtain ⟨hle, hmem, hkept⟩ := contentionWindow_kept _ hp.txPktCw
    have hint : IsInt p.txPktCw := isInt_natCast hle (by decide)
    refine radioWrite_val .txPktCw rfl (name_key d p .txPktCw rfl) hint ⟨hmem, hidle⟩
      (rfl : nrfWifiRadioTestSetTxPktCw s.ctx _ = setParam _ _ s.ctx) fun _ => ?_
    rw [hkept]
    rfl
  | txPktPreamble => exact radioWrite_txPktPreamble hidle o (isInt_txPktPreamble hd hp)
  | txPktMcs => exact radioWrite_txPktMcs hidle o ht.txPktMcs
  | txPktRate => exact radioWrite_txPktRate hidle o ht.txPktRate ht.rate
  | txPktNum => exact radioWrite_txPktNum hidle o ht.txPktNum
  | txPktLen => exact radioWrite_txPktLen hidle o ht.txPktLen
  | ruTone => exact radioWrite_ruTone hidle o hp.ruTone
  | ruIndex => exact radioWrite_ruIndex hidle o hp.ruIndex
  | txToneFreq => exact radioWrite_txToneFreq ht.tone o
  | xoVal => exact radioWrite_xoVal o
  | regDomain => exact radioWrite_regDomain hp.countryCode o

end Settings

/-! ### Writing all of them -/

/-- The lines are written back, one after another. `o` is what the calls of each write are told. -/
def radioWriteBack (o : String → Outcomes) (ls : List ShownLine) (s : RadioState) : RadioState :=
  runWrites d s (ls.map fun l => settingWrite (o l.name) l)

section Restore

variable {d} {s : RadioState} {p q : ConfParams}

/-- **Lines of settings, one after another**, from a state with no test in progress. -/
theorem radioWriteBack_map (hd : d.FieldTypes) (hp : ConfRanges d p) (ht : ConfTypes d p)
    (hidle : s.ctx.Idle) (o : String → Outcomes) (ks : List RadioSetting) :
    radioWriteBack d o (ks.map (RadioSetting.line d p)) s =
      ⟨{ s.ctx with confParams := ks.foldl (fun r k => k.put d p r) s.ctx.confParams }, s.fw⟩ := by
  induction ks generalizing s with
  | nil => rfl
  | cons k ks ih =>
    have hk := radioWrite_setting hd hp ht hidle (o (k.line d p).name) k
    have htests := RadioSetting.put_tests d p s.ctx.confParams k
    have hidle' : RadioCtx.Idle { s.ctx with confParams := k.put d p s.ctx.confParams } :=
      ⟨htests.2.trans hidle.1, htests.1.trans hidle.2⟩
    show radioWriteBack d o _ (radioStep d s _).1 = _
    rw [hk, ih hidle']
    rfl

/-! #### What is restored -/

variable (d p q) in
/-- What writing all the settings of `p` back makes of `q`. -/
def restored : ConfParams :=
  { q with
    phyCalib := [.rxdc, .txdc, .txpow, .rxiq, .txiq].foldl
      (fun y calib => RadioSetting.putCalib d calib p.phyCalib y) q.phyCalib
    heLtf := p.heLtf
    heGi := p.heGi
    txPktTputMode := p.txPktTputMode
    txPktSgi := p.txPktSgi
    txPktPreamble :=
      if PreambleAllowed d p.txPktTputMode p.txPktPreamble then p.txPktPreamble
      else q.txPktPreamble
    -- the rate is written after the MCS
    txPktMcs :=
      if q.txPktRate = -1 ∧ checkValidDataRate d p.txPktTputMode q.txPktNss
        (Int64.ofInt p.txPktMcs ||| 0x80).toInt32 = none then p.txPktMcs
      else q.txPktMcs
    txPktRate :=
      if checkValidDataRate d p.txPktTputMode q.txPktNss (Int64.ofInt p.txPktRate).toInt32 =
        none then p.txPktRate
      else q.txPktRate
    txPktGapUs := p.txPktGapUs
    txPktNum := if -1 ≤ p.txPktNum ∧ p.txPktNum ≠ 0 then p.txPktNum else q.txPktNum
    -- the RU tone is written after the length, and before its index
    txPktLen :=
      if p.txPktLen ≠ 0 ∧ p.txPktTputMode ≠ d.tputModeMax ∧
        txPktLenError d p.txPktTputMode q.ruTone p.txPktLen = none then p.txPktLen
      else q.txPktLen
    txPower := p.txPower
    ruTone := if p.ruTone ≠ 0 then p.ruTone else q.ruTone
    ruIndex :=
      if RuIndexAllowed (if p.ruTone ≠ 0 then p.ruTone else q.ruTone) p.ruIndex then p.ruIndex
      else q.ruIndex
    captureLength := p.captureLength
    lnaGain := p.lnaGain
    bbGain := p.bbGain
    txPktCw := p.txPktCw
    countryCode := if p.countryCode.1 ≠ 0 then p.countryCode else q.countryCode
    bypassRegulatory := p.bypassRegulatory }

theorem foldl_put :
    (RadioSetting.first ++ RadioSetting.last).foldl (fun r k => k.put d p r) q =
      restored d p q := by
  simp only [restored, RadioSetting.first, RadioSetting.last, List.cons_append, List.nil_append,
    List.foldl_cons, List.foldl_nil, RadioSetting.put]

theorem calibOn_putCalib_self (hflags : d.CalibFlags) (calib : PhyCalib) (x y : UInt32) :
    CalibOn d calib (RadioSetting.putCalib d calib x y) ↔ CalibOn d calib x := by
  rw [RadioSetting.putCalib]
  split_ifs with h
  · refine iff_of_true ?_ h
    rw [CalibOn, or_and_self]
    exact hflags.ne_zero calib
  · refine iff_of_false ?_ h
    rw [CalibOn, and_not_and_self]
    exact fun hne => hne rfl

theorem calibOn_putCalib_of_ne (hflags : d.CalibFlags) {calib calib' : PhyCalib}
    (hne : calib' ≠ calib) (x y : UInt32) :
    CalibOn d calib (RadioSetting.putCalib d calib' x y) ↔ CalibOn d calib y := by
  have hdisjoint := hflags.disjoint calib' calib hne
  rw [RadioSetting.putCalib]
  split_ifs
  · rw [CalibOn, or_and_of_disjoint hdisjoint, CalibOn]
  · rw [CalibOn, and_not_and_of_disjoint hdisjoint, CalibOn]

/-- Every calibration comes back. -/
theorem calibOn_restored (hflags : d.CalibFlags) (calib : PhyCalib) :
    CalibOn d calib (restored d p q).phyCalib ↔ CalibOn d calib p.phyCalib := by
  have heq : (restored d p q).phyCalib =
      [.rxdc, .txdc, .txpow, .rxiq, .txiq].foldl
        (fun y calib => RadioSetting.putCalib d calib p.phyCalib y) q.phyCalib := rfl
  rw [heq]
  cases calib <;>
    simp [calibOn_putCalib_self hflags, calibOn_putCalib_of_ne hflags]

theorem printD_ite_iff {c : Prop} [Decidable c] {a b : ℤ} (ha : IsInt a) (hb : IsInt b) :
    printD (if c then a else b) = printD a ↔ c ∨ b = a := by
  by_cases hc : c
  · simp [hc]
  · rw [if_neg hc, printD_inj hb ha, or_iff_right hc]

/-- What the checks let through of the configuration `p`, for a device in `q`. -/
structure RadioRestorable (d : Nrfxlib) (q p : ConfParams) : Prop where
  txPktPreamble : PreambleAllowed d p.txPktTputMode p.txPktPreamble ∨
    q.txPktPreamble = p.txPktPreamble
  /-- The MCS is written while the rate is still the old one. -/
  txPktMcs : (q.txPktRate = -1 ∧ checkValidDataRate d p.txPktTputMode q.txPktNss
    (Int64.ofInt p.txPktMcs ||| 0x80).toInt32 = none) ∨ q.txPktMcs = p.txPktMcs
  txPktRate : checkValidDataRate d p.txPktTputMode q.txPktNss
    (Int64.ofInt p.txPktRate).toInt32 = none ∨ q.txPktRate = p.txPktRate
  txPktNum : (-1 ≤ p.txPktNum ∧ p.txPktNum ≠ 0) ∨ q.txPktNum = p.txPktNum
  /-- The length is checked against the old RU tone. -/
  txPktLen : (p.txPktLen ≠ 0 ∧ txPktLenError d p.txPktTputMode q.ruTone p.txPktLen = none) ∨
    q.txPktLen = p.txPktLen
  ruTone : p.ruTone ≠ 0 ∨ q.ruTone = p.ruTone
  ruIndex : RuIndexAllowed p.ruTone p.ruIndex ∨ q.ruIndex = p.ruIndex
  /-- The XO value has no command of the name it is shown under. -/
  xoVal : q.rfParams d.xoFreqByteOffset = p.rfParams d.xoFreqByteOffset
  regDomain : p.countryCode.1 ≠ 0 ∨ q.countryCode = p.countryCode

/-! #### Line by line -/

section Lines

theorem line_txPktPreamble_iff (hp : IsInt p.txPktPreamble) (hq : IsInt q.txPktPreamble) :
    RadioSetting.line d (restored d p q) .txPktPreamble = RadioSetting.line d p .txPktPreamble ↔
      PreambleAllowed d p.txPktTputMode p.txPktPreamble ∨ q.txPktPreamble = p.txPktPreamble := by
  rw [RadioSetting.line, RadioSetting.line, ShownLine.mk.injEq, and_iff_right rfl, restored,
    Nat.cast_ite, printD_ite_iff hp hq, Nat.cast_inj]

theorem line_txPktMcs_iff (hp : IsInt p.txPktMcs) (hq : IsInt q.txPktMcs) :
    RadioSetting.line d (restored d p q) .txPktMcs = RadioSetting.line d p .txPktMcs ↔
      (q.txPktRate = -1 ∧ checkValidDataRate d p.txPktTputMode q.txPktNss
        (Int64.ofInt p.txPktMcs ||| 0x80).toInt32 = none) ∨ q.txPktMcs = p.txPktMcs := by
  rw [RadioSetting.line, RadioSetting.line, ShownLine.mk.injEq, and_iff_right rfl, restored,
    printD_ite_iff hp hq]

theorem line_txPktRate_iff (hp : IsInt p.txPktRate) (hq : IsInt q.txPktRate)
    (hp5 : p.txPktRate ≠ 5) (hq5 : q.txPktRate ≠ 5) :
    RadioSetting.line d (restored d p q) .txPktRate = RadioSetting.line d p .txPktRate ↔
      checkValidDataRate d p.txPktTputMode q.txPktNss (Int64.ofInt p.txPktRate).toInt32 = none ∨
        q.txPktRate = p.txPktRate := by
  have hne : (restored d p q).txPktRate ≠ 5 := by
    show (if _ then p.txPktRate else q.txPktRate) ≠ 5
    split
    · exact hp5
    · exact hq5
  rw [RadioSetting.line, RadioSetting.line, ShownLine.mk.injEq, and_iff_right rfl, rateShown,
    if_neg hne, rateShown, if_neg hp5, restored, printD_ite_iff hp hq]

theorem line_txPktNum_iff (hp : IsInt p.txPktNum) (hq : IsInt q.txPktNum) :
    RadioSetting.line d (restored d p q) .txPktNum = RadioSetting.line d p .txPktNum ↔
      (-1 ≤ p.txPktNum ∧ p.txPktNum ≠ 0) ∨ q.txPktNum = p.txPktNum := by
  rw [RadioSetting.line, RadioSetting.line, ShownLine.mk.injEq, and_iff_right rfl, restored,
    printD_ite_iff hp hq]

theorem line_txPktLen_iff (hp : IsInt p.txPktLen) (hq : IsInt q.txPktLen)
    (hmode : p.txPktTputMode ≠ d.tputModeMax) :
    RadioSetting.line d (restored d p q) .txPktLen = RadioSetting.line d p .txPktLen ↔
      (p.txPktLen ≠ 0 ∧ txPktLenError d p.txPktTputMode q.ruTone p.txPktLen = none) ∨
        q.txPktLen = p.txPktLen := by
  rw [RadioSetting.line, RadioSetting.line, ShownLine.mk.injEq, and_iff_right rfl, restored,
    Nat.cast_ite, printD_ite_iff hp hq, Nat.cast_inj, and_iff_right hmode]

theorem line_ruTone_iff (hp : IsInt p.ruTone) (hq : IsInt q.ruTone) :
    RadioSetting.line d (restored d p q) .ruTone = RadioSetting.line d p .ruTone ↔
      p.ruTone ≠ 0 ∨ q.ruTone = p.ruTone := by
  rw [RadioSetting.line, RadioSetting.line, ShownLine.mk.injEq, and_iff_right rfl, restored,
    Nat.cast_ite, printD_ite_iff hp hq, Nat.cast_inj]

/-- Once the RU tone has come back. -/
theorem line_ruIndex_iff (hp : IsInt p.ruIndex) (hq : IsInt q.ruIndex)
    (htone : p.ruTone ≠ 0 ∨ q.ruTone = p.ruTone) :
    RadioSetting.line d (restored d p q) .ruIndex = RadioSetting.line d p .ruIndex ↔
      RuIndexAllowed p.ruTone p.ruIndex ∨ q.ruIndex = p.ruIndex := by
  have hsame : (if p.ruTone ≠ 0 then p.ruTone else q.ruTone) = p.ruTone := by
    split_ifs with h
    · rfl
    · exact htone.resolve_left h
  rw [RadioSetting.line, RadioSetting.line, ShownLine.mk.injEq, and_iff_right rfl, restored,
    Nat.cast_ite, printD_ite_iff hp hq, Nat.cast_inj, hsame]

theorem line_xoVal_iff :
    RadioSetting.line d (restored d p q) .xoVal = RadioSetting.line d p .xoVal ↔
      q.rfParams d.xoFreqByteOffset = p.rfParams d.xoFreqByteOffset := by
  have hint : ∀ x : UInt8, IsInt x.toNat := fun x =>
    isInt_natCast (Nat.le_of_lt x.toNat_lt) (by decide)
  rw [RadioSetting.line, RadioSetting.line, ShownLine.mk.injEq, and_iff_right rfl, restored,
    printD_inj (hint _) (hint _), Nat.cast_inj, UInt8.toNat_inj]

theorem line_regDomain_iff :
    RadioSetting.line d (restored d p q) .regDomain = RadioSetting.line d p .regDomain ↔
      p.countryCode.1 ≠ 0 ∨ q.countryCode = p.countryCode := by
  have hpair : ∀ x y : UInt8 × UInt8, ([x.1, x.2] = [y.1, y.2] ↔ x = y) := fun x y => by
    simp [Prod.ext_iff]
  rw [RadioSetting.line, RadioSetting.line, ShownLine.mk.injEq, and_iff_right rfl, hpair, restored]
  by_cases hne : p.countryCode.1 ≠ 0
  · simp [hne]
  · rw [if_neg hne, or_iff_right hne]

/-- The other settings always come back. -/
theorem line_phyCalib (hflags : d.CalibFlags) (calib : PhyCalib) :
    RadioSetting.line d (restored d p q) (.phyCalib calib) =
      RadioSetting.line d p (.phyCalib calib) := by
  have hshown : calibShown d calib (restored d p q) = calibShown d calib p := by
    rw [calibShown, calibShown]
    exact if_congr (calibOn_restored hflags calib) rfl rfl
  cases calib <;> rw [RadioSetting.line, RadioSetting.line, hshown]

end Lines

/-- **What comes back.** -/
theorem radioSettings_restored_iff (hd : d.FieldTypes) (hflags : d.CalibFlags)
    (hp : ConfRanges d p) (htp : ConfTypes d p) (hq : ConfRanges d q) (htq : ConfTypes d q) :
    radioSettings d (restored d p q) = radioSettings d p ↔ RadioRestorable d q p := by
  have hpreamble := line_txPktPreamble_iff (d := d) (isInt_txPktPreamble hd hp)
    (isInt_txPktPreamble hd hq)
  have hmcs := line_txPktMcs_iff (d := d) htp.txPktMcs.1 htq.txPktMcs.1
  have hrate := line_txPktRate_iff (d := d) htp.txPktRate.1 htq.txPktRate.1 htp.rate htq.rate
  have hnum := line_txPktNum_iff (d := d) htp.txPktNum.1 htq.txPktNum.1
  have hlen := line_txPktLen_iff htp.txPktLen.1 htq.txPktLen.1 hp.txPktTputMode.ne
  have htone := line_ruTone_iff (d := d) (isInt_ruTone hp) (isInt_ruTone hq)
  have hindex := line_ruIndex_iff (d := d) (isInt_natCast hp.ruIndex (by decide))
    (isInt_natCast hq.ruIndex (by decide))
  rw [radioSettings, radioSettings, List.map_inj_left]
  constructor
  · intro h
    have hk := fun k => h k (RadioSetting.mem_first_append_last k)
    have htone' := htone.mp (hk .ruTone)
    exact ⟨hpreamble.mp (hk _), hmcs.mp (hk _), hrate.mp (hk _), hnum.mp (hk _), hlen.mp (hk _),
      htone', (hindex htone').mp (hk _), line_xoVal_iff.mp (hk _), line_regDomain_iff.mp (hk _)⟩
  · intro h k _
    cases k with
    | phyCalib calib => exact line_phyCalib hflags calib
    | txPktPreamble => exact hpreamble.mpr h.txPktPreamble
    | txPktMcs => exact hmcs.mpr h.txPktMcs
    | txPktRate => exact hrate.mpr h.txPktRate
    | txPktNum => exact hnum.mpr h.txPktNum
    | txPktLen => exact hlen.mpr h.txPktLen
    | ruTone => exact htone.mpr h.ruTone
    | ruIndex => exact (hindex h.ruTone).mpr h.ruIndex
    | xoVal => exact line_xoVal_iff.mpr h.xoVal
    | regDomain => exact line_regDomain_iff.mpr h.regDomain
    | txToneFreq =>
      -- a frequency is always zero
      rw [RadioSetting.line, RadioSetting.line, restored, htq.tone, htp.tone]
    | _ => rfl

/-! ### Lines as they are shown -/

/-- A line with a number. -/
theorem proper_line (hcc : CountryCodeAllowed p.countryCode) (k : RadioSetting)
    (hk : k = .regDomain → p.countryCode.1 ≠ 0) : (k.line d p).Proper := by
  have hname := RadioSetting.isName_line d p k
  cases k with
  | phyCalib calib => cases calib <;> exact proper_printD hname _
  | txPktRate =>
    rw [RadioSetting.line, rateShown] at *
    split_ifs
    · exact ⟨hname, by decide +kernel, by decide +kernel⟩
    · exact proper_printD hname _
  | regDomain =>
    exact ⟨hname, isPlain_regDomain (hcc.resolve_left (hk rfl)), (by decide : 2 ≤ 11)⟩
  | _ => exact proper_printD hname _

/-- A line is written as it was shown. -/
def shownWrite (o : Outcomes) (line : List UInt8) : ConfWrite := ⟨line ++ [10], true, true, o⟩

/-- A write that names no parameter fails. -/
theorem radioConfWrite_unknown {w : ConfWrite} {buf : List UInt8}
    (h : w.command = some (.unknown buf)) (ctx : RadioCtx) :
    (nrfWifiWlanFmacRadioTestConfWrite d ctx w).1 = ctx ∧
      (nrfWifiWlanFmacRadioTestConfWrite d ctx w).2.2 = Errno.ret .efault := by
  rw [nrfWifiWlanFmacRadioTestConfWrite, h]
  exact ⟨rfl, rfl⟩

theorem shownWrite_command {l : ShownLine} (h : l.Proper) (o : Outcomes) :
    (shownWrite o l.shown).command = some (.unknown l.shown) := by
  obtain ⟨h0, hlen⟩ := shown_fits h
  rw [shownWrite, command_concat h0 10 hlen, confCommand_shown h]

/-- **No line is a command as it is shown.** A country code of NUL bytes ends the text. -/
theorem shownWrite_unknown (hcc : CountryCodeAllowed p.countryCode) (o : Outcomes) {l : ShownLine}
    (hl : l ∈ radioConfLines d p) :
    ∃ buf, (shownWrite o l.shown).command = some (.unknown buf) := by
  have hsetting : ∀ k : RadioSetting,
      ∃ buf, (shownWrite o (k.line d p).shown).command = some (.unknown buf) := by
    intro k
    by_cases hk : k = .regDomain → p.countryCode.1 ≠ 0
    · exact ⟨_, shownWrite_command (proper_line hcc k hk) o⟩
    · obtain ⟨rfl, hzero⟩ := Classical.not_imp.mp hk
      rw [Classical.not_not] at hzero
      have hempty : (ShownLine.mk "reg_domain" []).Proper :=
        ⟨RadioSetting.isName_line d p .regDomain, isPlain_nil, Nat.zero_le 11⟩
      have h0 := (shown_fits hempty).1
      have hshown : (RadioSetting.line d p .regDomain).shown =
          (ShownLine.mk "reg_domain" []).shown ++ 0 :: [p.countryCode.2] := by
        rw [RadioSetting.line, hzero, ShownLine.shown, ShownLine.shown, List.append_nil]
      have hlen : (RadioSetting.line d p .regDomain).shown.length < 499 := by
        have hfits : (ShownLine.mk "reg_domain" []).shown.length = 13 := by decide +kernel
        rw [hshown, List.length_append, hfits]
        exact (by decide : 13 + 2 < 499)
      refine ⟨(ShownLine.mk "reg_domain" []).shown, ?_⟩
      rw [shownWrite, command_concat_cString 10 hlen, hshown, cString_append_zero h0,
        confCommand_shown hempty]
  have hnumber : ∀ name v, IsName name →
      ∃ buf, (shownWrite o (ShownLine.mk name (printD v)).shown).command = some (.unknown buf) :=
    fun name v hname => ⟨_, shownWrite_command (proper_printD hname v) o⟩
  have hnames : IsName "init" ∧ IsName "tx" ∧ IsName "rx" := by decide +kernel
  rw [radioConfLines, List.mem_append, List.mem_append, List.mem_map, List.mem_map] at hl
  rcases hl with (⟨k, -, rfl⟩ | hl) | ⟨k, -, rfl⟩
  · exact hsetting k
  · simp only [List.mem_cons, List.not_mem_nil, or_false] at hl
    rcases hl with rfl | rfl | rfl
    · exact hnumber _ _ hnames.1
    · exact hnumber _ _ hnames.2.1
    · exact hnumber _ _ hnames.2.2
  · exact hsetting k

/-- A line as it is shown changes nothing, and the write fails. -/
theorem radioWrite_shown (hcc : CountryCodeAllowed p.countryCode) {line : List UInt8}
    (h : line ∈ nrfWifiWlanFmacRadioTestConfDisp d p) (ctx : RadioCtx) (o : Outcomes) :
    (nrfWifiWlanFmacRadioTestConfWrite d ctx (shownWrite o line)).1 = ctx ∧
      (nrfWifiWlanFmacRadioTestConfWrite d ctx (shownWrite o line)).2.2 = Errno.ret .efault := by
  rw [nrfWifiWlanFmacRadioTestConfDisp, shownFile, List.mem_cons, List.mem_map] at h
  rcases h with rfl | ⟨l, hl, rfl⟩
  · obtain ⟨hcmd, -, h0, hlen⟩ := command_headline
    have hwrite := command_concat h0 10 hlen o
    rw [hcmd] at hwrite
    exact radioConfWrite_unknown hwrite ctx
  · obtain ⟨buf, hcmd⟩ := shownWrite_unknown hcc o hl
    exact radioConfWrite_unknown hcmd ctx

end Restore

end Nrf70
