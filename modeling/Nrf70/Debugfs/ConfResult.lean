import Nrf70.Debugfs.FmacConf
import Nrf70.Debugfs.RadioNarrowing

/-!
# What the result of a configuration write tells

A write returns the number of its bytes or an error code, and one would expect the number exactly
when the configuration was applied. Both `conf` files set the return value to the number first. The
radio test overwrites it for a name it does not know and for nothing else. The other file
overwrites it for a value out of range as well, and for no refusal of the firmware.

## Main definitions

* `Command.ChecksPass`, `Command.FirmwareTakes` — what has to go well for a command
* `RadioResultTells`, `FmacResultTells` — the law for one write

## Main results

* `handle_error_eq_none_iff` — a handler reports no error exactly when both hold
* `result_tells_iff` — the writes whose result tells whether they were applied
-/

namespace Nrf70

/-! ### What has to go well in the radio test -/

section Radio

variable (d : Nrfxlib) (o : Outcomes) (ctx : RadioCtx)

/-- The checks of the handler of a parameter read as unsigned. -/
def ValKey.ChecksPass (val : UInt64) : ValKey → Prop
  | .phyCalibRxdc | .phyCalibTxdc | .phyCalibTxpow | .phyCalibRxiq | .phyCalibTxiq
  | .bypassRegDomain => val ≤ 1 ∧ ctx.Idle
  | .heLtf | .heGi => val ≤ 2
  | .txPktSgi => val ≤ 1
  | .txPktTputMode => val.toNat < d.tputModeMax ∧ ctx.Idle
  | .txPktPreamble => ctx.Idle ∧ PreambleAllowed d ctx.confParams.txPktTputMode val.toNat
  | .txPktGap => val ≤ 200000 ∧ ctx.Idle
  | .txPktLen => val ≠ 0 ∧ ctx.confParams.txPktTputMode ≠ d.tputModeMax ∧
      txPktLenError d ctx.confParams.txPktTputMode ctx.confParams.ruTone val.toNat = none ∧ ctx.Idle
  | .txPower => (val.toNat ≤ d.maxTxPwrRadioTest ∨ val.toNat = d.maxTxPwrSysTest) ∧ ctx.Idle
  | .ruTone => val ∈ [26, 52, 106, 242] ∧ ctx.Idle
  | .ruIndex => RuIndexAllowed ctx.confParams.ruTone val.toNat ∧ ctx.Idle
  | .rxCaptureLength => val < 16384 ∧ ctx.Idle
  | .rxLnaGain => val ≤ 4 ∧ ctx.Idle
  | .rxBbGain => val ≤ 31 ∧ ctx.Idle
  -- no value passes the check of the frequency
  | .txToneFreq => False
  | .txPktCw => val.toInt64 ∈ [0, 3, 7, 15, 31, 63, 127, 255, 511, 1023] ∧ ctx.Idle
  | .setXoVal => val ≤ 0x7f ∧ (val = 1 → ctx.Idle)
  | .dpd | .getTemperature | .getRfRssi | .rx | .txTone => SwitchAllowed ctx val
  | .computeOptimalXoVal => ctx.Idle
  | .tx => TxAllowed d ctx val
  | .rxCap => RxCapType d val ∧ ctx.confParams.captureLength ≠ 0 ∧ ctx.Idle
  | .init => checkValidChannel val.toUInt8 = true ∧
      (ctx.rfTestRun = true → ctx.rfTest = .txTone)

/-- The firmware takes every call the handler makes, and what is allocated is. -/
def ValKey.FirmwareTakes : ValKey → Prop
  | .dpd => o.dpd = true
  | .setXoVal => o.setXoVal = true
  | .getTemperature => o.getTemp = true
  | .getRfRssi => o.getRfRssi = true
  | .computeOptimalXoVal => o.computeXo = true
  | .tx => o.progTx = true
  | .rx => o.progRx = true
  | .txTone => o.txTone = true
  | .rxCap => o.kzalloc = true ∧ o.rxCap = true
  | .init => (ctx.confParams.rx ≠ 0 → o.progRx = true) ∧
      (ctx.confParams.tx ≠ 0 → o.progTx = true) ∧ (ctx.rfTestRun = true → o.txTone = true) ∧
      o.rfParamsGet = true ∧ o.radioTestInit = true
  | _ => True

/-- The checks of the handler of a parameter read as signed. -/
def SvalKey.ChecksPass (val : Int64) : SvalKey → Prop
  | .txPktMcs => ctx.Idle ∧ ctx.confParams.txPktRate = -1 ∧
      checkValidDataRate d ctx.confParams.txPktTputMode ctx.confParams.txPktNss
        (val ||| 0x80).toInt32 = none
  | .txPktRate => ctx.Idle ∧
      checkValidDataRate d ctx.confParams.txPktTputMode ctx.confParams.txPktNss val.toInt32 = none
  | .txPktNum => ¬ (val < -1 ∨ val = 0) ∧ ctx.Idle

/-- The command is one the driver knows, and passes the checks of its handler. -/
def Command.ChecksPass : Command → Prop
  | .setDefaults => True
  | .val key v => key.ChecksPass d ctx v
  | .sval key v => key.ChecksPass d ctx v
  | .regDomain reg => ∃ a b, reg = [a, b] ∧ RegDomain a b ∧ ctx.Idle
  | .bypassInvalid _ => False
  | .unknown _ => False

/-- The firmware takes every call of the command. -/
def Command.FirmwareTakes : Command → Prop
  | .setDefaults => o.rfParamsGet = true
  | .val key _ => key.FirmwareTakes o ctx
  | .regDomain _ => o.setReg = true
  | _ => True

end Radio

section Handlers

variable {d : Nrfxlib} {o : Outcomes} {ctx : RadioCtx}

theorem setter_error_eq_none_iff {key : ValKey} (hset : key.isSetter = true) (val : UInt64) :
    (key.handle d o ctx val).error = none ↔ key.ChecksPass d ctx val := by
  cases key with
  | txToneFreq => exact iff_of_false (setTxToneFreq_refuses ctx val) not_false
  | dpd | setXoVal | init | tx | rx | rxCap | txTone | getTemperature | getRfRssi
  | computeOptimalXoVal => exact absurd hset (by decide)
  | _ =>
    refine setParam_error_eq_none.trans ?_
    simp [ValKey.ChecksPass]

theorem sval_error_eq_none_iff (key : SvalKey) (val : Int64) :
    (key.handle d ctx val).error = none ↔ key.ChecksPass d ctx val := by
  cases key with
  | _ =>
    refine setParam_error_eq_none.trans ?_
    simp [SvalKey.ChecksPass]

theorem toneStops_iff : ToneStops o ctx ↔
    (ctx.rfTestRun = true → ctx.rfTest = .txTone) ∧ (ctx.rfTestRun = true → o.txTone = true) :=
  imp_and

theorem init_error_eq_none_iff (val : UInt64) :
    (nrfWifiRadioTestInit d o ctx val).error = none ↔
      ValKey.init.ChecksPass d ctx val ∧ ValKey.init.FirmwareTakes o ctx := by
  rw [ValKey.ChecksPass, ValKey.FirmwareTakes]
  by_cases hval : checkValidChannel val.toUInt8 = true
  · have hexit := init_exit d o ctx hval
    generalize nrfWifiRadioTestInit d o ctx val = r at hexit
    cases hexit with
    | rxFailed hrx hok =>
      refine iff_of_false (by simp) fun h => ?_
      simp [h.2.1 hrx] at hok
    | txFailed hrx htx hok =>
      refine iff_of_false (by simp) fun h => ?_
      simp [h.2.2.1 htx] at hok
    | toneFailed hrx htx htone =>
      exact iff_of_false (by simp) fun h => htone (toneStops_iff.mpr ⟨h.1.2, h.2.2.2.1⟩)
    | confFailed hrx htx htone hok =>
      exact iff_of_false (by simp) fun h => by simp [h.2.2.2.2.1] at hok
    | programmed hrx htx htone hok he =>
      obtain ⟨htest, hcall⟩ := toneStops_iff.mp htone
      exact he.trans ⟨fun h => ⟨⟨hval, htest⟩, hrx, htx, hcall, hok, h⟩, fun h => h.2.2.2.2.2⟩
  · rw [nrfWifiRadioTestInit, if_neg hval]
    exact iff_of_false (by simp) fun h => hval h.1.1

theorem rxCap_error_eq_none_iff (val : UInt64) :
    (nrfWifiRadioTestRxCap d o ctx val).error = none ↔
      ValKey.rxCap.ChecksPass d ctx val ∧ ValKey.rxCap.FirmwareTakes o ctx := by
  by_cases h : RxCapStarts d o ctx val
  · rw [(rxCap_of_pass h).1]
    obtain ⟨htype, hlen, hidle, halloc⟩ := h
    exact ⟨fun hok => ⟨⟨htype, hlen, hidle⟩, halloc, hok⟩, fun hok => hok.2.2⟩
  · exact iff_of_false (rxCap_of_not_pass h).1 fun hp => h ⟨hp.1.1, hp.1.2.1, hp.1.2.2, hp.2.1⟩

theorem regDomain_error_eq_none_iff (reg : List UInt8) :
    (nrfWifiRadioTestSetRegDomain o ctx reg).error = none ↔
      (∃ a b, reg = [a, b] ∧ RegDomain a b ∧ ctx.Idle) ∧ o.setReg = true := by
  rcases setRegDomain_cases o ctx reg with ⟨hno, e, he⟩ | ⟨a, b, rfl, hreg, -, herr, -⟩
  · rw [he]
    exact iff_of_false (by simp) fun ⟨⟨a, b, heq, hreg, _⟩, _⟩ => hno a b heq hreg
  · rw [herr]
    exact ⟨fun h => ⟨⟨a, b, rfl, hreg, h.1⟩, h.2⟩, fun ⟨⟨_, _, _, _, hidle⟩, hok⟩ => ⟨hidle, hok⟩⟩

/-- The handlers that switch something report what the firmware answers, once it is asked. -/
theorem switch_error_eq_none_iff (val : UInt64) :
    ((nrfWifiRadioTestSetTx d o ctx val).error = none ↔ TxAllowed d ctx val ∧ o.progTx = true) ∧
    ((nrfWifiRadioTestSetRx o ctx val).error = none ↔ SwitchAllowed ctx val ∧ o.progRx = true) ∧
    ((nrfWifiRadioTestTxTone o ctx val).error = none ↔
      SwitchAllowed ctx val ∧ o.txTone = true) := by
  refine ⟨?_, ?_, ?_⟩
  · by_cases h : TxAllowed d ctx val
    · simp [setTx_of_allowed h, h]
    · obtain ⟨e, he⟩ := setTx_of_not_allowed (o := o) h
      simp [he, h]
  · by_cases h : SwitchAllowed ctx val
    · simp [setRx_of_allowed h, h]
    · obtain ⟨e, he⟩ := setRx_of_not_allowed (o := o) h
      simp [he, h]
  · by_cases h : SwitchAllowed ctx val
    · rw [txTone_of_allowed h, and_iff_right h]
      cases o.txTone <;> simp
    · obtain ⟨e, he⟩ := txTone_of_not_allowed (o := o) h
      simp [he, h]

theorem val_error_eq_none_iff (key : ValKey) (val : UInt64) :
    (key.handle d o ctx val).error = none ↔
      key.ChecksPass d ctx val ∧ key.FirmwareTakes o ctx := by
  by_cases hset : key.isSetter = true
  · rw [setter_error_eq_none_iff hset]
    cases key with
    | dpd | setXoVal | init | tx | rx | rxCap | txTone | getTemperature | getRfRssi
    | computeOptimalXoVal => exact absurd hset (by decide)
    | _ => exact (and_iff_left trivial).symm
  cases key with
  | init => exact init_error_eq_none_iff val
  | rxCap => exact rxCap_error_eq_none_iff val
  | tx => exact (switch_error_eq_none_iff val).1
  | rx => exact (switch_error_eq_none_iff (d := d) val).2.1
  | txTone => exact (switch_error_eq_none_iff (d := d) val).2.2
  | dpd | getTemperature | getRfRssi =>
    rw [ValKey.ChecksPass, ← switchChecks_eq_none, firstError_eq_none]
    exact oneShot_error_eq_none
  | setXoVal =>
    refine oneShot_error_eq_none.trans ?_
    simp [ValKey.ChecksPass, ValKey.FirmwareTakes]
  | computeOptimalXoVal =>
    refine oneShot_error_eq_none.trans ?_
    simp [ValKey.ChecksPass, ValKey.FirmwareTakes]
  | _ => exact absurd rfl hset

/-- **A handler reports no error exactly when its checks pass and the firmware takes its calls.** -/
theorem handle_error_eq_none_iff (c : Command) :
    (c.handle d o ctx).error = none ↔ c.ChecksPass d ctx ∧ c.FirmwareTakes o ctx := by
  cases c with
  | setDefaults =>
    show checkThat (o.rfParamsGet = true) _ = none ↔ True ∧ o.rfParamsGet = true
    rw [checkThat_eq_none, true_and]
  | val key v => exact val_error_eq_none_iff key v
  | sval key v => exact (sval_error_eq_none_iff key v).trans (and_iff_left trivial).symm
  | regDomain reg => exact regDomain_error_eq_none_iff reg
  | bypassInvalid | unknown => exact iff_of_false (by simp [Command.handle]) fun h => h.1

end Handlers

/-! ### What has to go well in normal operation -/

section Fmac

variable {w : ℕ} (o : FmacOutcomes) (conf : FmacConfParams w)

/-- The command is one the driver knows, and its value is in range. -/
def FmacCommand.ChecksPass : FmacCommand → Prop
  | .uapsdQueue val => val ≤ 15
  | .powerSave val => val = 0 ∨ val = 1
  | .heGi val => val ≤ 2
  | .rtsThreshold val => val ≠ 0
  | .unknown _ => False

/-- The value is in effect already, as far as the driver knows. -/
def FmacCommand.InEffect : FmacCommand → Prop
  | .uapsdQueue val => conf.uapsdQueue = val.toNat
  | .powerSave val => conf.powerSave = val.toNat
  | .heGi val => conf.heGi = val.toNat
  | .rtsThreshold val => conf.rtsThreshold.toNat = val.toNat
  | .unknown _ => False

/-- The firmware takes the call that programs the value, if there is one. -/
def FmacCommand.FirmwareTakes : FmacCommand → Prop
  | .uapsdQueue _ => o.setUapsdQueue = true
  | .powerSave _ => o.setPowerSave = true
  | .rtsThreshold _ => o.kzalloc = true ∧ o.setWiphyParams = true
  | _ => True

/-- A branch leaves a code behind when its check fails, and keeps the number of bytes otherwise. -/
def ErrValTells (pass : Prop)
    (r : Outcome (FmacConfParams w) (FmacConfEvent w) FmacConfError) : Prop :=
  (pass → ∀ e, r.error = some e → e.errVal = none) ∧
    (¬ pass → ∃ e errno, r.error = some e ∧ e.errVal = some errno)

theorem errValTells_ite {pass bad : Prop} [Decidable bad] (hbad : bad ↔ ¬ pass) (val : UInt64)
    {rest : Outcome (FmacConfParams w) (FmacConfEvent w) FmacConfError}
    (hrest : ∀ e, rest.error = some e → e.errVal = none) :
    ErrValTells pass (if bad then .fail conf (.invalid val) else rest) := by
  constructor
  · intro hpass
    rw [if_neg fun h => hbad.mp h hpass]
    exact hrest
  · intro hpass
    rw [if_pos (hbad.mpr hpass)]
    exact ⟨_, _, rfl, rfl⟩

/-- No branch has a code for what the firmware refuses. -/
theorem errValTells_handle (c : FmacCommand) : ErrValTells c.ChecksPass (c.handle o conf) := by
  cases c with
  | unknown buf => exact ⟨False.elim, fun _ => ⟨_, _, rfl, rfl⟩⟩
  | uapsdQueue val =>
    refine errValTells_ite conf UInt64.not_le.symm val fun e he => ?_
    split_ifs at he <;> simp at he <;> rw [← he]
  | powerSave val =>
    refine errValTells_ite conf not_or.symm val fun e he => ?_
    split_ifs at he <;> simp at he
    rw [← he]
  | heGi val =>
    refine errValTells_ite conf UInt64.not_le.symm val fun e he => ?_
    split_ifs at he <;> simp at he
  | rtsThreshold val =>
    refine errValTells_ite conf not_not.symm val fun e he => ?_
    simp only at he
    split_ifs at he <;> simp at he <;> rw [← he]

end Fmac

/-! ### The law -/

/-- The radio test has applied the write: there is a command in it, and its handler reports no
error. -/
def RadioApplied (d : Nrfxlib) (ctx : RadioCtx) (wr : ConfWrite) : Prop :=
  ∃ c, wr.command = some c ∧ (c.handle d wr.fmac ctx).error = none

/-- The radio test returns the number of bytes when the write was applied, and a negative code
otherwise. -/
def RadioResultTells (d : Nrfxlib) (ctx : RadioCtx) (wr : ConfWrite) : Prop :=
  let ret := (nrfWifiWlanFmacRadioTestConfWrite d ctx wr).2.2
  (RadioApplied d ctx wr → ret = wr.inBuf.length) ∧ (¬ RadioApplied d ctx wr → ret < 0)

/-- Normal operation has applied the write, or there was nothing to do. -/
def FmacApplied {w : ℕ} (conf : FmacConfParams w) (wr : FmacConfWrite) : Prop :=
  wr.earlyError = none ∧ wr.command.ChecksPass ∧
    (wr.command.InEffect conf ∨ wr.command.FirmwareTakes wr.fmac)

/-- The same law for normal operation. -/
def FmacResultTells {w : ℕ} (conf : FmacConfParams w) (wr : FmacConfWrite) : Prop :=
  let ret := (nrfWifiWlanFmacConfWrite conf wr).2.2
  (FmacApplied conf wr → ret = wr.inBuf.length) ∧ (¬ FmacApplied conf wr → ret < 0)

section Results

variable {d : Nrfxlib} {ctx : RadioCtx} {wr : ConfWrite}

theorem errno_ret_neg (e : Errno) : e.ret < 0 := by
  cases e <;> decide

/-- The number of bytes is the result of every command the driver knows. -/
theorem report_ret {c : Command} (h : ∀ buf, c ≠ .unknown buf) (count : ℕ)
    (e : Option ConfError) : (c.report count e).2 = count := by
  cases c with
  | unknown buf => exact absurd rfl (h buf)
  | setDefaults => rfl
  | val | sval | regDomain | bypassInvalid => cases e <;> rfl

/-- The condition for the radio test. A write that is dispatched and names something known passes
the checks of its handler, and the firmware takes its calls. -/
def RadioGoesWell (d : Nrfxlib) (ctx : RadioCtx) (wr : ConfWrite) : Prop :=
  ∀ c, wr.command = some c → (∀ buf, c ≠ .unknown buf) →
    c.ChecksPass d ctx ∧ c.FirmwareTakes wr.fmac ctx

/-- The condition for normal operation. A value that passes its check is in effect, or the firmware
takes it. -/
def FmacGoesWell {w : ℕ} (conf : FmacConfParams w) (wr : FmacConfWrite) : Prop :=
  wr.earlyError = none → wr.command.ChecksPass →
    wr.command.InEffect conf ∨ wr.command.FirmwareTakes wr.fmac

theorem radioApplied_iff {c : Command} (hc : wr.command = some c) :
    RadioApplied d ctx wr ↔ c.ChecksPass d ctx ∧ c.FirmwareTakes wr.fmac ctx := by
  rw [← handle_error_eq_none_iff, RadioApplied, hc]
  simp

theorem radioResultTells_iff (d : Nrfxlib) (ctx : RadioCtx) (wr : ConfWrite) :
    RadioResultTells d ctx wr ↔ RadioGoesWell d ctx wr := by
  rw [RadioResultTells, RadioGoesWell, nrfWifiWlanFmacRadioTestConfWrite]
  cases hc : wr.command with
  | none =>
    have hno : ¬ RadioApplied d ctx wr := by simp [RadioApplied, hc]
    exact iff_of_true ⟨fun h => absurd h hno, fun _ => errno_ret_neg .efault⟩ (by simp)
  | some c =>
    simp only [radioApplied_iff hc, Option.some.injEq, forall_eq']
    by_cases hknown : ∃ buf, c = .unknown buf
    · obtain ⟨buf, rfl⟩ := hknown
      exact iff_of_true ⟨fun h => h.1.elim, fun _ => errno_ret_neg .efault⟩
        fun h => absurd rfl (h buf)
    · push Not at hknown
      rw [report_ret hknown]
      have hpos : ¬ (wr.inBuf.length : ℤ) < 0 := by omega
      constructor
      · rintro ⟨-, hneg⟩ -
        exact not_not.mp (mt hneg hpos)
      · intro h
        exact ⟨fun _ => rfl, fun hno => absurd (h hknown) hno⟩

theorem earlyError_errVal {fwr : FmacConfWrite} {e : FmacConfError}
    (h : fwr.earlyError = some e) : e.errVal = some .efault := by
  simp only [FmacConfWrite.earlyError, firstError, checkThat, List.findSome?_cons, id_eq] at h
  split_ifs at h <;> simp at h <;> rw [← h]

/-- The return value of normal operation. -/
theorem fmac_ret {w : ℕ} (conf : FmacConfParams w) (fwr : FmacConfWrite) :
    (nrfWifiWlanFmacConfWrite conf fwr).2.2 =
      (((fwr.run conf).error.bind FmacConfError.errVal).map Errno.ret).getD fwr.inBuf.length := by
  rw [nrfWifiWlanFmacConfWrite]
  cases (fwr.run conf).error <;> rfl

theorem fmacResultTells_iff {w : ℕ} (conf : FmacConfParams w) (fwr : FmacConfWrite) :
    FmacResultTells conf fwr ↔ FmacGoesWell conf fwr := by
  rw [FmacResultTells, FmacGoesWell, FmacApplied, fmac_ret, FmacConfWrite.run]
  cases hearly : fwr.earlyError with
  | some e =>
    simp only [Outcome.fail, Option.bind_some, earlyError_errVal hearly]
    exact iff_of_true ⟨fun h => absurd h.1 (by simp), fun _ => errno_ret_neg .efault⟩ (by simp)
  | none =>
    have htells := errValTells_handle fwr.fmac conf fwr.command
    dsimp only
    by_cases hpass : fwr.command.ChecksPass
    · have hcode : (fwr.command.handle fwr.fmac conf).error.bind FmacConfError.errVal = none := by
        cases herr : (fwr.command.handle fwr.fmac conf).error with
        | none => rfl
        | some e => exact htells.1 hpass e herr
      have hpos : ¬ (fwr.inBuf.length : ℤ) < 0 := by omega
      simp only [hcode, Option.map_none, Option.getD_none, hpass, true_and, forall_true_left,
        implies_true, hpos, imp_false, not_not]
    · obtain ⟨e, errno, herr, hcode⟩ := htells.2 hpass
      simp only [herr, Option.bind_some, hcode]
      exact iff_of_true ⟨fun h => absurd h.2.1 hpass, fun _ => errno_ret_neg errno⟩
        fun _ h => absurd h hpass

/-- **The writes whose result tells whether they were applied.** In the radio test they are those
that name nothing known and those whose checks and calls all succeed. In normal operation they are
all but those the firmware, or the allocation before it, refuses. -/
theorem result_tells_iff (d : Nrfxlib) (ctx : RadioCtx) (wr : ConfWrite) {w : ℕ}
    (conf : FmacConfParams w) (fwr : FmacConfWrite) :
    (RadioResultTells d ctx wr ↔ RadioGoesWell d ctx wr) ∧
      (FmacResultTells conf fwr ↔ FmacGoesWell conf fwr) :=
  ⟨radioResultTells_iff d ctx wr, fmacResultTells_iff conf fwr⟩

/-- **Results that do not tell.** `tx=5` is refused as invalid and `set_defaults` fails in the
firmware, and both return the number of bytes; so does `power_save=1` when the firmware refuses
it. -/
theorem results_misleading :
    ¬ RadioResultTells .headers .zero (.ofText "tx=5\n" .success) ∧
    ¬ RadioResultTells .headers .zero
      (.ofText "set_defaults\n" { Outcomes.success with rfParamsGet := false }) ∧
    ¬ FmacResultTells (⟨0, 0, 0, 0⟩ : FmacConfParams 32)
      ⟨cBytes "power_save=1\n", true, true, ⟨true, false, true, true⟩⟩ := by
  rw [radioResultTells_iff, radioResultTells_iff, fmacResultTells_iff]
  have htx : (ConfWrite.ofText "tx=5\n" .success).command = some (.val .tx 5) := by decide +kernel
  have hset : (ConfWrite.ofText "set_defaults\n"
      { Outcomes.success with rfParamsGet := false }).command = some .setDefaults := by
    decide +kernel
  have hps : (FmacConfWrite.mk (cBytes "power_save=1\n") true true
      ⟨true, false, true, true⟩).command = .powerSave 1 := by
    decide +kernel
  refine ⟨fun h => ?_, fun h => ?_, fun h => ?_⟩
  · have hpass : TxAllowed .headers .zero 5 := (h _ htx (by simp)).1
    exact absurd hpass (by decide)
  · exact absurd (h _ hset (by simp)).2 Bool.false_ne_true
  · rw [FmacGoesWell, hps] at h
    rcases h rfl (Or.inr rfl) with heff | htakes
    · have hne : ¬ 0 = (1 : UInt64).toNat := by decide
      exact hne heff
    · exact absurd htakes Bool.false_ne_true

end Results

end Nrf70
