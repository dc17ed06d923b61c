import Nrf70.Debugfs.RadioConf

/-!
# What the handlers of the radio test do

One specification for each handler with a body of its own and one for each family. The results
about sequences of writes use these and do not unfold a handler.

`nrf_wifi_radio_test_init` has six ways out, and what it has stored differs at each. `InitExit`
lists them with the events made on the way.

## Main results

* `setParam_confParams`, `oneShot_of_pass`, `rxCap_of_pass` — the families and the RX capture
* `init_exit` — everything `nrf_wifi_radio_test_init` can do
-/

namespace Nrf70

/-! ### Setters -/

section Setters

variable {checks : List (Option ConfError)} {store : ConfParams → ConfParams} {ctx : RadioCtx}

theorem setParam_of_pass (h : ∀ c ∈ checks, c = none) :
    setParam checks store ctx = .done { ctx with confParams := store ctx.confParams } := by
  rw [setParam, firstError_eq_none.mpr h]

theorem setParam_of_not_pass (store : ConfParams → ConfParams) (ctx : RadioCtx)
    (h : ¬ ∀ c ∈ checks, c = none) : ∃ e, setParam checks store ctx = .fail ctx e := by
  obtain ⟨e, he⟩ := Option.ne_none_iff_exists'.mp (mt firstError_eq_none.mp h)
  exact ⟨e, by rw [setParam, he]⟩

/-- A setter reports no error when all its checks pass. -/
theorem setParam_error_eq_none :
    (setParam checks store ctx).error = none ↔ ∀ c ∈ checks, c = none := by
  by_cases h : ∀ c ∈ checks, c = none
  · exact iff_of_true (by rw [setParam_of_pass h]; rfl) h
  · obtain ⟨e, he⟩ := setParam_of_not_pass store ctx h
    exact iff_of_false (by simp [he]) h

/-- A setter stores when all its checks pass. -/
theorem setParam_confParams :
    (setParam checks store ctx).state.confParams = ctx.confParams ∨
      (∀ c ∈ checks, c = none) ∧
        (setParam checks store ctx).state.confParams = store ctx.confParams := by
  by_cases h : ∀ c ∈ checks, c = none
  · exact Or.inr ⟨h, by rw [setParam_of_pass h]; rfl⟩
  · obtain ⟨e, he⟩ := setParam_of_not_pass store ctx h
    exact Or.inl (by rw [he]; rfl)

/-- A setter that reports an error has stored nothing. -/
theorem setParam_of_error (h : (setParam checks store ctx).error ≠ none) :
    (setParam checks store ctx).state = ctx := by
  by_cases hc : ∀ c ∈ checks, c = none
  · simp [setParam_of_pass hc] at h
  · obtain ⟨e, he⟩ := setParam_of_not_pass store ctx hc
    rw [he]
    rfl

/-- A setter leaves alone what its assignment leaves alone. -/
theorem setParam_frame {α : Type} (f : ConfParams → α)
    (h : f (store ctx.confParams) = f ctx.confParams) :
    f (setParam checks store ctx).state.confParams = f ctx.confParams := by
  rcases setParam_confParams with hp | ⟨-, hp⟩
  · rw [hp]
  · rw [hp, h]

@[simp] theorem setParam_events : (setParam checks store ctx).events = [] := by
  rw [setParam]
  split <;> rfl

@[simp] theorem setParam_rfTestRun :
    (setParam checks store ctx).state.rfTestRun = ctx.rfTestRun := by
  rw [setParam]
  split <;> rfl

@[simp] theorem setParam_rfTest : (setParam checks store ctx).state.rfTest = ctx.rfTest := by
  rw [setParam]
  split <;> rfl

/-- The parameters whose handlers only store. -/
def ValKey.isSetter : ValKey → Bool
  | .dpd | .setXoVal | .init | .tx | .rx | .rxCap | .txTone | .getTemperature | .getRfRssi
  | .computeOptimalXoVal => false
  | _ => true

/-- They are setters. None of them stores a TX or RX flag, and one the length of the capture. -/
theorem ValKey.handle_of_isSetter (d : Nrfxlib) (o : Outcomes) (ctx : RadioCtx) {key : ValKey}
    (v : UInt64) (h : key.isSetter = true) :
    ∃ checks store, key.handle d o ctx v = setParam checks store ctx ∧
      (∀ p, (store p).tx = p.tx ∧ (store p).rx = p.rx) ∧
      (key ≠ .rxCaptureLength → ∀ p, (store p).captureLength = p.captureLength) := by
  cases key <;> first | exact absurd h (by decide) | skip
  all_goals
    simp only [ValKey.handle, nrfWifiRadioTestSetPhyCalibRxdc, nrfWifiRadioTestSetPhyCalibTxdc,
      nrfWifiRadioTestSetPhyCalibTxpow, nrfWifiRadioTestSetPhyCalibRxiq,
      nrfWifiRadioTestSetPhyCalibTxiq, setPhyCalib, nrfWifiRadioTestSetHeLtf,
      nrfWifiRadioTestSetHeGi, nrfWifiRadioTestSetTxPktTputMode, nrfWifiRadioTestSetTxPktSgi,
      nrfWifiRadioTestSetTxPktPreamble, nrfWifiRadioTestSetTxPktGap, nrfWifiRadioTestSetTxPktLen,
      nrfWifiRadioTestSetTxPower, nrfWifiRadioTestSetRuTone, nrfWifiRadioTestSetRuIndex,
      nrfWifiRadioTestSetRxCaptureLength, nrfWifiRadioTestSetRxLnaGain,
      nrfWifiRadioTestSetRxBbGain, nrfWifiRadioTestSetTxToneFreq, nrfWifiRadioTestSetTxPktCw,
      nrfWifiRadioTestSetBypassReg]
    refine ⟨_, _, rfl, fun p => ⟨rfl, rfl⟩, fun hne p => ?_⟩
    first | rfl | exact absurd rfl hne

theorem SvalKey.handle_eq_setParam (d : Nrfxlib) (ctx : RadioCtx) (key : SvalKey) (v : Int64) :
    ∃ checks store, key.handle d ctx v = setParam checks store ctx ∧
      (∀ p, (store p).tx = p.tx ∧ (store p).rx = p.rx) ∧
      ∀ p, (store p).captureLength = p.captureLength := by
  cases key
  all_goals
    simp only [SvalKey.handle, nrfWifiRadioTestSetTxPktMcs, nrfWifiRadioTestSetTxPktRate,
      nrfWifiRadioTestSetTxPktNum]
    exact ⟨_, _, rfl, fun p => ⟨rfl, rfl⟩, fun p => rfl⟩

end Setters

/-! ### One-shot tests -/

section OneShot

variable {checks : List (Option ConfError)} {test : RfTest} {call : FmacCall} {ok : Bool}
  {failed : ConfError} {store : ConfParams → ConfParams} {ctx : RadioCtx}

theorem oneShot_of_pass (h : ∀ c ∈ checks, c = none) :
    oneShot checks test call ok failed store ctx =
      if ok then
        ⟨{ ctx with confParams := store ctx.confParams }.unlatch, [.fmac call true], none⟩
      else ⟨ctx.latch test, [.fmac call false], some failed⟩ := by
  rw [oneShot, firstError_eq_none.mpr h]
  rfl

variable (test call ok failed store ctx) in
theorem oneShot_of_not_pass (h : ¬ ∀ c ∈ checks, c = none) :
    ∃ e, oneShot checks test call ok failed store ctx = .fail ctx e := by
  obtain ⟨e, he⟩ := Option.ne_none_iff_exists'.mp (mt firstError_eq_none.mp h)
  exact ⟨e, by rw [oneShot, he]⟩

/-- A one-shot test reports no error when its checks pass and the firmware takes the call. -/
theorem oneShot_error_eq_none :
    (oneShot checks test call ok failed store ctx).error = none ↔
      (∀ c ∈ checks, c = none) ∧ ok = true := by
  by_cases h : ∀ c ∈ checks, c = none
  · rw [oneShot_of_pass h, and_iff_right h]
    cases ok <;> simp
  · obtain ⟨e, he⟩ := oneShot_of_not_pass test call ok failed store ctx h
    rw [he]
    exact iff_of_false (by simp) fun hp => h hp.1

/-- A one-shot test that reports an error has stored nothing. -/
theorem oneShot_of_error (h : (oneShot checks test call ok failed store ctx).error ≠ none) :
    (oneShot checks test call ok failed store ctx).state.confParams = ctx.confParams := by
  by_cases hp : ∀ c ∈ checks, c = none
  · rw [oneShot_of_pass hp] at h ⊢
    cases ok with
    | true => simp at h
    | false => rfl
  · obtain ⟨e, he⟩ := oneShot_of_not_pass test call ok failed store ctx hp
    rw [he]
    rfl

/-- A one-shot test leaves alone what its assignment leaves alone. -/
theorem oneShot_frame {α : Type} (f : ConfParams → α)
    (h : f (store ctx.confParams) = f ctx.confParams) :
    f (oneShot checks test call ok failed store ctx).state.confParams = f ctx.confParams := by
  by_cases hp : ∀ c ∈ checks, c = none
  · rw [oneShot_of_pass hp]
    split
    · exact h
    · rfl
  · obtain ⟨e, he⟩ := oneShot_of_not_pass test call ok failed store ctx hp
    rw [he]
    rfl

/-- A one-shot test tells the firmware what its call tells it. -/
theorem oneShot_after (hcall : ∀ fw b, Firmware.after fw (.fmac call b) = fw) (fw : Firmware) :
    (oneShot checks test call ok failed store ctx).events.foldl Firmware.after fw = fw := by
  by_cases hp : ∀ c ∈ checks, c = none
  · rw [oneShot_of_pass hp]
    split
    · exact hcall fw true
    · exact hcall fw false
  · obtain ⟨e, he⟩ := oneShot_of_not_pass test call ok failed store ctx hp
    rw [he]
    rfl

end OneShot

/-! ### The RX capture -/

section RxCap

variable (d : Nrfxlib) (o : Outcomes) (ctx : RadioCtx) (rxCapType : UInt64)

@[simp] theorem kfreeRxCapBuf_confParams : ctx.kfreeRxCapBuf.1.confParams = ctx.confParams := by
  rw [RadioCtx.kfreeRxCapBuf]
  split <;> rfl

@[simp] theorem kfreeRxCapBuf_rfTestRun : ctx.kfreeRxCapBuf.1.rfTestRun = ctx.rfTestRun := by
  rw [RadioCtx.kfreeRxCapBuf]
  split <;> rfl

@[simp] theorem kfreeRxCapBuf_rfTest : ctx.kfreeRxCapBuf.1.rfTest = ctx.rfTest := by
  rw [RadioCtx.kfreeRxCapBuf]
  split <;> rfl

@[simp] theorem kfreeRxCapBuf_after (fw : Firmware) :
    ctx.kfreeRxCapBuf.2.foldl Firmware.after fw = fw := by
  rw [RadioCtx.kfreeRxCapBuf]
  split <;> rfl

/-- A capture gets as far as the firmware. -/
def RxCapStarts : Prop :=
  RxCapType d rxCapType ∧ ctx.confParams.captureLength ≠ 0 ∧ ctx.Idle ∧ o.kzalloc = true

/-- Whatever a capture does, it leaves the configuration alone. -/
@[simp] theorem rxCap_confParams :
    (nrfWifiRadioTestRxCap d o ctx rxCapType).state.confParams = ctx.confParams := by
  simp only [nrfWifiRadioTestRxCap]
  split
  · simp [rxCapError]
  · split_ifs <;> simp [rxCapError, RadioCtx.setRxCapBuf, RadioCtx.latch, RadioCtx.unlatch]

/-- A capture tells the firmware nothing about TX, RX or the tone. -/
@[simp] theorem rxCap_after (fw : Firmware) :
    (nrfWifiRadioTestRxCap d o ctx rxCapType).events.foldl Firmware.after fw = fw := by
  simp only [nrfWifiRadioTestRxCap]
  split
  · simp [rxCapError]
  · split_ifs <;> simp [rxCapError, Firmware.after]

variable {d o ctx rxCapType}

/-- A capture that starts is a one-shot test. -/
theorem rxCap_of_pass (h : RxCapStarts d o ctx rxCapType) :
    ((nrfWifiRadioTestRxCap d o ctx rxCapType).error = none ↔ o.rxCap = true) ∧
      (nrfWifiRadioTestRxCap d o ctx rxCapType).state.rfTestRun = !o.rxCap ∧
      (nrfWifiRadioTestRxCap d o ctx rxCapType).state.rfTest =
        if o.rxCap then .max else .rxAdcCap := by
  obtain ⟨htype, hlen, hidle, halloc⟩ := h
  cases hok : o.rxCap <;>
    simp [nrfWifiRadioTestRxCap, firstError, htype, hlen, hidle, halloc, hok, rxCapError,
      RadioCtx.setRxCapBuf, RadioCtx.latch, RadioCtx.unlatch, checkThat]

/-- A capture that does not start leaves the latch alone. -/
theorem rxCap_of_not_pass (h : ¬ RxCapStarts d o ctx rxCapType) :
    (nrfWifiRadioTestRxCap d o ctx rxCapType).error ≠ none ∧
      (nrfWifiRadioTestRxCap d o ctx rxCapType).state.rfTestRun = ctx.rfTestRun ∧
      (nrfWifiRadioTestRxCap d o ctx rxCapType).state.rfTest = ctx.rfTest := by
  simp only [nrfWifiRadioTestRxCap]
  split
  · simp [rxCapError]
  · next hc =>
    have hpass := firstError_eq_none.mp hc
    simp only [List.mem_cons, List.not_mem_nil, or_false, forall_eq_or_imp, forall_eq,
      checkThat_eq_none, checkTestInProg_eq_none] at hpass
    have halloc : o.kzalloc = false := by
      by_contra hne
      exact h ⟨hpass.1, hpass.2.1, hpass.2.2, by simpa using hne⟩
    simp [halloc, rxCapError]

end RxCap

/-! ### TX, RX and the tone -/

section Tests

variable {d : Nrfxlib} {o : Outcomes} {ctx : RadioCtx} {val : UInt64}

theorem eq_zero_or_eq_one_of_le_one (h : val ≤ 1) : val = 0 ∨ val = 1 := by
  have hle : val.toNat ≤ 1 := UInt64.le_iff_toNat_le.mp h
  rcases Nat.le_one_iff_eq_zero_or_eq_one.mp hle with h0 | h1
  · exact Or.inl (UInt64.toNat_inj.mp h0)
  · exact Or.inr (UInt64.toNat_inj.mp h1)

/-- The value and the state pass the check that TX, RX and the tone share. -/
def SwitchAllowed (ctx : RadioCtx) (val : UInt64) : Prop := val = 0 ∨ val = 1 ∧ ctx.Idle

instance (ctx : RadioCtx) (val : UInt64) : Decidable (SwitchAllowed ctx val) :=
  inferInstanceAs (Decidable (_ ∨ _))

theorem switchChecks_eq_none :
    firstError [checkThat (val ≤ 1) (invalidValue val), checkTestInProgIfOne ctx val .enoexec] =
      none ↔ SwitchAllowed ctx val := by
  simp only [firstError_eq_none, List.mem_cons, List.not_mem_nil, or_false, forall_eq_or_imp,
    forall_eq, checkThat_eq_none, checkTestInProgIfOne_eq_none]
  constructor
  · rintro ⟨hle, hidle⟩
    rcases eq_zero_or_eq_one_of_le_one hle with h0 | h1
    · exact Or.inl h0
    · exact Or.inr ⟨h1, hidle h1⟩
  · rintro (rfl | ⟨rfl, hidle⟩)
    · exact ⟨by decide, fun h => absurd h (by decide)⟩
    · exact ⟨by decide, fun _ => hidle⟩

/-- The value and the state pass the checks of `nrf_wifi_radio_test_set_tx`. -/
def TxAllowed (d : Nrfxlib) (ctx : RadioCtx) (val : UInt64) : Prop :=
  SwitchAllowed ctx val ∧
    (val = 1 → checkChannelSettings d ctx.confParams.txPktTputMode ctx.confParams.chanPrimaryNum
      ctx.confParams.chanBw = true)

instance (ctx : RadioCtx) (val : UInt64) : Decidable (TxAllowed d ctx val) :=
  inferInstanceAs (Decidable (_ ∧ _))

theorem setTxChecks_eq_none : firstError (setTxChecks d ctx val) = none ↔ TxAllowed d ctx val := by
  rw [TxAllowed, ← switchChecks_eq_none]
  simp only [setTxChecks, firstError_eq_none, List.mem_cons, List.not_mem_nil, or_false,
    forall_eq_or_imp, forall_eq, checkThat_eq_none, and_assoc]

theorem setTx_of_allowed (h : TxAllowed d ctx val) :
    nrfWifiRadioTestSetTx d o ctx val =
      ⟨{ ctx with confParams := ctx.confParams.withTx d val },
        [.fmac (.progTx (ctx.confParams.withTx d val)) o.progTx],
        checkThat (o.progTx = true) ⟨.enoexec, some "Programming TX failed\n"⟩⟩ := by
  rw [nrfWifiRadioTestSetTx, setTxChecks_eq_none.mpr h]

theorem setTx_of_not_allowed (h : ¬ TxAllowed d ctx val) :
    ∃ e, nrfWifiRadioTestSetTx d o ctx val = .fail ctx e := by
  obtain ⟨e, he⟩ := Option.ne_none_iff_exists'.mp (mt setTxChecks_eq_none.mp h)
  exact ⟨e, by rw [nrfWifiRadioTestSetTx, he]⟩

theorem setRx_of_allowed (h : SwitchAllowed ctx val) :
    nrfWifiRadioTestSetRx o ctx val =
      ⟨{ ctx with confParams := { ctx.confParams with rx := val.toNat } },
        [.fmac (.progRx { ctx.confParams with rx := val.toNat }) o.progRx],
        checkThat (o.progRx = true) ⟨.enoexec, some "Programming RX failed\n"⟩⟩ := by
  rw [nrfWifiRadioTestSetRx, switchChecks_eq_none.mpr h]

theorem setRx_of_not_allowed (h : ¬ SwitchAllowed ctx val) :
    ∃ e, nrfWifiRadioTestSetRx o ctx val = .fail ctx e := by
  obtain ⟨e, he⟩ := Option.ne_none_iff_exists'.mp (mt switchChecks_eq_none.mp h)
  exact ⟨e, by rw [nrfWifiRadioTestSetRx, he]⟩

theorem txTone_of_allowed (h : SwitchAllowed ctx val) :
    nrfWifiRadioTestTxTone o ctx val =
      if o.txTone then
        ⟨if val = 1 then ctx.latch .txTone else ctx.unlatch,
          [.fmac (.txTone val.toUInt8 ctx.confParams.txToneFreq ctx.confParams.txPower) true], none⟩
      else
        ⟨ctx, [.fmac (.txTone val.toUInt8 ctx.confParams.txToneFreq ctx.confParams.txPower) false],
          some ⟨.enoexec, some "TX tone programming failed\n"⟩⟩ := by
  rw [nrfWifiRadioTestTxTone, switchChecks_eq_none.mpr h]

theorem txTone_of_not_allowed (h : ¬ SwitchAllowed ctx val) :
    ∃ e, nrfWifiRadioTestTxTone o ctx val = .fail ctx e := by
  obtain ⟨e, he⟩ := Option.ne_none_iff_exists'.mp (mt switchChecks_eq_none.mp h)
  exact ⟨e, by rw [nrfWifiRadioTestTxTone, he]⟩

@[simp] theorem txTone_confParams :
    (nrfWifiRadioTestTxTone o ctx val).state.confParams = ctx.confParams := by
  by_cases h : SwitchAllowed ctx val
  · rw [txTone_of_allowed h]
    split
    · split <;> rfl
    · rfl
  · obtain ⟨e, he⟩ := txTone_of_not_allowed (o := o) h
    rw [he]
    rfl

end Tests

/-! ### The regulatory domain -/

section RegDomain

variable {o : Outcomes} {ctx : RadioCtx}

/-- The country code in the host's copy. -/
def RadioCtx.setCountryCode (ctx : RadioCtx) (alpha2 : UInt8 × UInt8) : RadioCtx :=
  { ctx with confParams := { ctx.confParams with countryCode := alpha2 } }

/-- A valid country code is stored, and then asked about. -/
theorem setRegDomain_of_valid {a b : UInt8} (h : RegDomain a b) :
    nrfWifiRadioTestSetRegDomain o ctx [a, b] =
      match checkTestInProg ctx .enoexec with
      | some e => .fail (ctx.setCountryCode (a, b)) e
      | none => ⟨ctx.setCountryCode (a, b), [.fmac (.setReg (a, b)) o.setReg],
          checkThat (o.setReg = true) ⟨.enoexec, some "Regulatory programming failed\n"⟩⟩ := by
  simp only [nrfWifiRadioTestSetRegDomain, if_pos h]
  rfl

/-- Anything else is refused. -/
theorem setRegDomain_of_not_valid {reg : List UInt8} (h : ∀ a b, reg = [a, b] → ¬ RegDomain a b) :
    ∃ e, nrfWifiRadioTestSetRegDomain o ctx reg = .fail ctx e := by
  simp only [nrfWifiRadioTestSetRegDomain]
  split
  · next a b =>
    rw [if_neg (h a b rfl)]
    exact ⟨_, rfl⟩
  · exact ⟨_, rfl⟩

/-- A write of `reg_domain` changes nothing, or stores the code and leaves it stored whatever
comes of it. -/
theorem setRegDomain_cases (o : Outcomes) (ctx : RadioCtx) (reg : List UInt8) :
    ((∀ a b, reg = [a, b] → ¬ RegDomain a b) ∧
        ∃ e, nrfWifiRadioTestSetRegDomain o ctx reg = .fail ctx e) ∨
      ∃ a b, reg = [a, b] ∧ RegDomain a b ∧
        (nrfWifiRadioTestSetRegDomain o ctx reg).state = ctx.setCountryCode (a, b) ∧
        ((nrfWifiRadioTestSetRegDomain o ctx reg).error = none ↔ ctx.Idle ∧ o.setReg = true) ∧
        ∀ fw, (nrfWifiRadioTestSetRegDomain o ctx reg).events.foldl Firmware.after fw = fw := by
  by_cases h : ∃ a b, reg = [a, b] ∧ RegDomain a b
  · obtain ⟨a, b, rfl, hreg⟩ := h
    refine Or.inr ⟨a, b, rfl, hreg, ?_⟩
    rw [setRegDomain_of_valid hreg]
    cases hc : checkTestInProg ctx .enoexec with
    | some e =>
      have hidle : ¬ ctx.Idle := fun hi => by simp [checkTestInProg_eq_none.mpr hi] at hc
      exact ⟨rfl, by simp [hidle], fun fw => rfl⟩
    | none =>
      refine ⟨rfl, ?_, fun fw => ?_⟩
      · simp [checkTestInProg_eq_none.mp hc]
      · cases o.setReg <;> rfl
  · have hnot : ∀ a b, reg = [a, b] → ¬ RegDomain a b := fun a b heq hreg => h ⟨a, b, heq, hreg⟩
    exact Or.inl ⟨hnot, setRegDomain_of_not_valid hnot⟩

end RegDomain

/-! ### Initialisation -/

section Init

variable (d : Nrfxlib) (o : Outcomes) (ctx : RadioCtx) (val : UInt64)

/-- RX is off in the host's copy. -/
def RadioCtx.stopRx : RadioCtx := { ctx with confParams := { ctx.confParams with rx := 0 } }

/-- RX and TX are off in the host's copy. -/
def RadioCtx.stopTests : RadioCtx :=
  { ctx with confParams := { ctx.confParams with rx := 0, tx := 0 } }

/-- The latch is down, if it was up. -/
def RadioCtx.stopTone : RadioCtx := if ctx.rfTestRun then ctx.unlatch else ctx

/-- The call that has switched a running RX off. -/
def stopRxEvents : List RadioEvent :=
  if ctx.confParams.rx ≠ 0 then [.fmac (.progRx ctx.stopRx.confParams) true] else []

/-- The call that has switched a running TX off. -/
def stopTxEvents : List RadioEvent :=
  if ctx.confParams.tx ≠ 0 then [.fmac (.progTx ctx.stopTests.confParams) true] else []

/-- The call that has switched a running tone off. -/
def stopToneEvents : List RadioEvent :=
  if ctx.rfTestRun then
    [.fmac (.txTone 0 ctx.confParams.txToneFreq ctx.confParams.txPower) true]
  else []

/-- The call that has failed to switch a running tone off. There is none for another test. -/
def toneFailedEvents : List RadioEvent :=
  if ctx.rfTest = .txTone then
    [.fmac (.txTone 0 ctx.confParams.txToneFreq ctx.confParams.txPower) false]
  else []

/-- The latch is down, or up for a tone that the firmware agrees to stop. -/
def ToneStops : Prop := ctx.rfTestRun = true → ctx.rfTest = .txTone ∧ o.txTone = true

/-- `conf_params` as `init=val` programs it. -/
def initParams : ConfParams :=
  { defaultParams d o ctx.confParams.countryCode with chanPrimaryNum := d.primaryNum val }

/-- The ways out of `nrf_wifi_radio_test_init` for a valid channel. -/
inductive InitExit : Handled → Prop
  | rxFailed {e} (hrx : ctx.confParams.rx ≠ 0) (hok : o.progRx = false) :
      InitExit ⟨ctx.stopRx, [.fmac (.progRx ctx.stopRx.confParams) false], some e⟩
  | txFailed {e} (hrx : ctx.confParams.rx ≠ 0 → o.progRx = true) (htx : ctx.confParams.tx ≠ 0)
      (hok : o.progTx = false) :
      InitExit ⟨ctx.stopTests,
        stopRxEvents ctx ++ [.fmac (.progTx ctx.stopTests.confParams) false], some e⟩
  | toneFailed {e} (hrx : ctx.confParams.rx ≠ 0 → o.progRx = true)
      (htx : ctx.confParams.tx ≠ 0 → o.progTx = true) (htone : ¬ ToneStops o ctx) :
      InitExit ⟨ctx.stopTests,
        stopRxEvents ctx ++ (stopTxEvents ctx ++ toneFailedEvents ctx), some e⟩
  | confFailed {e} (hrx : ctx.confParams.rx ≠ 0 → o.progRx = true)
      (htx : ctx.confParams.tx ≠ 0 → o.progTx = true) (htone : ToneStops o ctx)
      (hok : o.rfParamsGet = false) :
      InitExit ⟨{ ctx.stopTone with confParams := clearedParams d o },
        stopRxEvents ctx ++ (stopTxEvents ctx ++
          (stopToneEvents ctx ++ [.fmac .rfParamsGet false])), some e⟩
  | programmed {e} (hrx : ctx.confParams.rx ≠ 0 → o.progRx = true)
      (htx : ctx.confParams.tx ≠ 0 → o.progTx = true) (htone : ToneStops o ctx)
      (hok : o.rfParamsGet = true) (he : e = none ↔ o.radioTestInit = true) :
      InitExit ⟨{ ctx.stopTone with confParams := initParams d o ctx val },
        stopRxEvents ctx ++ (stopTxEvents ctx ++ (stopToneEvents ctx ++
          ([.fmac .rfParamsGet true] ++
            [.fmac (.radioTestInit (initParams d o ctx val)) o.radioTestInit]))), e⟩

variable {d o ctx val}

theorem stopRx_of_eq (h : ctx.confParams.rx = 0) : ctx.stopRx = ctx := by
  rw [RadioCtx.stopRx, ← h]

theorem stopTests_of_eq (h : ctx.confParams.tx = 0) : ctx.stopTests = ctx.stopRx := by
  rw [RadioCtx.stopTests, RadioCtx.stopRx, ← h]

theorem stopRxEvents_after (fw : Firmware) :
    (stopRxEvents ctx).foldl Firmware.after fw =
      { fw with rx := if ctx.confParams.rx ≠ 0 then 0 else fw.rx } := by
  rw [stopRxEvents]
  split_ifs <;> rfl

theorem stopTxEvents_after (fw : Firmware) :
    (stopTxEvents ctx).foldl Firmware.after fw =
      { fw with tx := if ctx.confParams.tx ≠ 0 then 0 else fw.tx } := by
  rw [stopTxEvents]
  split_ifs <;> rfl

theorem stopToneEvents_after (fw : Firmware) :
    (stopToneEvents ctx).foldl Firmware.after fw =
      { fw with tone := if ctx.rfTestRun then false else fw.tone } := by
  rw [stopToneEvents]
  split_ifs <;> rfl

theorem toneFailedEvents_after (fw : Firmware) :
    (toneFailedEvents ctx).foldl Firmware.after fw = fw := by
  rw [toneFailedEvents]
  split_ifs <;> rfl

/-- What has stopped a test has succeeded. -/
theorem ok_of_mem_stopEvents {call : FmacCall} {ok : Bool}
    (h : .fmac call ok ∈ stopRxEvents ctx ++ stopTxEvents ctx) : ok = true := by
  have hrx : .fmac call ok ∈ stopRxEvents ctx → ok = true := by
    rw [stopRxEvents]
    split_ifs <;> simp
  have htx : .fmac call ok ∈ stopTxEvents ctx → ok = true := by
    rw [stopTxEvents]
    split_ifs <;> simp
  exact (List.mem_append.mp h).elim hrx htx

theorem initStopRx_of_ok (h : ctx.confParams.rx ≠ 0 → o.progRx = true) :
    initStopRx o ctx = ⟨ctx.stopRx, stopRxEvents ctx, none⟩ := by
  by_cases hrx : ctx.confParams.rx = 0
  · rw [initStopRx, if_neg (not_not.mpr hrx), stopRxEvents, if_neg (not_not.mpr hrx),
      stopRx_of_eq hrx]
    rfl
  · rw [initStopRx, if_pos hrx, stopRxEvents, if_pos hrx]
    simp [h hrx, RadioCtx.stopRx]

theorem initStopTx_of_ok (h : ctx.confParams.tx ≠ 0 → o.progTx = true) :
    initStopTx o ctx.stopRx = ⟨ctx.stopTests, stopTxEvents ctx, none⟩ := by
  by_cases htx : ctx.confParams.tx = 0
  · have htx' : ctx.stopRx.confParams.tx = 0 := htx
    rw [initStopTx, if_neg (not_not.mpr htx'), stopTxEvents, if_neg (not_not.mpr htx),
      stopTests_of_eq htx]
    rfl
  · have htx' : ctx.stopRx.confParams.tx ≠ 0 := htx
    rw [initStopTx, if_pos htx', stopTxEvents, if_pos htx]
    simp [h htx, RadioCtx.stopTests, RadioCtx.stopRx]

theorem initStopTone_of_ok (h : ToneStops o ctx) :
    initStopTone d o ctx.stopTests = ⟨ctx.stopTests.stopTone, stopToneEvents ctx, none⟩ := by
  cases hrun : ctx.rfTestRun with
  | false =>
    simp [initStopTone, RadioCtx.stopTone, stopToneEvents, RadioCtx.stopTests, hrun, Outcome.done]
  | true =>
    obtain ⟨htest, hok⟩ := h hrun
    simp [initStopTone, RadioCtx.stopTone, stopToneEvents, RadioCtx.stopTests, hrun, htest, hok]

theorem initStopTone_of_not_ok (h : ¬ ToneStops o ctx) :
    ∃ e, initStopTone d o ctx.stopTests = ⟨ctx.stopTests, toneFailedEvents ctx, some e⟩ := by
  have hrun : ctx.stopTests.rfTestRun = true := by
    by_contra hne
    exact h fun hr => absurd hr hne
  by_cases htest : ctx.stopTests.rfTest = .txTone
  · have hok : o.txTone = false := by
      by_contra hne
      exact h fun _ => ⟨htest, by simpa using hne⟩
    have htest' : ctx.rfTest = .txTone := htest
    rw [initStopTone, if_pos hrun, if_neg (not_not.mpr htest), hok, toneFailedEvents,
      if_pos htest']
    exact ⟨_, rfl⟩
  · have htest' : ¬ ctx.rfTest = .txTone := htest
    rw [initStopTone, if_pos hrun, if_pos htest, toneFailedEvents, if_neg htest']
    exact ⟨_, rfl⟩

variable (d o ctx) in
/-- **Everything `nrf_wifi_radio_test_init` can do with a valid channel.** -/
theorem init_exit (hval : checkValidChannel val.toUInt8 = true) :
    InitExit d o ctx val (nrfWifiRadioTestInit d o ctx val) := by
  rw [nrfWifiRadioTestInit, if_pos hval]
  by_cases hrx : ctx.confParams.rx ≠ 0 → o.progRx = true
  swap
  · rw [Classical.not_imp, Bool.not_eq_true] at hrx
    rw [initStopRx, if_pos hrx.1, hrx.2]
    exact .rxFailed hrx.1 hrx.2
  rw [initStopRx_of_ok hrx, Outcome.andThen_of_none rfl]
  by_cases htx : ctx.confParams.tx ≠ 0 → o.progTx = true
  swap
  · rw [Classical.not_imp, Bool.not_eq_true] at htx
    have htx' : ctx.stopRx.confParams.tx ≠ 0 := htx.1
    rw [initStopTx, if_pos htx', htx.2]
    exact .txFailed hrx htx.1 htx.2
  rw [initStopTx_of_ok htx, Outcome.andThen_of_none rfl]
  by_cases htone : ToneStops o ctx
  swap
  · obtain ⟨e, heq⟩ := initStopTone_of_not_ok (d := d) htone
    rw [heq]
    exact .toneFailed hrx htx htone
  rw [initStopTone_of_ok htone, Outcome.andThen_of_none rfl, nrfWifiRadioTestConfInit]
  -- neither stopping the tests nor lowering the latch touches what the defaults are made from
  have hcc : ctx.stopTests.stopTone.confParams.countryCode = ctx.confParams.countryCode := by
    rw [RadioCtx.stopTone]
    split <;> rfl
  have hctx : ∀ p : ConfParams,
      { ctx.stopTests.stopTone with confParams := p } = { ctx.stopTone with confParams := p } := by
    intro p
    cases hrun : ctx.rfTestRun <;>
      simp [RadioCtx.stopTone, RadioCtx.stopTests, RadioCtx.unlatch, hrun]
  cases hok : o.rfParamsGet with
  | false =>
    simp only [hctx]
    exact .confFailed hrx htx htone hok
  | true =>
    rw [Outcome.andThen_of_none (by simp)]
    simp only [hctx, hcc, if_true, initProgram]
    exact .programmed hrx htx htone hok checkThat_eq_none

end Init

end Nrf70
