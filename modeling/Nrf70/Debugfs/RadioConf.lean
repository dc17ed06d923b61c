import Nrf70.Debugfs.RadioTest
import Nrf70.Lib.Machine

/-!
# Writes to the radio-test configuration file

`nrf_wifi_wlan_fmac_radio_test_conf_write` looks for parameter names anywhere in the text, in a
fixed order, reads the number after the first `=`, and calls the handler of the first name whose
number can be read. Here that is a `Command`, and a sequence of writes is a run of `radioMachine`.

The firmware beside the context is what the FMAC calls so far have told it: the last TX and RX
values that were taken, and whether the tone was last switched on or off. Nothing the driver does
reads it.

## Main definitions

* `confCommand` — the command a text names
* `Command.handle` — the handler it runs
* `nrfWifiWlanFmacRadioTestConfWrite`, `radioMachine` — a write, and sequences of writes
-/

namespace Nrf70

/-! ### Names -/

/-- The parameters read with `param_get_val`. -/
inductive ValKey
  | phyCalibRxdc | phyCalibTxdc | phyCalibTxpow | phyCalibRxiq | phyCalibTxiq | heLtf | heGi
  | txPktTputMode | txPktSgi | txPktPreamble | txPktGap | txPktLen | txPower | ruTone | ruIndex
  | rxCaptureLength | rxLnaGain | rxBbGain | txToneFreq | dpd | setXoVal | init | tx | rx | rxCap
  | txTone | getTemperature | getRfRssi | computeOptimalXoVal | txPktCw | bypassRegDomain
  deriving DecidableEq, Repr

/-- The parameters read with `param_get_sval`. -/
inductive SvalKey
  | txPktMcs | txPktRate | txPktNum
  deriving DecidableEq, Repr

def ValKey.text : ValKey → String
  | .phyCalibRxdc => "phy_calib_rxdc="
  | .phyCalibTxdc => "phy_calib_txdc="
  | .phyCalibTxpow => "phy_calib_txpow="
  | .phyCalibRxiq => "phy_calib_rxiq="
  | .phyCalibTxiq => "phy_calib_txiq="
  | .heLtf => "he_ltf="
  | .heGi => "he_gi="
  | .txPktTputMode => "tx_pkt_tput_mode="
  | .txPktSgi => "tx_pkt_sgi="
  | .txPktPreamble => "tx_pkt_preamble="
  | .txPktGap => "tx_pkt_gap="
  | .txPktLen => "tx_pkt_len="
  | .txPower => "tx_power="
  | .ruTone => "ru_tone="
  | .ruIndex => "ru_index="
  | .rxCaptureLength => "rx_capture_length="
  | .rxLnaGain => "rx_lna_gain="
  | .rxBbGain => "rx_bb_gain="
  | .txToneFreq => "tx_tone_freq="
  | .dpd => "dpd="
  | .setXoVal => "set_xo_val="
  | .init => "init="
  | .tx => "tx="
  | .rx => "rx="
  | .rxCap => "rx_cap="
  | .txTone => "tx_tone="
  | .getTemperature => "get_temperature="
  | .getRfRssi => "get_rf_rssi="
  | .computeOptimalXoVal => "compute_optimal_xo_val="
  | .txPktCw => "tx_pkt_cw="
  | .bypassRegDomain => "bypass_reg_domain="

def SvalKey.text : SvalKey → String
  | .txPktMcs => "tx_pkt_mcs="
  | .txPktRate => "tx_pkt_rate="
  | .txPktNum => "tx_pkt_num="

/-- What a write asks for. -/
inductive Command
  | setDefaults
  | val (key : ValKey) (val : UInt64)
  | sval (key : SvalKey) (sval : Int64)
  | regDomain (reg : List UInt8)
  /-- `bypass_reg_domain=` without a number. -/
  | bypassInvalid (rest : List UInt8)
  /-- No name was found with a number after it. -/
  | unknown (confBuf : List UInt8)
  deriving DecidableEq, Repr

/-! ### Reading the text -/

/-- A name of the dispatch chain. -/
inductive ConfKey
  | val (key : ValKey)
  | sval (key : SvalKey)
  deriving DecidableEq, Repr

def ConfKey.read (buf : List UInt8) : ConfKey → Option Command
  | .val key => (paramGetVal buf key.text).map (.val key)
  | .sval key => (paramGetSval buf key.text).map (.sval key)

/-- The names in the order they are tried. `tx_pkt_len` is tried twice. -/
def confKeys : List ConfKey :=
  [.val .phyCalibRxdc, .val .phyCalibTxdc, .val .phyCalibTxpow, .val .phyCalibRxiq,
    .val .phyCalibTxiq, .val .heLtf, .val .heGi, .val .txPktTputMode, .val .txPktSgi,
    .val .txPktPreamble, .sval .txPktMcs, .sval .txPktRate, .val .txPktGap, .sval .txPktNum,
    .val .txPktLen, .val .txPktLen, .val .txPower, .val .ruTone, .val .ruIndex,
    .val .rxCaptureLength, .val .rxLnaGain, .val .rxBbGain, .val .txToneFreq, .val .dpd,
    .val .setXoVal, .val .init, .val .tx, .val .rx, .val .rxCap, .val .txTone,
    .val .getTemperature, .val .getRfRssi, .val .computeOptimalXoVal, .val .txPktCw]

/-- The dispatch chain of `nrf_wifi_wlan_fmac_radio_test_conf_write`. -/
def confCommand (buf : List UInt8) : Command :=
  if paramGetMatch buf "set_defaults" then .setDefaults
  else
    match confKeys.findSome? (ConfKey.read buf) with
    | some c => c
    | none =>
      if paramGetMatch buf "reg_domain=" then
        if paramGetMatch buf "bypass" then
          match paramGetVal buf ValKey.bypassRegDomain.text with
          | some val => .val .bypassRegDomain val
          | none => .bypassInvalid (afterEquals buf)
        else .regDomain (afterEquals buf)
      else .unknown buf

/-! ### Handlers -/

variable (d : Nrfxlib) (o : Outcomes)

def ValKey.handle (ctx : RadioCtx) (val : UInt64) : ValKey → Handled
  | .phyCalibRxdc => nrfWifiRadioTestSetPhyCalibRxdc d ctx val
  | .phyCalibTxdc => nrfWifiRadioTestSetPhyCalibTxdc d ctx val
  | .phyCalibTxpow => nrfWifiRadioTestSetPhyCalibTxpow d ctx val
  | .phyCalibRxiq => nrfWifiRadioTestSetPhyCalibRxiq d ctx val
  | .phyCalibTxiq => nrfWifiRadioTestSetPhyCalibTxiq d ctx val
  | .heLtf => nrfWifiRadioTestSetHeLtf ctx val
  | .heGi => nrfWifiRadioTestSetHeGi ctx val
  | .txPktTputMode => nrfWifiRadioTestSetTxPktTputMode d ctx val
  | .txPktSgi => nrfWifiRadioTestSetTxPktSgi ctx val
  | .txPktPreamble => nrfWifiRadioTestSetTxPktPreamble d ctx val
  | .txPktGap => nrfWifiRadioTestSetTxPktGap ctx val
  | .txPktLen => nrfWifiRadioTestSetTxPktLen d ctx val
  | .txPower => nrfWifiRadioTestSetTxPower d ctx val
  | .ruTone => nrfWifiRadioTestSetRuTone ctx val
  | .ruIndex => nrfWifiRadioTestSetRuIndex ctx val
  | .rxCaptureLength => nrfWifiRadioTestSetRxCaptureLength ctx val
  | .rxLnaGain => nrfWifiRadioTestSetRxLnaGain ctx val
  | .rxBbGain => nrfWifiRadioTestSetRxBbGain ctx val
  | .txToneFreq => nrfWifiRadioTestSetTxToneFreq ctx val
  | .dpd => nrfWifiRadioSetDpd o ctx val
  | .setXoVal => nrfWifiRadioSetXoVal d o ctx val
  | .init => nrfWifiRadioTestInit d o ctx val
  | .tx => nrfWifiRadioTestSetTx d o ctx val
  | .rx => nrfWifiRadioTestSetRx o ctx val
  | .rxCap => nrfWifiRadioTestRxCap d o ctx val
  | .txTone => nrfWifiRadioTestTxTone o ctx val
  | .getTemperature => nrfWifiRadioGetTemperature o ctx val
  | .getRfRssi => nrfWifiRadioGetRfRssi o ctx val
  | .computeOptimalXoVal => nrfWifiRadioCompOptXoVal o ctx
  | .txPktCw => nrfWifiRadioTestSetTxPktCw ctx val.toInt64
  | .bypassRegDomain => nrfWifiRadioTestSetBypassReg ctx val

def SvalKey.handle (ctx : RadioCtx) (sval : Int64) : SvalKey → Handled
  | .txPktMcs => nrfWifiRadioTestSetTxPktMcs d ctx sval
  | .txPktRate => nrfWifiRadioTestSetTxPktRate d ctx sval
  | .txPktNum => nrfWifiRadioTestSetTxPktNum d ctx sval

/-- The handler of a command. For `set_defaults` the error is the status of
`nrf_wifi_radio_test_conf_init`. -/
def Command.handle (ctx : RadioCtx) : Command → Handled
  | .setDefaults => nrfWifiRadioTestConfInit d o ctx
  | .val key v => key.handle d o ctx v
  | .sval key v => key.handle d ctx v
  | .regDomain reg => nrfWifiRadioTestSetRegDomain o ctx reg
  | .bypassInvalid rest => .fail ctx ⟨.einval, errStrOf "Invalid parameter value: " (rest ++ [10])⟩
  | .unknown buf => .fail ctx ⟨.efault, errStrOf "Invalid parameter name: " (buf ++ [10])⟩

/-! ### A write -/

/-- A call of `nrf_wifi_wlan_fmac_radio_test_conf_write`: the user's buffer, whether the allocation
and the copy succeed, and the outcomes of the calls the handler makes. -/
structure ConfWrite where
  inBuf : List UInt8
  allocated : Bool
  copied : Bool
  fmac : Outcomes

/-- The command of a write that gets as far as the dispatch. The last byte is overwritten by a
NUL, whatever it was. -/
def ConfWrite.command (w : ConfWrite) : Option Command :=
  if maxConfBufSize ≤ w.inBuf.length then none
  else if !w.allocated then none
  else if !w.copied then none
  else some (confCommand (cString w.inBuf.dropLast))

/-- What the write prints before the dispatch fails. -/
def ConfWrite.earlyError (w : ConfWrite) : String :=
  if maxConfBufSize ≤ w.inBuf.length then
    "Size of input buffer cannot be more than 500 chars\n"
  else if !w.allocated then "Not enough memory available\n"
  else "Copy from input buffer failed\n"

/-- The end of a write that was dispatched: the line it logs, and its return value. The status of
`set_defaults` is not looked at, and the error code of a handler is dropped: `err_val` stays
`count`, except for an unknown name. -/
def Command.report (count : ℕ) : Command → Option ConfError → List RadioEvent × ℤ
  | .setDefaults, _ => ([], count)
  | .unknown _, some e => ([.prErr e.errStr], Errno.ret .efault)
  | _, some e => ([.prErr e.errStr], count)
  | _, none => ([], count)

/-- `nrf_wifi_wlan_fmac_radio_test_conf_write`: the context, the events and the return value. -/
def nrfWifiWlanFmacRadioTestConfWrite (ctx : RadioCtx) (w : ConfWrite) :
    RadioCtx × List RadioEvent × ℤ :=
  match w.command with
  | none => (ctx, [.prErr (some w.earlyError)], Errno.ret .efault)
  | some c =>
    let r := c.handle d w.fmac ctx
    let (log, ret) := c.report w.inBuf.length r.error
    (r.state, r.events ++ log, ret)

/-! ### The firmware, and runs -/

/-- What the firmware has been told. -/
structure Firmware where
  tx : ℕ
  rx : ℕ
  tone : Bool
  deriving DecidableEq, Repr

/-- The effect of one event on the firmware: a successful call is obeyed. -/
def Firmware.after (fw : Firmware) : RadioEvent → Firmware
  | .fmac (.progTx p) true => { fw with tx := p.tx }
  | .fmac (.progRx p) true => { fw with rx := p.rx }
  | .fmac (.txTone val ..) true => { fw with tone := val ≠ 0 }
  | _ => fw

/-- The driver's context and the firmware. -/
structure RadioState where
  ctx : RadioCtx
  fw : Firmware

/-- The state of a device that was just added. -/
def RadioState.init : RadioState := ⟨.zero, ⟨0, 0, false⟩⟩

/-- One write. -/
def radioStep (s : RadioState) (w : ConfWrite) : RadioState × List RadioEvent :=
  let r := nrfWifiWlanFmacRadioTestConfWrite d s.ctx w
  (⟨r.1, r.2.1.foldl Firmware.after s.fw⟩, r.2.1)

/-- Sequences of writes. -/
def radioMachine : Machine RadioState ConfWrite RadioEvent := ⟨fun s w => some (radioStep d s w)⟩

/-- A write of a text that reaches the dispatch. -/
def ConfWrite.ofText (text : String) (fmac : Outcomes) : ConfWrite :=
  ⟨cBytes text, true, true, fmac⟩

/-- The state after a sequence of writes. -/
def runWrites (s : RadioState) (ws : List ConfWrite) : RadioState :=
  ws.foldl (fun s w => (radioStep d s w).1) s

/-- Every FMAC call among the events has succeeded. -/
def CallsSucceed (events : List RadioEvent) : Prop := ∀ call ok, .fmac call ok ∈ events → ok = true

/-! ### From commands to writes -/

/-- The state after the handler of a command. -/
def Command.next (s : RadioState) (c : Command) : RadioState :=
  ⟨(c.handle d o s.ctx).state, (c.handle d o s.ctx).events.foldl Firmware.after s.fw⟩

/-- A condition on commands, as a condition on writes: one that is not dispatched meets it. -/
def OnCommand (ok : RadioState → Outcomes → Command → Prop) (s : RadioState) (w : ConfWrite) :
    Prop :=
  ∀ c, w.command = some c → ok s w.fmac c

theorem report_after (c : Command) (count : ℕ) (e : Option ConfError) (fw : Firmware) :
    (c.report count e).1.foldl Firmware.after fw = fw := by
  cases c <;> cases e <;> rfl

/-- A write is the handler of its command, or changes nothing. -/
theorem radioStep_fst (s : RadioState) (w : ConfWrite) :
    (radioStep d s w).1 = match w.command with
      | none => s
      | some c => c.next d w.fmac s := by
  rw [radioStep, nrfWifiWlanFmacRadioTestConfWrite]
  cases w.command with
  | none => rfl
  | some c => simp [Command.next, List.foldl_append, report_after]

theorem radioMachine_step {s s' : RadioState} {w : ConfWrite} {u : List RadioEvent}
    (h : (radioMachine d).step s w = some (s', u)) :
    s' = (radioStep d s w).1 ∧ u = (radioStep d s w).2 :=
  (radioMachine d).step_eq_of_total (fun _ _ => rfl) h

/-- What every handler preserves exactly under a condition, every write does. -/
theorem radioMachine_step_iff {P : RadioState → Prop} {ok : RadioState → Outcomes → Command → Prop}
    (hnext : ∀ {s o c}, P s → (P (c.next d o s) ↔ ok s o c))
    {s s' : RadioState} {w : ConfWrite} {u : List RadioEvent} (h : P s)
    (hs : (radioMachine d).step s w = some (s', u)) : P s' ↔ OnCommand ok s w := by
  rw [(radioMachine_step d hs).1, radioStep_fst, OnCommand]
  cases w.command with
  | none => simpa using h
  | some c => simpa using hnext h

/-- Every sequence of writes runs to its end. -/
theorem exec_runWrites (s : RadioState) (ws : List ConfWrite) :
    ∃ t, (radioMachine d).exec s ws = some (runWrites d s ws, t) := by
  induction ws generalizing s with
  | nil => exact ⟨[], rfl⟩
  | cons w ws ih =>
    obtain ⟨t, ht⟩ := ih (radioStep d s w).1
    exact ⟨(radioStep d s w).2 ++ t, (radioMachine d).exec_cons_eq_some.mpr ⟨_, _, _, rfl, ht, rfl⟩⟩

@[simp] theorem runWrites_nil (s : RadioState) : runWrites d s [] = s := rfl

theorem runWrites_cons {w : ConfWrite} {c : Command} (hc : w.command = some c) (s : RadioState)
    (ws : List ConfWrite) : runWrites d s (w :: ws) = runWrites d (c.next d w.fmac s) ws := by
  change runWrites d (radioStep d s w).1 ws = _
  rw [radioStep_fst, hc]

/-- A condition along a sequence that begins with a command. -/
theorem along_onCommand_cons {ok : RadioState → Outcomes → Command → Prop} {w : ConfWrite}
    {c : Command} (hc : w.command = some c) (s : RadioState) (ws : List ConfWrite) :
    (radioMachine d).Along (OnCommand ok) s (w :: ws) ↔
      ok s w.fmac c ∧ (radioMachine d).Along (OnCommand ok) (c.next d w.fmac s) ws := by
  have hnext : (radioStep d s w).1 = c.next d w.fmac s := by rw [radioStep_fst, hc]
  have hstep : (radioMachine d).step s w =
      some ((radioStep d s w).1, (radioStep d s w).2) := rfl
  rw [(radioMachine d).along_cons hstep, hnext]
  have hcmd : OnCommand ok s w ↔ ok s w.fmac c :=
    ⟨fun h => h c hc, fun h c' hc' => by rwa [← Option.some.inj (hc.symm.trans hc')]⟩
  rw [hcmd]

/-- What holds throughout holds at the end. -/
theorem throughout_runWrites {P : RadioState → Prop} {s : RadioState} {ws : List ConfWrite}
    (h : (radioMachine d).Throughout P s ws) : P (runWrites d s ws) := by
  obtain ⟨t, ht⟩ := exec_runWrites d s ws
  exact h ws _ t (List.prefix_refl ws) ht

/-- **Exactness over a sequence of writes.** When every handler preserves a property exactly under
a condition, the property holds throughout a sequence exactly when all its writes meet the
condition. -/
theorem radioMachine_throughout_iff {P : RadioState → Prop}
    {ok : RadioState → Outcomes → Command → Prop}
    (hnext : ∀ {s o c}, P s → (P (c.next d o s) ↔ ok s o c)) {s : RadioState} (h : P s)
    (ws : List ConfWrite) :
    (radioMachine d).Throughout P s ws ↔ (radioMachine d).Along (OnCommand ok) s ws := by
  obtain ⟨t, hexec⟩ := exec_runWrites d s ws
  exact (radioMachine d).throughout_iff_along (fun hP hs => radioMachine_step_iff d hnext hP hs) h
    hexec

/-- What every handler preserves holds throughout. -/
theorem radioMachine_throughout {P : RadioState → Prop}
    (hnext : ∀ {s o} {c : Command}, P s → P (c.next d o s)) {s : RadioState} (h : P s)
    (ws : List ConfWrite) : (radioMachine d).Throughout P s ws := by
  intro bs s' t _ hexec
  refine (radioMachine d).exec_invariant (P := fun _ s => P s) (t := []) ?_ h hexec
  intro t s w s' u hP hstep
  rw [(radioMachine_step d hstep).1, radioStep_fst]
  cases w.command with
  | none => exact hP
  | some c => exact hnext hP

theorem CallsSucceed.left {t u : List RadioEvent} (h : CallsSucceed (t ++ u)) : CallsSucceed t :=
  fun call ok hmem => h call ok (List.mem_append_left u hmem)

theorem CallsSucceed.right {t u : List RadioEvent} (h : CallsSucceed (t ++ u)) : CallsSucceed u :=
  fun call ok hmem => h call ok (List.mem_append_right t hmem)

/-- **The invariant rule for sequences of writes.** `Q` is kept whatever FMAC answers, `R` as long
as all its calls succeed. -/
theorem radioMachine_invariant {Q R : RadioState → Prop}
    {ok : RadioState → Outcomes → Command → Prop}
    (hQ : ∀ {s o c}, Q s → ok s o c → Q (c.next d o s))
    (hR : ∀ {s o c}, Q s → R s → ok s o c → CallsSucceed (c.handle d o s.ctx).events →
      R (c.next d o s))
    {s s' : RadioState} {ws : List ConfWrite} {t : List RadioEvent} (hs : Q s ∧ R s)
    (hok : (radioMachine d).Along (OnCommand ok) s ws)
    (hexec : (radioMachine d).exec s ws = some (s', t)) : Q s' ∧ (CallsSucceed t → R s') := by
  refine (radioMachine d).exec_invariant_along (P := fun t s => Q s ∧ (CallsSucceed t → R s))
    (t := []) ?_ ⟨hs.1, fun _ => hs.2⟩ hok hexec
  intro t s w s' u hP hw hstep
  obtain ⟨rfl, rfl⟩ := radioMachine_step d hstep
  rw [radioStep_fst]
  cases hc : w.command with
  | none => exact ⟨hP.1, fun hcalls => hP.2 hcalls.left⟩
  | some c =>
    refine ⟨hQ hP.1 (hw c hc), fun hcalls => ?_⟩
    have hu : CallsSucceed (radioStep d s w).2 := hcalls.right
    simp only [radioStep, nrfWifiWlanFmacRadioTestConfWrite, hc] at hu
    exact hR hP.1 (hP.2 hcalls.left) (hw c hc) hu.left

end Nrf70
