import Mathlib.Logic.Function.Basic
import Nrf70.Debugfs.ConfFile
import Nrf70.Lib.ErrorExit

/-!
# The handlers of the radio test

`radio_test.c` keeps a copy of the radio configuration in `ctx->conf_params` and programs the
firmware from it. Every parameter of the `conf` file has a handler, which checks the value, may
check that neither TX nor RX is in progress, and then stores the value or makes an FMAC call. The
handlers are written here in the order of their checks and assignments, since what a handler has
stored before it fails stays stored.

`rf_test_run` and `rf_test` are a latch around the RF tests: the one-shot tests raise it, call the
firmware and lower it, and `tx_tone` leaves it raised for as long as the tone is on.

## What is outside the repository

The numbers of nrfxlib's enumerations, the offsets inside `rf_params` and the types of the fields
of `struct rpu_conf_params` are in `Nrfxlib`, together with the few facts about them the handlers
rely on. A value that has passed a range check is stored as it is. A value that has no upper bound
goes through the conversion to the type of its field. FMAC calls are outcomes handed to the
handler, at most one for each FMAC function since no handler calls one twice.

## Main definitions

* `ConfParams`, `RadioCtx` — the configuration and the context around it
* `setParam`, `oneShot` — the two families most handlers belong to
* `nrfWifiRadioTestConfInit`, `nrfWifiRadioTestInit`, `nrfWifiRadioTestSetTx`,
  `nrfWifiRadioTestSetRx`, `nrfWifiRadioTestSetRegDomain`, `nrfWifiRadioTestRxCap`,
  `nrfWifiRadioTestTxTone` — the handlers with a body of their own
-/

namespace Nrf70

/-! ### What comes from nrfxlib -/

/-- The enumerators of `enum nrf_wifi_rf_test` the driver names. -/
inductive RfTest
  | rxAdcCap | rxStatPktCap | rxDynPktCap | txTone | dpd | rfRssi | getTemperature | xoCalib
  | xoTune | max
  deriving DecidableEq, Repr

/-- The calibrations `phy_calib` has a flag for. -/
inductive PhyCalib
  | rxdc | txdc | txpow | rxiq | txiq
  deriving DecidableEq, Repr

/-- The constants and field types the radio test takes from nrfxlib's headers. -/
structure Nrfxlib where
  tputModeLegacy : ℕ
  tputModeHt : ℕ
  tputModeVht : ℕ
  tputModeHeSu : ℕ
  tputModeHeErSu : ℕ
  tputModeHeTb : ℕ
  tputModeMax : ℕ
  pktPreambleShort : ℕ
  pktPreambleLong : ℕ
  pktPreambleMixed : ℕ
  chBw20 : ℕ
  maxTxPwrRadioTest : ℕ
  maxTxPwrSysTest : ℕ
  opModeRadioTest : ℕ
  defPhyCalib : UInt32
  phyCalibFlag : PhyCalib → UInt32
  rfTest : RfTest → UInt64
  xoFreqByteOffset : ℕ
  txPwrCeilByteOffset : ℕ
  sizeofTxPwrCeil : ℕ
  /-- The conversions made when a value without an upper bound is stored. -/
  txPktMcs : Int64 → ℤ
  txPktRate : Int64 → ℤ
  txPktNum : Int64 → ℤ
  txPktLen : UInt64 → ℕ
  primaryNum : UInt64 → ℕ
  tputModeLegacy_eq : tputModeLegacy = 0
  tputModeMax_pos : 0 < tputModeMax
  pktPreambleShort_eq : pktPreambleShort = 0
  pktPreambleLong_eq : pktPreambleLong = 1
  /-- The field of a packet length holds the largest length that is checked for. -/
  txPktLen_of_le : ∀ val, val ≤ 4000 → txPktLen val = val.toNat

/-- The numbers of nrfxlib's public headers. -/
def Nrfxlib.headers : Nrfxlib where
  tputModeLegacy := 0
  tputModeHt := 1
  tputModeVht := 2
  tputModeHeSu := 3
  tputModeHeErSu := 4
  tputModeHeTb := 5
  tputModeMax := 6
  pktPreambleShort := 0
  pktPreambleLong := 1
  pktPreambleMixed := 2
  chBw20 := 0
  maxTxPwrRadioTest := 24
  maxTxPwrSysTest := 30
  opModeRadioTest := 0
  defPhyCalib := 31
  phyCalibFlag
    | .rxdc => 1
    | .txdc => 2
    | .txpow => 4
    | .rxiq => 16
    | .txiq => 8
  rfTest
    | .rxAdcCap => 0
    | .rxStatPktCap => 1
    | .rxDynPktCap => 2
    | .txTone => 3
    | .dpd => 4
    | .rfRssi => 5
    | .getTemperature => 7
    | .xoCalib => 8
    | .xoTune => 9
    | .max => 11
  xoFreqByteOffset := 6
  txPwrCeilByteOffset := 15
  sizeofTxPwrCeil := 9
  txPktMcs val := val.toInt8.toInt
  txPktRate val := val.toInt8.toInt
  txPktNum val := val.toInt32.toInt
  txPktLen val := val.toUInt16.toNat
  primaryNum val := val.toUInt32.toNat
  tputModeLegacy_eq := rfl
  tputModeMax_pos := by decide
  pktPreambleShort_eq := rfl
  pktPreambleLong_eq := rfl
  txPktLen_of_le := by
    intro val h
    have h' : val.toNat ≤ 4000 := UInt64.le_iff_toNat_le.mp h
    rw [UInt64.toNat_toUInt16]
    omega

/-! ### The context -/

/-- `struct rpu_conf_params`, as far as the radio test uses it. `rfParams` is the byte array
`rf_params` by index, `chanPrimaryNum` and `chanBw` are the members of `chan`. -/
structure ConfParams where
  opMode : ℕ
  rfParams : ℕ → UInt8
  phyCalib : UInt32
  heLtf : ℕ
  heGi : ℕ
  txPktTputMode : ℕ
  txPktSgi : ℕ
  txPktNss : ℕ
  txPktPreamble : ℕ
  txPktMcs : ℤ
  txPktRate : ℤ
  txPktGapUs : ℕ
  txPktNum : ℤ
  txPktLen : ℕ
  txPower : ℕ
  txMode : ℕ
  ruTone : ℕ
  ruIndex : ℕ
  captureLength : ℕ
  lnaGain : ℕ
  bbGain : ℕ
  txToneFreq : ℤ
  auxAdcInputChainId : ℕ
  chanPrimaryNum : ℕ
  chanBw : ℕ
  tx : ℕ
  rx : ℕ
  txPktCw : ℕ
  countryCode : UInt8 × UInt8
  bypassRegulatory : ℕ

/-- `conf_params` as `memset` and `kzalloc` leave it. -/
def ConfParams.zero : ConfParams where
  opMode := 0
  rfParams := fun _ => 0
  phyCalib := 0
  heLtf := 0
  heGi := 0
  txPktTputMode := 0
  txPktSgi := 0
  txPktNss := 0
  txPktPreamble := 0
  txPktMcs := 0
  txPktRate := 0
  txPktGapUs := 0
  txPktNum := 0
  txPktLen := 0
  txPower := 0
  txMode := 0
  ruTone := 0
  ruIndex := 0
  captureLength := 0
  lnaGain := 0
  bbGain := 0
  txToneFreq := 0
  auxAdcInputChainId := 0
  chanPrimaryNum := 0
  chanBw := 0
  tx := 0
  rx := 0
  txPktCw := 0
  countryCode := (0, 0)
  bypassRegulatory := 0

/-- A buffer `kzalloc` returned for an RX capture. -/
structure CapBuf where
  size : ℕ
  live : Bool
  deriving DecidableEq, Repr

/-- The radio-test part of `struct nrf_wifi_ctx_lnx`. `capBufs` are all the capture buffers there
have been; `rxCapBuf` points to one of them, freed or not, or is NULL. -/
structure RadioCtx where
  confParams : ConfParams
  rfTestRun : Bool
  rfTest : RfTest
  rxCapBuf : Option ℕ
  capBufs : List CapBuf

/-- The context as it is allocated. -/
def RadioCtx.zero : RadioCtx := ⟨.zero, false, .rxAdcCap, none, []⟩

/-! ### What a handler makes visible, and what it is told -/

/-- A call of FMAC, with the arguments the driver passes. -/
inductive FmacCall
  | rfParamsGet
  | radioTestInit (confParams : ConfParams)
  | progTx (confParams : ConfParams)
  | progRx (confParams : ConfParams)
  | rxCap (rxCapType : UInt64) (captureLength lnaGain bbGain : ℕ)
  | txTone (val : UInt8) (txToneFreq : ℤ) (txPower : ℕ)
  | dpd (val : UInt64)
  | getTemp
  | getRfRssi
  | setXoVal (val : UInt8)
  | computeXo
  | setReg (alpha2 : UInt8 × UInt8)

/-- What a write to the `conf` file makes visible: FMAC calls with their outcome, the capture
buffer being allocated and freed, and the error line in the log. -/
inductive RadioEvent
  | fmac (call : FmacCall) (ok : Bool)
  | kzalloc (size : ℕ) (ok : Bool)
  | kfree (buf : ℕ)
  | prErr (errStr : Option String)

/-- The outcomes of the calls a handler may make, and the bytes `nrf_wifi_fmac_rf_params_get`
leaves in `rf_params` whether it succeeds or not. -/
structure Outcomes where
  rfParamsGet : Bool
  rfParams : ℕ → UInt8
  radioTestInit : Bool
  progTx : Bool
  progRx : Bool
  rxCap : Bool
  txTone : Bool
  dpd : Bool
  getTemp : Bool
  getRfRssi : Bool
  setXoVal : Bool
  computeXo : Bool
  setReg : Bool
  kzalloc : Bool

/-- The outcomes in which every call succeeds. -/
def Outcomes.success : Outcomes where
  rfParamsGet := true
  rfParams := fun _ => 0
  radioTestInit := true
  progTx := true
  progRx := true
  rxCap := true
  txTone := true
  dpd := true
  getTemp := true
  getRfRssi := true
  setXoVal := true
  computeXo := true
  setReg := true
  kzalloc := true

/-- The error exit of a handler: its code, and what it wrote into `err_str`, if anything. -/
structure ConfError where
  errno : Errno
  errStr : Option String
  deriving DecidableEq, Repr

/-- What a handler leaves behind. -/
abbrev Handled := Outcome RadioCtx RadioEvent ConfError

/-- `"Invalid value %lu\n"`. -/
def invalidValue (val : UInt64) : ConfError :=
  ⟨.einval, some ("Invalid value " ++ toString val ++ "\n")⟩

/-- `"Invalid value %ld\n"`, which prints an `unsigned long` as signed. -/
def invalidValueSigned (val : UInt64) : ConfError :=
  ⟨.einval, some ("Invalid value " ++ toString val.toInt64 ++ "\n")⟩

/-! ### Checks -/

/-- Neither RX nor TX is in progress, as far as the host knows. -/
def RadioCtx.Idle (ctx : RadioCtx) : Prop := ctx.confParams.rx = 0 ∧ ctx.confParams.tx = 0

instance (ctx : RadioCtx) : Decidable ctx.Idle :=
  inferInstanceAs (Decidable (ctx.confParams.rx = 0 ∧ ctx.confParams.tx = 0))

/-- `check_test_in_prog`, with the code its caller returns. -/
def checkTestInProg (ctx : RadioCtx) (errno : Errno) : Option ConfError :=
  if ctx.confParams.rx ≠ 0 then some ⟨errno, some "Disable RX\n"⟩
  else if ctx.confParams.tx ≠ 0 then some ⟨errno, some "Disable TX\n"⟩
  else none

@[simp] theorem checkTestInProg_eq_none {ctx : RadioCtx} {errno : Errno} :
    checkTestInProg ctx errno = none ↔ ctx.Idle := by
  rw [checkTestInProg, RadioCtx.Idle]
  split_ifs <;> simp_all

/-- The form `if (val == 1) { if (!check_test_in_prog(err_str)) ... }`. -/
def checkTestInProgIfOne (ctx : RadioCtx) (val : UInt64) (errno : Errno) : Option ConfError :=
  if val = 1 then checkTestInProg ctx errno else none

@[simp] theorem checkTestInProgIfOne_eq_none {ctx : RadioCtx} {val : UInt64} {errno : Errno} :
    checkTestInProgIfOne ctx val errno = none ↔ (val = 1 → ctx.Idle) := by
  rw [checkTestInProgIfOne]
  split_ifs with h <;> simp [h]

/-- `check_valid_chan_2g`. -/
def checkValidChan2g (chanNum : UInt8) : Bool := 1 ≤ chanNum && chanNum ≤ 14

/-- `check_valid_chan_5g`. -/
def checkValidChan5g (chanNum : UInt8) : Bool :=
  [32, 36, 40, 44, 48, 52, 56, 60, 64, 68, 96, 100, 104, 108, 112, 116, 120, 124, 128, 132, 136,
    140, 144, 149, 153, 157, 159, 161, 163, 165, 167, 169, 171, 173, 175, 177].contains chanNum

/-- `check_valid_channel`. Its parameter is an `unsigned char`. -/
def checkValidChannel (chanNum : UInt8) : Bool :=
  checkValidChan2g chanNum || checkValidChan5g chanNum

variable (d : Nrfxlib)

/-- `check_valid_data_rate`: `none` when the rate is valid, and otherwise the text it leaves in
`err_str`. An MCS is told by bit 7 of `dr`. -/
def checkValidDataRate (tputMode nss : ℕ) (dr : Int32) : Option (Option String) :=
  if dr = -1 then none
  else if dr &&& 0x80 ≠ 0 then
    let dr := dr &&& 0x7f
    if tputMode &&& d.tputModeHt ≠ 0 then
      if nss = 2 then
        if 8 ≤ dr ∧ dr ≤ 15 then none
        else some (some ("Invalid MIMO HT MCS: " ++ toString dr ++ "\n"))
      else if nss = 1 then
        if 0 ≤ dr ∧ dr ≤ 7 then none
        else some (some ("Invalid SISO HT MCS: " ++ toString dr ++ "\n"))
      else some none
    else if tputMode = d.tputModeVht then
      if 0 ≤ dr ∧ dr ≤ 9 then none
      else some (some ("Invalid VHT MCS value: " ++ toString dr ++ "\n"))
    else if tputMode = d.tputModeHeSu then
      if 0 ≤ dr ∧ dr ≤ 7 then none
      else some (some ("Invalid HE_SU MCS value: " ++ toString dr ++ "\n"))
    else if tputMode = d.tputModeHeErSu then
      if 0 ≤ dr ∧ dr ≤ 2 then none
      else some (some ("Invalid HE_ER_SU MCS value: " ++ toString dr ++ "\n"))
    else
      some (some ("check_valid_data_rate: Invalid throughput mode: " ++ toString dr ++ "\n"))
  -- a throughput mode other than legacy writes a message here and is not refused for it
  else if dr ∈ [1, 2, 55, 11, 6, 9, 12, 18, 24, 36, 48, 54, -1] then none
  else some (some ("Invalid Legacy Rate value: " ++ toString dr ++ "\n"))

/-- `check_channel_settings`. Its text is overwritten by the only caller. -/
def checkChannelSettings (tputMode primaryNum bw : ℕ) : Bool :=
  if tputMode = d.tputModeLegacy then bw == d.chBw20
  else if tputMode = d.tputModeHt then bw == d.chBw20
  else if tputMode = d.tputModeVht then !(1 ≤ primaryNum && primaryNum ≤ 14) && bw == d.chBw20
  else if tputMode = d.tputModeHeSu ∨ tputMode = d.tputModeHeTb ∨ tputMode = d.tputModeHeErSu then
    bw == d.chBw20
  else false

/-! ### Setters

A setter makes its checks and, when all of them pass, stores one parameter. The test `val < 0` that
some of them make on an `unsigned long` never holds. -/

/-- A handler that only stores into `conf_params`. -/
def setParam (checks : List (Option ConfError)) (store : ConfParams → ConfParams)
    (ctx : RadioCtx) : Handled :=
  match firstError checks with
  | some e => .fail ctx e
  | none => .done { ctx with confParams := store ctx.confParams }

/-- The five `nrf_wifi_radio_test_set_phy_calib_*` handlers. -/
def setPhyCalib (calib : PhyCalib) (ctx : RadioCtx) (val : UInt64) : Handled :=
  setParam
    [checkThat (val ≤ 1) (invalidValueSigned val), checkTestInProg ctx .efault]
    (fun p => { p with phyCalib :=
      if val ≠ 0 then p.phyCalib ||| d.phyCalibFlag calib
      else p.phyCalib &&& ~~~ d.phyCalibFlag calib })
    ctx

def nrfWifiRadioTestSetPhyCalibRxdc := setPhyCalib d .rxdc
def nrfWifiRadioTestSetPhyCalibTxdc := setPhyCalib d .txdc
def nrfWifiRadioTestSetPhyCalibTxpow := setPhyCalib d .txpow
def nrfWifiRadioTestSetPhyCalibRxiq := setPhyCalib d .rxiq
def nrfWifiRadioTestSetPhyCalibTxiq := setPhyCalib d .txiq

/-- `nrf_wifi_radio_test_set_he_ltf`, without a check for a test in progress. -/
def nrfWifiRadioTestSetHeLtf (ctx : RadioCtx) (val : UInt64) : Handled :=
  setParam [checkThat (val ≤ 2) (invalidValue val)] (fun p => { p with heLtf := val.toNat }) ctx

/-- `nrf_wifi_radio_test_set_he_gi`, without a check for a test in progress. -/
def nrfWifiRadioTestSetHeGi (ctx : RadioCtx) (val : UInt64) : Handled :=
  setParam [checkThat (val ≤ 2) (invalidValue val)] (fun p => { p with heGi := val.toNat }) ctx

def nrfWifiRadioTestSetTxPktTputMode (ctx : RadioCtx) (val : UInt64) : Handled :=
  setParam
    [checkThat (val.toNat < d.tputModeMax) (invalidValue val), checkTestInProg ctx .efault]
    (fun p => { p with txPktTputMode := val.toNat }) ctx

/-- `nrf_wifi_radio_test_set_tx_pkt_sgi`, without a check for a test in progress. -/
def nrfWifiRadioTestSetTxPktSgi (ctx : RadioCtx) (val : UInt64) : Handled :=
  setParam [checkThat (val ≤ 1) (invalidValue val)] (fun p => { p with txPktSgi := val.toNat }) ctx

/-- The preambles a throughput mode allows. -/
def PreambleAllowed (tputMode preamble : ℕ) : Prop :=
  if tputMode = 0 then preamble = d.pktPreambleShort ∨ preamble = d.pktPreambleLong
  else preamble = d.pktPreambleMixed

instance (tputMode preamble : ℕ) : Decidable (PreambleAllowed d tputMode preamble) :=
  inferInstanceAs (Decidable (ite _ _ _))

def nrfWifiRadioTestSetTxPktPreamble (ctx : RadioCtx) (val : UInt64) : Handled :=
  setParam
    [checkTestInProg ctx .efault,
      checkThat (PreambleAllowed d ctx.confParams.txPktTputMode val.toNat) (invalidValue val)]
    (fun p => { p with txPktPreamble := val.toNat }) ctx

def nrfWifiRadioTestSetTxPktMcs (ctx : RadioCtx) (val : Int64) : Handled :=
  setParam
    [checkTestInProg ctx .efault,
      checkThat (ctx.confParams.txPktRate = -1) ⟨.efault, some "tx_pkt_rate is set\n"⟩,
      (checkValidDataRate d ctx.confParams.txPktTputMode ctx.confParams.txPktNss
        (val ||| 0x80).toInt32).map fun text => ⟨.einval, text⟩]
    (fun p => { p with txPktMcs := d.txPktMcs val }) ctx

def nrfWifiRadioTestSetTxPktRate (ctx : RadioCtx) (val : Int64) : Handled :=
  setParam
    [checkTestInProg ctx .efault,
      (checkValidDataRate d ctx.confParams.txPktTputMode ctx.confParams.txPktNss
        val.toInt32).map fun text => ⟨.einval, text⟩]
    (fun p => { p with txPktRate := d.txPktRate val }) ctx

def nrfWifiRadioTestSetTxPktGap (ctx : RadioCtx) (val : UInt64) : Handled :=
  setParam
    [checkThat (val ≤ 200000) (invalidValue val), checkTestInProg ctx .efault]
    (fun p => { p with txPktGapUs := val.toNat }) ctx

def nrfWifiRadioTestSetTxPktNum (ctx : RadioCtx) (val : Int64) : Handled :=
  setParam
    [checkThat (¬ (val < -1 ∨ val = 0)) (invalidValue val.toUInt64), checkTestInProg ctx .efault]
    (fun p => { p with txPktNum := d.txPktNum val }) ctx

/-- The limit on a packet length under a throughput mode and an RU tone, with its message. -/
def txPktLenError (tputMode ruTone len : ℕ) : Option ConfError :=
  if tputMode = d.tputModeLegacy then
    checkThat (len ≤ 4000) ⟨.enoexec, some "max 'tx_pkt_len' size for legacy is 4000 bytes\n"⟩
  else if tputMode = d.tputModeHeTb then
    if ruTone = 26 then
      checkThat (len < 350) ⟨.enoexec, some "'tx_pkt_len' has to be less than 350 bytes\n"⟩
    else if ruTone = 52 then
      checkThat (len < 800) ⟨.enoexec, some "'tx_pkt_len' has to be less than 800 bytes\n"⟩
    else if ruTone = 106 then
      checkThat (len < 1800) ⟨.enoexec, some "'tx_pkt_len' has to be less than 1800 bytes\n"⟩
    else if ruTone = 242 then
      checkThat (len < 4000) ⟨.enoexec, some "'tx_pkt_len' has to be less than 4000 bytes\n"⟩
    else some ⟨.enoexec, some "'ru_tone' not set\n"⟩
  else none

def nrfWifiRadioTestSetTxPktLen (ctx : RadioCtx) (val : UInt64) : Handled :=
  setParam
    [checkThat (val ≠ 0) (invalidValue val),
      checkThat (ctx.confParams.txPktTputMode ≠ d.tputModeMax)
        ⟨.einval, some "Throughput mode not set\n"⟩,
      txPktLenError d ctx.confParams.txPktTputMode ctx.confParams.ruTone val.toNat,
      checkTestInProg ctx .efault]
    (fun p => { p with txPktLen := d.txPktLen val }) ctx

def nrfWifiRadioTestSetTxPower (ctx : RadioCtx) (val : UInt64) : Handled :=
  setParam
    [checkThat (val.toNat ≤ d.maxTxPwrRadioTest ∨ val.toNat = d.maxTxPwrSysTest)
        ⟨.einval, some ("Invalid TX power setting " ++ toString val ++ "\n")⟩,
      checkTestInProg ctx .efault]
    (fun p => { p with txPower := val.toNat }) ctx

def nrfWifiRadioTestSetRuTone (ctx : RadioCtx) (val : UInt64) : Handled :=
  setParam
    [checkThat (val ∈ [26, 52, 106, 242]) (invalidValue val), checkTestInProg ctx .efault]
    (fun p => { p with ruTone := val.toNat }) ctx

/-- The RU indices of an RU tone. -/
def RuIndexAllowed (ruTone ruIndex : ℕ) : Prop :=
  (ruTone = 26 ∧ 1 ≤ ruIndex ∧ ruIndex ≤ 9) ∨ (ruTone = 52 ∧ 1 ≤ ruIndex ∧ ruIndex ≤ 4) ∨
    (ruTone = 106 ∧ 1 ≤ ruIndex ∧ ruIndex ≤ 2) ∨ (ruTone = 242 ∧ ruIndex = 1)

instance (ruTone ruIndex : ℕ) : Decidable (RuIndexAllowed ruTone ruIndex) :=
  inferInstanceAs (Decidable (_ ∨ _ ∨ _ ∨ _))

def nrfWifiRadioTestSetRuIndex (ctx : RadioCtx) (val : UInt64) : Handled :=
  setParam
    [checkThat (RuIndexAllowed ctx.confParams.ruTone val.toNat)
        (if ctx.confParams.ruTone ∈ [26, 52, 106, 242] then invalidValue val
          else ⟨.einval, some "RU tone not set\n"⟩),
      checkTestInProg ctx .efault]
    (fun p => { p with ruIndex := val.toNat }) ctx

def nrfWifiRadioTestSetRxCaptureLength (ctx : RadioCtx) (val : UInt64) : Handled :=
  setParam
    [checkThat (val < 16384) ⟨.einval, some "'capture_length' has to be less than 16384\n"⟩,
      checkTestInProg ctx .enoexec]
    (fun p => { p with captureLength := val.toNat }) ctx

def nrfWifiRadioTestSetRxLnaGain (ctx : RadioCtx) (val : UInt64) : Handled :=
  setParam
    [checkThat (val ≤ 4) ⟨.enoexec, some "'lna_gain' has to be in between 0 to 4\n"⟩,
      checkTestInProg ctx .enoexec]
    (fun p => { p with lnaGain := val.toNat }) ctx

def nrfWifiRadioTestSetRxBbGain (ctx : RadioCtx) (val : UInt64) : Handled :=
  setParam
    [checkThat (val ≤ 31) ⟨.enoexec, some "'bb_gain' has to be in between 0 to 31\n"⟩,
      checkTestInProg ctx .enoexec]
    (fun p => { p with bbGain := val.toNat }) ctx

/-- `nrf_wifi_radio_test_set_tx_tone_freq`. In `val < -10` the constant is converted to
`unsigned long`. -/
def nrfWifiRadioTestSetTxToneFreq (ctx : RadioCtx) (val : UInt64) : Handled :=
  setParam
    [checkThat (¬ (10 < val ∨ val < -10))
        ⟨.enoexec, some "'tx_tone_freq' has to be in between -10 to +10\n"⟩,
      checkTestInProg ctx .enoexec]
    (fun p => { p with txToneFreq := val.toInt64.toInt }) ctx

/-- `nrf_wifi_radio_test_set_tx_pkt_cw`, whose parameter is a `long`. -/
def nrfWifiRadioTestSetTxPktCw (ctx : RadioCtx) (val : Int64) : Handled :=
  setParam
    [checkThat (val ∈ [0, 3, 7, 15, 31, 63, 127, 255, 511, 1023]) (invalidValue val.toUInt64),
      checkTestInProg ctx .enoexec]
    (fun p => { p with txPktCw := val.toInt.toNat }) ctx

def nrfWifiRadioTestSetBypassReg (ctx : RadioCtx) (val : UInt64) : Handled :=
  setParam
    [checkThat (val ≤ 1) ⟨.enoexec, some ("Invalid value " ++ toString val ++ "\n")⟩,
      checkTestInProg ctx .enoexec]
    (fun p => { p with bypassRegulatory := val.toNat }) ctx

/-! ### The latch and the one-shot tests -/

/-- Raise the latch for a test. -/
def RadioCtx.latch (ctx : RadioCtx) (test : RfTest) : RadioCtx :=
  { ctx with rfTestRun := true, rfTest := test }

/-- Lower the latch. -/
def RadioCtx.unlatch (ctx : RadioCtx) : RadioCtx :=
  { ctx with rfTestRun := false, rfTest := .max }

/-- A test the firmware runs once: the latch is raised, the firmware called, `store` made and the
latch lowered. A call that fails leaves through the error exit, with the latch as it is. -/
def oneShot (checks : List (Option ConfError)) (test : RfTest) (call : FmacCall) (ok : Bool)
    (failed : ConfError) (store : ConfParams → ConfParams) (ctx : RadioCtx) : Handled :=
  match firstError checks with
  | some e => .fail ctx e
  | none =>
    let ctx := ctx.latch test
    if ok then
      ⟨{ ctx with confParams := store ctx.confParams }.unlatch, [.fmac call true], none⟩
    else ⟨ctx, [.fmac call false], some failed⟩

variable (o : Outcomes)

def nrfWifiRadioSetDpd (ctx : RadioCtx) (val : UInt64) : Handled :=
  oneShot [checkThat (val ≤ 1) (invalidValue val), checkTestInProgIfOne ctx val .enoexec]
    .dpd (.dpd val) o.dpd ⟨.enoexec, some "DPD programming failed\n"⟩ id ctx

/-- `nrf_wifi_radio_set_xo_val`. The value is stored in `rf_params` once the firmware has it. -/
def nrfWifiRadioSetXoVal (ctx : RadioCtx) (val : UInt64) : Handled :=
  oneShot
    [checkThat (val ≤ 0x7f) ⟨.einval, some "Invalid value XO value should be <= 0x7f\n"⟩,
      checkTestInProgIfOne ctx val .enoexec]
    .xoCalib (.setXoVal val.toUInt8) o.setXoVal ⟨.enoexec, some "XO value programming failed\n"⟩
    (fun p => { p with rfParams := Function.update p.rfParams d.xoFreqByteOffset val.toUInt8 })
    ctx

def nrfWifiRadioGetTemperature (ctx : RadioCtx) (val : UInt64) : Handled :=
  oneShot [checkThat (val ≤ 1) (invalidValue val), checkTestInProgIfOne ctx val .enoexec]
    .getTemperature .getTemp o.getTemp ⟨.enoexec, some "DPD programming failed\n"⟩ id ctx

def nrfWifiRadioGetRfRssi (ctx : RadioCtx) (val : UInt64) : Handled :=
  oneShot [checkThat (val ≤ 1) (invalidValue val), checkTestInProgIfOne ctx val .enoexec]
    .rfRssi .getRfRssi o.getRfRssi ⟨.einval, some "RF RSSI get failed\n"⟩ id ctx

def nrfWifiRadioCompOptXoVal (ctx : RadioCtx) : Handled :=
  oneShot [checkTestInProg ctx .enoexec] .xoTune .computeXo o.computeXo
    ⟨.einval, some "XO value computation failed\n"⟩ id ctx

/-- `if (ctx->rx_cap_buf) kfree(ctx->rx_cap_buf)`. The pointer is left as it is. -/
def RadioCtx.kfreeRxCapBuf (ctx : RadioCtx) : RadioCtx × List RadioEvent :=
  match ctx.rxCapBuf with
  | none => (ctx, [])
  | some b =>
    ({ ctx with capBufs := ctx.capBufs.modify b fun c => { c with live := false } }, [.kfree b])

/-- `ctx->rx_cap_buf = kzalloc(size, ...)`, when it succeeds. -/
def RadioCtx.setRxCapBuf (ctx : RadioCtx) (size : ℕ) : RadioCtx :=
  { ctx with rxCapBuf := some ctx.capBufs.length, capBufs := ctx.capBufs ++ [⟨size, true⟩] }

/-- The error exit of `nrf_wifi_radio_test_rx_cap`, which frees the buffer. -/
def rxCapError (ctx : RadioCtx) (events : List RadioEvent) (e : ConfError) : Handled :=
  ⟨ctx.kfreeRxCapBuf.1, events ++ ctx.kfreeRxCapBuf.2, some e⟩

/-- The capture types `nrf_wifi_radio_test_rx_cap` knows. -/
def RxCapType (rxCapType : UInt64) : Prop :=
  rxCapType = d.rfTest .rxAdcCap ∨ rxCapType = d.rfTest .rxStatPktCap ∨
    rxCapType = d.rfTest .rxDynPktCap

instance (rxCapType : UInt64) : Decidable (RxCapType d rxCapType) :=
  inferInstanceAs (Decidable (_ ∨ _ ∨ _))

/-- `nrf_wifi_radio_test_rx_cap`. The latch names the ADC capture for all three types, and an
error of the allocation or of the firmware is not written to `err_str`. -/
def nrfWifiRadioTestRxCap (ctx : RadioCtx) (rxCapType : UInt64) : Handled :=
  let p := ctx.confParams
  match firstError
    [checkThat (RxCapType d rxCapType) (invalidValue rxCapType),
      checkThat (p.captureLength ≠ 0)
        ⟨.einval, some "nrf_wifi_radio_test_rx_cap: Invalid rx_capture_length 0\n"⟩,
      checkTestInProg ctx .enoexec] with
  | some e => rxCapError ctx [] e
  | none =>
    let (ctx, freed) := ctx.kfreeRxCapBuf
    let size := p.captureLength * 3
    if !o.kzalloc then
      rxCapError { ctx with rxCapBuf := none } (freed ++ [.kzalloc size false]) ⟨.enoexec, none⟩
    else
      let ctx := (ctx.setRxCapBuf size).latch .rxAdcCap
      let call := .rxCap rxCapType p.captureLength p.lnaGain p.bbGain
      let events := freed ++ [.kzalloc size true, .fmac call o.rxCap]
      if o.rxCap then ⟨ctx.unlatch, events, none⟩ else rxCapError ctx events ⟨.enoexec, none⟩

/-- `nrf_wifi_radio_test_tx_tone`. The latch follows the tone, and only once the firmware has
taken the command. -/
def nrfWifiRadioTestTxTone (ctx : RadioCtx) (val : UInt64) : Handled :=
  match firstError
    [checkThat (val ≤ 1) (invalidValue val), checkTestInProgIfOne ctx val .enoexec] with
  | some e => .fail ctx e
  | none =>
    let call := .txTone val.toUInt8 ctx.confParams.txToneFreq ctx.confParams.txPower
    if o.txTone then
      ⟨if val = 1 then ctx.latch .txTone else ctx.unlatch, [.fmac call true], none⟩
    else ⟨ctx, [.fmac call false], some ⟨.enoexec, some "TX tone programming failed\n"⟩⟩

/-! ### TX and RX -/

/-- The TX power ceiling `memset` into `rf_params`, in quarter decibels. -/
def ConfParams.setTxPwrCeil (p : ConfParams) : ConfParams :=
  { p with rfParams := fun i =>
      if d.txPwrCeilByteOffset ≤ i ∧ i < d.txPwrCeilByteOffset + d.sizeofTxPwrCeil then
        UInt8.ofNat (d.maxTxPwrRadioTest <<< 2)
      else p.rfParams i }

/-- The checks of `nrf_wifi_radio_test_set_tx`. -/
def setTxChecks (ctx : RadioCtx) (val : UInt64) : List (Option ConfError) :=
  [checkThat (val ≤ 1) (invalidValue val), checkTestInProgIfOne ctx val .enoexec,
    checkThat (val = 1 → checkChannelSettings d ctx.confParams.txPktTputMode
      ctx.confParams.chanPrimaryNum ctx.confParams.chanBw)
      ⟨.enoexec, some "Invalid channel settings\n"⟩]

/-- What `nrf_wifi_radio_test_set_tx` stores before it calls the firmware. -/
def ConfParams.withTx (p : ConfParams) (val : UInt64) : ConfParams :=
  let p := if val = 1 ∧ p.txPower ≠ d.maxTxPwrSysTest then p.setTxPwrCeil d else p
  { p with tx := val.toNat }

def nrfWifiRadioTestSetTx (ctx : RadioCtx) (val : UInt64) : Handled :=
  match firstError (setTxChecks d ctx val) with
  | some e => .fail ctx e
  | none =>
    let ctx := { ctx with confParams := ctx.confParams.withTx d val }
    ⟨ctx, [.fmac (.progTx ctx.confParams) o.progTx],
      checkThat (o.progTx = true) ⟨.enoexec, some "Programming TX failed\n"⟩⟩

def nrfWifiRadioTestSetRx (ctx : RadioCtx) (val : UInt64) : Handled :=
  match firstError
    [checkThat (val ≤ 1) (invalidValue val), checkTestInProgIfOne ctx val .enoexec] with
  | some e => .fail ctx e
  | none =>
    let ctx := { ctx with confParams := { ctx.confParams with rx := val.toNat } }
    ⟨ctx, [.fmac (.progRx ctx.confParams) o.progRx],
      checkThat (o.progRx = true) ⟨.enoexec, some "Programming RX failed\n"⟩⟩

/-! ### Defaults and initialisation -/

/-- `conf_params` after the `memset` of `nrf_wifi_radio_test_conf_init`, with the bytes the FMAC
call has left in `rf_params`. This is what a failed call leaves. -/
def clearedParams : ConfParams :=
  { ConfParams.zero with opMode := d.opModeRadioTest, rfParams := o.rfParams }

/-- `conf_params` after a successful `nrf_wifi_radio_test_conf_init`. A country code is kept when
its string is not empty. -/
def defaultParams (countryCode : UInt8 × UInt8) : ConfParams :=
  { clearedParams d o with
    txPktNss := 1
    txPktGapUs := 0
    txPower := d.maxTxPwrSysTest
    chanPrimaryNum := 1
    txMode := 1
    txPktNum := -1
    txPktLen := 1400
    txPktPreamble := 1
    txPktRate := 6
    heLtf := 2
    heGi := 2
    auxAdcInputChainId := 1
    ruTone := 26
    ruIndex := 1
    txPktCw := 15
    phyCalib := d.defPhyCalib
    countryCode := if countryCode.1 ≠ 0 then countryCode else (48, 48) }

/-- `nrf_wifi_radio_test_conf_init`. Its status is an error of the caller's choice. -/
def nrfWifiRadioTestConfInit (ctx : RadioCtx) : Handled :=
  ⟨{ ctx with confParams :=
      if o.rfParamsGet then defaultParams d o ctx.confParams.countryCode else clearedParams d o },
    [.fmac .rfParamsGet o.rfParamsGet],
    checkThat (o.rfParamsGet = true) ⟨.enoexec, some "Configuration init failed\n"⟩⟩

/-- `nrf_wifi_radio_test_init` switches a running RX off. -/
def initStopRx (ctx : RadioCtx) : Handled :=
  if ctx.confParams.rx ≠ 0 then
    let ctx := { ctx with confParams := { ctx.confParams with rx := 0 } }
    ⟨ctx, [.fmac (.progRx ctx.confParams) o.progRx],
      checkThat (o.progRx = true) ⟨.enoexec, some "Disabling RX failed\n"⟩⟩
  else .done ctx

/-- `nrf_wifi_radio_test_init` switches a running TX off. -/
def initStopTx (ctx : RadioCtx) : Handled :=
  if ctx.confParams.tx ≠ 0 then
    let ctx := { ctx with confParams := { ctx.confParams with tx := 0 } }
    ⟨ctx, [.fmac (.progTx ctx.confParams) o.progTx],
      checkThat (o.progTx = true) ⟨.enoexec, some "Disabling TX failed\n"⟩⟩
  else .done ctx

/-- `nrf_wifi_radio_test_init` switches a running tone off, and knows no other running test. -/
def initStopTone (ctx : RadioCtx) : Handled :=
  if ctx.rfTestRun then
    if ctx.rfTest ≠ .txTone then
      .fail ctx ⟨.enoexec,
        some ("Unexpected: RF Test (" ++ toString (d.rfTest ctx.rfTest) ++ ") running\n")⟩
    else
      let call := .txTone 0 ctx.confParams.txToneFreq ctx.confParams.txPower
      if o.txTone then ⟨ctx.unlatch, [.fmac call true], none⟩
      else ⟨ctx, [.fmac call false], some ⟨.enoexec, some "Disabling TX tone test failed\n"⟩⟩
  else .done ctx

/-- The end of `nrf_wifi_radio_test_init`: the channel is stored and the firmware programmed. -/
def initProgram (val : UInt64) (ctx : RadioCtx) : Handled :=
  let ctx := { ctx with confParams := { ctx.confParams with chanPrimaryNum := d.primaryNum val } }
  ⟨ctx, [.fmac (.radioTestInit ctx.confParams) o.radioTestInit],
    checkThat (o.radioTestInit = true) ⟨.enoexec, some "Programming init failed\n"⟩⟩

/-- `nrf_wifi_radio_test_init`. -/
def nrfWifiRadioTestInit (ctx : RadioCtx) (val : UInt64) : Handled :=
  if checkValidChannel val.toUInt8 then
    (initStopRx o ctx).andThen fun ctx =>
    (initStopTx o ctx).andThen fun ctx =>
    (initStopTone d o ctx).andThen fun ctx =>
    (nrfWifiRadioTestConfInit d o ctx).andThen fun ctx =>
    initProgram d o val ctx
  else .fail ctx (invalidValue val)

/-! ### The regulatory domain -/

/-- Two capital letters, or `"00"` for the world. -/
def RegDomain (a b : UInt8) : Prop :=
  ((65 ≤ a ∧ a ≤ 90) ∧ (65 ≤ b ∧ b ≤ 90)) ∨ (a = 48 ∧ b = 48)

instance (a b : UInt8) : Decidable (RegDomain a b) :=
  inferInstanceAs (Decidable (_ ∨ _))

/-- `nrf_wifi_radio_test_set_reg_domain`. The country code is stored before the check for a test in
progress and before the firmware is asked. -/
def nrfWifiRadioTestSetRegDomain (ctx : RadioCtx) (reg : List UInt8) : Handled :=
  match reg with
  | [a, b] =>
    if RegDomain a b then
      let ctx := { ctx with confParams := { ctx.confParams with countryCode := (a, b) } }
      match checkTestInProg ctx .enoexec with
      | some e => .fail ctx e
      | none =>
        ⟨ctx, [.fmac (.setReg (a, b)) o.setReg],
          checkThat (o.setReg = true) ⟨.enoexec, some "Regulatory programming failed\n"⟩⟩
    else
      .fail ctx ⟨.enoexec, some (String.ofList
        ("Invalid reg domain ".toList ++ [Char.ofNat b.toNat, Char.ofNat a.toNat, '\n']))⟩
  | _ =>
    .fail ctx
      ⟨.enoexec, some "Invalid reg domain: Length should be two letters/digits\n"⟩

end Nrf70
