import Nrf70.Debugfs.ConfFile
import Nrf70.Lib.Numeral

/-!
# Writes to the TWT file

`nrf_wifi_wlan_twt_write` takes one of two commands. `twt_setup ` is followed by parameters, each
looked for by name and read with `sscanf`, and the setup is sent to the firmware and sent once more
when no event answers it. `twt_teardown` is followed by a flow identifier, and sent when that is the
flow in use.

A parameter whose name is there without a number after it takes the number of the parameter read
before it, since `val` is shared. The only one with a variable of its own is `twt`.

## What is outside the repository

FMAC calls and the arrival of the event within a second are outcomes handed to the write.

## Main definitions

* `twtParse` — the parameters of a setup
* `teardownFlowId` — the identifier of a teardown
* `nrfWifiWlanTwtWrite` — a write
-/

namespace Nrf70

/-! ### `sscanf` -/

/-- `isspace`, from the kernel's table. -/
def isSpace (c : UInt8) : Bool := (9 ≤ c && c ≤ 13) || c == 32 || c == 160

/-- `sscanf(s, "%lu", &val)` and `"%llu"`: the number, modulo `2 ^ 64`, or `none` when `val` is left
as it is. -/
def sscanfLu (s : List UInt8) : Option UInt64 :=
  match s.dropWhile isSpace with
  | [] => none
  | c :: r =>
    if IsDigit 10 c then some (UInt64.ofNat (parseInteger 10 0 0 (c :: r)).1) else none

/-! ### The parameters -/

/-- `struct twt_params`. -/
@[ext]
structure TwtParams where
  twtFlowId : UInt8
  negType : UInt8
  setupCmd : Int32
  apTriggerFrame : UInt8
  isImplicit : UInt8
  twtFlowType : UInt8
  twtTargetWakeIntervalExponent : UInt8
  twtTargetWakeIntervalMantissa : UInt16
  targetWakeTime : UInt64
  nominalMinTwtWakeDuration : UInt16
  deriving DecidableEq, Repr

/-- The members of `struct rpu_twt_params` that a write changes or reads. `twtSetupCmd` are the
bytes of the text last set up with. -/
structure RpuTwtParams where
  twtCmd : TwtParams
  twtSetupCmd : List UInt8
  deriving DecidableEq, Repr

/-- `nrf_wifi_wlan_fmac_twt_init`. -/
def nrfWifiWlanFmacTwtInit : RpuTwtParams where
  twtCmd := ⟨0, 0, 0, 0, 0, 0, 0, 0, 0, 0⟩
  twtSetupCmd := List.replicate 250 0

/-- What stands after the first occurrence of a name. -/
def afterName (conf : List UInt8) (name : String) : Option (List UInt8) :=
  (strstr (cBytes name) conf).map (List.drop (cBytes name).length)

/-- The parameters of a `twt_setup`. -/
inductive TwtKey
  | negotiation | exponent | mantissa | minTwt | setupCmd | twt | trigger | implicit | flowType
  | flowId
  deriving DecidableEq, Repr

/-- The text a parameter is looked for by. -/
def TwtKey.text : TwtKey → String
  | .negotiation => " negotiation="
  | .exponent => " exponent="
  | .mantissa => " mantissa="
  | .minTwt => " min_twt="
  | .setupCmd => " setup_cmd="
  | .twt => " twt="
  | .trigger => " trigger="
  | .implicit => " implicit="
  | .flowType => " flow_type="
  | .flowId => " flow_id="

/-- The assignment of a parameter to its member of `twt_params.twt_cmd`. -/
def TwtKey.store (val : UInt64) (p : TwtParams) : TwtKey → TwtParams
  | .negotiation => { p with negType := val.toUInt8 }
  | .exponent => { p with twtTargetWakeIntervalExponent := val.toUInt8 }
  | .mantissa => { p with twtTargetWakeIntervalMantissa := val.toUInt16 }
  | .minTwt => { p with nominalMinTwtWakeDuration := val.toUInt16 }
  | .setupCmd => { p with setupCmd := val.toInt64.toInt32 }
  | .twt => { p with targetWakeTime := val }
  | .trigger => { p with apTriggerFrame := val.toUInt8 }
  | .implicit => { p with isImplicit := val.toUInt8 }
  | .flowType => { p with twtFlowType := val.toUInt8 }
  | .flowId => { p with twtFlowId := val.toUInt8 }

/-- The parameters in the order they are looked for. -/
def twtKeys : List TwtKey :=
  [.negotiation, .exponent, .mantissa, .minTwt, .setupCmd, .twt, .trigger, .implicit, .flowType,
    .flowId]

/-- One parameter. It is read into the shared `val` and stored from there, but for `twt`, which has
a variable of its own. -/
def readTwt (conf : List UInt8) (r : UInt64 × TwtParams) (key : TwtKey) : UInt64 × TwtParams :=
  match afterName conf key.text with
  | none => r
  | some rest =>
    if key = .twt then (r.1, key.store ((sscanfLu rest).getD 0) r.2)
    else
      let val := (sscanfLu rest).getD r.1
      (val, key.store val r.2)

/-- The parameters of a `twt_setup`, over those of the one before. -/
def twtParse (conf : List UInt8) (p : TwtParams) : TwtParams :=
  (twtKeys.foldl (readTwt conf) (0, p)).2

/-- The flow identifier of a `twt_teardown`. A text without a number counts as `0`. -/
def teardownFlowId (conf : List UInt8) : Option UInt64 :=
  if paramGetMatch conf "twt_teardown" then
    (strstr (cBytes " flow_id=") conf).map fun tok => (paramGetVal tok "flow_id=").getD 0
  else none

/-! ### A write -/

/-- What a write makes visible: commands to the firmware with their outcome, and lines in the log.
The text is `none` when `err_str` was never written. -/
inductive TwtEvent
  | setup (info : TwtParams) (ok : Bool)
  | teardown (ok : Bool)
  | prErr (errStr : Option String)
  deriving DecidableEq, Repr

/-- The outcomes of the calls a write may make. `setup` and `event` are by attempt: the firmware
takes the command, and answers it in time. -/
structure TwtOutcomes where
  kzallocSetup : Bool
  setup : ℕ → Bool
  event : ℕ → Bool
  kzallocTeardown : Bool
  teardown : Bool

/-- Everything succeeds. -/
def TwtOutcomes.success : TwtOutcomes := ⟨true, fun _ => true, fun _ => true, true, true⟩

/-- The attempts to set up, from one on and so many at most. -/
def twtAttempts (o : TwtOutcomes) (info : TwtParams) : ℕ → ℕ → List TwtEvent
  | 0, _ => []
  | n + 1, attempt =>
    if !o.setup attempt then [.setup info false, .prErr (some "TWT SETUP_CMD failed\n")]
    else .setup info true :: if o.event attempt then [] else twtAttempts o info n (attempt + 1)

/-- A call of `nrf_wifi_wlan_twt_write`: the user's buffer, whether the allocation and the copy
succeed, and the outcomes of the calls it makes. -/
structure TwtWrite where
  inBuf : List UInt8
  allocated : Bool
  copied : Bool
  fmac : TwtOutcomes

/-- The part of a write that is about the text. `raw` are the first 200 bytes of `conf_buf`. -/
def twtHandle (conf raw : List UInt8) (o : TwtOutcomes) (p : RpuTwtParams) :
    RpuTwtParams × List TwtEvent :=
  if paramGetMatch conf "twt_setup " then
    let p : RpuTwtParams := ⟨twtParse conf p.twtCmd, raw ++ p.twtSetupCmd.drop 200⟩
    if !o.kzallocSetup then
      (p, [.prErr (some "nrf_wifi_wlan_twt_write: Unable to allocate memory\n")])
    else (p, twtAttempts o p.twtCmd 2 0)
  else if (teardownFlowId conf).map UInt64.toNat = some p.twtCmd.twtFlowId.toNat then
    if !o.kzallocTeardown then
      (p, [.prErr (some "nrf_wifi_wlan_twt_write: Unable to allocate memory\n")])
    else (p, [.teardown o.teardown])
  else (p, [.prErr none])

/-- `nrf_wifi_wlan_twt_write`: the parameters, the events and the return value. -/
def nrfWifiWlanTwtWrite (p : RpuTwtParams) (w : TwtWrite) : RpuTwtParams × List TwtEvent × ℤ :=
  if maxConfBufSize ≤ w.inBuf.length then
    (p, [.prErr (some "Size of input buffer cannot be more than 500 chars\n")], Errno.ret .efault)
  else if !w.allocated then
    (p, [.prErr (some "Not enough memory available\n")], Errno.ret .efault)
  else if !w.copied then
    (p, [.prErr (some "Copy from input buffer failed\n")], Errno.ret .efault)
  else
    let r := twtHandle (cString (confBuf w.inBuf)) ((confBuf w.inBuf).take 200) w.fmac p
    (r.1, r.2, w.inBuf.length)

/-- The indices of `conf_buf` that the write touches. A setup copies its first 200 bytes. -/
def TwtWrite.accesses (w : TwtWrite) : List ℕ :=
  confAccesses w.inBuf w.allocated w.copied <|
    if paramGetMatch (cString (confBuf w.inBuf)) "twt_setup " then List.range 200 else []

end Nrf70
