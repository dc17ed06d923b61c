import Nrf70.Debugfs.ConfFile
import Nrf70.Lib.ErrorExit
import Nrf70.Lib.Machine

/-!
# Power save and the RTS threshold

Two settings of the firmware have two writers each. A write of the `conf` file in debugfs programs
the firmware and keeps a copy in `ctx->conf_params`, and a later write of the value in the copy is
skipped. `set_power_mgmt` and `set_wiphy_params` of cfg80211 program the firmware as well and leave
the copy alone, so after them the copy may be stale, and the write that is skipped is then one that
was needed.

## What is outside the repository

The two fields `rts_threshold`, in `struct rpu_conf_params` and in the command to the firmware, are
unsigned numbers of `w` bits. FMAC calls are outcomes handed to the function that makes them.

## Main results

* `agrees_step` — what one call does to the agreement of a copy with the firmware
* `conf_writes_agree_iff` — the sequences of calls in which every write of the `conf` file leaves
  the firmware with the value written
-/

namespace Nrf70

/-! ### The settings -/

/-- `struct nrf_wifi_umac_set_wiphy_info`, as far as the driver fills it in. -/
structure WiphyInfo (w : ℕ) where
  rtsThreshold : BitVec w
  fragThreshold : UInt32
  retryLong : UInt8
  retryShort : UInt8
  deriving DecidableEq, Repr

/-- What a call makes visible: FMAC calls with their outcome, and the error line in the log. The
text is `none` when `err_str` was never written. -/
inductive FmacConfEvent (w : ℕ)
  | setUapsdQueue (ifIdx : ℕ) (val : ℕ) (ok : Bool)
  | setPowerSave (ifIdx : ℕ) (val : ℕ) (ok : Bool)
  | setWiphyParams (ifIdx : ℕ) (info : WiphyInfo w) (ok : Bool)
  | prErr (errStr : Option String)
  deriving DecidableEq, Repr

/-- The members of `struct rpu_conf_params` the `conf` file is about. -/
structure FmacConfParams (w : ℕ) where
  uapsdQueue : ℕ
  powerSave : ℕ
  heGi : ℕ
  rtsThreshold : BitVec w
  deriving DecidableEq, Repr

/-- What the firmware has last accepted for the default interface. -/
structure FwSettings (w : ℕ) where
  powerSave : Option ℕ
  rtsThreshold : Option (BitVec w)
  deriving DecidableEq, Repr

/-- The effect of an event on the firmware. A threshold of zero is none at all. -/
def FwSettings.after {w : ℕ} (fw : FwSettings w) : FmacConfEvent w → FwSettings w
  | .setPowerSave _ val true => { fw with powerSave := some val }
  | .setWiphyParams _ info true =>
    if info.rtsThreshold = 0 then fw else { fw with rtsThreshold := some info.rtsThreshold }
  | _ => fw

structure FmacConfState (w : ℕ) where
  conf : FmacConfParams w
  fw : FwSettings w
  deriving DecidableEq, Repr

/-- The index FMAC has given the default interface. -/
def defIfIdx : ℕ := 0

/-! ### Writes of the `conf` file -/

/-- What a write asks for. -/
inductive FmacCommand
  | uapsdQueue (val : UInt64)
  | powerSave (val : UInt64)
  | heGi (val : UInt64)
  | rtsThreshold (val : UInt64)
  /-- No name was found with a number after it. -/
  | unknown (confBuf : List UInt8)
  deriving DecidableEq, Repr

/-- The dispatch chain of `nrf_wifi_wlan_fmac_conf_write`. -/
def fmacCommand (buf : List UInt8) : FmacCommand :=
  match paramGetVal buf "uapsd_queue=" with
  | some val => .uapsdQueue val
  | none =>
    match paramGetVal buf "power_save=" with
    | some val => .powerSave val
    | none =>
      match paramGetVal buf "he_gi=" with
      | some val => .heGi val
      | none =>
        match paramGetVal buf "rts_threshold=" with
        | some val => .rtsThreshold val
        | none => .unknown buf

/-- The error exit: `err_val`, where it is not `count`, and what is in `err_str`, if anything. -/
structure FmacConfError where
  errVal : Option Errno
  errStr : Option String
  deriving DecidableEq, Repr

/-- A value outside the range of its parameter. -/
def FmacConfError.invalid (val : UInt64) : FmacConfError :=
  ⟨some .einval, some ("Invalid value " ++ toString val ++ "\n")⟩

/-- The outcomes of the calls a write may make. -/
structure FmacOutcomes where
  setUapsdQueue : Bool
  setPowerSave : Bool
  setWiphyParams : Bool
  /-- The allocation of `wiphy_info`. -/
  kzalloc : Bool

variable {w : ℕ}

/-- The branches of `nrf_wifi_wlan_fmac_conf_write`. The one for `uapsd_queue` leaves through
`goto error` even when the firmware has taken the value. -/
def FmacCommand.handle (o : FmacOutcomes) (conf : FmacConfParams w) :
    FmacCommand → Outcome (FmacConfParams w) (FmacConfEvent w) FmacConfError
  | .uapsdQueue val =>
    if 15 < val then .fail conf (.invalid val)
    else if conf.uapsdQueue = val.toNat then .done conf
    else if !o.setUapsdQueue then
      ⟨conf, [.setUapsdQueue defIfIdx val.toNat false],
        some ⟨none, some "Programming uapsd queue failed\n"⟩⟩
    else
      ⟨{ conf with uapsdQueue := val.toNat }, [.setUapsdQueue defIfIdx val.toNat true],
        some ⟨none, none⟩⟩
  | .powerSave val =>
    if val ≠ 0 ∧ val ≠ 1 then .fail conf (.invalid val)
    else if conf.powerSave = val.toNat then .done conf
    else if !o.setPowerSave then
      ⟨conf, [.setPowerSave defIfIdx val.toNat false],
        some ⟨none, some "Programming power save failed\n"⟩⟩
    else
      ⟨{ conf with powerSave := val.toNat }, [.setPowerSave defIfIdx val.toNat true], none⟩
  | .heGi val =>
    if 2 < val then .fail conf (.invalid val)
    else if conf.heGi = val.toNat then .done conf
    else .done { conf with heGi := val.toNat }
  | .rtsThreshold val =>
    if val = 0 then .fail conf (.invalid val)
    else if conf.rtsThreshold.toNat = val.toNat then .done conf
    else if !o.kzalloc then .fail conf ⟨none, some "Unable to allocate memory\n"⟩
    else
      let info : WiphyInfo w := ⟨BitVec.ofNat w val.toNat, 0, 0, 0⟩
      if !o.setWiphyParams then
        ⟨conf, [.setWiphyParams defIfIdx info false],
          some ⟨none, some "Programming rts_threshold failed\n"⟩⟩
      else
        ⟨{ conf with rtsThreshold := BitVec.ofNat w val.toNat },
          [.setWiphyParams defIfIdx info true], none⟩
  | .unknown buf => .fail conf ⟨some .efault, errStrOf "Invalid parameter name: " (buf ++ [10])⟩

/-- A call of `nrf_wifi_wlan_fmac_conf_write`: the user's buffer, whether the allocation and the
copy succeed, and the outcomes of the calls the branch makes. -/
structure FmacConfWrite where
  inBuf : List UInt8
  allocated : Bool
  copied : Bool
  fmac : FmacOutcomes

/-- What goes wrong before the dispatch. -/
def FmacConfWrite.earlyError (wr : FmacConfWrite) : Option FmacConfError :=
  firstError
    [checkThat (wr.inBuf.length < maxConfBufSize)
        ⟨some .efault, some "Size of input buffer cannot be more than 500 chars\n"⟩,
      checkThat (wr.allocated = true) ⟨some .efault, some "Not enough memory available\n"⟩,
      checkThat (wr.copied = true) ⟨some .efault, some "Copy from input buffer failed\n"⟩]

/-- The command in the buffer. Its last byte is overwritten by a NUL, whatever it was. -/
def FmacConfWrite.command (wr : FmacConfWrite) : FmacCommand :=
  fmacCommand (cString wr.inBuf.dropLast)

/-- `nrf_wifi_wlan_fmac_conf_write` without the line it logs. -/
def FmacConfWrite.run (conf : FmacConfParams w) (wr : FmacConfWrite) :
    Outcome (FmacConfParams w) (FmacConfEvent w) FmacConfError :=
  match wr.earlyError with
  | some e => .fail conf e
  | none => wr.command.handle wr.fmac conf

/-- `nrf_wifi_wlan_fmac_conf_write`: the configuration, the events and the return value. -/
def nrfWifiWlanFmacConfWrite (conf : FmacConfParams w) (wr : FmacConfWrite) :
    FmacConfParams w × List (FmacConfEvent w) × ℤ :=
  let r := wr.run conf
  match r.error with
  | none => (r.state, r.events, wr.inBuf.length)
  | some e =>
    (r.state, r.events ++ [.prErr e.errStr], (e.errVal.map Errno.ret).getD wr.inBuf.length)

/-! ### Calls of cfg80211 -/

/-- `nrf_wifi_cfg80211_set_power_mgmt` on the default interface: the events, and whether it reports
success. `ok` is the answer of the firmware. -/
def nrfWifiCfg80211SetPowerMgmt (enabled ok : Bool) : List (FmacConfEvent w) × Bool :=
  (.setPowerSave defIfIdx enabled.toNat ok ::
    if ok then []
    else [.prErr (some "nrf_wifi_cfg80211_set_power_mgmt: nrf_wifi_fmac_set_power_save failed\n")],
    ok)

/-- The members of `struct wiphy` that `set_wiphy_params` reads. -/
structure Wiphy where
  retryShort : UInt8
  retryLong : UInt8
  fragThreshold : UInt32
  rtsThreshold : UInt32
  deriving DecidableEq, Repr

def wiphyParamRetryShort : UInt32 := 1
def wiphyParamRetryLong : UInt32 := 2
def wiphyParamFragThreshold : UInt32 := 4
def wiphyParamRtsThreshold : UInt32 := 8

/-- The command `set_wiphy_params` fills in. -/
def wiphyInfo (wiphy : Wiphy) (changed : UInt32) : WiphyInfo w where
  rtsThreshold :=
    if changed &&& wiphyParamRtsThreshold ≠ 0 then BitVec.ofNat w wiphy.rtsThreshold.toNat else 0
  fragThreshold := if changed &&& wiphyParamFragThreshold ≠ 0 then wiphy.fragThreshold else 0
  retryLong := if changed &&& wiphyParamRetryLong ≠ 0 then wiphy.retryLong else 0
  retryShort := if changed &&& wiphyParamRetryShort ≠ 0 then wiphy.retryShort else 0

/-- `nrf_wifi_cfg80211_set_wiphy_params`: the events, and whether it reports success. -/
def nrfWifiCfg80211SetWiphyParams (wiphy : Wiphy) (changed : UInt32) (allocated ok : Bool) :
    List (FmacConfEvent w) × Bool :=
  if !allocated then
    ([.prErr (some "nrf_wifi_cfg80211_set_wiphy_params: Unable to allocate memory\n")], false)
  else
    (.setWiphyParams defIfIdx (wiphyInfo wiphy changed) ok ::
      if ok then []
      else [.prErr (some "nrf_wifi_cfg80211_set_wiphy_params: nrf_wifi_fmac_set_wiphy failed\n")],
      ok)

/-! ### Any order of calls -/

/-- A call that programs a setting. -/
inductive FmacConfAct
  | confWrite (wr : FmacConfWrite)
  | setPowerMgmt (enabled ok : Bool)
  | setWiphyParams (wiphy : Wiphy) (changed : UInt32) (allocated ok : Bool)

/-- The configuration and the events after a call. -/
def FmacConfAct.run (conf : FmacConfParams w) :
    FmacConfAct → FmacConfParams w × List (FmacConfEvent w)
  | .confWrite wr =>
    let r := nrfWifiWlanFmacConfWrite conf wr
    (r.1, r.2.1)
  | .setPowerMgmt enabled ok => (conf, (nrfWifiCfg80211SetPowerMgmt enabled ok).1)
  | .setWiphyParams wiphy changed allocated ok =>
    (conf, (nrfWifiCfg80211SetWiphyParams wiphy changed allocated ok).1)

/-- One call. -/
def fmacConfStep (s : FmacConfState w) (a : FmacConfAct) :
    FmacConfState w × List (FmacConfEvent w) :=
  let r := a.run s.conf
  (⟨r.1, r.2.foldl FwSettings.after s.fw⟩, r.2)

/-- Sequences of calls, in any order. -/
def fmacConfMachine (w : ℕ) : Machine (FmacConfState w) FmacConfAct (FmacConfEvent w) :=
  ⟨fun s a => some (fmacConfStep s a)⟩

/-! ### The settings with two writers -/

inductive Setting
  | powerSave | rtsThreshold
  deriving DecidableEq, Repr

/-- The copy of a setting. -/
def FmacConfParams.copy (conf : FmacConfParams w) : Setting → ℕ
  | .powerSave => conf.powerSave
  | .rtsThreshold => conf.rtsThreshold.toNat

/-- What the firmware has last accepted for a setting. -/
def FwSettings.told (fw : FwSettings w) : Setting → Option ℕ
  | .powerSave => fw.powerSave
  | .rtsThreshold => fw.rtsThreshold.map BitVec.toNat

/-- The value an event gives a setting, if it gives one. -/
def FmacConfEvent.tells : Setting → FmacConfEvent w → Option ℕ
  | .powerSave, .setPowerSave _ val true => some val
  | .rtsThreshold, .setWiphyParams _ info true =>
    if info.rtsThreshold = 0 then none else some info.rtsThreshold.toNat
  | _, _ => none

theorem told_after (fw : FwSettings w) (set : Setting) (e : FmacConfEvent w) :
    (fw.after e).told set = (e.tells set).or (fw.told set) := by
  cases set with
  | powerSave =>
    cases e with
    | setPowerSave ifIdx val ok => cases ok <;> rfl
    | setWiphyParams ifIdx info ok =>
      cases ok with
      | false => rfl
      | true =>
        rw [FwSettings.after]
        split <;> rfl
    | setUapsdQueue | prErr => rfl
  | rtsThreshold =>
    cases e with
    | setPowerSave ifIdx val ok => cases ok <;> rfl
    | setWiphyParams ifIdx info ok =>
      cases ok with
      | false => rfl
      | true =>
        rw [FwSettings.after, FmacConfEvent.tells]
        split <;> rfl
    | setUapsdQueue | prErr => rfl

/-- Events that do not give the setting a value. -/
theorem told_foldl {fw : FwSettings w} {set : Setting} {events : List (FmacConfEvent w)}
    (h : ∀ e ∈ events, e.tells set = none) :
    (events.foldl FwSettings.after fw).told set = fw.told set := by
  induction events generalizing fw with
  | nil => rfl
  | cons e events ih =>
    rw [List.foldl_cons, ih fun e' he' => h e' (List.mem_cons_of_mem _ he'), told_after,
      h e List.mem_cons_self, Option.none_or]

namespace Setting

/-- The write that names the setting. -/
def command : Setting → UInt64 → FmacCommand
  | .powerSave => .powerSave
  | .rtsThreshold => .rtsThreshold

/-- A value the `conf` file takes. -/
def Valid : Setting → UInt64 → Prop
  | .powerSave, val => val = 0 ∨ val = 1
  | .rtsThreshold, val => val ≠ 0

/-- The calls that program the setting succeed. -/
def CallOk (o : FmacOutcomes) : Setting → Prop
  | .powerSave => o.setPowerSave = true
  | .rtsThreshold => o.kzalloc = true ∧ o.setWiphyParams = true

/-- The configuration once the firmware has taken the value. -/
def store (conf : FmacConfParams w) (val : UInt64) : Setting → FmacConfParams w
  | .powerSave => { conf with powerSave := val.toNat }
  | .rtsThreshold => { conf with rtsThreshold := BitVec.ofNat w val.toNat }

/-- The call that programs the setting. -/
def call (w : ℕ) (val : UInt64) : Setting → FmacConfEvent w
  | .powerSave => .setPowerSave defIfIdx val.toNat true
  | .rtsThreshold => .setWiphyParams defIfIdx ⟨BitVec.ofNat w val.toNat, 0, 0, 0⟩ true

/-- The field of the setting holds the value. -/
def Fits (w : ℕ) : Setting → UInt64 → Prop
  | .powerSave, _ => True
  | .rtsThreshold, val => val.toNat < 2 ^ w

end Setting

/-! ### What a write does to a setting -/

/-- The ways out of a write that names the setting. -/
inductive CommandExit (set : Setting) (o : FmacOutcomes) (conf : FmacConfParams w) (val : UInt64) :
    Outcome (FmacConfParams w) (FmacConfEvent w) FmacConfError → Prop
  | programmed (hv : set.Valid val) (hne : val.toNat ≠ conf.copy set) (hok : set.CallOk o) :
      CommandExit set o conf val ⟨set.store conf val, [set.call w val], none⟩
  | skipped (hv : set.Valid val) (heq : val.toNat = conf.copy set) :
      CommandExit set o conf val (.done conf)
  | refused {events e} (hno : ¬ (set.Valid val ∧ val.toNat ≠ conf.copy set ∧ set.CallOk o))
      (hev : ∀ ev ∈ events, ev.tells set = none) :
      CommandExit set o conf val ⟨conf, events, some e⟩

section Write

variable {set : Setting} {conf : FmacConfParams w} {o : FmacOutcomes} {c : FmacCommand}

theorem handle_command (set : Setting) (o : FmacOutcomes) (conf : FmacConfParams w)
    (val : UInt64) : CommandExit set o conf val ((set.command val).handle o conf) := by
  cases set with
  | powerSave =>
    simp only [Setting.command, FmacCommand.handle]
    split_ifs with hv heq hok
    · refine .refused (fun h => ?_) (by simp)
      exact h.1.elim hv.1 hv.2
    · exact .skipped (by tauto) heq.symm
    · refine .refused (fun h => ?_) (by simp [FmacConfEvent.tells])
      have hcall : o.setPowerSave = true := h.2.2
      simp [hcall] at hok
    · exact .programmed (by tauto) (Ne.symm heq) (by simpa [Setting.CallOk] using hok)
  | rtsThreshold =>
    simp only [Setting.command, FmacCommand.handle]
    split_ifs with hv heq halloc hok
    · exact .refused (fun h => h.1 hv) (by simp)
    · exact .skipped hv heq.symm
    · refine .refused (fun h => ?_) (by simp)
      have hcall : o.kzalloc = true := h.2.2.1
      simp [hcall] at halloc
    · refine .refused (fun h => ?_) (by simp [FmacConfEvent.tells])
      have hcall : o.setWiphyParams = true := h.2.2.2
      simp [hcall] at hok
    · exact .programmed hv (Ne.symm heq) ⟨by simpa using halloc, by simpa using hok⟩

variable (conf o) in
/-- A write of something else has nothing to do with the setting. -/
theorem handle_of_ne (h : ∀ val, c ≠ set.command val) :
    (c.handle o conf).state.copy set = conf.copy set ∧
      ∀ e ∈ (c.handle o conf).events, e.tells set = none := by
  cases c with
  | unknown buf => exact ⟨rfl, by simp [FmacCommand.handle]⟩
  | uapsdQueue val =>
    simp only [FmacCommand.handle]
    split_ifs <;> cases set <;> simp [FmacConfParams.copy, FmacConfEvent.tells]
  | heGi val =>
    simp only [FmacCommand.handle]
    split_ifs <;> cases set <;> simp [FmacConfParams.copy]
  | powerSave val =>
    cases set with
    | powerSave => exact absurd rfl (h val)
    | rtsThreshold =>
      simp only [FmacCommand.handle]
      split_ifs <;> simp [FmacConfParams.copy, FmacConfEvent.tells]
  | rtsThreshold val =>
    cases set with
    | rtsThreshold => exact absurd rfl (h val)
    | powerSave =>
      simp only [FmacCommand.handle]
      split_ifs <;> simp [FmacConfParams.copy, FmacConfEvent.tells]

end Write

/-! ### What a call does to the agreement of the copy with the firmware -/

/-- A write that would be skipped is not needed. -/
def Agrees (set : Setting) (s : FmacConfState w) : Prop :=
  ∀ val, set.Valid val → val.toNat = s.conf.copy set → s.fw.told set = some val.toNat

/-- The value an accepted call of cfg80211 gives a setting. -/
def FmacConfAct.bypass (w : ℕ) : Setting → FmacConfAct → Option ℕ
  | .powerSave, .setPowerMgmt enabled true => some enabled.toNat
  | .rtsThreshold, .setWiphyParams wiphy changed true true =>
    if (wiphyInfo wiphy changed : WiphyInfo w).rtsThreshold = 0 then none
    else some (wiphyInfo wiphy changed : WiphyInfo w).rtsThreshold.toNat
  | _, _ => none

/-- An accepted call of cfg80211 gives the setting a value other than the copy. -/
def FmacConfAct.Stales (set : Setting) (s : FmacConfState w) (a : FmacConfAct) : Prop :=
  ∃ x val, a.bypass w set = some x ∧ set.Valid val ∧ val.toNat = s.conf.copy set ∧ val.toNat ≠ x

/-- The call is a write of the setting that is not skipped, and the firmware takes it. -/
def FmacConfAct.Programs (set : Setting) (s : FmacConfState w) (a : FmacConfAct) : Prop :=
  ∃ wr val, a = .confWrite wr ∧ wr.earlyError = none ∧ wr.command = set.command val ∧
    set.Valid val ∧ val.toNat ≠ s.conf.copy set ∧ set.CallOk wr.fmac

/-- The firmware takes a value for the setting. -/
def FmacConfAct.Sets (set : Setting) (s : FmacConfState w) (a : FmacConfAct) : Prop :=
  a.bypass w set ≠ none ∨ a.Programs set s

section Agreement

variable {set : Setting} {s : FmacConfState w} {val : UInt64}

theorem fmacConfStep_confWrite (s : FmacConfState w) (wr : FmacConfWrite) :
    (fmacConfStep s (.confWrite wr)).1 =
      ⟨(wr.run s.conf).state, (wr.run s.conf).events.foldl FwSettings.after s.fw⟩ := by
  simp only [fmacConfStep, FmacConfAct.run, nrfWifiWlanFmacConfWrite]
  cases (wr.run s.conf).error with
  | none => rfl
  | some e =>
    simp only [List.foldl_append]
    rfl

variable (set s) in
/-- A call of cfg80211 leaves the copy alone. -/
theorem bypass_step {a : FmacConfAct} (h : ∀ wr, a ≠ .confWrite wr) :
    (fmacConfStep s a).1.conf = s.conf ∧
      (fmacConfStep s a).1.fw.told set = (a.bypass w set).or (s.fw.told set) := by
  cases a with
  | confWrite wr => exact absurd rfl (h wr)
  | setPowerMgmt enabled ok =>
    cases ok <;> cases set <;> exact ⟨rfl, rfl⟩
  | setWiphyParams wiphy changed allocated ok =>
    refine ⟨rfl, ?_⟩
    cases allocated with
    | false => cases ok <;> cases set <;> rfl
    | true =>
      cases ok with
      | false => cases set <;> rfl
      | true =>
        show (s.fw.after (.setWiphyParams defIfIdx (wiphyInfo wiphy changed) true)).told set = _
        rw [told_after]
        cases set <;> rfl

/-- The firmware holds what was written exactly when the field does. -/
theorem told_programmed (hv : set.Valid val) (fw : FwSettings w) :
    (fw.after (set.call w val)).told set = some val.toNat ↔ set.Fits w val := by
  rw [told_after]
  cases set with
  | powerSave => exact iff_of_true rfl trivial
  | rtsThreshold =>
    have hval : val.toNat ≠ 0 := fun h0 => hv (UInt64.toNat_inj.mp h0)
    show Option.or (if BitVec.ofNat w val.toNat = 0 then none else some _) _ = _ ↔ _ < 2 ^ w
    split
    · next hzero =>
      have hmod : val.toNat % 2 ^ w = 0 := by
        rw [← BitVec.toNat_ofNat, hzero]
        rfl
      have hge : ¬ val.toNat < 2 ^ w := fun hlt => hval (Nat.mod_eq_of_lt hlt ▸ hmod)
      refine iff_of_false ?_ hge
      rw [Option.none_or]
      intro htold
      obtain ⟨b, -, hb⟩ := Option.map_eq_some_iff.mp htold
      exact hge (hb ▸ b.isLt)
    · rw [Option.some_or, Option.some.injEq, BitVec.toNat_ofNat]
      exact ⟨fun h => h ▸ Nat.mod_lt _ (Nat.two_pow_pos w), Nat.mod_eq_of_lt⟩

theorem agrees_programmed (fw : FwSettings w) (conf : FmacConfParams w) :
    Agrees set ⟨set.store conf val, fw.after (set.call w val)⟩ := by
  intro val' hv' hcopy
  show (fw.after (set.call w val)).told set = _
  rw [told_after]
  cases set with
  | powerSave => exact congrArg some hcopy.symm
  | rtsThreshold =>
    have hval' : val'.toNat ≠ 0 := fun h0 => hv' (UInt64.toNat_inj.mp h0)
    have hcopy' : val'.toNat = (BitVec.ofNat w val.toNat).toNat := hcopy
    show Option.or (if BitVec.ofNat w val.toNat = 0 then none else some _) _ = _
    rw [if_neg fun h0 => hval' (by rw [hcopy', h0]; rfl), hcopy']
    rfl

theorem command_inj {val' : UInt64} (h : set.command val = set.command val') : val = val' := by
  cases set with
  | powerSave => exact FmacCommand.powerSave.inj h
  | rtsThreshold => exact FmacCommand.rtsThreshold.inj h

/-- A write programs the setting, or leaves it alone. -/
theorem write_cases (set : Setting) (s : FmacConfState w) (wr : FmacConfWrite) :
    ((FmacConfAct.confWrite wr).Programs set s ∧ ∃ val,
        (fmacConfStep s (.confWrite wr)).1 =
          ⟨set.store s.conf val, s.fw.after (set.call w val)⟩) ∨
      ¬ (FmacConfAct.confWrite wr).Programs set s ∧
        (fmacConfStep s (.confWrite wr)).1.conf.copy set = s.conf.copy set ∧
        (fmacConfStep s (.confWrite wr)).1.fw.told set = s.fw.told set := by
  rw [fmacConfStep_confWrite, FmacConfWrite.run]
  cases hearly : wr.earlyError with
  | some e =>
    refine Or.inr ⟨?_, rfl, rfl⟩
    rintro ⟨wr', val, hwr, hnone, -⟩
    rw [FmacConfAct.confWrite.injEq] at hwr
    rw [← hwr, hearly] at hnone
    exact absurd hnone (by simp)
  | none =>
    by_cases hcmd : ∃ val, wr.command = set.command val
    swap
    · push Not at hcmd
      obtain ⟨hcopy, hev⟩ := handle_of_ne s.conf wr.fmac hcmd
      refine Or.inr ⟨?_, hcopy, told_foldl hev⟩
      rintro ⟨wr', val, hwr, -, hval, -⟩
      rw [FmacConfAct.confWrite.injEq] at hwr
      exact hcmd val (hwr ▸ hval)
    obtain ⟨val, hval⟩ := hcmd
    -- what `Programs` says of this write
    have hiff : (FmacConfAct.confWrite wr).Programs set s ↔
        set.Valid val ∧ val.toNat ≠ s.conf.copy set ∧ set.CallOk wr.fmac := by
      constructor
      · rintro ⟨wr', val', hwr, -, hval', hprog⟩
        rw [FmacConfAct.confWrite.injEq] at hwr
        rw [← hwr, hval] at hval'
        rw [hwr, command_inj hval']
        exact hprog
      · exact fun hprog => ⟨wr, val, rfl, hearly, hval, hprog⟩
    have hexit := handle_command set wr.fmac s.conf val
    rw [← hval] at hexit
    rw [hiff]
    dsimp only
    generalize wr.command.handle wr.fmac s.conf = r at hexit
    cases hexit with
    | programmed hv hne hok => exact Or.inl ⟨⟨hv, hne, hok⟩, val, rfl⟩
    | skipped hv heq => exact Or.inr ⟨fun h => h.2.1 heq, rfl, rfl⟩
    | refused hno hev => exact Or.inr ⟨hno, rfl, told_foldl hev⟩

/-- **What a call does to the agreement.** -/
theorem agrees_step (a : FmacConfAct) :
    Agrees set (fmacConfStep s a).1 ↔ ¬ a.Stales set s ∧ (Agrees set s ∨ a.Sets set s) := by
  by_cases hwrite : ∃ wr, a = .confWrite wr
  · obtain ⟨wr, rfl⟩ := hwrite
    have hbypass : (FmacConfAct.confWrite wr).bypass w set = none := by cases set <;> rfl
    have hstale : ¬ (FmacConfAct.confWrite wr).Stales set s := by
      rintro ⟨x, val, hx, -⟩
      exact absurd (hbypass.symm.trans hx) (by simp)
    rcases write_cases set s wr with ⟨hprog, val, hstate⟩ | ⟨hprog, hcopy, htold⟩
    · rw [hstate]
      exact iff_of_true (agrees_programmed s.fw s.conf) ⟨hstale, Or.inr (Or.inr hprog)⟩
    · have hsets : ¬ (FmacConfAct.confWrite wr).Sets set s :=
        fun h => h.elim (fun hne => hne hbypass) hprog
      simp only [Agrees, hcopy, htold, hstale, hsets, not_false_iff, true_and, or_false]
  · push Not at hwrite
    obtain ⟨hconf, htold⟩ := bypass_step set s hwrite
    have hprog : ¬ a.Programs set s := fun ⟨wr, _, hwr, _⟩ => hwrite wr hwr
    cases hx : a.bypass w set with
    | none =>
      have hstale : ¬ a.Stales set s := by
        rintro ⟨x, val, hsome, -⟩
        exact absurd (hx.symm.trans hsome) (by simp)
      have hsets : ¬ a.Sets set s := fun h => h.elim (fun hne => hne hx) hprog
      rw [hx, Option.none_or] at htold
      simp only [Agrees, hconf, htold, hstale, hsets, not_false_iff, true_and, or_false]
    | some x =>
      have hsets : a.Sets set s := Or.inl (by simp [hx])
      rw [hx, Option.some_or] at htold
      simp only [hsets, or_true, and_true, Agrees, hconf, htold, Option.some.injEq]
      constructor
      · rintro hagree ⟨x', val, hx', hv, hcopy, hne⟩
        rw [hx, Option.some.injEq] at hx'
        exact hne (hx' ▸ (hagree val hv hcopy).symm)
      · intro hstale val hv hcopy
        by_contra hne
        exact hstale ⟨x, val, hx, hv, hcopy, Ne.symm hne⟩

/-- What a write that takes no error exit leaves in the firmware. -/
theorem told_write {wr : FmacConfWrite} (hcmd : wr.command = set.command val)
    (hok : (wr.run s.conf).error = none) :
    (fmacConfStep s (.confWrite wr)).1.fw.told set = some val.toNat ↔
      set.Fits w val ∧ (val.toNat = s.conf.copy set → Agrees set s) := by
  rw [fmacConfStep_confWrite]
  rw [FmacConfWrite.run] at hok ⊢
  cases hearly : wr.earlyError with
  | some e =>
    rw [hearly] at hok
    exact absurd hok (by simp)
  | none =>
    rw [hearly] at hok
    dsimp only at hok ⊢
    have hexit := handle_command set wr.fmac s.conf val
    rw [← hcmd] at hexit
    generalize wr.command.handle wr.fmac s.conf = r at hexit hok
    cases hexit with
    | refused => exact absurd hok (by simp)
    | programmed hv hne =>
      show (s.fw.after (set.call w val)).told set = _ ↔ _
      rw [told_programmed hv]
      exact ⟨fun hfits => ⟨hfits, fun heq => absurd heq hne⟩, And.left⟩
    | skipped hv heq =>
      have hfits : set.Fits w val := by
        cases set with
        | powerSave => trivial
        | rtsThreshold =>
          show val.toNat < 2 ^ w
          rw [heq]
          exact s.conf.rtsThreshold.isLt
      show s.fw.told set = _ ↔ _
      constructor
      · intro htold
        refine ⟨hfits, fun _ val' _ hcopy => ?_⟩
        rw [htold, hcopy, heq]
      · intro h
        exact h.2 heq val hv heq

end Agreement

/-! ### Any run -/

/-- In the run there is a write of the setting that takes no error exit. `bs` is what comes before
it, and `s'` the state it finds. -/
def WritesAfter (s : FmacConfState w) (as bs : List FmacConfAct) (s' : FmacConfState w)
    (wr : FmacConfWrite) (set : Setting) (val : UInt64) : Prop :=
  ∃ cs t, as = bs ++ .confWrite wr :: cs ∧ (fmacConfMachine w).exec s bs = some (s', t) ∧
    wr.command = set.command val ∧ (wr.run s'.conf).error = none

/-- After every write of the `conf` file that takes no error exit, the firmware holds the value. -/
def ConfWritesAgree (s : FmacConfState w) (as : List FmacConfAct) : Prop :=
  ∀ bs s' wr set val, WritesAfter s as bs s' wr set val →
    (fmacConfStep s' (.confWrite wr)).1.fw.told set = some val.toNat

/-- The copy of the setting is not stale after a run. No call of cfg80211 that gave the setting
another value than the copy is the last that set it, and if none has set it, the copy was right at
the start. -/
def CopyCurrent (set : Setting) (s : FmacConfState w) (bs : List FmacConfAct) : Prop :=
  ¬ (fmacConfMachine w).Pending (fun s a => a.Stales set s) (fun s a => a.Sets set s) s bs ∧
    (Agrees set s ∨ ¬ (fmacConfMachine w).Along (fun s a => ¬ a.Sets set s) s bs)

/-- Every write fits its field, and finds a copy that is not stale if it writes the copy. -/
def NoStaleSkip (s : FmacConfState w) (as : List FmacConfAct) : Prop :=
  ∀ bs s' wr set val, WritesAfter s as bs s' wr set val →
    set.Fits w val ∧ (val.toNat = s'.conf.copy set → CopyCurrent set s bs)

/-- **When the writes of the `conf` file agree with the firmware.** -/
theorem conf_writes_agree_iff (s : FmacConfState w) (as : List FmacConfAct) :
    ConfWritesAgree s as ↔ NoStaleSkip s as := by
  refine forall_congr' fun bs => forall_congr' fun s' => forall_congr' fun wr =>
    forall_congr' fun set => forall_congr' fun val => imp_congr_right ?_
  rintro ⟨cs, t, -, hexec, hcmd, hok⟩
  rw [told_write hcmd hok, CopyCurrent,
    ← (fmacConfMachine w).holds_iff_decided (P := Agrees set) (fun {s a s' u} hstep => ?_) hexec]
  rw [((fmacConfMachine w).step_eq_of_total (fun _ _ => rfl) hstep).1]
  exact agrees_step a

/-- A device that was just added, whose firmware has accepted nothing yet. -/
def FmacConfState.init : FmacConfState w := ⟨⟨0, 0, 0, 0⟩, ⟨none, none⟩⟩

/-- A write of a text, with every call succeeding. -/
def FmacConfWrite.ofText (text : String) : FmacConfWrite :=
  ⟨cBytes text, true, true, ⟨true, true, true, true⟩⟩

/-- cfg80211 switches power save off behind the copy, and the write that would switch it on again is
skipped. -/
theorem power_save_write_skipped :
    ¬ ConfWritesAgree (FmacConfState.init : FmacConfState 32)
      [.confWrite (.ofText "power_save=1\n"), .setPowerMgmt false true,
        .confWrite (.ofText "power_save=1\n")] := by
  intro h
  have htold := h [.confWrite (.ofText "power_save=1\n"), .setPowerMgmt false true]
    ⟨⟨0, 1, 0, 0⟩, ⟨some 0, none⟩⟩ (.ofText "power_save=1\n") .powerSave 1
    ⟨[], _, rfl, rfl, rfl, rfl⟩
  exact absurd htold (by decide)

end Nrf70
