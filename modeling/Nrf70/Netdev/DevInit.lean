import Nrf70.Netdev.AddVif

/-!
# Bringing a device up

`nrf_wifi_fmac_dev_init_lnx` in STA mode, as a function of the outcomes of its steps. All steps
share one variable `status` and one exit block. The variable is not assigned between the read of
the MAC address and the creation of the debugfs entries, so the two failures in between leave with
the success of the step before them; and the exit block takes the default interface down but
leaves `def_vif_ctx`, FMAC's slot and the debugfs entries.

## Main results

* `devInit_all_or_nothing_iff` — bring-up is all or nothing exactly when every step succeeds or the
  first one fails
-/

namespace Nrf70

/-- `enum nrf_wifi_status`. -/
inductive NrfWifiStatus
  | success
  | fail
  deriving DecidableEq, Repr

/-- The steps of `nrf_wifi_wlan_fmac_dbgfs_init`. -/
structure DbgfsOutcome where
  root : Bool
  conf : Bool
  twt : Bool
  stats : Bool
  ver : Bool
  deriving DecidableEq, Repr

/-- The steps of `nrf_wifi_fmac_dev_init_lnx`, with the index FMAC returns. -/
structure DevInitOutcome extends WlanOutcome where
  otpMacAddr : Bool
  fmacAddVif : UInt8
  dbgfs : DbgfsOutcome
  verGet : Bool
  devInit : Bool
  setVifMacaddr : Bool
  deriving DecidableEq, Repr

/-- What a bring-up leaves behind: `def_vif_ctx`, the VIF slot FMAC has given to the default
interface, the debugfs directory, and the ledger of the interface. -/
structure DevInitCtx where
  defVifCtx : Option VifHandle
  fmacSlot : Option UInt8
  dbgfsWlanRoot : Bool
  ledger : List (LedgerEntry VifRes)
  deriving DecidableEq, Repr

/-- A device as `nrf_wifi_fmac_dev_add_lnx` leaves it. -/
def DevInitCtx.fresh : DevInitCtx := ⟨none, none, false, []⟩

/-- More entries for the ledger. -/
def DevInitCtx.log (c : DevInitCtx) (t : List (LedgerEntry VifRes)) : DevInitCtx :=
  { c with ledger := c.ledger ++ t }

/-! ### The functions -/

/-- `nrf_wifi_wlan_fmac_dbgfs_init`: its status, and whether the directory is there afterwards. -/
def wlanFmacDbgfsInit (o : DbgfsOutcome) : NrfWifiStatus × Bool :=
  let status :=
    if !o.root then .fail
    else if !o.conf then .fail
    else if !o.twt then .fail
    else if !o.stats then .fail
    else if !o.ver then .fail
    else .success
  -- `nrf_wifi_wlan_fmac_dbgfs_deinit` removes the directory with everything in it
  (status, if status = .success then o.root else false)

/-- The slot FMAC uses for an interface it has accepted. -/
def fmacSlotOf (lim : VifLimits) (ifIdx : UInt8) : Option UInt8 :=
  if ifIdx.toNat < lim.maxNumVifs then some ifIdx else none

/-- The steps after the default interface has index 0. -/
def devInitDefault (o : DevInitOutcome) (vif : VifHandle) (c : DevInitCtx) :
    NrfWifiStatus × DevInitCtx :=
  let c := { c with defVifCtx := some vif }
  let (status, root) := wlanFmacDbgfsInit o.dbgfs
  let c := { c with dbgfsWlanRoot := root }
  if status ≠ .success then (status, c)
  else if !o.verGet then (.fail, c)
  else if !o.devInit then (.fail, c)
  else if !o.setVifMacaddr then (.fail, c)
  else (.success, c)

/-- `nrf_wifi_fmac_dev_init_lnx` up to the label `out`: `status`, `vif_ctx_lnx` and the context. -/
def devInitBody (lim : VifLimits) (o : DevInitOutcome) (c : DevInitCtx) :
    NrfWifiStatus × Option VifHandle × DevInitCtx :=
  if !o.otpMacAddr then (.fail, none, c)
  else
    match wlanFmacAddVif o.toWlanOutcome .station with
    -- `status` is still that of the MAC address
    | (none, t) => (.success, none, c.log t)
    | (some vif, t) =>
      let vif := { vif with ifIdx := o.fmacAddVif }
      let c := { c.log t with fmacSlot := fmacSlotOf lim o.fmacAddVif }
      if vif.ifIdx ≠ 0 then (.success, some vif, c)
      else
        let (status, c) := devInitDefault o vif c
        (status, some vif, c)

/-- `nrf_wifi_fmac_dev_init_lnx`. -/
def nrfWifiFmacDevInitLnx (lim : VifLimits) (o : DevInitOutcome) (c : DevInitCtx) :
    NrfWifiStatus × DevInitCtx :=
  let (status, vif, c) := devInitBody lim o c
  match status, vif with
  | .success, _ => (.success, c)
  | .fail, none => (.fail, c)
  | .fail, some vif => (.fail, c.log (wlanFmacDelVif vif))

/-! ### All or nothing -/

/-- Every step of the creation of an interface succeeds. -/
def WlanOutcome.Creates (o : WlanOutcome) : Prop :=
  o.allocWdev = true ∧ o.allocEtherdev = true ∧ o.qAlloc = true ∧ o.registerRet = 0

/-- Every entry in debugfs can be created. -/
def DbgfsOutcome.Creates (o : DbgfsOutcome) : Prop :=
  o.root = true ∧ o.conf = true ∧ o.twt = true ∧ o.stats = true ∧ o.ver = true

/-- Every step of a bring-up succeeds, and FMAC gives the default interface index 0. -/
def DevInitOutcome.Succeeds (o : DevInitOutcome) : Prop :=
  o.otpMacAddr = true ∧ o.toWlanOutcome.Creates ∧ o.fmacAddVif = 0 ∧ o.dbgfs.Creates ∧
    o.verGet = true ∧ o.devInit = true ∧ o.setVifMacaddr = true

/-- What bring-up is to leave behind. -/
structure AllOrNothing (o : DevInitOutcome) (status : NrfWifiStatus) (c : DevInitCtx) : Prop where
  success_iff : status = .success ↔ o.Succeeds
  all : status = .success → ∃ vif, c.defVifCtx = some vif ∧ vif.registered = true ∧
    Unreleased c.ledger .registration
  nothing : status ≠ .success → c.defVifCtx = none ∧ c.fmacSlot = none ∧
    c.dbgfsWlanRoot = false ∧ ReleasedOnce c.ledger .registration

section Steps

variable {lim : VifLimits} {o : DevInitOutcome}

theorem wlanFmacDbgfsInit_success (o : DbgfsOutcome) :
    (wlanFmacDbgfsInit o).1 = .success ↔ o.Creates := by
  simp only [wlanFmacDbgfsInit, DbgfsOutcome.Creates]
  cases o.root <;> cases o.conf <;> cases o.twt <;> cases o.stats <;> cases o.ver <;> simp

/-- No interface comes from a creation that failed at a step, unless the step was the allocation of
the queue; and one that failed at no step gives a registered interface. -/
theorem wlanFmacAddVif_cases (o : WlanOutcome) (ifType : IfType) :
    (∃ t, wlanFmacAddVif o ifType = (none, t) ∧ ¬ o.Creates) ∨
      ∃ vif t, wlanFmacAddVif o ifType = (some vif, t) ∧
        (o.Creates → vif.registered = true ∧ Unreleased t .registration) := by
  rw [wlanFmacAddVif]
  cases hw : o.allocWdev with
  | false => exact .inl ⟨[], rfl, fun h => by simp [h.1] at hw⟩
  | true =>
    cases hn : o.allocEtherdev with
    | false =>
      rw [netdevAddVif_of_not_alloc hn]
      exact .inl ⟨_, rfl, fun h => by simp [h.2.1] at hn⟩
    | true =>
      cases hq : o.qAlloc with
      | false =>
        rw [netdevAddVif_of_not_qAlloc hn hq]
        exact .inr ⟨_, _, rfl, fun h => by simp [h.2.2.1] at hq⟩
      | true =>
        by_cases hr : o.registerRet = 0
        · rw [netdevAddVif_of_register hn hq hr]
          exact .inr ⟨_, _, rfl, fun _ => ⟨rfl, by decide⟩⟩
        · rw [netdevAddVif_of_not_register hn hq hr]
          exact .inl ⟨_, rfl, fun h => hr h.2.2.2⟩

/-- From index 0 on `def_vif_ctx` is set, and the status is that of the remaining steps. -/
theorem devInitDefault_spec (o : DevInitOutcome) (vif : VifHandle) (c : DevInitCtx) :
    (devInitDefault o vif c).2.defVifCtx = some vif ∧
      (devInitDefault o vif c).2.ledger = c.ledger ∧
      ((devInitDefault o vif c).1 = .success ↔ o.dbgfs.Creates ∧ o.verGet = true ∧
        o.devInit = true ∧ o.setVifMacaddr = true) := by
  have hdbgfs := wlanFmacDbgfsInit_success o.dbgfs
  simp only [devInitDefault]
  split_ifs with hd hv hi hs
  · exact ⟨rfl, rfl, iff_of_false hd fun h => hd (hdbgfs.mpr h.1)⟩
  · exact ⟨rfl, rfl, iff_of_false (by simp) fun h => by simp [h.2.1] at hv⟩
  · exact ⟨rfl, rfl, iff_of_false (by simp) fun h => by simp [h.2.2.1] at hi⟩
  · exact ⟨rfl, rfl, iff_of_false (by simp) fun h => by simp [h.2.2.2] at hs⟩
  · simp only [Bool.not_eq_true', Bool.not_eq_false] at hv hi hs
    exact ⟨rfl, rfl, iff_of_true rfl ⟨hdbgfs.mp (not_not.mp hd), hv, hi, hs⟩⟩

/-- A failed read of the MAC address leaves nothing. -/
theorem devInit_of_not_otp (h : o.otpMacAddr = false) :
    nrfWifiFmacDevInitLnx lim o .fresh = (.fail, .fresh) := by
  simp [nrfWifiFmacDevInitLnx, devInitBody, h]

/-- A failed creation of the default interface is reported as a success. -/
theorem devInit_of_none {t : List (LedgerEntry VifRes)} (h : o.otpMacAddr = true)
    (hv : wlanFmacAddVif o.toWlanOutcome .station = (none, t)) :
    (nrfWifiFmacDevInitLnx lim o .fresh).1 = .success := by
  simp [nrfWifiFmacDevInitLnx, devInitBody, h, hv]

/-- So is an index other than 0. -/
theorem devInit_of_ne_zero {vif : VifHandle} {t : List (LedgerEntry VifRes)}
    (h : o.otpMacAddr = true) (hv : wlanFmacAddVif o.toWlanOutcome .station = (some vif, t))
    (hi : o.fmacAddVif ≠ 0) : (nrfWifiFmacDevInitLnx lim o .fresh).1 = .success := by
  simp [nrfWifiFmacDevInitLnx, devInitBody, h, hv, hi]

variable (lim) in
/-- With index 0 the rest decides, and `def_vif_ctx` is set whatever it decides. -/
theorem devInit_of_eq_zero {vif : VifHandle} {t : List (LedgerEntry VifRes)}
    (h : o.otpMacAddr = true) (hv : wlanFmacAddVif o.toWlanOutcome .station = (some vif, t))
    (hi : o.fmacAddVif = 0) :
    (nrfWifiFmacDevInitLnx lim o .fresh).2.defVifCtx = some { vif with ifIdx := 0 } ∧
      ((nrfWifiFmacDevInitLnx lim o .fresh).1 = .success ↔ o.dbgfs.Creates ∧ o.verGet = true ∧
        o.devInit = true ∧ o.setVifMacaddr = true) ∧
      ((nrfWifiFmacDevInitLnx lim o .fresh).1 = .success →
        (nrfWifiFmacDevInitLnx lim o .fresh).2.ledger = t) := by
  obtain ⟨hdef, hledger, hstatus⟩ := devInitDefault_spec o { vif with ifIdx := 0 }
    { DevInitCtx.fresh.log t with fmacSlot := fmacSlotOf lim 0 }
  have hbody : devInitBody lim o .fresh =
      ((devInitDefault o { vif with ifIdx := 0 }
          { DevInitCtx.fresh.log t with fmacSlot := fmacSlotOf lim 0 }).1,
        some { vif with ifIdx := 0 },
        (devInitDefault o { vif with ifIdx := 0 }
          { DevInitCtx.fresh.log t with fmacSlot := fmacSlotOf lim 0 }).2) := by
    simp [devInitBody, h, hv, hi]
  rw [nrfWifiFmacDevInitLnx, hbody]
  generalize devInitDefault o { vif with ifIdx := 0 }
    { DevInitCtx.fresh.log t with fmacSlot := fmacSlotOf lim 0 } = p at hdef hledger hstatus ⊢
  obtain ⟨status, c⟩ := p
  cases status with
  | success => exact ⟨hdef, hstatus, fun _ => hledger⟩
  | fail => exact ⟨hdef, hstatus, fun h => absurd h (by simp)⟩

end Steps

/-- **Bring-up is all or nothing exactly when every step succeeds or the first one fails.** For
every combination of outcomes, from a device as it is added. -/
theorem devInit_all_or_nothing_iff (lim : VifLimits) (o : DevInitOutcome) :
    AllOrNothing o (nrfWifiFmacDevInitLnx lim o .fresh).1 (nrfWifiFmacDevInitLnx lim o .fresh).2 ↔
      (o.otpMacAddr = false ∨ o.Succeeds) := by
  cases hotp : o.otpMacAddr with
  | false =>
    rw [devInit_of_not_otp hotp]
    refine iff_of_true ⟨iff_of_false (by decide) fun h => ?_, fun h => ?_, fun _ => ?_⟩ (.inl rfl)
    · simp [h.1] at hotp
    · exact absurd h (by decide)
    · exact ⟨rfl, rfl, rfl, releasedOnce_nil _⟩
  | true =>
    simp only [Bool.true_eq_false, false_or]
    rcases wlanFmacAddVif_cases o.toWlanOutcome .station with ⟨t, hv, hfail⟩ | ⟨vif, t, hv, hok⟩
    · -- the interface could not be created, and the status is a success
      refine iff_of_false (fun hall => ?_) fun h => hfail h.2.1
      exact hfail (hall.success_iff.mp (devInit_of_none hotp hv)).2.1
    · by_cases hi : o.fmacAddVif = 0
      · obtain ⟨hdef, hstatus, hledger⟩ := devInit_of_eq_zero lim hotp hv hi
        constructor
        · intro hall
          -- `def_vif_ctx` is set, so bring-up has not failed
          have hsuccess : (nrfWifiFmacDevInitLnx lim o .fresh).1 = .success := by
            by_contra hne
            have hnone := (hall.nothing hne).1
            rw [hdef] at hnone
            exact absurd hnone (by simp)
          exact hall.success_iff.mp hsuccess
        · intro h
          have hsuccess := hstatus.mpr h.2.2.2
          obtain ⟨hreg, hleft⟩ := hok h.2.1
          refine ⟨iff_of_true hsuccess h, fun _ => ⟨_, hdef, hreg, ?_⟩, fun hne => ?_⟩
          · rw [hledger hsuccess]
            exact hleft
          · exact absurd hsuccess hne
      · refine iff_of_false (fun hall => ?_) fun h => hi h.2.2.1
        exact hi (hall.success_iff.mp (devInit_of_ne_zero hotp hv hi)).2.2.1

/-- A bring-up in which everything goes well. -/
def goodBringUp : DevInitOutcome where
  allocEtherdev := true
  qAlloc := true
  registerRet := 0
  destructed := false
  allocWdev := true
  otpMacAddr := true
  fmacAddVif := 0
  dbgfs := ⟨true, true, true, true, true⟩
  verGet := true
  devInit := true
  setVifMacaddr := true

/-- **A success without an interface, and a failure with half of one.** The first when the default
interface cannot be registered, the second when its MAC address cannot be set. -/
theorem devInit_neither_all_nor_nothing :
    (∃ c, nrfWifiFmacDevInitLnx ⟨2, 16⟩ { goodBringUp with registerRet := -17 } .fresh
        = (.success, c) ∧ c.defVifCtx = none) ∧
    ∃ c vif, nrfWifiFmacDevInitLnx ⟨2, 16⟩ { goodBringUp with setVifMacaddr := false } .fresh
        = (.fail, c) ∧ c.defVifCtx = some vif ∧ c.fmacSlot = some 0 ∧ c.dbgfsWlanRoot = true ∧
      ReleasedOnce c.ledger .netdev := by
  constructor
  · exact ⟨_, rfl, rfl⟩
  · exact ⟨_, _, rfl, rfl, rfl, rfl, by decide⟩

end Nrf70
