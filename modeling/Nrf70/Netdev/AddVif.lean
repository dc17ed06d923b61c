import Nrf70.Lib.Ledger
import Nrf70.Netdev.Vif

/-!
# Creating an interface

`nrf_wifi_cfg80211_add_vif`, `nrf_wifi_wlan_fmac_add_vif` and `nrf_wifi_netdev_add_vif`, each with
its own clean-up, as functions of the outcomes of the steps they make. What they acquire and
release is kept in a ledger; the registration of the network device counts as a resource.

The innermost clean-up is keyed on `ret`, the result of `register_netdevice`. A failed allocation
of the queue jumps to it with `ret` still `0`, so the device goes out to the callers as if it had
been registered; and a failed registration frees the device but not the queue.

## What is outside the repository

`register_netdevice` may, when it fails, already have run `priv_destructor`, which is
`free_netdev` here. `unregister_netdevice` runs it for a registered device, and does nothing for a
device that never was registered. The two limits are nrfxlib's, and parameters.

## Main results

* `addVif_usable_or_nothing_iff` — the call returns a usable interface or cleans up exactly when
  neither the allocation of the queue nor the registration is reached and fails
-/

namespace Nrf70

/-! ### Outcomes and results -/

/-- What a creation acquires. -/
inductive VifRes
  | wdev
  | netdev
  | dataTxq
  | registration
  | addVifInfo
  deriving DecidableEq, Repr

/-- The fallible steps of `nrf_wifi_netdev_add_vif`. `registerRet` is what `register_netdevice`
returns, and `destructed` whether a failing one has run `priv_destructor`. -/
structure NetdevOutcome where
  allocEtherdev : Bool
  qAlloc : Bool
  registerRet : ℤ
  destructed : Bool
  deriving DecidableEq, Repr

/-- The fallible steps of `nrf_wifi_wlan_fmac_add_vif`. -/
structure WlanOutcome extends NetdevOutcome where
  allocWdev : Bool
  deriving DecidableEq, Repr

/-- The fallible steps of `nrf_wifi_cfg80211_add_vif`, with the index FMAC returns. -/
structure AddVifOutcome extends WlanOutcome where
  macAddr : Bool
  allocInfo : Bool
  fmacAddVif : UInt8
  deriving DecidableEq, Repr

/-- The interface context a creation hands back: whether its network device is registered,
whether `data_txq` is allocated, the type `wdev` points to, and `if_idx`. -/
structure VifHandle where
  registered : Bool
  dataTxq : Bool
  wdev : Option IfType
  ifIdx : UInt8
  deriving DecidableEq, Repr

/-- The arguments of `nrf_wifi_cfg80211_add_vif`: `none` is a NULL name, and `driverCtx` is the
test on the driver's context. -/
structure AddVifRequest where
  wiphy : Bool
  name : Option (List UInt8)
  type : IfType
  driverCtx : Bool
  deriving DecidableEq, Repr

/-- `MAX_NUM_VIFS`, and the size of `ifacename` in FMAC's command. -/
structure VifLimits where
  maxNumVifs : ℕ
  ifacenameSize : ℕ
  deriving DecidableEq, Repr

/-- `IFNAMSIZ`. -/
def ifnamsiz : ℕ := 16

/-! ### The three functions -/

/-- `register_netdevice`, as far as the ledger sees it. -/
def registerNetdevice (o : NetdevOutcome) : List (LedgerEntry VifRes) :=
  if o.registerRet = 0 then [.acquire .registration]
  else if o.destructed then [.release .netdev]
  else []

/-- `nrf_wifi_netdev_add_vif`. -/
def netdevAddVif (o : NetdevOutcome) : Option VifHandle × List (LedgerEntry VifRes) :=
  if !o.allocEtherdev then (none, [])
  else
    let (ret, vif, t) : ℤ × VifHandle × List (LedgerEntry VifRes) :=
      -- without a queue `ret` keeps its initial value
      if !o.qAlloc then (0, ⟨false, false, none, 0⟩, [.acquire .netdev])
      else (o.registerRet, ⟨o.registerRet = 0, true, none, 0⟩,
        [.acquire .netdev, .acquire .dataTxq] ++ registerNetdevice o)
    if ret ≠ 0 then (none, t ++ [.release .netdev]) else (some vif, t)

/-- `nrf_wifi_wlan_fmac_add_vif`. -/
def wlanFmacAddVif (o : WlanOutcome) (ifType : IfType) :
    Option VifHandle × List (LedgerEntry VifRes) :=
  if !o.allocWdev then (none, [])
  else
    match netdevAddVif o.toNetdevOutcome with
    | (none, t) => (none, [.acquire .wdev] ++ t ++ [.release .wdev])
    | (some vif, t) => (some { vif with wdev := some ifType }, [.acquire .wdev] ++ t)

/-- `nrf_wifi_netdev_del_vif`. -/
def netdevDelVif (vif : VifHandle) : List (LedgerEntry VifRes) :=
  (if vif.dataTxq then [.release .dataTxq] else []) ++
    if vif.registered then [.release .registration, .release .netdev] else []

/-- `nrf_wifi_wlan_fmac_del_vif`. -/
def wlanFmacDelVif (vif : VifHandle) : List (LedgerEntry VifRes) :=
  netdevDelVif vif ++ if vif.wdev.isSome then [.release .wdev] else []

/-- Errors as they are returned. -/
def eopnotsupp : ℤ := 95

@[inherit_doc eopnotsupp] def enodev : ℤ := 19

@[inherit_doc eopnotsupp] def eio : ℤ := 5

@[inherit_doc eopnotsupp] def enomem : ℤ := 12

@[inherit_doc eopnotsupp] def einvalid : ℤ := 22

/-- The part of `nrf_wifi_cfg80211_add_vif` after the interface has been created. -/
def announceVif (lim : VifLimits) (name : List UInt8) (o : AddVifOutcome) (vif : VifHandle) :
    Except ℤ VifHandle × List (LedgerEntry VifRes) :=
  let info : List (LedgerEntry VifRes) := [.acquire .addVifInfo]
  let kfree : List (LedgerEntry VifRes) := [.release .addVifInfo]
  if !o.allocInfo then (.error (-enomem), wlanFmacDelVif vif)
  -- `strscpy` has no room for the name
  else if lim.ifacenameSize ≤ name.length then
    (.error (-einvalid), info ++ wlanFmacDelVif vif ++ kfree)
  else
    let vif := { vif with ifIdx := o.fmacAddVif }
    if lim.maxNumVifs ≤ vif.ifIdx.toNat then
      (.error (-eio), info ++ wlanFmacDelVif vif ++ kfree)
    else (.ok vif, info ++ kfree)

/-- `nrf_wifi_cfg80211_add_vif`. -/
def nrfWifiCfg80211AddVif (lim : VifLimits) (req : AddVifRequest) (o : AddVifOutcome) :
    Except ℤ VifHandle × List (LedgerEntry VifRes) :=
  match req.name with
  | none => (.error (-einvalid), [])
  | some name =>
    if !req.wiphy || name.isEmpty then (.error (-einvalid), [])
    else if req.type = .monitor then (.error (-eopnotsupp), [])
    else if ifnamsiz ≤ name.length then (.error (-einvalid), [])
    else if !req.driverCtx then (.error (-enodev), [])
    else if !o.macAddr then (.error (-eio), [])
    else
      match wlanFmacAddVif o.toWlanOutcome req.type with
      | (none, t) => (.error (-enomem), t)
      | (some vif, t) =>
        let (r, t') := announceVif lim name o vif
        (r, t ++ t')

/-! ### What a creation is to leave behind -/

/-- An interface that can be used. -/
def VifHandle.Usable (lim : VifLimits) (vif : VifHandle) : Prop :=
  vif.registered = true ∧ vif.dataTxq = true ∧ vif.wdev ≠ none ∧ vif.ifIdx.toNat < lim.maxNumVifs

instance (lim : VifLimits) (vif : VifHandle) : Decidable (vif.Usable lim) :=
  inferInstanceAs (Decidable (_ ∧ _))

/-- A usable interface, or an error with everything released. -/
def UsableOrNothing (lim : VifLimits) (r : Except ℤ VifHandle × List (LedgerEntry VifRes)) : Prop :=
  match r.1 with
  | .ok vif => vif.Usable lim
  | .error _ => ∀ res, ReleasedOnce r.2 res

/-- The call gets as far as the allocation of the queue. -/
def ReachesQueue (req : AddVifRequest) (o : AddVifOutcome) : Prop :=
  ∃ name, req.name = some name ∧ req.wiphy = true ∧ name ≠ [] ∧ req.type ≠ .monitor ∧
    name.length < ifnamsiz ∧ req.driverCtx = true ∧ o.macAddr = true ∧ o.allocWdev = true ∧
      o.allocEtherdev = true

/-! ### The three clean-ups -/

section Cleanups

variable {lim : VifLimits} {name : List UInt8}

/-- Without a device there is nothing to clean up. -/
theorem netdevAddVif_of_not_alloc {o : NetdevOutcome} (h : o.allocEtherdev = false) :
    netdevAddVif o = (none, []) := by
  simp [netdevAddVif, h]

/-- A device whose queue cannot be allocated is handed back, unregistered. -/
theorem netdevAddVif_of_not_qAlloc {o : NetdevOutcome} (h : o.allocEtherdev = true)
    (hq : o.qAlloc = false) :
    netdevAddVif o = (some ⟨false, false, none, 0⟩, [.acquire .netdev]) := by
  simp [netdevAddVif, h, hq]

/-- A device that cannot be registered is freed, and its queue is not. -/
theorem netdevAddVif_of_not_register {o : NetdevOutcome} (h : o.allocEtherdev = true)
    (hq : o.qAlloc = true) (hr : o.registerRet ≠ 0) :
    netdevAddVif o = (none, [.acquire .netdev, .acquire .dataTxq] ++ registerNetdevice o ++
      [.release .netdev]) := by
  simp [netdevAddVif, h, hq, hr]

/-- A device with a queue and a registration. -/
theorem netdevAddVif_of_register {o : NetdevOutcome} (h : o.allocEtherdev = true)
    (hq : o.qAlloc = true) (hr : o.registerRet = 0) :
    netdevAddVif o = (some ⟨true, true, none, 0⟩,
      [.acquire .netdev, .acquire .dataTxq, .acquire .registration]) := by
  simp [netdevAddVif, registerNetdevice, h, hq, hr]

/-- Taking down an interface that stands. -/
theorem wlanFmacDelVif_of_registered (ifType : IfType) (ifIdx : UInt8) :
    wlanFmacDelVif ⟨true, true, some ifType, ifIdx⟩ =
      [.release .dataTxq, .release .registration, .release .netdev, .release .wdev] := rfl

/-- Taking down one without a queue frees the `wdev` alone. -/
theorem wlanFmacDelVif_without_queue (ifType : IfType) (ifIdx : UInt8) :
    wlanFmacDelVif ⟨false, false, some ifType, ifIdx⟩ = [.release .wdev] := rfl

/-- Once the interface stands, the rest of the call leaves it usable or takes it down. -/
theorem announceVif_usable (o : AddVifOutcome) (ifType : IfType) :
    UsableOrNothing lim ((announceVif lim name o ⟨true, true, some ifType, 0⟩).1,
      [.acquire .wdev, .acquire .netdev, .acquire .dataTxq, .acquire .registration] ++
        (announceVif lim name o ⟨true, true, some ifType, 0⟩).2) := by
  simp only [announceVif, wlanFmacDelVif_of_registered]
  split_ifs with hi hn hm
  · intro res
    cases res <;> decide
  · intro res
    cases res <;> decide
  · intro res
    cases res <;> decide
  · exact ⟨rfl, rfl, by simp, Nat.lt_of_not_le hm⟩

/-- An interface without a queue is neither usable nor taken down. -/
theorem announceVif_without_queue (o : AddVifOutcome) (ifType : IfType) :
    ¬ UsableOrNothing lim ((announceVif lim name o ⟨false, false, some ifType, 0⟩).1,
      [.acquire .wdev, .acquire .netdev] ++
        (announceVif lim name o ⟨false, false, some ifType, 0⟩).2) := by
  have hleak : ∀ t : List (LedgerEntry VifRes), Unreleased t .netdev →
      ¬ ∀ res, ReleasedOnce t res :=
    fun t ht hall => ht.not_releasedOnce (hall .netdev)
  simp only [announceVif, wlanFmacDelVif_without_queue]
  split_ifs with hi hn hm
  · exact hleak _ (by decide)
  · exact hleak _ (by decide)
  · exact hleak _ (by decide)
  · exact fun husable => absurd husable.1 Bool.false_ne_true

/-- A call that fails before the queue is allocated leaves nothing. -/
theorem addVif_of_not_reaches {req : AddVifRequest} {o : AddVifOutcome}
    (h : ¬ ReachesQueue req o) : UsableOrNothing lim (nrfWifiCfg80211AddVif lim req o) := by
  have hnone : ∀ e : ℤ, UsableOrNothing lim (.error e, []) := fun e => releasedOnce_nil
  rw [nrfWifiCfg80211AddVif]
  cases hname : req.name with
  | none => exact hnone _
  | some name =>
    dsimp only
    split_ifs with hw ht hl hd hm
    · exact hnone _
    · exact hnone _
    · exact hnone _
    · exact hnone _
    · exact hnone _
    · simp only [Bool.or_eq_true, Bool.not_eq_true', not_or, Bool.not_eq_false,
        List.isEmpty_iff] at hw hd hm
      rw [wlanFmacAddVif]
      cases ha : o.allocWdev with
      | false => exact hnone _
      | true =>
        cases he : o.allocEtherdev with
        | false =>
          simp only [Bool.not_true, Bool.false_eq_true, if_false, netdevAddVif_of_not_alloc he]
          intro res
          cases res <;> decide
        | true =>
          exact absurd ⟨name, hname, hw.1, hw.2, ht, Nat.lt_of_not_le hl, hd, hm, ha, he⟩ h

variable (lim) in
/-- A call that gets as far as the queue is the creation followed by the rest. -/
theorem addVif_of_reaches {req : AddVifRequest} {o : AddVifOutcome} (h : ReachesQueue req o) :
    ∃ name, nrfWifiCfg80211AddVif lim req o =
      match netdevAddVif o.toNetdevOutcome with
      | (none, t) => (.error (-enomem), [.acquire .wdev] ++ t ++ [.release .wdev])
      | (some vif, t) =>
        ((announceVif lim name o { vif with wdev := some req.type }).1,
          [.acquire .wdev] ++ t ++
            (announceVif lim name o { vif with wdev := some req.type }).2) := by
  obtain ⟨name, hname, hw, hne, ht, hl, hd, hm, ha, -⟩ := h
  refine ⟨name, ?_⟩
  have hl' : ¬ ifnamsiz ≤ name.length := Nat.not_le_of_lt hl
  rw [nrfWifiCfg80211AddVif, hname]
  simp only [hw, hne, ht, hl', hd, hm, wlanFmacAddVif, ha, Bool.not_true, List.isEmpty_iff,
    Bool.false_eq_true, if_false, Bool.false_or]
  rcases netdevAddVif o.toNetdevOutcome with ⟨_ | vif, t⟩ <;> rfl

end Cleanups

/-- **A usable interface or nothing, exactly when the queue is allocated and the device registered
once the call has got that far.** For every request and every combination of outcomes. -/
theorem addVif_usable_or_nothing_iff (lim : VifLimits) (req : AddVifRequest) (o : AddVifOutcome) :
    UsableOrNothing lim (nrfWifiCfg80211AddVif lim req o) ↔
      (ReachesQueue req o → o.qAlloc = true ∧ o.registerRet = 0) := by
  by_cases hreach : ReachesQueue req o
  swap
  · exact iff_of_true (addVif_of_not_reaches hreach) fun h => absurd h hreach
  obtain ⟨name, hcall⟩ := addVif_of_reaches lim hreach
  have halloc : o.allocEtherdev = true := by
    obtain ⟨-, -, -, -, -, -, -, -, -, halloc⟩ := hreach
    exact halloc
  rw [hcall]
  cases hq : o.qAlloc with
  | false =>
    rw [netdevAddVif_of_not_qAlloc halloc hq]
    exact iff_of_false (announceVif_without_queue o req.type) fun h => by simpa using h hreach
  | true =>
    by_cases hr : o.registerRet = 0
    · rw [netdevAddVif_of_register halloc hq hr]
      exact iff_of_true (announceVif_usable o req.type) fun _ => ⟨rfl, hr⟩
    · rw [netdevAddVif_of_not_register halloc hq hr]
      refine iff_of_false (fun hall => ?_) fun h => hr (h hreach).2
      -- whatever the failed registration did to the device, the queue is still there
      have hleft : Unreleased ([.acquire .wdev] ++ ([.acquire .netdev, .acquire .dataTxq] ++
          registerNetdevice o.toNetdevOutcome ++ [.release .netdev]) ++ [.release .wdev])
          VifRes.dataTxq := by
        rw [registerNetdevice, if_neg hr]
        split <;> decide
      exact hleft.not_releasedOnce (hall .dataTxq)

/-- A second STATION, with everything going well. -/
def secondStation : AddVifRequest := ⟨true, some [119, 108, 97, 110, 49], .station, true⟩

@[inherit_doc secondStation] def secondStationOutcome : AddVifOutcome where
  allocEtherdev := true
  qAlloc := true
  registerRet := 0
  destructed := false
  allocWdev := true
  macAddr := true
  allocInfo := true
  fmacAddVif := 1

/-- **An interface without a queue is returned, and a queue without an interface is left.** The
first when the queue cannot be allocated, the second when the device cannot be registered. -/
theorem addVif_unusable_or_leaking :
    (∃ vif, (nrfWifiCfg80211AddVif ⟨2, 16⟩ secondStation
        { secondStationOutcome with qAlloc := false }).1 = .ok vif ∧
      vif.registered = false ∧ vif.dataTxq = false) ∧
    ∃ e, (nrfWifiCfg80211AddVif ⟨2, 16⟩ secondStation
        { secondStationOutcome with registerRet := -17 }).1 = .error e ∧
      Unreleased (nrfWifiCfg80211AddVif ⟨2, 16⟩ secondStation
        { secondStationOutcome with registerRet := -17 }).2 .dataTxq := by
  constructor
  · exact ⟨_, rfl, rfl, rfl⟩
  · exact ⟨_, rfl, by decide⟩

end Nrf70
