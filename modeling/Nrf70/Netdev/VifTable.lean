import Nrf70.Lib.Machine
import Nrf70.Netdev.DevInit

/-!
# The interfaces of a device, from bring-up to removal

Beside the default interface a device has those `nrf_wifi_cfg80211_add_vif` has created and
`nrf_wifi_cfg80211_del_vif` has not yet deleted. FMAC's table `vif_ctx` is the only place that
knows them: `nrf_wifi_fmac_dev_deinit_lnx` goes through it when the device is removed, and takes
down what it finds.

It takes the RTNL lock for one interface at a time and looks into the table without it. Between
the two, cfg80211 can still add and delete interfaces: one that is deleted after it has been picked
is taken down twice, and one that is added behind the loop is not taken down.

## What is outside the repository

FMAC gives a new interface a free slot, or an index beyond the table. cfg80211 deletes interfaces
that are registered.

## Main results

* `interfaces_released_iff` — when a device has been taken down everything its interfaces acquired
  has been released once exactly when no creation went wrong, no picked interface was deleted and
  no interface was added behind the loop and left there
* `slot_dangles_iff` — the two moments at which FMAC's table points to an interface that is gone
-/

namespace Nrf70

/-! ### The table and the functions on it -/

/-- `nrf_wifi_cfg80211_del_vif`, with the result of FMAC's command: whether it succeeds, and the
ledger. -/
def nrfWifiCfg80211DelVif (vif : VifHandle) (fmac : NrfWifiStatus) :
    Bool × List (LedgerEntry VifRes) :=
  -- the default interface is not deleted
  if vif.ifIdx = 0 then (false, [])
  else if fmac ≠ .success then (false, [])
  else (true, netdevDelVif vif ++ [.release .wdev])

/-- An interface that FMAC's table points to; `id` counts the creations. -/
structure VifSlot where
  id : ℕ
  vif : VifHandle
  deriving DecidableEq, Repr

/-- Where `nrf_wifi_fmac_dev_deinit_lnx` has got to: at the head of its loop, waiting for the lock
with the interface it has found, or with that interface taken down and its slot not yet empty. -/
inductive DeinitPc
  | idle
  | test (i : ℕ)
  | picked (i : ℕ) (e : VifSlot)
  | unslot (i : ℕ)
  | done
  deriving DecidableEq, Repr

/-- FMAC's table, `def_vif_ctx`, how many interfaces have been created, and the removal. -/
structure VifTable where
  slots : ℕ → Option VifSlot
  defVif : VifSlot
  created : ℕ
  deinit : DeinitPc

inductive VifAct
  | addVif (req : AddVifRequest) (o : AddVifOutcome)
  | delVif (i : ℕ) (fmac : NrfWifiStatus)
  | deinit
  deriving DecidableEq, Repr

/-- What is done to an interface, in the ledger of all of them. -/
def VifSlot.log (e : VifSlot) (t : List (LedgerEntry VifRes)) : List (ℕ × LedgerEntry VifRes) :=
  t.map (Prod.mk e.id)

/-- The interface in a slot, when it is registered. -/
def VifTable.listed (s : VifTable) (i : ℕ) : Option VifSlot :=
  if s.deinit = .unslot i then none else (s.slots i).filter fun e => e.vif.registered

/-- The next step of `nrf_wifi_fmac_dev_deinit_lnx`. -/
def nrfWifiFmacDevDeinitLnx (lim : VifLimits) (s : VifTable) :
    Option (VifTable × List (ℕ × LedgerEntry VifRes)) :=
  match s.deinit with
  | .idle => some ({ s with deinit := .test 1 }, [])
  | .test i =>
    if i < lim.maxNumVifs then
      match s.slots i with
      | none => some ({ s with deinit := .test (i + 1) }, [])
      | some e => some ({ s with deinit := .picked i e }, [])
    else some ({ s with deinit := .done }, s.defVif.log (wlanFmacDelVif s.defVif.vif))
  | .picked i e => some ({ s with deinit := .unslot i }, e.log (wlanFmacDelVif e.vif))
  | .unslot i =>
    some ({ s with slots := Function.update s.slots i none, deinit := .test (i + 1) }, [])
  | .done => none

def vifStep (lim : VifLimits) (s : VifTable) :
    VifAct → Option (VifTable × List (ℕ × LedgerEntry VifRes))
  | .addVif req o =>
    if lim.maxNumVifs ≤ o.fmacAddVif.toNat ∨ s.slots o.fmacAddVif.toNat = none then
      match nrfWifiCfg80211AddVif lim req o with
      | (.error _, t) => some ({ s with created := s.created + 1 }, t.map (Prod.mk s.created))
      | (.ok vif, t) =>
        some ({ s with
          slots := Function.update s.slots vif.ifIdx.toNat (some ⟨s.created, vif⟩)
          created := s.created + 1 }, t.map (Prod.mk s.created))
    else none
  | .delVif i fmac =>
    match s.listed i with
    | none => none
    | some e =>
      match nrfWifiCfg80211DelVif e.vif fmac with
      | (false, t) => some (s, e.log t)
      | (true, t) =>
        some ({ s with slots := Function.update s.slots e.vif.ifIdx.toNat none }, e.log t)
  | .deinit => nrfWifiFmacDevDeinitLnx lim s

def vifMachine (lim : VifLimits) : Machine VifTable VifAct (ℕ × LedgerEntry VifRes) :=
  ⟨vifStep lim⟩

/-- A device whose default interface has come up. -/
def VifTable.init (vif : VifHandle) : VifTable where
  slots := fun i => if i = 0 then some ⟨0, vif⟩ else none
  defVif := ⟨0, vif⟩
  created := 1
  deinit := .idle

/-! ### What a step can do -/

/-- The steps, one by one. -/
inductive VifStep (lim : VifLimits) (s : VifTable) :
    VifAct → VifTable → List (ℕ × LedgerEntry VifRes) → Prop
  | addFails {req o e t} (h : nrfWifiCfg80211AddVif lim req o = (.error e, t)) :
    VifStep lim s (.addVif req o) { s with created := s.created + 1 } (t.map (Prod.mk s.created))
  | adds {req o vif t} (h : nrfWifiCfg80211AddVif lim req o = (.ok vif, t))
    (hfree : lim.maxNumVifs ≤ o.fmacAddVif.toNat ∨ s.slots o.fmacAddVif.toNat = none) :
    VifStep lim s (.addVif req o)
      { s with
        slots := Function.update s.slots vif.ifIdx.toNat (some ⟨s.created, vif⟩)
        created := s.created + 1 } (t.map (Prod.mk s.created))
  | delFails {i fmac e} (h : s.listed i = some e)
    (hdel : nrfWifiCfg80211DelVif e.vif fmac = (false, [])) : VifStep lim s (.delVif i fmac) s []
  | dels {i e} (h : s.listed i = some e) (hidx : e.vif.ifIdx ≠ 0) :
    VifStep lim s (.delVif i .success)
      { s with slots := Function.update s.slots e.vif.ifIdx.toNat none }
      (e.log (netdevDelVif e.vif ++ [.release .wdev]))
  | starts (h : s.deinit = .idle) : VifStep lim s .deinit { s with deinit := .test 1 } []
  | skips {i} (h : s.deinit = .test i) (hslot : s.slots i = none) :
    VifStep lim s .deinit { s with deinit := .test (i + 1) } []
  | picks {i e} (h : s.deinit = .test i) (hslot : s.slots i = some e) :
    VifStep lim s .deinit { s with deinit := .picked i e } []
  | takesDown {i e} (h : s.deinit = .picked i e) :
    VifStep lim s .deinit { s with deinit := .unslot i } (e.log (wlanFmacDelVif e.vif))
  | empties {i} (h : s.deinit = .unslot i) :
    VifStep lim s .deinit
      { s with slots := Function.update s.slots i none, deinit := .test (i + 1) } []
  | ends {i} (h : s.deinit = .test i) (hi : lim.maxNumVifs ≤ i) :
    VifStep lim s .deinit { s with deinit := .done }
      (s.defVif.log (wlanFmacDelVif s.defVif.vif))

theorem vifStep_sound {lim : VifLimits} {s s' : VifTable} {a : VifAct}
    {u : List (ℕ × LedgerEntry VifRes)} (h : vifStep lim s a = some (s', u)) :
    VifStep lim s a s' u := by
  cases a with
  | addVif req o =>
    rw [vifStep, Option.ite_none_right_eq_some] at h
    obtain ⟨hfree, h⟩ := h
    split at h
    next hadd =>
      obtain ⟨rfl, rfl⟩ := Prod.mk.inj (Option.some.inj h)
      exact .addFails hadd
    next hadd =>
      obtain ⟨rfl, rfl⟩ := Prod.mk.inj (Option.some.inj h)
      exact .adds hadd hfree
  | delVif i fmac =>
    simp only [vifStep] at h
    split at h
    next => exact absurd h (by simp)
    next e hlisted =>
      by_cases hidx : e.vif.ifIdx = 0
      · have hdel : nrfWifiCfg80211DelVif e.vif fmac = (false, []) := by
          rw [nrfWifiCfg80211DelVif, if_pos hidx]
        rw [hdel] at h
        obtain ⟨rfl, rfl⟩ := Prod.mk.inj (Option.some.inj h)
        exact .delFails hlisted hdel
      · cases fmac with
        | fail =>
          have hdel : nrfWifiCfg80211DelVif e.vif .fail = (false, []) := by
            rw [nrfWifiCfg80211DelVif, if_neg hidx, if_pos (by decide)]
          rw [hdel] at h
          obtain ⟨rfl, rfl⟩ := Prod.mk.inj (Option.some.inj h)
          exact .delFails hlisted hdel
        | success =>
          have hdel : nrfWifiCfg80211DelVif e.vif .success =
              (true, netdevDelVif e.vif ++ [.release .wdev]) := by
            rw [nrfWifiCfg80211DelVif, if_neg hidx, if_neg (by decide)]
          rw [hdel] at h
          obtain ⟨rfl, rfl⟩ := Prod.mk.inj (Option.some.inj h)
          exact .dels hlisted hidx
  | deinit =>
    simp only [vifStep, nrfWifiFmacDevDeinitLnx] at h
    split at h
    next hpc =>
      obtain ⟨rfl, rfl⟩ := Prod.mk.inj (Option.some.inj h)
      exact .starts hpc
    next i hpc =>
      split_ifs at h with hi
      · split at h
        next hslot =>
          obtain ⟨rfl, rfl⟩ := Prod.mk.inj (Option.some.inj h)
          exact .skips hpc hslot
        next e hslot =>
          obtain ⟨rfl, rfl⟩ := Prod.mk.inj (Option.some.inj h)
          exact .picks hpc hslot
      · obtain ⟨rfl, rfl⟩ := Prod.mk.inj (Option.some.inj h)
        exact .ends hpc (Nat.le_of_not_lt hi)
    next i e hpc =>
      obtain ⟨rfl, rfl⟩ := Prod.mk.inj (Option.some.inj h)
      exact .takesDown hpc
    next i hpc =>
      obtain ⟨rfl, rfl⟩ := Prod.mk.inj (Option.some.inj h)
      exact .empties hpc
    next => exact absurd h (by simp)

/-! ### One interface and its ledger -/

/-- Everything that was acquired has been released once. -/
def Settled (l : List (LedgerEntry VifRes)) : Prop := ∀ r, ReleasedOnce l r

/-- The interface is held, with everything that belongs to it. -/
def Standing (l : List (LedgerEntry VifRes)) : Prop :=
  ReleasedOnce l .addVifInfo ∧ ∀ r, r ≠ .addVifInfo → Unreleased l r

theorem Standing.not_settled {l : List (LedgerEntry VifRes)} (h : Standing l) : ¬ Settled l :=
  fun hs => (h.2 .netdev (by decide)).not_releasedOnce (hs .netdev)

/-- What taking down an interface can release. -/
def VifHandle.Releases (vif : VifHandle) (r : VifRes) : Prop :=
  r = .wdev ∨ r = .dataTxq ∧ vif.dataTxq = true ∨
    (r = .registration ∨ r = .netdev) ∧ vif.registered = true

theorem mem_netdevDelVif {vif : VifHandle} {x : LedgerEntry VifRes} (h : x ∈ netdevDelVif vif) :
    ∃ r, x = .release r ∧ vif.Releases r := by
  rw [netdevDelVif, List.mem_append] at h
  rcases h with h | h
  · split at h
    next hq => exact ⟨_, by simpa using h, .inr (.inl ⟨rfl, hq⟩)⟩
    next => exact absurd h List.not_mem_nil
  · split at h
    next hr =>
      rcases List.mem_cons.mp h with rfl | h
      · exact ⟨_, rfl, .inr (.inr ⟨.inl rfl, hr⟩)⟩
      · exact ⟨_, by simpa using h, .inr (.inr ⟨.inr rfl, hr⟩)⟩
    next => exact absurd h List.not_mem_nil

/-- Taking an interface down acquires nothing, and releases what it can. -/
theorem mem_wlanFmacDelVif {vif : VifHandle} {x : LedgerEntry VifRes}
    (h : x ∈ wlanFmacDelVif vif) : ∃ r, x = .release r ∧ vif.Releases r := by
  rw [wlanFmacDelVif, List.mem_append] at h
  rcases h with h | h
  · exact mem_netdevDelVif h
  · split at h
    next => exact ⟨_, by simpa using h, .inl rfl⟩
    next => exact absurd h List.not_mem_nil

/-- So does deleting it. -/
theorem mem_delVif {vif : VifHandle} {x : LedgerEntry VifRes}
    (h : x ∈ netdevDelVif vif ++ [.release .wdev]) : ∃ r, x = .release r ∧ vif.Releases r := by
  rcases List.mem_append.mp h with h | h
  · exact mem_netdevDelVif h
  · exact ⟨_, by simpa using h, .inl rfl⟩

/-- Taking down what stands settles it. -/
theorem Standing.takeDown {l : List (LedgerEntry VifRes)} (h : Standing l) (ifType : IfType)
    (ifIdx : UInt8) : Settled (l ++ wlanFmacDelVif ⟨true, true, some ifType, ifIdx⟩) := by
  rw [wlanFmacDelVif_of_registered]
  intro r
  by_cases hinfo : r = .addVifInfo
  · rw [hinfo, ReleasedOnce, List.count_append, List.count_append]
    exact h.1
  · obtain ⟨hacq, hrel⟩ := h.2 r hinfo
    have hcounts : ([.release .dataTxq, .release .registration, .release .netdev, .release .wdev] :
        List (LedgerEntry VifRes)).count (.acquire r) = 0 ∧
        ([.release .dataTxq, .release .registration, .release .netdev, .release .wdev] :
        List (LedgerEntry VifRes)).count (.release r) = 1 := by
      cases r <;> first | exact absurd rfl hinfo | decide
    rw [ReleasedOnce, List.count_append, List.count_append, hacq, hrel, hcounts.1, hcounts.2]
    exact ⟨Nat.le_refl _, rfl⟩

/-! ### Creations -/

/-- What a creation that succeeds acquires and releases. -/
theorem standing_created : Standing ([.acquire .wdev] ++
    [.acquire .netdev, .acquire .dataTxq, .acquire .registration] ++
      ([.acquire .addVifInfo] ++ [.release .addVifInfo])) := by
  refine ⟨by decide, fun r hinfo => ?_⟩
  cases r <;> first | exact absurd rfl hinfo | decide

/-- No creation that gets as far as the queue goes wrong there or at the registration. -/
def CreatesCleanly (req : AddVifRequest) (o : AddVifOutcome) : Prop :=
  ReachesQueue req o → o.qAlloc = true ∧ o.registerRet = 0

section Creations

variable (lim : VifLimits) {req : AddVifRequest} {o : AddVifOutcome}

/-- A creation that does not get as far as the queue fails and leaves nothing. -/
theorem addVif_settled_of_not_reaches (h : ¬ ReachesQueue req o) :
    ∃ e, (nrfWifiCfg80211AddVif lim req o).1 = .error e ∧
      Settled (nrfWifiCfg80211AddVif lim req o).2 := by
  have hsettled := @addVif_of_not_reaches lim req o h
  suffices herr : ∃ e, (nrfWifiCfg80211AddVif lim req o).1 = .error e by
    obtain ⟨e, he⟩ := herr
    rw [UsableOrNothing, he] at hsettled
    exact ⟨e, he, hsettled⟩
  rw [nrfWifiCfg80211AddVif]
  cases hname : req.name with
  | none => exact ⟨_, rfl⟩
  | some name =>
    dsimp only
    split_ifs with hw ht hl hd hm
    · exact ⟨_, rfl⟩
    · exact ⟨_, rfl⟩
    · exact ⟨_, rfl⟩
    · exact ⟨_, rfl⟩
    · exact ⟨_, rfl⟩
    · simp only [Bool.or_eq_true, Bool.not_eq_true', not_or, Bool.not_eq_false,
        List.isEmpty_iff] at hw hd hm
      rw [wlanFmacAddVif]
      cases ha : o.allocWdev with
      | false => exact ⟨_, rfl⟩
      | true =>
        cases he : o.allocEtherdev with
        | false =>
          rw [netdevAddVif_of_not_alloc he]
          exact ⟨_, rfl⟩
        | true =>
          exact absurd ⟨name, hname, hw.1, hw.2, ht, Nat.lt_of_not_le hl, hd, hm, ha, he⟩ h

/-- A clean creation fails and leaves nothing, or gives an interface that stands. -/
theorem addVif_clean (h : CreatesCleanly req o) :
    (∃ e, (nrfWifiCfg80211AddVif lim req o).1 = .error e ∧
      Settled (nrfWifiCfg80211AddVif lim req o).2) ∨
    (nrfWifiCfg80211AddVif lim req o).1 = .ok ⟨true, true, some req.type, o.fmacAddVif⟩ ∧
      o.fmacAddVif.toNat < lim.maxNumVifs ∧ Standing (nrfWifiCfg80211AddVif lim req o).2 := by
  by_cases hreach : ReachesQueue req o
  swap
  · exact .inl (addVif_settled_of_not_reaches lim hreach)
  obtain ⟨hq, hr⟩ := h hreach
  have halloc : o.allocEtherdev = true := by
    obtain ⟨-, -, -, -, -, -, -, -, -, halloc⟩ := hreach
    exact halloc
  obtain ⟨name, hcall⟩ := addVif_of_reaches lim hreach
  rw [hcall, netdevAddVif_of_register halloc hq hr]
  simp only [announceVif, wlanFmacDelVif_of_registered]
  split_ifs with hi hn hm
  · refine .inl ⟨_, rfl, fun r => ?_⟩
    cases r <;> decide
  · refine .inl ⟨_, rfl, fun r => ?_⟩
    cases r <;> decide
  · refine .inl ⟨_, rfl, fun r => ?_⟩
    cases r <;> decide
  · exact .inr ⟨rfl, Nat.lt_of_not_le hm, standing_created⟩

/-- One that is not leaves something behind that nobody will release. -/
theorem addVif_unclean (h : ¬ CreatesCleanly req o) :
    ∃ r, Unreleased (nrfWifiCfg80211AddVif lim req o).2 r ∧
      ∀ vif, (nrfWifiCfg80211AddVif lim req o).1 = .ok vif → ¬ vif.Releases r := by
  rw [CreatesCleanly, Classical.not_imp] at h
  obtain ⟨hreach, hwrong⟩ := h
  have halloc : o.allocEtherdev = true := by
    obtain ⟨-, -, -, -, -, -, -, -, -, halloc⟩ := hreach
    exact halloc
  obtain ⟨name, hcall⟩ := addVif_of_reaches lim hreach
  rw [hcall]
  cases hq : o.qAlloc with
  | false =>
    -- the device goes out unregistered, and will not be freed
    rw [netdevAddVif_of_not_qAlloc halloc hq]
    refine ⟨.netdev, ?_, ?_⟩
    · simp only [announceVif, wlanFmacDelVif_without_queue]
      split_ifs
      · decide
      · decide
      · decide
      · dsimp only
        decide
    · simp only [announceVif]
      split_ifs with hi hn hm
      · intro vif hvif
        exact absurd hvif (by simp)
      · intro vif hvif
        exact absurd hvif (by simp)
      · intro vif hvif
        exact absurd hvif (by simp)
      · intro vif hvif
        rw [← Except.ok.inj hvif]
        simp [VifHandle.Releases]
  | true =>
    -- the queue is left behind
    have hr : o.registerRet ≠ 0 := fun hr => hwrong ⟨hq, hr⟩
    rw [netdevAddVif_of_not_register halloc hq hr]
    refine ⟨.dataTxq, ?_, fun vif hvif => absurd hvif (by simp)⟩
    dsimp only
    rw [registerNetdevice, if_neg hr]
    cases o.destructed <;> decide

end Creations

/-! ### What holds as long as nothing goes wrong -/

/-- The interface in slot `i` has been taken down: the loop is about to empty the slot, or it is
the default interface, whose slot FMAC keeps. -/
def VifTable.Gone (s : VifTable) (i : ℕ) : Prop :=
  s.deinit = .unslot i ∨ i = 0 ∧ s.deinit = .done

instance (s : VifTable) (i : ℕ) : Decidable (s.Gone i) := inferInstanceAs (Decidable (_ ∨ _))

/-- What holds between the ledger so far and the table. -/
structure VifInv (t : List (ℕ × LedgerEntry VifRes)) (s : VifTable) : Prop where
  fresh : ∀ id, s.created ≤ id → ownLedger t id = []
  slot : ∀ i e, s.slots i = some e → e.id < s.created ∧ e.vif.ifIdx.toNat = i ∧
    ∃ ifType, e.vif = ⟨true, true, some ifType, e.vif.ifIdx⟩
  inj : ∀ i j e e', s.slots i = some e → s.slots j = some e' → e.id = e'.id → i = j
  standing : ∀ i e, s.slots i = some e → ¬ s.Gone i → Standing (ownLedger t e.id)
  gone : ∀ i e, s.slots i = some e → s.Gone i →
    Settled (ownLedger t e.id) ∧ .release .netdev ∈ ownLedger t e.id
  /-- What is in no slot is no more. -/
  settled : ∀ id, (∀ i e, s.slots i = some e → e.id ≠ id) → Settled (ownLedger t id)
  defVif : s.slots 0 = some s.defVif
  /-- The loop stands behind the default interface. -/
  loop : ∀ i, s.deinit = .test i ∨ s.deinit = .unslot i → i ≠ 0
  picked : ∀ i e, s.deinit = .picked i e → i ≠ 0 ∧ s.slots i = some e
  unslot : ∀ i, s.deinit = .unslot i → ∃ e, s.slots i = some e

/-- A clean step: no creation goes wrong, and no interface is deleted that the loop has picked. -/
def VifTable.Clean (s : VifTable) : VifAct → Prop
  | .addVif req o => CreatesCleanly req o
  | .delVif i fmac => fmac = .success → ∀ e, s.deinit ≠ .picked i e
  | .deinit => True

theorem listed_eq_some {s : VifTable} {i : ℕ} {e : VifSlot} (h : s.listed i = some e) :
    s.deinit ≠ .unslot i ∧ s.slots i = some e := by
  rw [VifTable.listed, Option.ite_none_left_eq_some, Option.filter_eq_some_iff] at h
  exact ⟨h.1, h.2.1⟩

section Steps

variable {lim : VifLimits} {t : List (ℕ × LedgerEntry VifRes)} {s : VifTable}

/-- Moving on with nothing taken down. -/
theorem VifInv.setDeinit {pc : DeinitPc} (h : VifInv t s)
    (hgone : ∀ i, VifTable.Gone { s with deinit := pc } i ↔ s.Gone i)
    (hloop : ∀ i, pc = .test i ∨ pc = .unslot i → i ≠ 0)
    (hpicked : ∀ i e, pc = .picked i e → i ≠ 0 ∧ s.slots i = some e)
    (hunslot : ∀ i, pc = .unslot i → ∃ e, s.slots i = some e) :
    VifInv t { s with deinit := pc } where
  fresh := h.fresh
  slot := h.slot
  inj := h.inj
  standing := fun i e he hg => h.standing i e he fun hg' => hg ((hgone i).mpr hg')
  gone := fun i e he hg => h.gone i e he ((hgone i).mp hg)
  settled := h.settled
  defVif := h.defVif
  loop := hloop
  picked := hpicked
  unslot := hunslot

/-- The interface in slot `i` is taken down, and nothing else. -/
theorem VifInv.takeDown {pc : DeinitPc} {i : ℕ} {e : VifSlot} (h : VifInv t s)
    (hslot : s.slots i = some e) (hup : ¬ s.Gone i)
    (hgone : ∀ j, VifTable.Gone { s with deinit := pc } j ↔ j = i)
    (hnone : ∀ j, ¬ s.Gone j)
    (hloop : ∀ j, pc = .test j ∨ pc = .unslot j → j ≠ 0)
    (hpicked : ∀ j e, pc ≠ .picked j e) (hunslot : ∀ j, pc = .unslot j → j = i) :
    VifInv (t ++ e.log (wlanFmacDelVif e.vif)) { s with deinit := pc } := by
  obtain ⟨hid, -, ifType, hvif⟩ := h.slot i e hslot
  have hdown : Settled (ownLedger (t ++ e.log (wlanFmacDelVif e.vif)) e.id) ∧
      .release .netdev ∈ ownLedger (t ++ e.log (wlanFmacDelVif e.vif)) e.id := by
    rw [VifSlot.log, ownLedger_own, hvif]
    refine ⟨(h.standing i e hslot hup).takeDown ifType _, List.mem_append_right _ ?_⟩
    rw [wlanFmacDelVif_of_registered]
    decide
  have hother : ∀ id, id ≠ e.id →
      ownLedger (t ++ e.log (wlanFmacDelVif e.vif)) id = ownLedger t id :=
    fun id hne => ownLedger_other t _ hne
  refine ⟨fun id hle => ?_, h.slot, h.inj, fun j e' he' hg => ?_, fun j e' he' hg => ?_,
    fun id hno => ?_, h.defVif, hloop, fun j e' hpc => absurd hpc (hpicked j e'),
    fun j hpc => ⟨e, by rw [hunslot j hpc]; exact hslot⟩⟩
  · have hle' : s.created ≤ id := hle
    rw [hother id (by omega)]
    exact h.fresh id hle
  · have hji : j ≠ i := fun heq => hg ((hgone j).mpr heq)
    rw [hother e'.id fun heq => hji (h.inj j i e' e he' hslot heq)]
    exact h.standing j e' he' (hnone j)
  · have hji : j = i := (hgone j).mp hg
    have he'' : s.slots j = some e' := he'
    rw [hji, hslot] at he''
    rw [← Option.some.inj he'']
    exact hdown
  · rw [hother id fun heq => hno i e hslot heq.symm]
    exact h.settled id hno

/-- A creation is the next in the ledger. -/
theorem VifInv.fresh_other (h : VifInv t s) {u : List (LedgerEntry VifRes)} {id : ℕ}
    (hid : s.created + 1 ≤ id) : ownLedger (t ++ u.map (Prod.mk s.created)) id = [] := by
  rw [ownLedger_other t u (by omega)]
  exact h.fresh id (by omega)

/-- A creation that fails leaves the table as it was. -/
theorem VifInv.addFails {u : List (LedgerEntry VifRes)} (h : VifInv t s) (hu : Settled u) :
    VifInv (t ++ u.map (Prod.mk s.created)) { s with created := s.created + 1 } := by
  have hold : ∀ i e, s.slots i = some e →
      ownLedger (t ++ u.map (Prod.mk s.created)) e.id = ownLedger t e.id := by
    intro i e he
    have hid := (h.slot i e he).1
    exact ownLedger_other t u (by omega)
  refine ⟨fun id hle => h.fresh_other hle, fun i e he => ?_, h.inj, fun i e he hg => ?_,
    fun i e he hg => ?_, fun id hno => ?_, h.defVif, h.loop, h.picked, h.unslot⟩
  · obtain ⟨hid, hrest⟩ := h.slot i e he
    exact ⟨Nat.lt_succ_of_lt hid, hrest⟩
  · rw [hold i e he]
    exact h.standing i e he hg
  · rw [hold i e he]
    exact h.gone i e he hg
  · by_cases hid : id = s.created
    · rw [hid, ownLedger_own, h.fresh _ (Nat.le_refl _)]
      exact hu
    · rw [ownLedger_other t u hid]
      exact h.settled id hno

/-- A creation that succeeds fills a slot that was free. -/
theorem VifInv.adds {u : List (LedgerEntry VifRes)} {ifType : IfType} {ifIdx : UInt8}
    (h : VifInv t s) (hfree : s.slots ifIdx.toNat = none) (hu : Standing u) :
    VifInv (t ++ u.map (Prod.mk s.created))
      { s with
        slots := Function.update s.slots ifIdx.toNat
          (some ⟨s.created, ⟨true, true, some ifType, ifIdx⟩⟩)
        created := s.created + 1 } := by
  set new : VifSlot := ⟨s.created, ⟨true, true, some ifType, ifIdx⟩⟩ with hnew
  -- an entry of the table is the new one, or an old one elsewhere
  have hentry : ∀ {i e}, Function.update s.slots ifIdx.toNat (some new) i = some e →
      i = ifIdx.toNat ∧ e = new ∨ i ≠ ifIdx.toNat ∧ s.slots i = some e := by
    intro i e he
    by_cases hi : i = ifIdx.toNat
    · rw [hi, Function.update_self] at he
      exact .inl ⟨hi, (Option.some.inj he).symm⟩
    · rw [Function.update_of_ne hi] at he
      exact .inr ⟨hi, he⟩
  have hkeeps : ∀ {i e}, s.slots i = some e →
      Function.update s.slots ifIdx.toNat (some new) i = some e := by
    intro i e he
    have hi : i ≠ ifIdx.toNat := by
      rintro rfl
      rw [hfree] at he
      exact absurd he (by simp)
    rw [Function.update_of_ne hi, he]
  have hlt : ∀ {i e}, s.slots i = some e → e.id < s.created := fun he => (h.slot _ _ he).1
  have hold : ∀ {i e}, s.slots i = some e →
      ownLedger (t ++ u.map (Prod.mk s.created)) e.id = ownLedger t e.id :=
    fun he => ownLedger_other t u (Nat.ne_of_lt (hlt he))
  have hown : ownLedger (t ++ u.map (Prod.mk s.created)) s.created = u := by
    rw [ownLedger_own, h.fresh _ (Nat.le_refl _), List.nil_append]
  have hup : ¬ s.Gone ifIdx.toNat := by
    rintro (hpc | ⟨hzero, -⟩)
    · obtain ⟨e, he⟩ := h.unslot _ hpc
      rw [hfree] at he
      exact absurd he (by simp)
    · rw [hzero, h.defVif] at hfree
      exact absurd hfree (by simp)
  refine ⟨fun id hle => h.fresh_other hle, fun i e he => ?_, fun i j e e' he he' hid => ?_,
    fun i e he hg => ?_, fun i e he hg => ?_, fun id hno => ?_, hkeeps h.defVif, h.loop,
    fun i e hpc => ?_, fun i hpc => ?_⟩
  · rcases hentry he with ⟨rfl, rfl⟩ | ⟨-, he⟩
    · exact ⟨Nat.lt_succ_self _, rfl, ifType, rfl⟩
    · exact ⟨Nat.lt_succ_of_lt (hlt he), (h.slot i e he).2⟩
  · rcases hentry he with ⟨rfl, rfl⟩ | ⟨-, he⟩ <;> rcases hentry he' with ⟨rfl, rfl⟩ | ⟨-, he'⟩
    · rfl
    · exact absurd hid (Nat.ne_of_gt (hlt he'))
    · exact absurd hid (Nat.ne_of_lt (hlt he))
    · exact h.inj i j e e' he he' hid
  · rcases hentry he with ⟨rfl, rfl⟩ | ⟨-, he⟩
    · rw [hnew]
      dsimp only
      rw [hown]
      exact hu
    · rw [hold he]
      exact h.standing i e he hg
  · rcases hentry he with ⟨rfl, rfl⟩ | ⟨-, he⟩
    · exact absurd hg hup
    · rw [hold he]
      exact h.gone i e he hg
  · have hne : id ≠ s.created := fun heq =>
      hno ifIdx.toNat new (Function.update_self ..) heq.symm
    rw [ownLedger_other t u hne]
    exact h.settled id fun i e he => hno i e (hkeeps he)
  · exact ⟨(h.picked i e hpc).1, hkeeps (h.picked i e hpc).2⟩
  · obtain ⟨e, he⟩ := h.unslot i hpc
    exact ⟨e, hkeeps he⟩

/-- A slot is emptied whose interface is settled by now. -/
theorem VifInv.empty {u : List (LedgerEntry VifRes)} {pc : DeinitPc} {i : ℕ} {e : VifSlot}
    (h : VifInv t s) (hslot : s.slots i = some e) (hi : i ≠ 0)
    (hsettled : Settled (ownLedger t e.id ++ u))
    (hgone : ∀ j, j ≠ i → (VifTable.Gone { s with deinit := pc } j ↔ s.Gone j))
    (hloop : ∀ j, pc = .test j ∨ pc = .unslot j → j ≠ 0)
    (hpicked : ∀ j e, pc = .picked j e → j ≠ i ∧ s.deinit = .picked j e)
    (hunslot : ∀ j, pc = .unslot j → j ≠ i ∧ s.deinit = .unslot j) :
    VifInv (t ++ e.log u)
      { s with slots := Function.update s.slots i none, deinit := pc } := by
  have hentry : ∀ {j e'}, Function.update s.slots i none j = some e' →
      j ≠ i ∧ s.slots j = some e' := by
    intro j e' he'
    by_cases hj : j = i
    · rw [hj, Function.update_self] at he'
      exact absurd he' (by simp)
    · rw [Function.update_of_ne hj] at he'
      exact ⟨hj, he'⟩
  have hkeeps : ∀ {j e'}, j ≠ i → s.slots j = some e' →
      Function.update s.slots i none j = some e' := by
    intro j e' hj he'
    rw [Function.update_of_ne hj, he']
  have hother : ∀ {id}, id ≠ e.id → ownLedger (t ++ e.log u) id = ownLedger t id :=
    fun hne => ownLedger_other t u hne
  have hne : ∀ {j e'}, j ≠ i → s.slots j = some e' → e'.id ≠ e.id :=
    fun hj he' hid => hj (h.inj _ _ _ _ he' hslot hid)
  refine ⟨fun id hle => ?_, fun j e' he' => h.slot j e' (hentry he').2,
    fun j k e₁ e₂ h₁ h₂ => h.inj j k e₁ e₂ (hentry h₁).2 (hentry h₂).2,
    fun j e' he' hg => ?_, fun j e' he' hg => ?_, fun id hno => ?_, hkeeps hi.symm h.defVif, hloop,
    fun j e' hpc => ?_, fun j hpc => ?_⟩
  · have hid := (h.slot i e hslot).1
    have hle' : s.created ≤ id := hle
    rw [hother (by omega)]
    exact h.fresh id hle
  · obtain ⟨hj, he⟩ := hentry he'
    rw [hother (hne hj he)]
    exact h.standing j e' he fun hg' => hg ((hgone j hj).mpr hg')
  · obtain ⟨hj, he⟩ := hentry he'
    rw [hother (hne hj he)]
    exact h.gone j e' he ((hgone j hj).mp hg)
  · by_cases hid : id = e.id
    · rw [hid, VifSlot.log, ownLedger_own]
      exact hsettled
    · rw [hother hid]
      refine h.settled id fun j e' he' => ?_
      by_cases hj : j = i
      · rw [hj, hslot] at he'
        rw [← Option.some.inj he']
        exact fun heq => hid heq.symm
      · exact hno j e' (hkeeps hj he')
  · obtain ⟨hj, hpc'⟩ := hpicked j e' hpc
    exact ⟨(h.picked j e' hpc').1, hkeeps hj (h.picked j e' hpc').2⟩
  · obtain ⟨hj, hpc'⟩ := hunslot j hpc
    obtain ⟨e', he'⟩ := h.unslot j hpc'
    exact ⟨e', hkeeps hj he'⟩

/-- A clean step keeps it all. -/
theorem VifInv.step {s' : VifTable} {a : VifAct} {u : List (ℕ × LedgerEntry VifRes)}
    (h : VifInv t s) (hclean : s.Clean a) (hs : VifStep lim s a s' u) : VifInv (t ++ u) s' := by
  cases hs with
  | addFails hadd =>
    rcases addVif_clean lim hclean with ⟨-, -, hu⟩ | ⟨hok, -⟩
    · rw [hadd] at hu
      exact h.addFails hu
    · rw [hadd] at hok
      exact absurd hok (by simp)
  | @adds req o vif v hadd hfree =>
    rcases addVif_clean lim hclean with ⟨e, herr, -⟩ | ⟨hok, hlt, hu⟩
    · rw [hadd] at herr
      exact absurd herr (by simp)
    · rw [hadd] at hok hu
      rw [Except.ok.inj hok]
      exact h.adds (hfree.resolve_left (Nat.not_le_of_lt hlt)) hu
  | delFails hlisted hdel => rwa [List.append_nil]
  | @dels i e hlisted hidx =>
    obtain ⟨hpc, hslot⟩ := listed_eq_some hlisted
    obtain ⟨-, hi, ifType, hvif⟩ := h.slot i e hslot
    have hzero : i ≠ 0 := by
      rw [← hi]
      exact fun hzero => hidx (UInt8.toNat_inj.mp hzero)
    have hup : ¬ s.Gone i := not_or.mpr ⟨hpc, fun hg => hzero hg.1⟩
    have hdown := (h.standing i e hslot hup).takeDown ifType e.vif.ifIdx
    rw [wlanFmacDelVif_of_registered] at hdown
    have hlist : netdevDelVif e.vif ++ [.release .wdev] =
        [.release .dataTxq, .release .registration, .release .netdev, .release .wdev] := by
      rw [hvif]
      rfl
    rw [hlist, hi]
    exact h.empty hslot hzero hdown (fun j _ => Iff.rfl) h.loop
      (fun j e' hpc' => ⟨fun hj => hclean rfl e' (hj ▸ hpc'), hpc'⟩)
      (fun j hpc' => ⟨fun hj => hpc (hj ▸ hpc'), hpc'⟩)
  | starts hpc =>
    rw [List.append_nil]
    exact h.setDeinit (fun i => by simp [VifTable.Gone, hpc]) (fun i hi => by simp at hi; omega)
      (fun i e hi => by simp at hi) (fun i hi => by simp at hi)
  | @skips i hpc hslot =>
    rw [List.append_nil]
    exact h.setDeinit (fun i => by simp [VifTable.Gone, hpc]) (fun j hj => by simp at hj; omega)
      (fun i e hi => by simp at hi) (fun i hi => by simp at hi)
  | @picks i e hpc hslot =>
    rw [List.append_nil]
    refine h.setDeinit (fun i => by simp [VifTable.Gone, hpc]) (fun j hj => by simp at hj)
      (fun j e' hj => ?_) (fun i hi => by simp at hi)
    obtain ⟨rfl, rfl⟩ := DeinitPc.picked.inj hj
    exact ⟨h.loop _ (.inl hpc), hslot⟩
  | @takesDown i e hpc =>
    obtain ⟨hzero, hslot⟩ := h.picked i e hpc
    have hnone : ∀ j, ¬ s.Gone j := fun j => by simp [VifTable.Gone, hpc]
    exact h.takeDown hslot (hnone i) (fun j => by simp [VifTable.Gone, eq_comm]) hnone
      (fun j hj => by simp at hj; exact hj ▸ hzero) (fun j e' => by simp)
      (fun j hj => by simpa [eq_comm] using hj)
  | @empties i hpc =>
    obtain ⟨e, hslot⟩ := h.unslot i hpc
    have hgone := (h.gone i e hslot (.inl hpc)).1
    refine h.empty hslot (h.loop i (.inr hpc)) (by rwa [List.append_nil]) (fun j hj => ?_)
      (fun j hj => ?_) (fun j e' hj => ?_) (fun j hj => ?_)
    · simp [VifTable.Gone, hpc, hj.symm]
    · simp at hj
      omega
    · simp at hj
    · simp at hj
  | @ends i hpc hi =>
    have hnone : ∀ j, ¬ s.Gone j := fun j => by simp [VifTable.Gone, hpc]
    exact h.takeDown h.defVif (hnone 0) (fun j => by simp [VifTable.Gone]) hnone
      (fun j hj => by simp at hj) (fun j e' => by simp) (fun j hj => by simp at hj)

end Steps

/-! ### What cannot be made good -/

/-- The interfaces somebody still points to. -/
def VifTable.Refers (s : VifTable) (e : VifSlot) : Prop :=
  (∃ i, s.slots i = some e) ∨ (∃ i, s.deinit = .picked i e) ∨ s.defVif = e

/-- Interfaces that are pointed to have been created. -/
structure Created (t : List (ℕ × LedgerEntry VifRes)) (s : VifTable) : Prop where
  fresh : ∀ id, s.created ≤ id → ownLedger t id = []
  refers : ∀ e, s.Refers e → e.id < s.created

/-- An interface will be in the ledger with something released too little or too often: it is, or
the loop is about to take down what has been deleted. -/
def Spoilt (t : List (ℕ × LedgerEntry VifRes)) (s : VifTable) (id : ℕ) : Prop :=
  (∃ r, Unreleased (ownLedger t id) r ∧ ∀ e, s.Refers e → e.id = id → ¬ e.vif.Releases r) ∨
    (∃ r, OverReleased (ownLedger t id) r) ∨
    ∃ i e, s.deinit = .picked i e ∧ e.id = id ∧ e.vif.dataTxq = true ∧
      ReleasedOnce (ownLedger t id) .dataTxq

/-- Some interface is. -/
def Doomed (t : List (ℕ × LedgerEntry VifRes)) (s : VifTable) : Prop :=
  Created t s ∧ ∃ id < s.created, Spoilt t s id

section Doom

variable {lim : VifLimits} {t u : List (ℕ × LedgerEntry VifRes)} {s s' : VifTable} {a : VifAct}

/-- A step is a creation. -/
def IsCreation (lim : VifLimits) (s : VifTable) (a : VifAct) (s' : VifTable)
    (u : List (ℕ × LedgerEntry VifRes)) : Prop :=
  ∃ req o, a = .addVif req o ∧
    u = (nrfWifiCfg80211AddVif lim req o).2.map (Prod.mk s.created) ∧
    s'.created = s.created + 1 ∧ s'.deinit = s.deinit ∧
    ∀ e, s'.Refers e → s.Refers e ∨
      e.id = s.created ∧ (nrfWifiCfg80211AddVif lim req o).1 = .ok e.vif

/-- A step takes something of an interface away that is pointed to, if it does anything; the
interface that is picked stays picked until it is taken down. -/
def IsRemoval (s : VifTable) (a : VifAct) (s' : VifTable) (u : List (ℕ × LedgerEntry VifRes)) :
    Prop :=
  (∀ req o, a ≠ .addVif req o) ∧ ∃ e v, s.Refers e ∧ u = e.log v ∧
    (∀ x ∈ v, ∃ r, x = .release r ∧ e.vif.Releases r) ∧
    s'.created = s.created ∧ (∀ e', s'.Refers e' → s.Refers e') ∧
    ∀ i e', s.deinit = .picked i e' →
      s'.deinit = s.deinit ∨ e = e' ∧ v = wlanFmacDelVif e'.vif

/-- A step that moves the loop on without taking anything down. -/
theorem isRemoval_of_silent (hcreated : s'.created = s.created)
    (hrefers : ∀ e, s'.Refers e → s.Refers e) (hpicked : ∀ i e, s.deinit ≠ .picked i e) :
    IsRemoval s .deinit s' [] :=
  ⟨by simp, s.defVif, [], .inr (.inr rfl), rfl, by simp, hcreated, hrefers,
    fun i e hpc => absurd hpc (hpicked i e)⟩

/-- Emptying a slot brings nothing back. -/
theorem refers_of_update {i : ℕ} {pc : DeinitPc} {e : VifSlot}
    (hpc : ∀ j, pc = .picked j e → s.Refers e)
    (h : VifTable.Refers { s with slots := Function.update s.slots i none, deinit := pc } e) :
    s.Refers e := by
  rcases h with ⟨j, hj⟩ | ⟨j, hj⟩ | hdef
  · have hslot : Function.update s.slots i none j = some e := hj
    by_cases hij : j = i
    · rw [hij, Function.update_self] at hslot
      exact absurd hslot (by simp)
    · rw [Function.update_of_ne hij] at hslot
      exact .inl ⟨j, hslot⟩
  · exact hpc j hj
  · exact .inr (.inr hdef)

/-- Moving the loop on points to nothing new. -/
theorem refers_of_setDeinit {pc : DeinitPc} {e : VifSlot} (hpc : ∀ j, pc = .picked j e → s.Refers e)
    (h : VifTable.Refers { s with deinit := pc } e) : s.Refers e := by
  rcases h with hslot | ⟨j, hj⟩ | hdef
  · exact .inl hslot
  · exact hpc j hj
  · exact .inr (.inr hdef)

/-- **Every step is a creation or a removal.** -/
theorem VifStep.cases (h : VifStep lim s a s' u) :
    IsCreation lim s a s' u ∨ IsRemoval s a s' u := by
  cases h with
  | addFails hadd => exact .inl ⟨_, _, rfl, by rw [hadd], rfl, rfl, fun e he => .inl he⟩
  | @adds req o vif v hadd hfree =>
    refine .inl ⟨_, _, rfl, by rw [hadd], rfl, rfl, fun e he => ?_⟩
    rcases he with ⟨i, hi⟩ | hrest
    · have hslot :
          Function.update s.slots vif.ifIdx.toNat (some ⟨s.created, vif⟩) i = some e := hi
      by_cases hii : i = vif.ifIdx.toNat
      · rw [hii, Function.update_self] at hslot
        rw [← Option.some.inj hslot, hadd]
        exact .inr ⟨rfl, rfl⟩
      · rw [Function.update_of_ne hii] at hslot
        exact .inl (.inl ⟨i, hslot⟩)
    · exact .inl (.inr hrest)
  | delFails hlisted hdel =>
    exact .inr ⟨by simp, s.defVif, [], .inr (.inr rfl), rfl, by simp, rfl, fun _ he => he,
      fun _ _ _ => .inl rfl⟩
  | @dels i e hlisted hidx =>
    exact .inr ⟨by simp, e, _, .inl ⟨i, (listed_eq_some hlisted).2⟩, rfl, fun _ hx => mem_delVif hx,
      rfl, fun e' he' => refers_of_update (fun j hj => .inr (.inl ⟨j, hj⟩)) he',
      fun _ _ _ => .inl rfl⟩
  | starts hpc =>
    exact .inr (isRemoval_of_silent rfl
      (fun e he => refers_of_setDeinit (fun j hj => by simp at hj) he) (by simp [hpc]))
  | skips hpc hslot =>
    exact .inr (isRemoval_of_silent rfl
      (fun e he => refers_of_setDeinit (fun j hj => by simp at hj) he) (by simp [hpc]))
  | @picks i e hpc hslot =>
    refine .inr (isRemoval_of_silent rfl
      (fun e' he' => refers_of_setDeinit (fun j hj => ?_) he') (by simp [hpc]))
    obtain ⟨rfl, rfl⟩ := DeinitPc.picked.inj hj
    exact .inl ⟨_, hslot⟩
  | @takesDown i e hpc =>
    refine .inr ⟨by simp, e, _, .inr (.inl ⟨i, hpc⟩), rfl, fun _ hx => mem_wlanFmacDelVif hx, rfl,
      fun e' he' => refers_of_setDeinit (fun j hj => by simp at hj) he', fun j e' hpc' => ?_⟩
    rw [hpc] at hpc'
    obtain ⟨-, rfl⟩ := DeinitPc.picked.inj hpc'
    exact .inr ⟨rfl, rfl⟩
  | empties hpc =>
    exact .inr (isRemoval_of_silent rfl
      (fun e he => refers_of_update (fun j hj => by simp at hj) he) (by simp [hpc]))
  | ends hpc hi =>
    exact .inr ⟨by simp, s.defVif, _, .inr (.inr rfl), rfl, fun _ hx => mem_wlanFmacDelVif hx, rfl,
      fun e he => refers_of_setDeinit (fun j hj => by simp at hj) he,
      fun j e' hpc' => absurd hpc' (by simp [hpc])⟩

theorem Created.step (h : Created t s) (hs : IsCreation lim s a s' u ∨ IsRemoval s a s' u) :
    Created (t ++ u) s' := by
  rcases hs with ⟨req, o, -, rfl, hcreated, -, hrefers⟩ |
    ⟨-, e, v, he, rfl, -, hcreated, hrefers, -⟩
  · refine ⟨fun id hle => ?_, fun e he => ?_⟩
    · rw [ownLedger_other t _ (by omega)]
      exact h.fresh id (by omega)
    · rcases hrefers e he with hold | ⟨hid, -⟩
      · have hlt := h.refers e hold
        omega
      · omega
  · refine ⟨fun id hle => ?_, fun e' he' => ?_⟩
    · have hlt := h.refers e he
      rw [VifSlot.log, ownLedger_other t _ (by omega)]
      exact h.fresh id (by omega)
    · rw [hcreated]
      exact h.refers e' (hrefers e' he')

/-- A creation does not concern an interface there was before. -/
theorem Spoilt.create {id : ℕ} (h : Spoilt t s id) (hid : id < s.created)
    (hs : IsCreation lim s a s' u) : Spoilt (t ++ u) s' id := by
  obtain ⟨req, o, -, rfl, -, hdeinit, hrefers⟩ := hs
  rw [Spoilt, ownLedger_other t _ (Nat.ne_of_lt hid), hdeinit]
  rcases h with ⟨r, hleft, hno⟩ | hrest
  · refine .inl ⟨r, hleft, fun e he heq => ?_⟩
    rcases hrefers e he with hold | ⟨hnew, -⟩
    · exact hno e hold heq
    · omega
  · exact .inr hrest

/-- What is spoilt stays so. -/
theorem Spoilt.remove {id : ℕ} (h : Spoilt t s id) (hs : IsRemoval s a s' u) :
    Spoilt (t ++ u) s' id := by
  obtain ⟨-, e, v, he, rfl, hv, -, hrefers, hpicked⟩ := hs
  have hacq : ∀ r, .acquire r ∉ v := by
    intro r hr
    obtain ⟨_, hx, _⟩ := hv _ hr
    exact absurd hx (by simp)
  by_cases hid : id = e.id
  swap
  · rw [Spoilt, VifSlot.log, ownLedger_other t v hid]
    rcases h with ⟨r, hleft, hno⟩ | hover | ⟨i, e', hpc, hid', hrest⟩
    · exact .inl ⟨r, hleft, fun e' he' => hno e' (hrefers e' he')⟩
    · exact .inr (.inl hover)
    · rcases hpicked i e' hpc with hkept | ⟨heq, -⟩
      · exact .inr (.inr ⟨i, e', by rw [hkept, hpc], hid', hrest⟩)
      · exact absurd (by rw [heq, hid']) hid
  · rw [Spoilt, hid, VifSlot.log, ownLedger_own]
    rw [Spoilt, hid] at h
    rcases h with ⟨r, hleft, hno⟩ | ⟨r, hover⟩ | ⟨i, e', hpc, hid', hq, hone⟩
    · refine .inl ⟨r, hleft.append (hacq r) fun hr => ?_, fun e' he' => hno e' (hrefers e' he')⟩
      obtain ⟨r', hx, hr'⟩ := hv _ hr
      rw [LedgerEntry.release.inj hx] at hno
      exact hno e he rfl hr'
    · exact .inr (.inl ⟨r, hover.append (hacq r)⟩)
    · by_cases hrel : .release .dataTxq ∈ v
      · exact .inr (.inl ⟨_, hone.overReleased (hacq _) hrel⟩)
      · rcases hpicked i e' hpc with hkept | ⟨-, hdown⟩
        · refine .inr (.inr ⟨i, e', by rw [hkept, hpc], hid', hq, ?_⟩)
          rw [ReleasedOnce, List.count_append, List.count_append,
            List.count_eq_zero.mpr (hacq _), List.count_eq_zero.mpr hrel]
          exact hone
        · refine absurd ?_ hrel
          rw [hdown, wlanFmacDelVif, netdevDelVif, if_pos hq]
          simp

theorem Doomed.step (h : Doomed t s) (hs : VifStep lim s a s' u) : Doomed (t ++ u) s' := by
  obtain ⟨hcreated, id, hid, hspoilt⟩ := h
  refine ⟨hcreated.step hs.cases, id, ?_, ?_⟩
  · rcases hs.cases with ⟨_, _, _, _, hc, _⟩ | ⟨_, _, _, _, _, _, hc, _⟩ <;> omega
  · rcases hs.cases with hcreate | hremove
    · exact hspoilt.create hid hcreate
    · exact hspoilt.remove hremove

/-- When all is done a doomed run has not released everything once. -/
theorem Doomed.not_settled (h : Doomed t s) (hdone : s.deinit = .done) :
    ¬ ∀ id, Settled (ownLedger t id) := by
  obtain ⟨-, id, -, hspoilt⟩ := h
  intro hall
  rcases hspoilt with ⟨r, hleft, -⟩ | ⟨r, hover⟩ | ⟨i, e, hpc, -⟩
  · exact hleft.not_releasedOnce (hall id r)
  · exact hover.not_releasedOnce (hall id r)
  · rw [hdone] at hpc
    exact absurd hpc (by simp)

theorem VifInv.created (h : VifInv t s) : Created t s := by
  refine ⟨h.fresh, fun e he => ?_⟩
  rcases he with ⟨i, hi⟩ | ⟨i, hi⟩ | rfl
  · exact (h.slot i e hi).1
  · exact (h.slot i e (h.picked i e hi).2).1
  · exact (h.slot 0 _ h.defVif).1

/-- A step that is not clean cannot be made good. -/
theorem VifInv.doomed (h : VifInv t s) (hclean : ¬ s.Clean a) (hs : VifStep lim s a s' u) :
    Doomed (t ++ u) s' := by
  refine ⟨h.created.step hs.cases, ?_⟩
  cases a with
  | deinit => exact absurd trivial hclean
  | addVif req o =>
    have hwrong : ¬ CreatesCleanly req o := hclean
    obtain ⟨r, hleft, hno⟩ := addVif_unclean lim hwrong
    rcases hs.cases with ⟨req', o', hact, rfl, hcreated, -, hrefers⟩ | hremove
    · obtain ⟨rfl, rfl⟩ := VifAct.addVif.inj hact
      refine ⟨s.created, by omega, .inl ⟨r, ?_, fun e he hid => ?_⟩⟩
      · rw [ownLedger_own, h.fresh _ (Nat.le_refl _)]
        exact hleft
      · rcases hrefers e he with hold | ⟨-, hok⟩
        · have hlt := h.created.refers e hold
          omega
        · exact hno _ hok
    · exact absurd rfl (hremove.1 req o)
  | delVif i fmac =>
    -- the interface is deleted while the loop holds on to it
    simp only [VifTable.Clean, Classical.not_imp, not_forall, not_not] at hclean
    obtain ⟨rfl, e, hpc⟩ := hclean
    obtain ⟨hzero, hslot⟩ := h.picked i e hpc
    obtain ⟨hid, hi, ifType, hvif⟩ := h.slot i e hslot
    have hidx : e.vif.ifIdx ≠ 0 := fun heq => hzero (by rw [← hi, heq]; rfl)
    have hup : ¬ s.Gone i := not_or.mpr ⟨by simp [hpc], fun hg => hzero hg.1⟩
    have hdown := (h.standing i e hslot hup).takeDown ifType e.vif.ifIdx
    rw [wlanFmacDelVif_of_registered] at hdown
    cases hs with
    | delFails hlisted hdel =>
      obtain ⟨-, hslot'⟩ := listed_eq_some hlisted
      rw [hslot, Option.some.injEq] at hslot'
      rw [← hslot', nrfWifiCfg80211DelVif, if_neg hidx] at hdel
      exact absurd hdel (by simp)
    | dels hlisted hidx' =>
      obtain ⟨-, hslot'⟩ := listed_eq_some hlisted
      rw [hslot, Option.some.injEq] at hslot'
      subst hslot'
      refine ⟨e.id, hid, .inr (.inr ⟨i, e, hpc, rfl, by rw [hvif], ?_⟩)⟩
      rw [VifSlot.log, ownLedger_own, hvif]
      exact hdown .dataTxq

end Doom

/-! ### Whole runs -/

/-- The step adds an interface with index `i`. -/
def VifTable.Adds (lim : VifLimits) (i : ℕ) (_ : VifTable) (a : VifAct) : Prop :=
  ∃ req o vif, a = .addVif req o ∧ (nrfWifiCfg80211AddVif lim req o).1 = .ok vif ∧
    vif.ifIdx.toNat = i

/-- The step empties slot `i`: the interface is deleted, or the loop has taken it down. -/
def VifTable.Empties (i : ℕ) (s : VifTable) (a : VifAct) : Prop :=
  (∃ j e, a = .delVif j .success ∧ s.listed j = some e ∧ e.vif.ifIdx.toNat = i) ∨
    a = .deinit ∧ s.deinit = .unslot i

section Runs

variable {lim : VifLimits} {s s' : VifTable} {a : VifAct} {u : List (ℕ × LedgerEntry VifRes)}

/-- What a step does to a slot other than the first. -/
theorem VifStep.slot_iff {i : ℕ} (hi : i ≠ 0) (h : VifStep lim s a s' u) :
    s'.slots i = none ↔ ¬ s.Adds lim i a ∧ (s.slots i = none ∨ s.Empties i a) := by
  cases h with
  | @addFails req o e v hadd =>
    have hno : ¬ s.Adds lim i (.addVif req o) := by
      rintro ⟨req', o', vif, hact, hok, -⟩
      obtain ⟨rfl, rfl⟩ := VifAct.addVif.inj hact
      rw [hadd] at hok
      exact absurd hok (by simp)
    simp [hno, VifTable.Empties]
  | @adds req o vif v hadd hfree =>
    have hiff : s.Adds lim i (.addVif req o) ↔ i = vif.ifIdx.toNat := by
      constructor
      · rintro ⟨req', o', vif', hact, hok, hidx⟩
        obtain ⟨rfl, rfl⟩ := VifAct.addVif.inj hact
        rw [hadd] at hok
        rw [← hidx, Except.ok.inj hok]
      · rintro rfl
        exact ⟨req, o, vif, rfl, by rw [hadd], rfl⟩
    rw [hiff]
    by_cases hidx : i = vif.ifIdx.toNat
    · simp [hidx]
    · simp [hidx, VifTable.Empties]
  | @delFails j fmac e hlisted hdel =>
    have hno : ¬ s.Empties i (.delVif j fmac) := by
      rintro (⟨j', e', hact, hlisted', hidx⟩ | ⟨hact, -⟩)
      · obtain ⟨rfl, rfl⟩ := VifAct.delVif.inj hact
        rw [hlisted, Option.some.injEq] at hlisted'
        rw [nrfWifiCfg80211DelVif] at hdel
        split_ifs at hdel with hzero hfail
        · exact hi (by rw [← hidx, ← hlisted', hzero]; rfl)
        · exact hfail rfl
        · exact absurd hdel (by simp)
      · exact absurd hact (by simp)
    simp [hno, VifTable.Adds]
  | @dels j e hlisted hidx =>
    have hiff : s.Empties i (.delVif j .success) ↔ i = e.vif.ifIdx.toNat := by
      constructor
      · rintro (⟨j', e', hact, hlisted', hidx⟩ | ⟨hact, -⟩)
        · obtain ⟨rfl, -⟩ := VifAct.delVif.inj hact
          rw [hlisted, Option.some.injEq] at hlisted'
          rw [← hidx, hlisted']
        · exact absurd hact (by simp)
      · rintro rfl
        exact .inl ⟨j, e, rfl, hlisted, rfl⟩
    rw [hiff]
    by_cases heq : i = e.vif.ifIdx.toNat
    · simp [heq, VifTable.Adds]
    · simp [heq, VifTable.Adds]
  | @empties j hpc =>
    by_cases heq : i = j
    · simp [heq, VifTable.Adds, VifTable.Empties, hpc]
    · have hne : j ≠ i := fun hji => heq hji.symm
      simp [heq, hne, VifTable.Adds, VifTable.Empties, hpc]
  | starts hpc => simp [VifTable.Adds, VifTable.Empties, hpc]
  | skips hpc hslot => simp [VifTable.Adds, VifTable.Empties, hpc]
  | picks hpc hslot => simp [VifTable.Adds, VifTable.Empties, hpc]
  | takesDown hpc => simp [VifTable.Adds, VifTable.Empties, hpc]
  | ends hpc hlim => simp [VifTable.Adds, VifTable.Empties, hpc]

/-- A bring-up that succeeds leaves the default interface standing. -/
theorem devInit_of_succeeds {o : DevInitOutcome} (ho : o.Succeeds) :
    nrfWifiFmacDevInitLnx lim o .fresh =
      (.success, ⟨some ⟨true, true, some .station, 0⟩, fmacSlotOf lim 0, true,
        [.acquire .wdev, .acquire .netdev, .acquire .dataTxq, .acquire .registration]⟩) := by
  obtain ⟨hotp, ⟨hw, hn, hq, hr⟩, hidx, ⟨h₁, h₂, h₃, h₄, h₅⟩, hver, hdev, hmac⟩ := ho
  have hadd : wlanFmacAddVif o.toWlanOutcome .station = (some ⟨true, true, some .station, 0⟩,
      [.acquire .wdev, .acquire .netdev, .acquire .dataTxq, .acquire .registration]) := by
    rw [wlanFmacAddVif, netdevAddVif_of_register hn hq hr]
    simp [hw]
  have hdbgfs : wlanFmacDbgfsInit o.dbgfs = (.success, true) := by
    simp [wlanFmacDbgfsInit, h₁, h₂, h₃, h₄, h₅]
  simp [nrfWifiFmacDevInitLnx, devInitBody, devInitDefault, hotp, hadd, hidx, hdbgfs, hver, hdev,
    hmac, DevInitCtx.fresh, DevInitCtx.log]

/-- The table a bring-up that succeeds starts from. -/
theorem VifInv.init {o : DevInitOutcome} {c : DevInitCtx} {vif : VifHandle} (ho : o.Succeeds)
    (hup : nrfWifiFmacDevInitLnx lim o .fresh = (.success, c)) (hvif : c.defVifCtx = some vif) :
    VifInv (c.ledger.map (Prod.mk 0)) (.init vif) := by
  rw [devInit_of_succeeds ho, Prod.mk.injEq] at hup
  rw [← hup.2] at hvif ⊢
  rw [Option.some.injEq] at hvif
  subst hvif
  have hslot : ∀ {i e}, (VifTable.init ⟨true, true, some .station, 0⟩).slots i = some e →
      i = 0 ∧ e = ⟨0, ⟨true, true, some .station, 0⟩⟩ := by
    intro i e he
    simp only [VifTable.init, Option.ite_none_right_eq_some, Option.some.injEq] at he
    exact ⟨he.1, he.2.symm⟩
  have hstanding : Standing
      [.acquire .wdev, .acquire .netdev, .acquire .dataTxq, .acquire .registration] := by
    refine ⟨by decide, fun r hinfo => ?_⟩
    cases r <;> first | exact absurd rfl hinfo | decide
  have hown : ownLedger ([.acquire VifRes.wdev, .acquire .netdev, .acquire .dataTxq,
      .acquire .registration].map (Prod.mk 0)) 0 =
      [.acquire .wdev, .acquire .netdev, .acquire .dataTxq, .acquire .registration] := rfl
  have hother : ∀ id, id ≠ 0 → ownLedger ([.acquire VifRes.wdev, .acquire .netdev,
      .acquire .dataTxq, .acquire .registration].map (Prod.mk 0)) id = [] := by
    intro id hid
    have hrest := ownLedger_other [] [.acquire VifRes.wdev, .acquire .netdev, .acquire .dataTxq,
      .acquire .registration] hid
    rwa [List.nil_append, ownLedger_nil] at hrest
  have hdown : ∀ i, ¬ (VifTable.init ⟨true, true, some .station, 0⟩).Gone i := by
    intro i
    simp [VifTable.Gone, VifTable.init]
  refine ⟨fun id hle => hother id (by rintro rfl; exact absurd hle (by decide)), fun i e he => ?_,
    fun i j e e' he he' _ => ?_, fun i e he _ => ?_, fun i e _ hg => absurd hg (hdown i),
    fun id hno => ?_, rfl, fun i hi => by simp [VifTable.init] at hi,
    fun i e hpc => by simp [VifTable.init] at hpc, fun i hpc => by simp [VifTable.init] at hpc⟩
  · obtain ⟨rfl, rfl⟩ := hslot he
    exact ⟨by decide, rfl, .station, rfl⟩
  · rw [(hslot he).1, (hslot he').1]
  · rw [(hslot he).2]
    exact hown ▸ hstanding
  · have hid : id ≠ 0 := fun heq => hno 0 _ rfl heq.symm
    rw [hother id hid]
    exact fun r => releasedOnce_nil r

end Runs

/-- **Everything is released once, or it never will be.** For a device whose bring-up has
succeeded, every order of creations, deletions and steps of the removal, and every outcome of them:
when the removal has ended, everything the interfaces acquired has been released once exactly when
no creation went wrong at the queue or the registration, no interface was deleted while the removal
held on to it, and none was added that was not taken away again. -/
theorem interfaces_released_iff {lim : VifLimits} {o : DevInitOutcome} {c : DevInitCtx}
    {vif : VifHandle} (ho : o.Succeeds)
    (hup : nrfWifiFmacDevInitLnx lim o .fresh = (.success, c)) (hvif : c.defVifCtx = some vif)
    {acts : List VifAct} {s : VifTable} {t : List (ℕ × LedgerEntry VifRes)}
    (h : (vifMachine lim).exec (.init vif) acts = some (s, t)) (hdone : s.deinit = .done) :
    (∀ id r, ReleasedOnce (ownLedger (c.ledger.map (Prod.mk 0) ++ t) id) r) ↔
      (vifMachine lim).Along VifTable.Clean (.init vif) acts ∧
        ∀ i, i ≠ 0 → ¬ (vifMachine lim).Pending (VifTable.Adds lim i) (VifTable.Empties i)
          (.init vif) acts := by
  have hslots : ∀ i, i ≠ 0 → (s.slots i = none ↔
      ¬ (vifMachine lim).Pending (VifTable.Adds lim i) (VifTable.Empties i) (.init vif) acts) := by
    intro i hi
    have hstart : (VifTable.init vif).slots i = none := if_neg hi
    exact (vifMachine lim).holds_iff_not_pending (P := fun s => s.slots i = none)
      (fun hs => (vifStep_sound hs).slot_iff hi) hstart h
  rcases (vifMachine lim).exec_kept_or_doomed (fun hP hok hs => hP.step hok (vifStep_sound hs))
    (fun hP hok hs => hP.doomed hok (vifStep_sound hs)) (fun hD hs => hD.step (vifStep_sound hs))
    (VifInv.init ho hup hvif) h with ⟨hclean, hinv⟩ | ⟨hclean, hdoomed⟩
  swap
  · exact iff_of_false (hdoomed.not_settled hdone) fun hall => hclean hall.1
  have hfree : (∀ id, Settled (ownLedger (c.ledger.map (Prod.mk 0) ++ t) id)) ↔
      ∀ i, i ≠ 0 → s.slots i = none := by
    constructor
    · intro hall i hi
      by_contra hfilled
      obtain ⟨e, he⟩ := Option.ne_none_iff_exists'.mp hfilled
      have hup : ¬ s.Gone i := by simp [VifTable.Gone, hdone, hi]
      exact (hinv.standing i e he hup).not_settled (hall e.id)
    · intro hempty id
      by_cases hdef : s.defVif.id = id
      · rw [← hdef]
        exact (hinv.gone 0 _ hinv.defVif (.inr ⟨rfl, hdone⟩)).1
      · refine hinv.settled id fun i e he => ?_
        by_cases hi : i = 0
        · rw [hi, hinv.defVif, Option.some.injEq] at he
          rwa [← he]
        · rw [hempty i hi] at he
          exact absurd he (by simp)
  refine hfree.trans ?_
  constructor
  · exact fun hempty => ⟨hclean, fun i hi => (hslots i hi).mp (hempty i hi)⟩
  · exact fun hall i hi => (hslots i hi).mpr (hall.2 i hi)

/-- The default interface of `goodBringUp`. -/
def defaultVif : VifHandle := ⟨true, true, some .station, 0⟩

theorem goodBringUp_succeeds : goodBringUp.Succeeds :=
  ⟨rfl, ⟨rfl, rfl, rfl, rfl⟩, rfl, ⟨rfl, rfl, rfl, rfl, rfl⟩, rfl, rfl, rfl⟩

/-- An interface is deleted while the removal of the device waits for the RTNL lock with it. -/
def deletedWhilePicked : List VifAct :=
  [.addVif secondStation secondStationOutcome, .deinit, .deinit, .delVif 1 .success, .deinit,
    .deinit, .deinit]

/-- **It is taken down twice.** -/
theorem interfaces_released_iff_race :
    ∃ s t, (vifMachine ⟨2, 16⟩).exec (.init defaultVif) deletedWhilePicked = some (s, t) ∧
      s.deinit = .done ∧ ¬ ∀ id r, ReleasedOnce (ownLedger
        ((nrfWifiFmacDevInitLnx ⟨2, 16⟩ goodBringUp .fresh).2.ledger.map (Prod.mk 0) ++ t)
          id) r := by
  obtain ⟨s, t, hrun, hdone⟩ : ∃ s t,
      (vifMachine ⟨2, 16⟩).exec (.init defaultVif) deletedWhilePicked = some (s, t) ∧
        s.deinit = .done := ⟨_, _, rfl, rfl⟩
  refine ⟨s, t, hrun, hdone, fun hall => ?_⟩
  have hclean := ((interfaces_released_iff goodBringUp_succeeds rfl rfl hrun hdone).mp hall).1
  have h₁ := hclean.2 _ _ rfl
  have h₂ := h₁.2 _ _ rfl
  have h₃ := h₂.2 _ _ rfl
  exact h₃.1 rfl _ rfl

/-- **When FMAC's table points to an interface that is gone.** In every state of every clean run
the network device of an interface in the table, and with it the context FMAC hands to its
callbacks, has been released exactly when the removal has taken the interface down and not yet
emptied its slot, or it is the default interface and the removal has ended. -/
theorem slot_dangles_iff {lim : VifLimits} {o : DevInitOutcome} {c : DevInitCtx}
    {vif : VifHandle} (ho : o.Succeeds)
    (hup : nrfWifiFmacDevInitLnx lim o .fresh = (.success, c)) (hvif : c.defVifCtx = some vif)
    {acts : List VifAct} {s : VifTable} {t : List (ℕ × LedgerEntry VifRes)}
    (h : (vifMachine lim).exec (.init vif) acts = some (s, t))
    (hclean : (vifMachine lim).Along VifTable.Clean (.init vif) acts)
    {i : ℕ} {e : VifSlot} (hslot : s.slots i = some e) :
    .release .netdev ∈ ownLedger (c.ledger.map (Prod.mk 0) ++ t) e.id ↔
      s.deinit = .unslot i ∨ i = 0 ∧ s.deinit = .done := by
  have hinv := (vifMachine lim).exec_invariant_along
    (fun hP hok hs => hP.step hok (vifStep_sound hs)) (VifInv.init ho hup hvif) hclean h
  constructor
  · intro hrel
    by_contra hup
    have hnone := ((hinv.standing i e hslot hup).2 .netdev (by decide)).2
    exact List.count_eq_zero.mp hnone hrel
  · exact fun hgone => (hinv.gone i e hslot hgone).2

/-- The removal of a device has taken down its second interface. -/
def removalAtSecond : List VifAct :=
  [.addVif secondStation secondStationOutcome, .deinit, .deinit, .deinit]

theorem slot_dangles_iff_unslot :
    ∃ s t e, (vifMachine ⟨2, 16⟩).exec (.init defaultVif) removalAtSecond = some (s, t) ∧
      s.slots 1 = some e ∧ .release .netdev ∈ ownLedger
        ((nrfWifiFmacDevInitLnx ⟨2, 16⟩ goodBringUp .fresh).2.ledger.map (Prod.mk 0) ++ t)
          e.id := by
  obtain ⟨s, t, e, hrun, hslot, hpc⟩ : ∃ s t e,
      (vifMachine ⟨2, 16⟩).exec (.init defaultVif) removalAtSecond = some (s, t) ∧
        s.slots 1 = some e ∧ s.deinit = .unslot 1 := ⟨_, _, _, rfl, rfl, rfl⟩
  have hclean : (vifMachine ⟨2, 16⟩).Along VifTable.Clean (.init defaultVif) removalAtSecond := by
    refine (vifMachine ⟨2, 16⟩).along_of_forall fun s a ha => ?_
    simp only [removalAtSecond, List.mem_cons, List.not_mem_nil, or_false] at ha
    rcases ha with rfl | rfl | rfl | rfl
    · exact fun _ => ⟨rfl, rfl⟩
    · trivial
    · trivial
    · trivial
  exact ⟨s, t, e, hrun, hslot,
    (slot_dangles_iff goodBringUp_succeeds rfl rfl hrun hclean hslot).mpr (.inl hpc)⟩

end Nrf70
