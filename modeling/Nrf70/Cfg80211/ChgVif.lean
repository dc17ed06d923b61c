import Nrf70.Netdev.Vif

/-!
# Changing the type of an interface

`nrf_wifi_cfg80211_chg_vif` cut into the steps between which another context can run. A change to
MONITOR stays on the host: it forces FMAC's injector state, stores the type, sets the link-layer
attributes and turns the carrier on. Every other change asks the firmware first and polls
`event_set_if` for its answer, which `nrf_wifi_set_if_callbk_fn` delivers.

The type is stored in `wdev->iftype` by one step of its own, `install`, on both paths. That step is
the only one the TX path can observe: `chgStep_wdev` and `chgStep_dataTxq` say so.
-/

namespace Nrf70

variable {F : Type}

/-- Where a call of `nrf_wifi_cfg80211_chg_vif` has got to. -/
inductive ChgPc
  | idle
  | force
  | alloc (iftype : IfType)
  | send (iftype : IfType)
  | wait (iftype : IfType) (count : ℕ)
  | judge (iftype : IfType)
  | update (iftype : IfType)
  | install (iftype : IfType)
  | setLink (iftype : IfType)
  | carrier
  | out
  deriving DecidableEq, Repr

/-- The steps of a call, and the firmware's answer. -/
inductive ChgAct
  | enter (iftype : IfType)
  | force
  | alloc (ok : Bool)
  | send (ok : Bool)
  | poll
  | judge
  | update
  | install
  | setLink
  | carrier
  | out
  | setIfEvent (returnValue : ℤ)
  deriving DecidableEq, Repr

/-- `nrf_wifi_fmac_vif_update_if_type`, as far as this driver can see it. -/
def VifCtx.updateIfType (v : VifCtx F) (iftype : IfType) : VifCtx F :=
  { v with fmacVif := v.fmacVif.map fun f => { f with ifType := .nl iftype } }

/-- `nrf_wifi_set_if_callbk_fn`. -/
def nrfWifiSetIfCallbkFn (v : VifCtx F) (returnValue : ℤ) : VifCtx F :=
  { v with eventSetIf := true, statusSetIf := returnValue }

/-- One step of a call of `nrf_wifi_cfg80211_chg_vif`. -/
def chgStep (v : VifCtx F) (pc : ChgPc) : ChgAct → Option (VifCtx F × ChgPc)
  | .enter iftype =>
    match pc with
    | .idle => some (v, if iftype = .monitor then .force else .alloc iftype)
    | _ => none
  | .force =>
    match pc with
    | .force => some (v.assertInjector, .install .monitor)
    | _ => none
  | .alloc ok =>
    match pc with
    | .alloc iftype => some (v, if ok then .send iftype else .out)
    | _ => none
  | .send ok =>
    match pc with
    -- fifty polls, a second apart
    | .send iftype => some (v, if ok then .wait iftype 50 else .out)
    | _ => none
  | .poll =>
    match pc with
    | .wait iftype 0 => some (v, .judge iftype)
    | .wait iftype (n + 1) => some (v, if v.eventSetIf then .judge iftype else .wait iftype n)
    | _ => none
  | .judge =>
    match pc with
    | .judge iftype =>
      some (v, if v.eventSetIf ∧ v.statusSetIf = 0 then .update iftype else .out)
    | _ => none
  | .update =>
    match pc with
    | .update iftype => some (v.updateIfType iftype, .install iftype)
    | _ => none
  | .install =>
    match pc with
    | .install iftype => some ({ v with wdev := v.wdev.map fun _ => iftype }, .setLink iftype)
    | _ => none
  | .setLink =>
    match pc with
    | .setLink iftype =>
      some (nrfWifiNetdevSetIftype v iftype, if iftype = .monitor then .carrier else .out)
    | _ => none
  | .carrier =>
    match pc with
    | .carrier => some ({ v with netdev := { v.netdev with carrier := true } }, .idle)
    | _ => none
  | .out =>
    match pc with
    | .out => some ({ v with eventSetIf := false }, .idle)
    | _ => none
  | .setIfEvent returnValue => some (nrfWifiSetIfCallbkFn v returnValue, pc)

/-! ### What a step can do -/

/-- The steps of a call, one constructor for each. -/
inductive ChgStep (v : VifCtx F) : ChgPc → ChgAct → VifCtx F → ChgPc → Prop
  | enterMonitor : ChgStep v .idle (.enter .monitor) v .force
  | enter {iftype} (h : iftype ≠ .monitor) : ChgStep v .idle (.enter iftype) v (.alloc iftype)
  | force : ChgStep v .force .force v.assertInjector (.install .monitor)
  | alloc {iftype ok} :
      ChgStep v (.alloc iftype) (.alloc ok) v (if ok then .send iftype else .out)
  | send {iftype ok} :
      ChgStep v (.send iftype) (.send ok) v (if ok then .wait iftype 50 else .out)
  | pollEnd {iftype} : ChgStep v (.wait iftype 0) .poll v (.judge iftype)
  | poll {iftype n} :
      ChgStep v (.wait iftype (n + 1)) .poll v
        (if v.eventSetIf then .judge iftype else .wait iftype n)
  | judge {iftype} :
      ChgStep v (.judge iftype) .judge v
        (if v.eventSetIf ∧ v.statusSetIf = 0 then .update iftype else .out)
  | update {iftype} :
      ChgStep v (.update iftype) .update (v.updateIfType iftype) (.install iftype)
  | install {iftype} :
      ChgStep v (.install iftype) .install { v with wdev := v.wdev.map fun _ => iftype }
        (.setLink iftype)
  | setLink {iftype} :
      ChgStep v (.setLink iftype) .setLink (nrfWifiNetdevSetIftype v iftype)
        (if iftype = .monitor then .carrier else .out)
  | carrier :
      ChgStep v .carrier .carrier { v with netdev := { v.netdev with carrier := true } } .idle
  | out : ChgStep v .out .out { v with eventSetIf := false } .idle
  | setIfEvent {pc returnValue} :
      ChgStep v pc (.setIfEvent returnValue) (nrfWifiSetIfCallbkFn v returnValue) pc

theorem chgStep_sound {v v' : VifCtx F} {pc pc' : ChgPc} {c : ChgAct}
    (h : chgStep v pc c = some (v', pc')) : ChgStep v pc c v' pc' := by
  cases c with
  | enter iftype =>
    cases pc with
    | idle =>
      simp only [chgStep, Option.some.injEq, Prod.mk.injEq] at h
      obtain ⟨rfl, rfl⟩ := h
      split_ifs with hm
      · subst hm
        exact .enterMonitor
      · exact .enter hm
    | _ => simp [chgStep] at h
  | poll =>
    cases pc with
    | wait iftype n =>
      cases n with
      | zero =>
        simp only [chgStep, Option.some.injEq, Prod.mk.injEq] at h
        obtain ⟨rfl, rfl⟩ := h
        exact .pollEnd
      | succ n =>
        simp only [chgStep, Option.some.injEq, Prod.mk.injEq] at h
        obtain ⟨rfl, rfl⟩ := h
        exact .poll
    | _ => simp [chgStep] at h
  | setIfEvent returnValue =>
    simp only [chgStep, Option.some.injEq, Prod.mk.injEq] at h
    obtain ⟨rfl, rfl⟩ := h
    exact .setIfEvent
  | _ =>
    cases pc
    all_goals simp only [chgStep, Option.some.injEq, Prod.mk.injEq, reduceCtorEq] at h
    obtain ⟨rfl, rfl⟩ := h
    constructor

theorem ChgStep.install_inv {v v' : VifCtx F} {pc pc' : ChgPc}
    (h : ChgStep v pc .install v' pc') :
    ∃ iftype, pc = .install iftype ∧ v' = { v with wdev := v.wdev.map fun _ => iftype } ∧
      pc' = .setLink iftype := by
  cases h
  exact ⟨_, rfl, rfl, rfl⟩

/-- Only `install` changes the interface type. -/
theorem ChgStep.wdev {v v' : VifCtx F} {pc pc' : ChgPc} {c : ChgAct} (h : ChgStep v pc c v' pc')
    (hc : c ≠ .install) : v'.wdev = v.wdev := by
  cases h with
  | install => exact absurd rfl hc
  | setLink => exact setIftype_wdev v _
  | _ => rfl

theorem ChgStep.attached {v v' : VifCtx F} {pc pc' : ChgPc} {c : ChgAct}
    (h : ChgStep v pc c v' pc') (hv : v.wdev ≠ none) : v'.wdev ≠ none := by
  cases h with
  | install => simpa using hv
  | setLink => simpa using hv
  | _ => exact hv

/-- No step of a call touches the queue. -/
theorem chgStep_dataTxq {v v' : VifCtx F} {pc pc' : ChgPc} {c : ChgAct}
    (h : chgStep v pc c = some (v', pc')) : v'.dataTxq = v.dataTxq := by
  cases chgStep_sound h with
  | setLink => exact setIftype_dataTxq v _
  | _ => rfl

theorem chgStep_wdev {v v' : VifCtx F} {pc pc' : ChgPc} {c : ChgAct}
    (h : chgStep v pc c = some (v', pc')) (hc : c ≠ .install) : v'.wdev = v.wdev :=
  (chgStep_sound h).wdev hc

end Nrf70
