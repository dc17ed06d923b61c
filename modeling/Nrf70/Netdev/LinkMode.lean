import Nrf70.Cfg80211.ChgVif
import Nrf70.Netdev.Teardown

/-!
# An interface between up and down, MONITOR and the other types

Three things are meant to follow the mode of an interface: the state the firmware keeps for it, the
injector flags in FMAC's context, and the carrier. `nrf_wifi_netdev_open` and
`nrf_wifi_netdev_close` take a shortcut for a monitor, `nrf_wifi_cfg80211_chg_vif` keeps a change
to MONITOR on the host, and the firmware reports carrier changes when it likes. Each decides by the
type at that moment, and none of them looks at what the others have done.

The operations made under the RTNL lock exclude each other, and a call of `chg_vif` is the steps of
`ChgVif`, so a firmware event can fall between any two of them. A run of the TX work is taken
between calls.

## What is outside the repository

That the interface is up is kept by the network core: after an open that returns `0`, and until it
is closed, whatever the close returns. The firmware's state of the interface is the value of the
last successful `nrf_wifi_fmac_chg_vif_state`.

## Main results

* `vif_state_follows_iff` — the firmware's state of the interface
* `injection_follows_iff` — the injector flags
* `carrier_follows_iff` — the carrier
-/

namespace Nrf70

variable {F : Type}

/-! ### The operations -/

/-- `netif_carrier_on`. -/
def VifCtx.carrierOn (v : VifCtx F) : VifCtx F :=
  { v with netdev := { v.netdev with carrier := true } }

/-- `nrf_wifi_netdev_close`, with the outcomes of its allocation and of the firmware command: the
context after it, and whether it returns `0`. The runs its two flushes wait for are not part of
it. -/
def nrfWifiNetdevClose (v : VifCtx F) (alloc fmac : Bool) : VifCtx F × Bool :=
  if v.isMonitor then (v.carrierOff, true)
  else if alloc && fmac then (v.carrierOff, true)
  else (v, false)

/-- `enum nrf_wifi_fmac_if_carr_state`, with one value for whatever is neither on nor off. -/
inductive IfCarrState
  | on | off | invalid
  deriving DecidableEq, Repr

/-- `nrf_wifi_netdev_if_state_chg_callbk_fn`. -/
def nrfWifiNetdevIfStateChgCallbkFn (v : VifCtx F) : IfCarrState → VifCtx F × Bool
  | .on => (v.carrierOn, true)
  | .off => (v.carrierOff, true)
  | .invalid => (v, false)

/-! ### The machine -/

/-- An interface with what the network core, the firmware and the past know about it. -/
structure LinkState (F : Type) where
  dev : DevCtx
  vif : VifCtx F
  /-- Where a call of `nrf_wifi_cfg80211_chg_vif` has got to. -/
  chg : ChgPc
  up : Bool
  /-- The firmware's state of the interface. -/
  fwState : ℕ
  /-- The last carrier state the firmware has reported. -/
  lastCarr : Option IfCarrState
  /-- A change from MONITOR to another type has succeeded. -/
  leftMonitor : Bool
  deriving DecidableEq, Repr

inductive LinkAct (F : Type)
  | ndoOpen (alloc fmac : Bool)
  | ndoStop (alloc fmac : Bool)
  | chg (a : ChgAct)
  | ifState (state : IfCarrState)
  | startXmit (skb : F) (sameDev enq : Bool)
  | dataTx (prep xmit : Bool)
  deriving DecidableEq, Repr

/-- The carrier state a report leaves as the last one. -/
def IfCarrState.report (last : Option IfCarrState) : IfCarrState → Option IfCarrState
  | .on => some .on
  | .off => some .off
  | .invalid => last

def linkStep (s : LinkState F) : LinkAct F → Option (LinkState F × List (TxEvent F))
  | .ndoOpen alloc fmac =>
    if s.chg = .idle ∧ s.up = false then
      let (v, ok) := nrfWifiNetdevOpen s.vif alloc fmac
      some ({ s with
        vif := v
        up := ok
        fwState := if s.vif.isMonitor then s.fwState else if alloc && fmac then 1 else s.fwState },
        [])
    else none
  | .ndoStop alloc fmac =>
    if s.chg = .idle ∧ s.up = true then
      let (v, _) := nrfWifiNetdevClose s.vif alloc fmac
      some ({ s with
        vif := v
        up := false
        fwState := if s.vif.isMonitor then s.fwState else if alloc && fmac then 0 else s.fwState },
        [])
    else none
  | .chg a =>
    match chgStep s.vif s.chg a with
    | none => none
    | some (v, pc) =>
      some ({ s with
        vif := v
        chg := pc
        leftMonitor := s.leftMonitor || (s.vif.isMonitor && !v.isMonitor) }, [])
  | .ifState state =>
    some ({ s with
      vif := (nrfWifiNetdevIfStateChgCallbkFn s.vif state).1
      lastCarr := state.report s.lastCarr }, [])
  | .startXmit skb sameDev enq =>
    let (v, _, t) := nrfWifiNetdevStartXmit s.dev s.vif skb sameDev enq
    some ({ s with vif := v }, t)
  | .dataTx prep xmit =>
    if s.chg = .idle then
      let (dev, v, t) := nrfCfg80211DataTxRoutine s.dev s.vif prep xmit
      some ({ s with dev := dev, vif := v }, t)
    else none

def linkMachine (F : Type) : Machine (LinkState F) (LinkAct F) (TxEvent F) := ⟨linkStep⟩

/-- A freshly added interface, down. -/
def LinkState.init (F : Type) (dev : DevCtx) (iftype : IfType) (fmacVif : Option FmacVif) :
    LinkState F :=
  ⟨dev, nrfWifiNetdevAddVif F iftype fmacVif, .idle, false, 0, none, false⟩

/-! ### What a step can do -/

/-- The parts of a context that the mode has a say in. -/
structure VifCtx.SameMode (v v' : VifCtx F) : Prop where
  wdev : v'.wdev = v.wdev
  carrier : v'.netdev.carrier = v.netdev.carrier
  fmacVif : v'.fmacVif = v.fmacVif

theorem VifCtx.SameMode.isMonitor {v v' : VifCtx F} (h : v.SameMode v') :
    v'.isMonitor = v.isMonitor := by
  rw [VifCtx.isMonitor, VifCtx.isMonitor, h.wdev]

theorem startXmit_sameMode (dev : DevCtx) (v : VifCtx F) (skb : F) (sameDev enq : Bool) :
    v.SameMode (nrfWifiNetdevStartXmit dev v skb sameDev enq).1 := by
  have hflow : v.SameMode (v.flowCheck dev) := by
    rw [VifCtx.flowCheck]
    split <;> exact ⟨rfl, rfl, rfl⟩
  rw [nrfWifiNetdevStartXmit]
  split
  · exact ⟨rfl, rfl, rfl⟩
  · split
    · exact hflow
    · exact ⟨hflow.wdev, hflow.carrier, hflow.fmacVif⟩

/-- A run of the TX work touches FMAC's context only to assert the injector of a monitor. -/
theorem dataTx_mode (dev : DevCtx) (v : VifCtx F) (prep xmit : Bool) :
    v.SameMode (nrfCfg80211DataTxRoutine dev v prep xmit).2.1 ∨
      v.isMonitor = true ∧
        v.assertInjector.SameMode (nrfCfg80211DataTxRoutine dev v prep xmit).2.1 := by
  have hresched (v : VifCtx F) : v.SameMode v.resched := by
    rw [VifCtx.resched]
    split <;> exact ⟨rfl, rfl, rfl⟩
  simp only [nrfCfg80211DataTxRoutine]
  split
  · exact Or.inl ⟨rfl, rfl, rfl⟩
  · split
    · next hm =>
      refine Or.inr ⟨hm, ?_⟩
      split
      · exact ⟨(hresched _).wdev, (hresched _).carrier, (hresched _).fmacVif⟩
      · exact ⟨(hresched _).wdev, (hresched _).carrier, (hresched _).fmacVif⟩
    · exact Or.inl ⟨(hresched _).wdev, (hresched _).carrier, (hresched _).fmacVif⟩

theorem isMonitor_of_dataTx {v v' : VifCtx F}
    (h : v.SameMode v' ∨ v.isMonitor = true ∧ v.assertInjector.SameMode v') :
    v'.isMonitor = v.isMonitor := by
  rcases h with hsame | ⟨-, hsame⟩
  · exact hsame.isMonitor
  · exact hsame.isMonitor

theorem carrier_of_dataTx {v v' : VifCtx F}
    (h : v.SameMode v' ∨ v.isMonitor = true ∧ v.assertInjector.SameMode v') :
    v'.netdev.carrier = v.netdev.carrier := by
  rcases h with hsame | ⟨-, hsame⟩
  · exact hsame.carrier
  · exact hsame.carrier

/-- Everything a step can do to the mode and to what is meant to follow it. -/
inductive LinkStep (s : LinkState F) : LinkAct F → LinkState F → Prop
  | openMonitor {alloc fmac} (hdown : s.up = false) (hm : s.vif.isMonitor = true) :
      LinkStep s (.ndoOpen alloc fmac) { s with vif := s.vif.carrierOn, up := true }
  | openFmac {alloc fmac} (hdown : s.up = false) (hm : s.vif.isMonitor = false)
      (hok : (alloc && fmac) = true) :
      LinkStep s (.ndoOpen alloc fmac) { s with up := true, fwState := 1 }
  | openFailed {alloc fmac} (hdown : s.up = false) (hm : s.vif.isMonitor = false)
      (hok : (alloc && fmac) = false) :
      LinkStep s (.ndoOpen alloc fmac) { s with up := false }
  | stopMonitor {alloc fmac} (hup : s.up = true) (hm : s.vif.isMonitor = true) :
      LinkStep s (.ndoStop alloc fmac) { s with vif := s.vif.carrierOff, up := false }
  | stopFmac {alloc fmac} (hup : s.up = true) (hm : s.vif.isMonitor = false)
      (hok : (alloc && fmac) = true) :
      LinkStep s (.ndoStop alloc fmac)
        { s with vif := s.vif.carrierOff, up := false, fwState := 0 }
  | stopFailed {alloc fmac} (hup : s.up = true) (hm : s.vif.isMonitor = false)
      (hok : (alloc && fmac) = false) :
      LinkStep s (.ndoStop alloc fmac) { s with up := false }
  | chg {a v pc} (h : ChgStep s.vif s.chg a v pc) :
      LinkStep s (.chg a) { s with
        vif := v
        chg := pc
        leftMonitor := s.leftMonitor || (s.vif.isMonitor && !v.isMonitor) }
  | ifState {state} :
      LinkStep s (.ifState state) { s with
        vif := (nrfWifiNetdevIfStateChgCallbkFn s.vif state).1
        lastCarr := state.report s.lastCarr }
  | startXmit {skb sameDev enq v} (h : s.vif.SameMode v) :
      LinkStep s (.startXmit skb sameDev enq) { s with vif := v }
  | dataTx {prep xmit dev v} (hidle : s.chg = .idle)
      (h : s.vif.SameMode v ∨ s.vif.isMonitor = true ∧ s.vif.assertInjector.SameMode v) :
      LinkStep s (.dataTx prep xmit) { s with dev := dev, vif := v }

theorem linkStep_sound {s s' : LinkState F} {a : LinkAct F} {u : List (TxEvent F)}
    (h : (linkMachine F).step s a = some (s', u)) : LinkStep s a s' := by
  change linkStep s a = some (s', u) at h
  cases a with
  | ndoOpen alloc fmac =>
    by_cases hen : s.chg = .idle ∧ s.up = false
    swap
    · simp [linkStep, hen] at h
    simp only [linkStep, if_pos hen, Option.some.injEq, Prod.mk.injEq] at h
    obtain ⟨rfl, -⟩ := h
    cases hm : s.vif.isMonitor with
    | true =>
      simp only [nrfWifiNetdevOpen, hm, if_true]
      exact .openMonitor hen.2 hm
    | false =>
      cases hok : alloc && fmac with
      | true =>
        simp only [nrfWifiNetdevOpen, hm, hok, if_true, Bool.false_eq_true, if_false]
        exact .openFmac hen.2 hm hok
      | false =>
        simp only [nrfWifiNetdevOpen, hm, hok, Bool.false_eq_true, if_false]
        exact .openFailed hen.2 hm hok
  | ndoStop alloc fmac =>
    by_cases hen : s.chg = .idle ∧ s.up = true
    swap
    · simp [linkStep, hen] at h
    simp only [linkStep, if_pos hen, Option.some.injEq, Prod.mk.injEq] at h
    obtain ⟨rfl, -⟩ := h
    cases hm : s.vif.isMonitor with
    | true =>
      simp only [nrfWifiNetdevClose, hm, if_true]
      exact .stopMonitor hen.2 hm
    | false =>
      cases hok : alloc && fmac with
      | true =>
        simp only [nrfWifiNetdevClose, hm, hok, if_true, Bool.false_eq_true, if_false]
        exact .stopFmac hen.2 hm hok
      | false =>
        simp only [nrfWifiNetdevClose, hm, hok, Bool.false_eq_true, if_false]
        exact .stopFailed hen.2 hm hok
  | chg a =>
    simp only [linkStep] at h
    cases hc : chgStep s.vif s.chg a with
    | none => simp [hc] at h
    | some p =>
      simp only [hc, Option.some.injEq, Prod.mk.injEq] at h
      obtain ⟨rfl, -⟩ := h
      exact .chg (chgStep_sound hc)
  | ifState state =>
    simp only [linkStep, Option.some.injEq, Prod.mk.injEq] at h
    obtain ⟨rfl, -⟩ := h
    exact .ifState
  | startXmit skb sameDev enq =>
    simp only [linkStep, Option.some.injEq, Prod.mk.injEq] at h
    obtain ⟨rfl, -⟩ := h
    exact .startXmit (startXmit_sameMode ..)
  | dataTx prep xmit =>
    by_cases hidle : s.chg = .idle
    swap
    · simp [linkStep, hidle] at h
    simp only [linkStep, if_pos hidle, Option.some.injEq, Prod.mk.injEq] at h
    obtain ⟨rfl, -⟩ := h
    exact .dataTx hidle (dataTx_mode ..)

/-- The type a call is about to store in `wdev->iftype`. -/
def ChgPc.stores : ChgPc → Option IfType
  | .install iftype => some iftype
  | _ => none

/-- The type a call is asking the firmware for. -/
def ChgPc.asksFor : ChgPc → Option IfType
  | .alloc iftype | .send iftype | .wait iftype _ | .judge iftype | .update iftype => some iftype
  | _ => none

/-- The type a step stores in `wdev->iftype`. -/
def LinkState.installs (s : LinkState F) : LinkAct F → Option IfType
  | .chg .install => s.chg.stores
  | _ => none

theorem ChgStep.isMonitor {v v' : VifCtx F} {pc pc' : ChgPc} {c : ChgAct}
    (h : ChgStep v pc c v' pc') (hc : c ≠ .install) : v'.isMonitor = v.isMonitor := by
  rw [VifCtx.isMonitor, VifCtx.isMonitor, h.wdev hc]

theorem installs_eq_none {s : LinkState F} {c : ChgAct} (hc : c ≠ .install) :
    s.installs (.chg c) = none := by
  cases c <;> first | rfl | exact absurd rfl hc

/-- The state after a step has stored a type. -/
def LinkState.install (s : LinkState F) (iftype : IfType) : LinkState F :=
  let v := { s.vif with wdev := s.vif.wdev.map fun _ => iftype }
  { s with
    vif := v
    chg := .setLink iftype
    leftMonitor := s.leftMonitor || (s.vif.isMonitor && !v.isMonitor) }

theorem installs_install {s : LinkState F} {iftype : IfType} (hpc : s.chg = .install iftype)
    (t : IfType) : s.installs (.chg .install) = some t ↔ t = iftype := by
  rw [LinkState.installs, hpc, ChgPc.stores, Option.some.injEq, eq_comm]

/-- The mode of an interface that a type has been stored in. -/
theorem isMonitor_installed {v : VifCtx F} (hv : v.wdev ≠ none) (iftype : IfType) :
    ({ v with wdev := v.wdev.map fun _ => iftype } : VifCtx F).isMonitor = true ↔
      iftype = .monitor := by
  cases hw : v.wdev with
  | none => exact absurd hw hv
  | some old => simp [VifCtx.isMonitor]

theorem LinkState.isMonitor_install {s : LinkState F} (hv : s.vif.wdev ≠ none)
    (iftype : IfType) : (s.install iftype).vif.isMonitor = true ↔ iftype = .monitor :=
  isMonitor_installed hv iftype

/-- A context keeps its `wdev`. -/
theorem LinkStep.attached {s s' : LinkState F} {a : LinkAct F} (h : LinkStep s a s')
    (hv : s.vif.wdev ≠ none) : s'.vif.wdev ≠ none := by
  cases h with
  | chg hc => exact hc.attached hv
  | @ifState state => cases state <;> exact hv
  | startXmit hsame => rwa [hsame.wdev]
  | dataTx hidle hmode =>
    rcases hmode with hsame | ⟨-, hsame⟩
    · rwa [hsame.wdev]
    · rwa [hsame.wdev]
  | _ => exact hv

/-! ### The firmware's state of the interface -/

/-- The firmware has the interface up exactly when it is up and not a monitor. -/
def VifStateFollows (s : LinkState F) : Prop :=
  s.fwState = 1 ↔ s.up = true ∧ s.vif.isMonitor = false

/-- The step does not move an interface that is up into or out of MONITOR, and it is no close of
another interface whose command is not sent or fails. -/
def KeepsVifState (s : LinkState F) (a : LinkAct F) : Prop :=
  (∀ iftype, s.installs a = some iftype → s.up = true →
      (iftype = .monitor ↔ s.vif.isMonitor = true)) ∧
    ∀ alloc fmac, a = .ndoStop alloc fmac → s.vif.isMonitor = false → (alloc && fmac) = true

/-- A step that neither stores a type nor closes the interface meets the condition. -/
theorem keepsVifState_of_none {s : LinkState F} {a : LinkAct F} (h : s.installs a = none)
    (hstop : ∀ alloc fmac, a ≠ .ndoStop alloc fmac) : KeepsVifState s a :=
  ⟨fun _ hi => absurd (h.symm.trans hi) (by simp), fun _ _ ha => absurd ha (hstop _ _)⟩

/-- Storing a type keeps it exactly when the interface is down or does not cross. -/
theorem vifStateFollows_install {s : LinkState F} {iftype : IfType} (hv : s.vif.wdev ≠ none)
    (h : VifStateFollows s) (hpc : s.chg = .install iftype) :
    VifStateFollows (s.install iftype) ↔ KeepsVifState s (.chg .install) := by
  have hinst := LinkState.isMonitor_install hv iftype
  have hkeeps : KeepsVifState s (.chg .install) ↔
      (s.up = true → (iftype = .monitor ↔ s.vif.isMonitor = true)) := by
    constructor
    · intro hk
      exact hk.1 iftype ((installs_install hpc iftype).mpr rfl)
    · intro hk
      refine ⟨fun t ht => ?_, by simp⟩
      rwa [(installs_install hpc t).mp ht]
  rw [hkeeps, ← hinst]
  show (s.fwState = 1 ↔ s.up = true ∧ (s.install iftype).vif.isMonitor = false) ↔ _
  rw [show s.fwState = 1 ↔ s.up = true ∧ s.vif.isMonitor = false from h, and_congr_right_iff]
  constructor
  · intro hcross hup
    rw [← not_iff_not, Bool.not_eq_true, Bool.not_eq_true]
    exact (hcross hup).symm
  · intro hcross hup
    rw [← not_iff_not, Bool.not_eq_false, Bool.not_eq_false]
    exact (hcross hup).symm

/-- **When a step keeps the firmware's state.** -/
theorem vifStateFollows_step {s s' : LinkState F} {a : LinkAct F} (hv : s.vif.wdev ≠ none)
    (h : VifStateFollows s) (hs : LinkStep s a s') : VifStateFollows s' ↔ KeepsVifState s a := by
  cases hs with
  | openMonitor hdown hm =>
    refine iff_of_true ?_ (keepsVifState_of_none rfl (by simp))
    have hm' : s.vif.carrierOn.isMonitor = true := hm
    simpa [VifStateFollows, hdown, hm, hm'] using h
  | openFmac hdown hm hok =>
    exact iff_of_true (by simp [VifStateFollows, hm]) (keepsVifState_of_none rfl (by simp))
  | openFailed hdown hm hok =>
    refine iff_of_true ?_ (keepsVifState_of_none rfl (by simp))
    simpa [VifStateFollows, hdown] using h
  | stopMonitor hup hm =>
    refine iff_of_true ?_ ⟨by simp [LinkState.installs], fun _ _ _ hf => ?_⟩
    · simpa [VifStateFollows, hup, hm] using h
    · exact absurd (hm.symm.trans hf) (by simp)
  | stopFmac hup hm hok =>
    refine iff_of_true (by simp [VifStateFollows]) ⟨by simp [LinkState.installs], ?_⟩
    rintro alloc' fmac' ha -
    rw [LinkAct.ndoStop.injEq] at ha
    rwa [← ha.1, ← ha.2]
  | stopFailed hup hm hok =>
    refine iff_of_false ?_ fun hk => ?_
    · simpa [VifStateFollows, hup, hm] using h
    · exact absurd (hk.2 _ _ rfl hm) (by simp [hok])
  | @chg a v pc hc =>
    by_cases ha : a = .install
    · subst ha
      obtain ⟨iftype, hpc, rfl, rfl⟩ := hc.install_inv
      exact vifStateFollows_install hv h hpc
    · refine iff_of_true ?_ (keepsVifState_of_none (installs_eq_none ha) (by simp))
      simpa [VifStateFollows, hc.isMonitor ha] using h
  | @ifState state =>
    refine iff_of_true ?_ (keepsVifState_of_none rfl (by simp))
    cases state <;> exact h
  | startXmit hsame =>
    refine iff_of_true ?_ (keepsVifState_of_none rfl (by simp))
    simpa [VifStateFollows, hsame.isMonitor] using h
  | dataTx hidle hmode =>
    refine iff_of_true ?_ (keepsVifState_of_none rfl (by simp))
    have hm := isMonitor_of_dataTx hmode
    simpa [VifStateFollows, hm] using h

/-- A freshly added interface has a `wdev`. -/
theorem init_attached (dev : DevCtx) (iftype : IfType) (fmacVif : Option FmacVif) :
    (LinkState.init F dev iftype fmacVif).vif.wdev ≠ none := by
  show (nrfWifiNetdevSetIftype _ iftype).wdev ≠ none
  rw [setIftype_wdev]
  simp

/-- **When the firmware's state follows the interface.** From a freshly added interface of any
type, exactly in the runs whose every step keeps it. -/
theorem vif_state_follows_iff (dev : DevCtx) (iftype : IfType) (fmacVif : Option FmacVif)
    {acts : List (LinkAct F)} {s' : LinkState F} {u : List (TxEvent F)}
    (hexec : (linkMachine F).exec (.init F dev iftype fmacVif) acts = some (s', u)) :
    (linkMachine F).Throughout VifStateFollows (.init F dev iftype fmacVif) acts ↔
      (linkMachine F).Along KeepsVifState (.init F dev iftype fmacVif) acts := by
  have h : VifStateFollows (LinkState.init F dev iftype fmacVif) := by
    simp [VifStateFollows, LinkState.init]
  exact (linkMachine F).throughout_iff_along_of_invariant (Q := fun s => s.vif.wdev ≠ none)
    (fun hv hs => (linkStep_sound hs).attached hv)
    (fun hv hP hs => vifStateFollows_step hv hP (linkStep_sound hs))
    (init_attached dev iftype fmacVif) h hexec

/-- The steps of a change to MONITOR. -/
def changeToMonitor : List (LinkAct F) :=
  [.chg (.enter .monitor), .chg .force, .chg .install, .chg .setLink, .chg .carrier]

/-- Storing a type in an interface that is down keeps it, and so does a close that succeeds. -/
theorem keepsVifState_of_down {s : LinkState F} {c : ChgAct} (h : s.up = false) :
    KeepsVifState s (.chg c) := by
  refine ⟨fun _ _ hup => ?_, by simp⟩
  rw [h] at hup
  exact absurd hup (by simp)

theorem keepsVifState_ndoStop (s : LinkState F) : KeepsVifState s (.ndoStop true true) := by
  refine ⟨by simp [LinkState.installs], ?_⟩
  rintro alloc fmac ha -
  rw [LinkAct.ndoStop.injEq] at ha
  rw [← ha.1, ← ha.2]
  rfl

/-- A station is brought up and down, made a monitor while it is down, and brought up again. -/
theorem vif_state_follows_station :
    (linkMachine ℕ).Throughout VifStateFollows (.init ℕ .zero .station none)
      ([.ndoOpen true true, .ndoStop true true] ++ changeToMonitor ++ [.ndoOpen true true]) := by
  refine (vif_state_follows_iff .zero .station none rfl).mpr ?_
  have hopen : ∀ s : LinkState ℕ, KeepsVifState s (.ndoOpen true true) := fun _ =>
    keepsVifState_of_none rfl (by simp)
  simp only [changeToMonitor, List.cons_append, List.nil_append]
  refine ((linkMachine ℕ).along_cons rfl).mpr ⟨hopen _, ?_⟩
  refine ((linkMachine ℕ).along_cons rfl).mpr ⟨keepsVifState_ndoStop _, ?_⟩
  refine ((linkMachine ℕ).along_cons rfl).mpr ⟨keepsVifState_of_down rfl, ?_⟩
  refine ((linkMachine ℕ).along_cons rfl).mpr ⟨keepsVifState_of_down rfl, ?_⟩
  refine ((linkMachine ℕ).along_cons rfl).mpr ⟨keepsVifState_of_down rfl, ?_⟩
  refine ((linkMachine ℕ).along_cons rfl).mpr ⟨keepsVifState_of_down rfl, ?_⟩
  refine ((linkMachine ℕ).along_cons rfl).mpr ⟨keepsVifState_of_down rfl, ?_⟩
  exact ((linkMachine ℕ).along_cons rfl).mpr ⟨hopen _, trivial⟩

/-- A station that becomes a monitor while it is up stays up in the firmware. -/
theorem vif_state_left_up :
    ¬ (linkMachine ℕ).Throughout (fun s => s.chg = .idle → VifStateFollows s)
      (.init ℕ .zero .station none) (.ndoOpen true true :: changeToMonitor) := by
  intro h
  have hlast := h _ _ [] (List.prefix_refl _) rfl rfl
  exact absurd (hlast.mp rfl).2 (by decide)

/-! ### The injector flags -/

/-- The injector flags are those of the mode, but for the moment in which a change of type has
written them and not yet the type. -/
def InjectionAt (v : VifCtx F) (pc : ChgPc) : Prop :=
  ∀ f, v.fmacVif = some f →
    (pc.stores ≠ some .monitor → (f.txinjectionMode = true ↔ v.isMonitor = true)) ∧
      (pc.stores = none → (f.ifType = .monitorTxInjector ↔ v.isMonitor = true))

/-- What holds beside that whatever happens: the contexts exist, a type about to be stored has its
flags written, and a call that asks the firmware does not ask for MONITOR. -/
structure InjectionInv (v : VifCtx F) (pc : ChgPc) : Prop where
  attached : v.wdev ≠ none
  exists_fmacVif : v.fmacVif ≠ none
  forced : pc.stores = some .monitor →
    ∀ f, v.fmacVif = some f → f = ⟨.monitorTxInjector, true⟩
  updated : ∀ iftype, pc.stores = some iftype → iftype ≠ .monitor →
    ∀ f, v.fmacVif = some f → f.ifType = .nl iftype
  asks : ∀ iftype, pc.asksFor = some iftype → iftype ≠ .monitor

/-- The step does not store another type while the interface is a monitor. -/
def LeavesNoInjection (s : LinkState F) (a : LinkAct F) : Prop :=
  ∀ iftype, s.installs a = some iftype → iftype ≠ .monitor → s.vif.isMonitor = false

theorem leavesNoInjection_of_none {s : LinkState F} {a : LinkAct F} (h : s.installs a = none) :
    LeavesNoInjection s a :=
  fun _ hi => absurd (h.symm.trans hi) (by simp)

section Injection

variable {v v' : VifCtx F} {pc pc' : ChgPc} {c : ChgAct}

theorem injectionAt_congr (hw : v'.wdev = v.wdev) (hf : v'.fmacVif = v.fmacVif)
    (hpc : pc'.stores = pc.stores) : InjectionAt v' pc' ↔ InjectionAt v pc := by
  rw [InjectionAt, InjectionAt, VifCtx.isMonitor, VifCtx.isMonitor, hw, hf, hpc]

/-- A step that leaves the contexts alone and is about to store nothing. -/
theorem InjectionInv.of_eq (h : InjectionInv v pc) (hw : v'.wdev = v.wdev)
    (hf : v'.fmacVif = v.fmacVif) (hstores : pc'.stores = none)
    (hasks : ∀ iftype, pc'.asksFor = some iftype → iftype ≠ .monitor) : InjectionInv v' pc' where
  attached := by rw [hw]; exact h.attached
  exists_fmacVif := by rw [hf]; exact h.exists_fmacVif
  forced := fun hs => absurd (hstores.symm.trans hs) (by simp)
  updated := fun _ hs => absurd (hstores.symm.trans hs) (by simp)
  asks := hasks

@[simp] theorem setIftype_fmacVif (v : VifCtx F) (iftype : IfType) :
    (nrfWifiNetdevSetIftype v iftype).fmacVif = v.fmacVif := by
  rw [nrfWifiNetdevSetIftype]
  split <;> rfl

theorem InjectionInv.chgStep (h : InjectionInv v pc) (hs : ChgStep v pc c v' pc') :
    InjectionInv v' pc' := by
  cases hs with
  | enterMonitor => exact h.of_eq rfl rfl rfl (by simp [ChgPc.asksFor])
  | enter hne => exact h.of_eq rfl rfl rfl (by simpa [ChgPc.asksFor] using hne)
  | force =>
    refine ⟨h.attached, by simpa [VifCtx.assertInjector] using h.exists_fmacVif, ?_, ?_, ?_⟩
    · intro _ f hf
      rw [VifCtx.assertInjector, Option.map_eq_some_iff] at hf
      obtain ⟨_, -, rfl⟩ := hf
      rfl
    · intro iftype hst hne
      exact absurd (Option.some.inj hst).symm hne
    · simp [ChgPc.asksFor]
  | @alloc iftype ok | @send iftype ok =>
    have hne := h.asks iftype rfl
    cases ok
    · exact h.of_eq rfl rfl rfl (by simp [ChgPc.asksFor])
    · exact h.of_eq rfl rfl rfl (by simpa [ChgPc.asksFor] using hne)
  | @pollEnd iftype =>
    have hne := h.asks iftype rfl
    exact h.of_eq rfl rfl rfl (by simpa [ChgPc.asksFor] using hne)
  | @poll iftype n =>
    have hne := h.asks iftype rfl
    split
    · exact h.of_eq rfl rfl rfl (by simpa [ChgPc.asksFor] using hne)
    · exact h.of_eq rfl rfl rfl (by simpa [ChgPc.asksFor] using hne)
  | @judge iftype =>
    have hne := h.asks iftype rfl
    split
    · exact h.of_eq rfl rfl rfl (by simpa [ChgPc.asksFor] using hne)
    · exact h.of_eq rfl rfl rfl (by simp [ChgPc.asksFor])
  | @update iftype =>
    have hne := h.asks iftype rfl
    refine ⟨h.attached, by simpa [VifCtx.updateIfType] using h.exists_fmacVif, ?_, ?_, ?_⟩
    · intro hst
      exact absurd (Option.some.inj hst) hne
    · intro iftype' hst _ f hf
      rw [VifCtx.updateIfType, Option.map_eq_some_iff] at hf
      obtain ⟨_, -, rfl⟩ := hf
      rw [← Option.some.inj hst]
    · simp [ChgPc.asksFor]
  | install =>
    refine ⟨by simpa using h.attached, h.exists_fmacVif, ?_, ?_, ?_⟩
    · simp [ChgPc.stores]
    · simp [ChgPc.stores]
    · simp [ChgPc.asksFor]
  | setLink =>
    refine h.of_eq (setIftype_wdev v _) (setIftype_fmacVif v _) ?_ ?_
    · split <;> rfl
    · split <;> simp [ChgPc.asksFor]
  | carrier | out => exact h.of_eq rfl rfl rfl (by simp [ChgPc.asksFor])
  | setIfEvent => exact ⟨h.attached, h.exists_fmacVif, h.forced, h.updated, h.asks⟩

/-- Storing the type brings the flags and the type together again, unless the injection mode of a
monitor is left behind. -/
theorem injectionAt_install {iftype : IfType} (hinv : InjectionInv v (.install iftype))
    (h : InjectionAt v (.install iftype)) :
    InjectionAt { v with wdev := v.wdev.map fun _ => iftype } (.setLink iftype) ↔
      (iftype ≠ .monitor → v.isMonitor = false) := by
  have hmon := isMonitor_installed hinv.attached iftype
  obtain ⟨f, hf⟩ := Option.ne_none_iff_exists'.mp hinv.exists_fmacVif
  by_cases ht : iftype = .monitor
  · refine iff_of_true (fun f' hf' => ?_) fun hne => absurd ht hne
    obtain rfl : f' = ⟨.monitorTxInjector, true⟩ := hinv.forced (by rw [ht]; rfl) f' hf'
    exact ⟨fun _ => iff_of_true rfl (hmon.mpr ht), fun _ => iff_of_true rfl (hmon.mpr ht)⟩
  · have hstores : (ChgPc.install iftype).stores ≠ some .monitor :=
      fun hst => ht (Option.some.inj hst)
    have hold := (h f hf).1 hstores
    constructor
    · intro hnew _
      have hflag := (hnew f hf).1 (by simp [ChgPc.stores])
      rw [hmon, hold] at hflag
      exact Bool.eq_false_iff.mpr fun hm => ht (hflag.mp hm)
    · intro hno f' hf'
      obtain rfl : f = f' := Option.some.inj (hf.symm.trans hf')
      have hwas := hno ht
      have htype := hinv.updated iftype rfl ht f hf
      simp [hmon, ht, hold, hwas, htype]

/-- One step of a call keeps the flags exactly when it does not store another type on a
monitor. -/
theorem injectionAt_chgStep (hinv : InjectionInv v pc) (h : InjectionAt v pc)
    (hs : ChgStep v pc c v' pc') :
    InjectionAt v' pc' ↔
      ∀ iftype, c = .install → pc.stores = some iftype → iftype ≠ .monitor →
        v.isMonitor = false := by
  have hother (hc : c ≠ .install) (h' : InjectionAt v' pc') :
      InjectionAt v' pc' ↔ ∀ iftype, c = .install → pc.stores = some iftype →
        iftype ≠ .monitor → v.isMonitor = false :=
    iff_of_true h' fun _ heq => absurd heq hc
  cases hs with
  | force => exact hother (by simp) fun f _ => ⟨fun hne => absurd rfl hne, by simp [ChgPc.stores]⟩
  | @update iftype =>
    refine hother (by simp) fun f hf => ⟨fun _ => ?_, by simp [ChgPc.stores]⟩
    rw [VifCtx.updateIfType, Option.map_eq_some_iff] at hf
    obtain ⟨f₀, hf₀, rfl⟩ := hf
    exact (h f₀ hf₀).1 (by simp [ChgPc.stores])
  | @install iftype =>
    rw [injectionAt_install hinv h]
    constructor
    · rintro hk t - hst
      obtain rfl : iftype = t := Option.some.inj hst
      exact hk
    · intro hk
      exact hk iftype rfl rfl
  | setLink =>
    have hfmac := setIftype_fmacVif v
    refine hother (by simp) ((injectionAt_congr (setIftype_wdev v _) (hfmac _) ?_).mpr h)
    split <;> rfl
  | alloc | send | poll | judge =>
    refine hother (by simp) ((injectionAt_congr rfl rfl ?_).mpr h)
    split <;> rfl
  | _ => exact hother (by simp) ((injectionAt_congr rfl rfl rfl).mpr h)

theorem injectionInv_step {s s' : LinkState F} {a : LinkAct F} (h : InjectionInv s.vif s.chg)
    (hs : LinkStep s a s') : InjectionInv s'.vif s'.chg := by
  cases hs with
  | chg hc => exact h.chgStep hc
  | @ifState state =>
    cases state <;> exact ⟨h.attached, h.exists_fmacVif, h.forced, h.updated, h.asks⟩
  | startXmit hsame =>
    refine ⟨by rw [hsame.wdev]; exact h.attached, by rw [hsame.fmacVif]; exact h.exists_fmacVif,
      fun hst f hf => ?_, fun iftype hst hne f hf => ?_, h.asks⟩
    · exact h.forced hst f (hsame.fmacVif.symm.trans hf)
    · exact h.updated iftype hst hne f (hsame.fmacVif.symm.trans hf)
  | @dataTx prep xmit dev v hidle hmode =>
    have hstores : s.chg.stores = none := by rw [hidle]; rfl
    have hinj : InjectionInv s.vif.assertInjector s.chg :=
      ⟨h.attached, by simpa [VifCtx.assertInjector] using h.exists_fmacVif,
        fun hst => absurd (hstores.symm.trans hst) (by simp),
        fun _ hst => absurd (hstores.symm.trans hst) (by simp), h.asks⟩
    rcases hmode with hsame | ⟨-, hsame⟩
    · exact h.of_eq hsame.wdev hsame.fmacVif hstores h.asks
    · exact hinj.of_eq hsame.wdev hsame.fmacVif hstores h.asks
  | _ => exact ⟨h.attached, h.exists_fmacVif, h.forced, h.updated, h.asks⟩

theorem injectionFollows_step {s s' : LinkState F} {a : LinkAct F}
    (hinv : InjectionInv s.vif s.chg) (h : InjectionAt s.vif s.chg) (hs : LinkStep s a s') :
    InjectionAt s'.vif s'.chg ↔ LeavesNoInjection s a := by
  have hother (hn : s.installs a = none) (h' : InjectionAt s'.vif s'.chg) :
      InjectionAt s'.vif s'.chg ↔ LeavesNoInjection s a :=
    iff_of_true h' (leavesNoInjection_of_none hn)
  cases hs with
  | @chg c v pc hc =>
    rw [injectionAt_chgStep hinv h hc, LeavesNoInjection]
    constructor
    · intro hk iftype hi
      by_cases hin : c = .install
      · subst hin
        exact hk iftype rfl hi
      · exact absurd ((installs_eq_none hin).symm.trans hi) (by simp)
    · rintro hk iftype rfl hst
      exact hk iftype hst
  | @ifState state => exact hother rfl (by cases state <;> exact h)
  | startXmit hsame => exact hother rfl ((injectionAt_congr hsame.wdev hsame.fmacVif rfl).mpr h)
  | @dataTx prep xmit dev v hidle hmode =>
    refine hother rfl ?_
    rcases hmode with hsame | ⟨hm, hsame⟩
    · exact (injectionAt_congr hsame.wdev hsame.fmacVif rfl).mpr h
    · intro f hf
      have hm' : v.isMonitor = true := hsame.isMonitor.trans hm
      rw [hsame.fmacVif, VifCtx.assertInjector, Option.map_eq_some_iff] at hf
      obtain ⟨_, -, rfl⟩ := hf
      exact ⟨fun _ => iff_of_true rfl hm', fun _ => iff_of_true rfl hm'⟩
  | _ => exact hother rfl h

end Injection

/-- The injector flags follow the mode: between two calls, both are set exactly for a monitor. -/
def InjectionFollows (s : LinkState F) : Prop := InjectionAt s.vif s.chg

/-- A station as it is added, with FMAC's context for it. -/
def LinkState.initStation (F : Type) (dev : DevCtx) : LinkState F :=
  .init F dev .station (some ⟨.nl .station, false⟩)

/-- **When the injector flags follow the mode.** From a freshly added station, exactly in the runs
that never store another type on a monitor. -/
theorem injection_follows_iff (dev : DevCtx) {acts : List (LinkAct F)} {s' : LinkState F}
    {u : List (TxEvent F)} (hexec : (linkMachine F).exec (.initStation F dev) acts = some (s', u)) :
    (linkMachine F).Throughout InjectionFollows (.initStation F dev) acts ↔
      (linkMachine F).Along LeavesNoInjection (.initStation F dev) acts := by
  have hfmac : (LinkState.initStation F dev).vif.fmacVif = some ⟨.nl .station, false⟩ := rfl
  have hidle : (LinkState.initStation F dev).chg = .idle := rfl
  have hmon : (LinkState.initStation F dev).vif.isMonitor = false := rfl
  have hinv : InjectionInv (LinkState.initStation F dev).vif (LinkState.initStation F dev).chg := by
    refine ⟨init_attached dev .station _, by simp [hfmac], ?_, ?_, ?_⟩
    all_goals simp [hidle, ChgPc.stores, ChgPc.asksFor]
  have h : InjectionFollows (LinkState.initStation F dev) := by
    intro f hf
    rw [hfmac, Option.some.injEq] at hf
    subst hf
    simp [hmon]
  exact (linkMachine F).throughout_iff_along_of_invariant
    (Q := fun s => InjectionInv s.vif s.chg) (fun hi hs => injectionInv_step hi (linkStep_sound hs))
    (fun hi hP hs => injectionFollows_step hi hP (linkStep_sound hs)) hinv h hexec

/-- A station becomes a monitor and runs the TX work. -/
theorem injection_follows_monitor :
    (linkMachine ℕ).Throughout InjectionFollows (.initStation ℕ .zero)
      (changeToMonitor ++ [.dataTx false true]) := by
  refine (injection_follows_iff .zero rfl).mpr ?_
  simp only [changeToMonitor, List.cons_append, List.nil_append]
  refine ((linkMachine ℕ).along_cons rfl).mpr ⟨leavesNoInjection_of_none rfl, ?_⟩
  refine ((linkMachine ℕ).along_cons rfl).mpr ⟨leavesNoInjection_of_none rfl, ?_⟩
  refine ((linkMachine ℕ).along_cons rfl).mpr ⟨fun t ht hne => ?_, ?_⟩
  · exact absurd (Option.some.inj ht).symm hne
  refine ((linkMachine ℕ).along_cons rfl).mpr ⟨leavesNoInjection_of_none rfl, ?_⟩
  refine ((linkMachine ℕ).along_cons rfl).mpr ⟨leavesNoInjection_of_none rfl, ?_⟩
  exact ((linkMachine ℕ).along_cons rfl).mpr ⟨leavesNoInjection_of_none rfl, trivial⟩

/-- The steps of an accepted change to another type. -/
def acceptedChangeTo (iftype : IfType) : List (LinkAct F) :=
  [.chg (.enter iftype), .chg (.alloc true), .chg (.send true), .chg (.setIfEvent 0), .chg .poll,
    .chg .judge, .chg .update, .chg .install, .chg .setLink, .chg .out]

/-- A monitor that becomes a station again keeps the injection mode. -/
theorem injection_mode_kept :
    ¬ (linkMachine ℕ).Throughout (fun s => s.chg = .idle → InjectionFollows s)
      (.initStation ℕ .zero) (changeToMonitor ++ acceptedChangeTo .station) := by
  intro h
  have hlast := h _ _ [] (List.prefix_refl _) rfl rfl _ rfl
  exact absurd ((hlast.1 (by decide)).mp rfl) (by decide)

/-! ### The carrier -/

/-- A call that has stored MONITOR has also raised the carrier. -/
def ChgPc.Settled (pc : ChgPc) : Prop := pc ≠ .setLink .monitor ∧ pc ≠ .carrier

/-- A monitor that is up has the carrier, but for the moment in which a call has stored the type and
not yet raised it; an interface that has left MONITOR has it only on the firmware's word. -/
structure CarrierFollows (s : LinkState F) : Prop where
  monitor : s.up = true → s.vif.isMonitor = true → s.chg.Settled → s.vif.netdev.carrier = true
  left : s.leftMonitor = true → s.vif.isMonitor = false → s.vif.netdev.carrier = true →
    s.lastCarr = some .on

/-- The context has a `wdev`, and a call that still has to raise the carrier is on a monitor. -/
structure CarrierInv (s : LinkState F) : Prop where
  attached : s.vif.wdev ≠ none
  isMonitor : ¬ s.chg.Settled → s.vif.isMonitor = true

/-- The firmware reports no OFF for a monitor that is up, and no change out of MONITOR finds a
carrier that the firmware's last report did not raise. -/
def KeepsCarrier (s : LinkState F) (a : LinkAct F) : Prop :=
  (a = .ifState .off → s.up = true → s.vif.isMonitor = true → ¬ s.chg.Settled) ∧
    ∀ iftype, s.installs a = some iftype → iftype ≠ .monitor → s.vif.isMonitor = true →
      s.vif.netdev.carrier = true → s.lastCarr = some .on

theorem keepsCarrier_of_none {s : LinkState F} {a : LinkAct F} (h : s.installs a = none)
    (hoff : a ≠ .ifState .off) : KeepsCarrier s a :=
  ⟨fun ha => absurd ha hoff, fun _ hi => absurd (h.symm.trans hi) (by simp)⟩

@[simp] theorem setIftype_carrier (v : VifCtx F) (iftype : IfType) :
    (nrfWifiNetdevSetIftype v iftype).netdev.carrier = v.netdev.carrier := by
  rw [nrfWifiNetdevSetIftype]
  split <;> rfl

theorem ChgStep.carrier_inv {v v' : VifCtx F} {pc pc' : ChgPc}
    (h : ChgStep v pc .carrier v' pc') : pc = .carrier ∧ v' = v.carrierOn ∧ pc' = .idle := by
  cases h
  exact ⟨rfl, rfl, rfl⟩

/-- Only its last step on a monitor lets a call touch the carrier. -/
theorem ChgStep.carrier_eq {v v' : VifCtx F} {pc pc' : ChgPc} {c : ChgAct}
    (h : ChgStep v pc c v' pc') (hc : c ≠ .carrier) :
    v'.netdev.carrier = v.netdev.carrier := by
  cases h with
  | setLink => exact setIftype_carrier v _
  | carrier => exact absurd rfl hc
  | _ => rfl

/-- Between storing the type and raising the carrier a call stays unsettled, and elsewhere
settled. -/
theorem ChgStep.settled_iff {v v' : VifCtx F} {pc pc' : ChgPc} {c : ChgAct}
    (h : ChgStep v pc c v' pc') (hi : c ≠ .install) (hc : c ≠ .carrier) :
    pc'.Settled ↔ pc.Settled := by
  cases h with
  | install => exact absurd rfl hi
  | carrier => exact absurd rfl hc
  | @setLink iftype =>
    by_cases ht : iftype = .monitor
    · simp [ChgPc.Settled, ht]
    · simp [ChgPc.Settled, ht]
  | alloc | send | poll | judge =>
    split <;> simp [ChgPc.Settled]
  | _ => simp [ChgPc.Settled]

theorem CarrierInv.step {s s' : LinkState F} {a : LinkAct F} (h : CarrierInv s)
    (hs : LinkStep s a s') : CarrierInv s' := by
  refine ⟨hs.attached h.attached, ?_⟩
  cases hs with
  | @chg c v pc hc =>
    by_cases hi : c = .install
    · subst hi
      obtain ⟨iftype, -, rfl, rfl⟩ := hc.install_inv
      intro hns
      refine (isMonitor_installed h.attached iftype).mpr (not_not.mp fun ht => hns ?_)
      exact ⟨fun heq => ht (ChgPc.setLink.inj heq), by simp⟩
    · intro hns
      refine (hc.isMonitor hi).trans (h.isMonitor fun hset => hns ?_)
      by_cases hcar : c = .carrier
      · subst hcar
        obtain ⟨-, -, rfl⟩ := hc.carrier_inv
        exact ⟨by simp, by simp⟩
      · exact (hc.settled_iff hi hcar).mpr hset
  | @ifState state => cases state <;> exact h.isMonitor
  | startXmit hsame => exact fun hns => hsame.isMonitor.trans (h.isMonitor hns)
  | dataTx hidle hmode => exact fun hns => (isMonitor_of_dataTx hmode).trans (h.isMonitor hns)
  | _ => exact h.isMonitor

/-- A step that changes nothing the carrier depends on. -/
theorem CarrierFollows.of_eq {s s' : LinkState F} (h : CarrierFollows s)
    (hup : s'.up = true → s.up = true) (hm : s'.vif.isMonitor = s.vif.isMonitor)
    (hset : s'.chg.Settled → s.chg.Settled)
    (hcar : s'.vif.netdev.carrier = s.vif.netdev.carrier)
    (hleft : s'.leftMonitor = s.leftMonitor) (hlast : s'.lastCarr = s.lastCarr) :
    CarrierFollows s' where
  monitor := by
    intro hu hmon hs
    rw [hcar]
    exact h.monitor (hup hu) (hm.symm.trans hmon) (hset hs)
  left := by
    rw [hleft, hm, hcar, hlast]
    exact h.left

/-- Storing the type keeps it, unless that leaves MONITOR with a carrier of the host's own. -/
theorem carrierFollows_install {s : LinkState F} {iftype : IfType} (hinv : CarrierInv s)
    (h : CarrierFollows s) (hpc : s.chg = .install iftype) :
    CarrierFollows (s.install iftype) ↔ KeepsCarrier s (.chg .install) := by
  have hinst := LinkState.isMonitor_install hinv.attached iftype
  have hleft : (s.install iftype).leftMonitor =
      (s.leftMonitor || (s.vif.isMonitor && !(s.install iftype).vif.isMonitor)) := rfl
  have hkeeps : KeepsCarrier s (.chg .install) ↔ (iftype ≠ .monitor → s.vif.isMonitor = true →
      s.vif.netdev.carrier = true → s.lastCarr = some .on) := by
    constructor
    · intro hk
      exact hk.2 iftype ((installs_install hpc iftype).mpr rfl)
    · intro hk
      refine ⟨by simp, fun t ht => ?_⟩
      rwa [(installs_install hpc t).mp ht]
  rw [hkeeps]
  constructor
  · intro h' hne hm hcar
    have hm' := Bool.eq_false_iff.mpr fun hmon => hne (hinst.mp hmon)
    exact h'.left (by simp [hleft, hm, hm']) hm' hcar
  · intro hk
    refine ⟨fun _ hm' hset => ?_, fun hleft' hm' hcar => ?_⟩
    · exact absurd (congrArg ChgPc.setLink (hinst.mp hm')) hset.1
    · have hne : iftype ≠ .monitor := fun ht => absurd (hinst.mpr ht) (by simp [hm'])
      cases hm : s.vif.isMonitor with
      | true => exact hk hne hm hcar
      | false =>
        rw [hleft, hm, Bool.false_and, Bool.or_false] at hleft'
        exact h.left hleft' hm hcar

/-- **When a step keeps the carrier.** -/
theorem carrierFollows_step {s s' : LinkState F} {a : LinkAct F} (hinv : CarrierInv s)
    (h : CarrierFollows s) (hs : LinkStep s a s') : CarrierFollows s' ↔ KeepsCarrier s a := by
  cases hs with
  | openMonitor hdown hm =>
    refine iff_of_true ⟨fun _ _ _ => rfl, fun _ hm' => ?_⟩ (keepsCarrier_of_none rfl (by simp))
    exact absurd (hm.symm.trans hm') (by simp)
  | openFmac hdown hm hok =>
    refine iff_of_true ⟨fun _ hm' => ?_, h.left⟩ (keepsCarrier_of_none rfl (by simp))
    exact absurd (hm.symm.trans hm') (by simp)
  | openFailed hdown hm hok | stopFailed hup hm hok =>
    refine iff_of_true ?_ (keepsCarrier_of_none rfl (by simp))
    exact ⟨fun hu => absurd hu (by simp), h.left⟩
  | stopMonitor hup hm | stopFmac hup hm hok =>
    refine iff_of_true ?_ (keepsCarrier_of_none rfl (by simp))
    exact ⟨fun hu => absurd hu (by simp), fun _ _ hcar => absurd hcar (by simp [VifCtx.carrierOff])⟩
  | @chg c v pc hc =>
    by_cases hi : c = .install
    · subst hi
      obtain ⟨iftype, hpc, rfl, rfl⟩ := hc.install_inv
      exact carrierFollows_install hinv h hpc
    refine iff_of_true ?_ (keepsCarrier_of_none (installs_eq_none hi) (by simp))
    by_cases hcar : c = .carrier
    · subst hcar
      obtain ⟨hpc, rfl, rfl⟩ := hc.carrier_inv
      have hm : s.vif.isMonitor = true := hinv.isMonitor fun hset => hset.2 hpc
      refine ⟨fun _ _ _ => rfl, fun _ hm' => ?_⟩
      exact absurd (hm.symm.trans hm') (by simp)
    · have hm := hc.isMonitor hi
      refine h.of_eq id hm (hc.settled_iff hi hcar).mp (hc.carrier_eq hcar) ?_ rfl
      simp [hm]
  | @ifState state =>
    cases state with
    | on =>
      refine iff_of_true ⟨fun _ _ _ => rfl, fun _ _ _ => rfl⟩ (keepsCarrier_of_none rfl (by simp))
    | off =>
      constructor
      · intro h'
        refine ⟨fun _ hu hm hset => ?_, by simp [LinkState.installs]⟩
        exact absurd (h'.monitor hu hm hset) (by simp [nrfWifiNetdevIfStateChgCallbkFn,
          VifCtx.carrierOff])
      · intro hk
        refine ⟨fun hu hm hset => absurd hset (hk.1 rfl hu hm), fun _ _ hcar => ?_⟩
        exact absurd hcar (by simp [nrfWifiNetdevIfStateChgCallbkFn, VifCtx.carrierOff])
    | invalid => exact iff_of_true ⟨h.monitor, h.left⟩ (keepsCarrier_of_none rfl (by simp))
  | startXmit hsame =>
    refine iff_of_true ?_ (keepsCarrier_of_none rfl (by simp))
    exact h.of_eq id hsame.isMonitor id hsame.carrier rfl rfl
  | dataTx hidle hmode =>
    refine iff_of_true ?_ (keepsCarrier_of_none rfl (by simp))
    have hcar := carrier_of_dataTx hmode
    exact h.of_eq id (isMonitor_of_dataTx hmode) id hcar rfl rfl

/-- **When the carrier follows the mode.** From a freshly added interface of any type, exactly in
the runs whose every step keeps it. -/
theorem carrier_follows_iff (dev : DevCtx) (iftype : IfType) (fmacVif : Option FmacVif)
    {acts : List (LinkAct F)} {s' : LinkState F} {u : List (TxEvent F)}
    (hexec : (linkMachine F).exec (.init F dev iftype fmacVif) acts = some (s', u)) :
    (linkMachine F).Throughout CarrierFollows (.init F dev iftype fmacVif) acts ↔
      (linkMachine F).Along KeepsCarrier (.init F dev iftype fmacVif) acts := by
  have hup : (LinkState.init F dev iftype fmacVif).up = false := rfl
  have hleft : (LinkState.init F dev iftype fmacVif).leftMonitor = false := rfl
  have hidle : (LinkState.init F dev iftype fmacVif).chg = .idle := rfl
  have hinv : CarrierInv (LinkState.init F dev iftype fmacVif) :=
    ⟨init_attached dev iftype fmacVif, fun hns => absurd hns (by simp [hidle, ChgPc.Settled])⟩
  have h : CarrierFollows (LinkState.init F dev iftype fmacVif) :=
    ⟨fun hu => absurd hu (by simp [hup]), fun hl => absurd hl (by simp [hleft])⟩
  exact (linkMachine F).throughout_iff_along_of_invariant
    (Q := CarrierInv) (fun hi hs => hi.step (linkStep_sound hs))
    (fun hi hP hs => carrierFollows_step hi hP (linkStep_sound hs)) hinv h hexec

/-- A station is brought up, loses its carrier, becomes a monitor while it is up and is closed. -/
theorem carrier_follows_monitor :
    (linkMachine ℕ).Throughout CarrierFollows (.init ℕ .zero .station none)
      (.ndoOpen true true :: .ifState .off :: changeToMonitor ++ [.ndoStop true true]) := by
  refine (carrier_follows_iff .zero .station none rfl).mpr ?_
  simp only [changeToMonitor, List.cons_append, List.nil_append]
  refine ((linkMachine ℕ).along_cons rfl).mpr ⟨keepsCarrier_of_none rfl (by simp), ?_⟩
  refine ((linkMachine ℕ).along_cons rfl).mpr ⟨⟨fun _ _ hm => ?_, by simp [LinkState.installs]⟩, ?_⟩
  · exact absurd hm (by decide)
  refine ((linkMachine ℕ).along_cons rfl).mpr ⟨keepsCarrier_of_none rfl (by simp), ?_⟩
  refine ((linkMachine ℕ).along_cons rfl).mpr ⟨keepsCarrier_of_none rfl (by simp), ?_⟩
  refine ((linkMachine ℕ).along_cons rfl).mpr ⟨⟨by simp, fun t ht hne => ?_⟩, ?_⟩
  · exact absurd (Option.some.inj ht).symm hne
  refine ((linkMachine ℕ).along_cons rfl).mpr ⟨keepsCarrier_of_none rfl (by simp), ?_⟩
  refine ((linkMachine ℕ).along_cons rfl).mpr ⟨keepsCarrier_of_none rfl (by simp), ?_⟩
  exact ((linkMachine ℕ).along_cons rfl).mpr ⟨keepsCarrier_of_none rfl (by simp), trivial⟩

/-- Either half fails: a monitor that is up loses its carrier to a late report of the firmware, and
a station that has been a monitor keeps the carrier the host had forced on. -/
theorem carrier_of_monitor_lost_or_kept :
    ¬ (linkMachine ℕ).Throughout (fun s => s.chg = .idle → CarrierFollows s)
        (.init ℕ .zero .station none) (.ndoOpen true true :: changeToMonitor ++ [.ifState .off]) ∧
      ¬ (linkMachine ℕ).Throughout (fun s => s.chg = .idle → CarrierFollows s)
        (.init ℕ .zero .station none)
        (.ndoOpen true true :: changeToMonitor ++ acceptedChangeTo .station) := by
  constructor
  · intro h
    have hlast := h _ _ [] (List.prefix_refl _) rfl rfl
    exact absurd (hlast.monitor rfl rfl ⟨by decide, by decide⟩) (by decide)
  · intro h
    have hlast := h _ _ [] (List.prefix_refl _) rfl rfl
    exact absurd (hlast.left rfl rfl rfl) (by decide)

end Nrf70
