import Mathlib.Logic.Function.Basic
import Nrf70.Cfg80211.ChgVif
import Nrf70.Lib.Machine

/-!
# A whole change of type

`nrf_wifi_cfg80211_chg_vif` as one function of the outcomes of what it calls. `chgVif_exec` says
that the steps of `ChgVif`, run without interruption, compute it.

The link-layer attributes of an interface are written by `nrf_wifi_netdev_set_iftype` alone, and
always beside `wdev->iftype`: at creation, on the monitor path and after a change the firmware has
accepted. Every exit in between leaves them as they were.

## Main results

* `chgVif_exec` — the whole call is its steps
* `link_layer_follows_type` — attributes and type agree in every state, and a failed change changes
  nothing
-/

namespace Nrf70

variable {F : Type}

/-! ### The call -/

/-- What a call does not control: the allocation of the request, FMAC's answer to it, and the
response that reaches `nrf_wifi_set_if_callbk_fn` during the poll, if one does. -/
structure ChgOutcome where
  alloc : Bool
  fmac : Bool
  response : Option ℤ
  deriving DecidableEq, Repr

/-- `ETIMEDOUT`. -/
def etimedout : ℤ := 110

/-- The event handler, for a response that has come. -/
def VifCtx.respond (v : VifCtx F) : Option ℤ → VifCtx F
  | none => v
  | some returnValue => nrfWifiSetIfCallbkFn v returnValue

/-- The monitor path, which asks nobody. -/
def VifCtx.enterMonitor (v : VifCtx F) : VifCtx F :=
  let v := v.assertInjector
  let v := nrfWifiNetdevSetIftype { v with wdev := v.wdev.map fun _ => .monitor } .monitor
  { v with netdev := { v.netdev with carrier := true } }

/-- The `out` label. -/
def VifCtx.chgOut (v : VifCtx F) : VifCtx F := { v with eventSetIf := false }

/-- What an accepted change stores. -/
def VifCtx.installType (v : VifCtx F) (iftype : IfType) : VifCtx F :=
  let v := v.updateIfType iftype
  nrfWifiNetdevSetIftype { v with wdev := v.wdev.map fun _ => iftype } iftype

/-- `nrf_wifi_cfg80211_chg_vif`, with its return value. -/
def nrfWifiCfg80211ChgVif (v : VifCtx F) (iftype : IfType) (o : ChgOutcome) : VifCtx F × ℤ :=
  if iftype = .monitor then (v.enterMonitor, 0)
  else if !o.alloc then (v.chgOut, -1)
  else if !o.fmac then (v.chgOut, -1)
  else
    let v := v.respond o.response
    if !v.eventSetIf then (v.chgOut, -etimedout)
    else if v.statusSetIf ≠ 0 then (v.chgOut, v.statusSetIf)
    else ((v.installType iftype).chgOut, 0)

/-! ### The call and its steps -/

/-- The steps of calls on one interface, as a machine. -/
def chgMachine (F : Type) : Machine (VifCtx F × ChgPc) ChgAct Unit :=
  ⟨fun s a => (chgStep s.1 s.2 a).map fun p => (p, [])⟩

/-- How a call ends once it has stopped waiting. -/
def chgVerdict (v : VifCtx F) : List ChgAct :=
  if v.eventSetIf ∧ v.statusSetIf = 0 then [.judge, .update, .install, .setLink, .out]
  else [.judge, .out]

/-- The poll: it ends at once when the flag is set, and after the last of fifty sleeps otherwise. -/
def chgPoll (v : VifCtx F) : List ChgAct :=
  if v.eventSetIf then [.poll] else List.replicate 51 .poll

/-- The steps of a call with the given outcomes. -/
def chgCall (v : VifCtx F) (iftype : IfType) (o : ChgOutcome) : List ChgAct :=
  if iftype = .monitor then [.enter .monitor, .force, .install, .setLink, .carrier]
  else if !o.alloc then [.enter iftype, .alloc false, .out]
  else if !o.fmac then [.enter iftype, .alloc true, .send false, .out]
  else
    [.enter iftype, .alloc true, .send true] ++ (o.response.map ChgAct.setIfEvent).toList ++
      (chgPoll (v.respond o.response) ++ chgVerdict (v.respond o.response))

theorem chgMachine_exec_cons {v v₁ : VifCtx F} {pc pc₁ : ChgPc} {a : ChgAct} {as : List ChgAct}
    (h : chgStep v pc a = some (v₁, pc₁)) :
    (chgMachine F).exec (v, pc) (a :: as) = (chgMachine F).exec (v₁, pc₁) as :=
  (chgMachine F).exec_cons_of_silent (by simp [chgMachine, h])

/-- Without an answer the poll runs out. -/
theorem chgMachine_exec_polls {v : VifCtx F} (hv : v.eventSetIf = false) (iftype : IfType)
    (as : List ChgAct) (n : ℕ) :
    (chgMachine F).exec (v, .wait iftype n) (List.replicate (n + 1) .poll ++ as) =
      (chgMachine F).exec (v, .judge iftype) as := by
  induction n with
  | zero =>
    have hstep : chgStep v (.wait iftype 0) .poll = some (v, .judge iftype) := rfl
    exact chgMachine_exec_cons hstep
  | succ n ih =>
    have hstep : chgStep v (.wait iftype (n + 1)) .poll = some (v, .wait iftype n) := by
      simp [chgStep, hv]
    rw [List.replicate_succ, List.cons_append, chgMachine_exec_cons hstep, ih]

/-- However long it takes, the poll ends in front of the two tests. -/
theorem chgMachine_exec_chgPoll (v : VifCtx F) (iftype : IfType) (as : List ChgAct) :
    (chgMachine F).exec (v, .wait iftype 50) (chgPoll v ++ as) =
      (chgMachine F).exec (v, .judge iftype) as := by
  rw [chgPoll]
  split
  · next hv =>
    have hstep : chgStep v (.wait iftype 50) .poll = some (v, .judge iftype) := by
      simp [chgStep, hv]
    exact chgMachine_exec_cons hstep
  · next hv =>
    exact chgMachine_exec_polls (by simpa using hv) iftype as 50

/-- The end of a call, from the two tests on. -/
theorem chgMachine_exec_chgVerdict (v : VifCtx F) {iftype : IfType} (h : iftype ≠ .monitor) :
    (chgMachine F).exec (v, .judge iftype) (chgVerdict v) =
      some ((if !v.eventSetIf then v.chgOut
        else if v.statusSetIf ≠ 0 then v.chgOut
        else (v.installType iftype).chgOut, .idle), []) := by
  cases hv : v.eventSetIf with
  | false => simp [chgVerdict, hv, Machine.exec, chgMachine, chgStep, VifCtx.chgOut]
  | true =>
    by_cases hs : v.statusSetIf = 0
    · simp [chgVerdict, hv, hs, Machine.exec, chgMachine, chgStep, VifCtx.chgOut,
        VifCtx.installType, h]
    · simp [chgVerdict, hv, hs, Machine.exec, chgMachine, chgStep, VifCtx.chgOut]

/-- **A call that is not interrupted is the function.** -/
theorem chgVif_exec (v : VifCtx F) (iftype : IfType) (o : ChgOutcome) :
    (chgMachine F).exec (v, .idle) (chgCall v iftype o) =
      some (((nrfWifiCfg80211ChgVif v iftype o).1, .idle), []) := by
  by_cases hm : iftype = .monitor
  · subst hm
    rfl
  cases ha : o.alloc with
  | false =>
    simp [chgCall, nrfWifiCfg80211ChgVif, hm, ha, Machine.exec, chgMachine, chgStep,
      VifCtx.chgOut]
  | true =>
    cases hf : o.fmac with
    | false =>
      simp [chgCall, nrfWifiCfg80211ChgVif, hm, ha, hf, Machine.exec, chgMachine, chgStep,
        VifCtx.chgOut]
    | true =>
      have hwait : (chgMachine F).exec (v, .idle) (chgCall v iftype o) =
          (chgMachine F).exec (v.respond o.response, .wait iftype 50)
            (chgPoll (v.respond o.response) ++ chgVerdict (v.respond o.response)) := by
        have henter : chgStep v .idle (.enter iftype) = some (v, .alloc iftype) := by
          simp [chgStep, hm]
        have halloc : chgStep v (.alloc iftype) (.alloc true) = some (v, .send iftype) := rfl
        have hsend : chgStep v (.send iftype) (.send true) = some (v, .wait iftype 50) := rfl
        simp only [chgCall, if_neg hm, ha, hf, Bool.not_true, Bool.false_eq_true, if_false,
          List.cons_append, List.nil_append]
        rw [chgMachine_exec_cons henter, chgMachine_exec_cons halloc, chgMachine_exec_cons hsend]
        cases o.response with
        | none => rfl
        | some r => exact chgMachine_exec_cons rfl
      rw [hwait, chgMachine_exec_chgPoll, chgMachine_exec_chgVerdict _ hm]
      simp only [nrfWifiCfg80211ChgVif, if_neg hm, ha, hf, Bool.not_true, Bool.false_eq_true,
        if_false]
      split
      · rfl
      · split <;> rfl

/-! ### A change that fails -/

@[simp] theorem respond_wdev (v : VifCtx F) (r : Option ℤ) : (v.respond r).wdev = v.wdev := by
  cases r <;> rfl

@[simp] theorem respond_netdev (v : VifCtx F) (r : Option ℤ) :
    (v.respond r).netdev = v.netdev := by
  cases r <;> rfl

@[simp] theorem respond_fmacVif (v : VifCtx F) (r : Option ℤ) :
    (v.respond r).fmacVif = v.fmacVif := by
  cases r <;> rfl

@[simp] theorem respond_savedHeaderOps (v : VifCtx F) (r : Option ℤ) :
    (v.respond r).savedHeaderOps = v.savedHeaderOps := by
  cases r <;> rfl

/-- What a call leaves and returns: a failure touches nothing but the event, and a success is
the monitor path or an accepted change. -/
theorem chgVif_cases (v : VifCtx F) (iftype : IfType) (o : ChgOutcome) :
    (∃ r ret, nrfWifiCfg80211ChgVif v iftype o = ((v.respond r).chgOut, ret) ∧ ret ≠ 0) ∨
      (iftype = .monitor ∧ nrfWifiCfg80211ChgVif v iftype o = (v.enterMonitor, 0)) ∨
      (iftype ≠ .monitor ∧ ∃ r,
        nrfWifiCfg80211ChgVif v iftype o = (((v.respond r).installType iftype).chgOut, 0)) := by
  simp only [nrfWifiCfg80211ChgVif]
  split_ifs with hm ha hf he hs
  · exact .inr (.inl ⟨hm, rfl⟩)
  · exact .inl ⟨none, -1, rfl, by decide⟩
  · exact .inl ⟨none, -1, rfl, by decide⟩
  · exact .inl ⟨o.response, -etimedout, rfl, by decide⟩
  · exact .inl ⟨o.response, _, rfl, hs⟩
  · exact .inr (.inr ⟨hm, o.response, rfl⟩)

/-- **A failed change changes nothing**, and takes its event back. -/
theorem chgVif_failed {v : VifCtx F} {iftype : IfType} {o : ChgOutcome}
    (h : (nrfWifiCfg80211ChgVif v iftype o).2 ≠ 0) :
    (nrfWifiCfg80211ChgVif v iftype o).1.wdev = v.wdev ∧
      (nrfWifiCfg80211ChgVif v iftype o).1.netdev = v.netdev ∧
      (nrfWifiCfg80211ChgVif v iftype o).1.fmacVif = v.fmacVif ∧
      (nrfWifiCfg80211ChgVif v iftype o).1.eventSetIf = false := by
  rcases chgVif_cases v iftype o with ⟨r, ret, hr, -⟩ | ⟨-, hr⟩ | ⟨-, r, hr⟩
  · rw [hr]
    simp [VifCtx.chgOut]
  · rw [hr] at h
    exact absurd rfl h
  · rw [hr] at h
    exact absurd rfl h

/-! ### Attributes and type -/

/-- The attributes of a monitor. -/
def Netdev.Radiotap (n : Netdev) : Prop :=
  n.type = .ieee80211Radiotap ∧ n.hardHeaderLen = 0 ∧ n.headerOps = none ∧ n.noarp = true

/-- The attributes of every other interface, with the header operations it was created with. -/
def Netdev.Ethernet (n : Netdev) (ops : Option HeaderOps) : Prop :=
  n.type = .ether ∧ n.hardHeaderLen = ethHlen ∧ n.headerOps = ops ∧ n.noarp = false

instance (n : Netdev) : Decidable n.Radiotap := inferInstanceAs (Decidable (_ ∧ _))

instance (n : Netdev) (ops : Option HeaderOps) : Decidable (n.Ethernet ops) :=
  inferInstanceAs (Decidable (_ ∧ _))

/-- The attributes are those of the type. -/
structure VifCtx.LinkInv (v : VifCtx F) : Prop where
  monitor : v.wdev = some .monitor → v.netdev.Radiotap
  other : v.wdev ≠ some .monitor → v.netdev.Ethernet v.savedHeaderOps
  /-- The operations to go back to are the ones `alloc_etherdev` gave. -/
  saved : v.savedHeaderOps = allocEtherdev.headerOps

variable {v : VifCtx F}

/-- The invariant reads four fields. -/
theorem VifCtx.LinkInv.congr {w : VifCtx F} (h : v.LinkInv) (hwdev : w.wdev = v.wdev)
    (hnetdev : w.netdev = v.netdev) (hsaved : w.savedHeaderOps = v.savedHeaderOps) : w.LinkInv := by
  refine ⟨fun hm => ?_, fun hm => ?_, ?_⟩
  · rw [hnetdev]
    exact h.monitor (hwdev ▸ hm)
  · rw [hnetdev, hsaved]
    exact h.other (hwdev ▸ hm)
  · rw [hsaved, h.saved]

/-- `nrf_wifi_netdev_set_iftype` establishes it, for the type just stored. -/
theorem setIftype_linkInv {iftype : IfType} (hwdev : v.wdev = some iftype)
    (hsaved : v.savedHeaderOps = allocEtherdev.headerOps) :
    (nrfWifiNetdevSetIftype v iftype).LinkInv := by
  by_cases hm : iftype = .monitor
  · subst hm
    refine ⟨fun _ => ⟨rfl, rfl, rfl, rfl⟩, fun hne => ?_, hsaved⟩
    exact absurd hwdev hne
  · rw [nrfWifiNetdevSetIftype, if_neg hm]
    refine ⟨fun hmon => ?_, fun _ => ⟨rfl, rfl, rfl, rfl⟩, hsaved⟩
    have hmon' : v.wdev = some .monitor := hmon
    rw [hwdev, Option.some.injEq] at hmon'
    exact absurd hmon' hm

/-- A radiotap interface is a monitor. -/
theorem VifCtx.LinkInv.monitor_iff (h : v.LinkInv) :
    v.wdev = some .monitor ↔ v.netdev.Radiotap := by
  refine ⟨h.monitor, fun hr => ?_⟩
  by_contra hne
  have htype := (h.other hne).1
  rw [hr.1] at htype
  exact absurd htype (by decide)

/-- An interface that has a `wdev` keeps the invariant through a whole call. -/
theorem VifCtx.LinkInv.chgVif (h : v.LinkInv) (hv : v.wdev ≠ none) (iftype : IfType)
    (o : ChgOutcome) :
    (nrfWifiCfg80211ChgVif v iftype o).1.LinkInv ∧
      (nrfWifiCfg80211ChgVif v iftype o).1.wdev ≠ none := by
  obtain ⟨old, hold⟩ := Option.ne_none_iff_exists'.mp hv
  rcases chgVif_cases v iftype o with ⟨r, ret, hr, -⟩ | ⟨-, hr⟩ | ⟨-, r, hr⟩
  · rw [hr]
    exact ⟨h.congr (by simp [VifCtx.chgOut]) (by simp [VifCtx.chgOut]) (by simp [VifCtx.chgOut]),
      by simpa [VifCtx.chgOut] using hv⟩
  · rw [hr]
    have hset : (nrfWifiNetdevSetIftype
        { v.assertInjector with wdev := v.wdev.map fun _ => .monitor } .monitor).LinkInv :=
      setIftype_linkInv (by simp [hold]) h.saved
    -- the carrier is none of the attributes
    exact ⟨⟨hset.monitor, hset.other, hset.saved⟩, by simp [VifCtx.enterMonitor, hold]⟩
  · rw [hr]
    have hset : ((v.respond r).installType iftype).LinkInv :=
      setIftype_linkInv (by simp [VifCtx.updateIfType, hold])
        (by simpa [VifCtx.updateIfType] using h.saved)
    exact ⟨hset.congr rfl rfl rfl,
      by simp [VifCtx.chgOut, VifCtx.installType, VifCtx.updateIfType, hold]⟩

/-! ### Every sequence of creations and changes -/

/-- Interfaces are created and changed; a late response may come between two calls. -/
inductive VifsAct
  | wlanFmacAddVif (i : ℕ) (ifType : IfType) (fmacVif : Option FmacVif)
  | chgVif (i : ℕ) (iftype : IfType) (o : ChgOutcome)
  | setIfEvent (i : ℕ) (returnValue : ℤ)
  deriving DecidableEq, Repr

/-- One creation, call or event. The events are the return values of the calls. -/
def vifsStep (vifs : ℕ → Option (VifCtx F)) : VifsAct → Option ((ℕ → Option (VifCtx F)) × List ℤ)
  | .wlanFmacAddVif i ifType fmacVif =>
    match vifs i with
    | some _ => none
    | none => some (Function.update vifs i (some (nrfWifiNetdevAddVif F ifType fmacVif)), [])
  | .chgVif i iftype o =>
    match vifs i with
    | none => none
    | some v => some (Function.update vifs i (some (nrfWifiCfg80211ChgVif v iftype o).1),
        [(nrfWifiCfg80211ChgVif v iftype o).2])
  | .setIfEvent i returnValue =>
    match vifs i with
    | none => none
    | some v => some (Function.update vifs i (some (nrfWifiSetIfCallbkFn v returnValue)), [])

def vifsMachine (F : Type) : Machine (ℕ → Option (VifCtx F)) VifsAct ℤ := ⟨vifsStep⟩

/-- Every interface has a `wdev` and the attributes of its type. -/
def LinksAgree (vifs : ℕ → Option (VifCtx F)) : Prop :=
  ∀ i v, vifs i = some v → v.LinkInv ∧ v.wdev ≠ none

theorem LinksAgree.update {vifs : ℕ → Option (VifCtx F)} (h : LinksAgree vifs) (i : ℕ)
    (hv : v.LinkInv) (hw : v.wdev ≠ none) : LinksAgree (Function.update vifs i (some v)) := by
  intro j w hj
  by_cases hji : j = i
  · subst hji
    rw [Function.update_self, Option.some.injEq] at hj
    exact hj ▸ ⟨hv, hw⟩
  · rw [Function.update_of_ne hji] at hj
    exact h j w hj

/-- **One step keeps the agreement.** -/
theorem LinksAgree.step {vifs vifs' : ℕ → Option (VifCtx F)} {a : VifsAct} {u : List ℤ}
    (h : LinksAgree vifs) (hs : vifsStep vifs a = some (vifs', u)) : LinksAgree vifs' := by
  cases a with
  | wlanFmacAddVif i ifType fmacVif =>
    cases hi : vifs i with
    | some v => simp [vifsStep, hi] at hs
    | none =>
      simp only [vifsStep, hi, Option.some.injEq, Prod.mk.injEq] at hs
      rw [← hs.1]
      exact h.update i (setIftype_linkInv rfl rfl) (by simp [nrfWifiNetdevAddVif])
  | chgVif i iftype o =>
    cases hi : vifs i with
    | none => simp [vifsStep, hi] at hs
    | some v =>
      simp only [vifsStep, hi, Option.some.injEq, Prod.mk.injEq] at hs
      rw [← hs.1]
      obtain ⟨hinv, hw⟩ := (h i v hi).1.chgVif (h i v hi).2 iftype o
      exact h.update i hinv hw
  | setIfEvent i returnValue =>
    cases hi : vifs i with
    | none => simp [vifsStep, hi] at hs
    | some v =>
      simp only [vifsStep, hi, Option.some.injEq, Prod.mk.injEq] at hs
      rw [← hs.1]
      exact h.update i ((h i v hi).1.congr rfl rfl rfl) (h i v hi).2

/-- **The link layer follows the type, and a failed change changes nothing.** In every state that
creations and changes lead to, with every outcome of each: an interface is a MONITOR if and only if
it has the radiotap attributes, and otherwise it has the Ethernet ones, with the header operations
it was created with; and a change that returns a nonzero value leaves the type, the network device
and FMAC's context as they were, and the event flag cleared. -/
theorem link_layer_follows_type {acts : List VifsAct} {vifs : ℕ → Option (VifCtx F)} {t : List ℤ}
    (h : (vifsMachine F).exec (fun _ => none) acts = some (vifs, t)) {i : ℕ} {v : VifCtx F}
    (hv : vifs i = some v) :
    (v.wdev = some .monitor ↔ v.netdev.Radiotap) ∧
    (v.wdev ≠ some .monitor → v.netdev.Ethernet allocEtherdev.headerOps) ∧
    ∀ iftype o, (nrfWifiCfg80211ChgVif v iftype o).2 ≠ 0 →
      (nrfWifiCfg80211ChgVif v iftype o).1.wdev = v.wdev ∧
      (nrfWifiCfg80211ChgVif v iftype o).1.netdev = v.netdev ∧
      (nrfWifiCfg80211ChgVif v iftype o).1.fmacVif = v.fmacVif ∧
      (nrfWifiCfg80211ChgVif v iftype o).1.eventSetIf = false := by
  have hagree : LinksAgree vifs :=
    (vifsMachine F).exec_invariant (P := fun _ vifs => LinksAgree vifs) (t := [])
      (fun hP hs => hP.step hs) (fun i v hi => by simp at hi) h
  have hinv := (hagree i v hv).1
  refine ⟨hinv.monitor_iff, fun hm => ?_, fun iftype o => chgVif_failed⟩
  rw [← hinv.saved]
  exact hinv.other hm

/-- A STATION that becomes a MONITOR and is then refused by the firmware keeps the type and the
attributes of a monitor. -/
theorem link_layer_follows_type_refused :
    ∃ vifs v, (vifsMachine ℕ).exec (fun _ => none) [.wlanFmacAddVif 0 .station none,
        .chgVif 0 .monitor ⟨true, true, none⟩, .chgVif 0 .station ⟨true, true, some (-5)⟩]
          = some (vifs, [0, -5]) ∧
      vifs 0 = some v ∧ v.wdev = some .monitor ∧ v.netdev.Radiotap := by
  obtain ⟨vifs, v, hrun, hv, hw⟩ : ∃ vifs v, (vifsMachine ℕ).exec (fun _ => none)
      [.wlanFmacAddVif 0 .station none, .chgVif 0 .monitor ⟨true, true, none⟩,
        .chgVif 0 .station ⟨true, true, some (-5)⟩] = some (vifs, [0, -5]) ∧
      vifs 0 = some v ∧ v.wdev = some .monitor := ⟨_, _, rfl, rfl, rfl⟩
  exact ⟨vifs, v, hrun, hv, hw, (link_layer_follows_type hrun hv).1.mp hw⟩

end Nrf70
