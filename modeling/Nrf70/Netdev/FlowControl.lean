import Mathlib.Algebra.Ring.Nat
import Mathlib.Logic.Function.Basic
import Nrf70.Lib.Machine
import Nrf70.Netdev.Vif

/-!
# Flow-control accounting

Both flow-control tests read `num_tx_pkt - host_stats.total_tx_pkts` as the number of frames that
are still waiting. The minuend counts the frames one interface has accepted. The subtrahend counts
the frames the whole device has sent, and FMAC moves it for a success only. Here each handler body
is one step, and the question is when the difference means what the tests take it to mean.

## Main results

* `flow_backlog` — on one interface, the difference is the queue length plus the frames that failed
* `flow_credit_returned_iff` — an interface whose queue has run empty is let go exactly while at
  most `CONFIG_NRF700X_MAX_TX_PENDING_QLEN / 2` of its frames have failed
* `device_accounted_iff` — over all interfaces of a device, the difference is the queue length
  throughout a run exactly when interfaces are added before anything was sent and nothing is sent
  while a second interface exists
-/

namespace Nrf70

variable {F : Type}

/-! ### What the handlers do to the two counters and the queue -/

section Handlers

variable (dev : DevCtx) (v : VifCtx F)

/-- Whether the frame at the head of the queue is sent: prepared if it has to be, and taken by
FMAC. -/
def VifCtx.sends (prep xmit : Bool) : Bool := xmit && (prep || !v.isMonitor)

@[simp] theorem tally_totalTxPkts (m : Bool) : (dev.tally m).totalTxPkts = dev.totalTxPkts := by
  cases m <;> rfl

@[simp] theorem rawPrepFail_totalTxPkts : dev.rawPrepFail.totalTxPkts = dev.totalTxPkts := rfl

@[simp] theorem fmacXmit_totalTxPkts (ok : Bool) :
    (dev.fmacXmit ok).totalTxPkts = dev.totalTxPkts + if ok then 1 else 0 := by
  cases ok <;> simp [DevCtx.fmacXmit]

@[simp] theorem rawpktXmit_totalTxPkts (ok : Bool) :
    (dev.rawpktXmit ok).totalTxPkts = dev.totalTxPkts + if ok then 1 else 0 := by
  cases ok <;> simp [DevCtx.rawpktXmit]

/-- A run on an empty queue clears the pending bit and nothing else. -/
theorem dataTxRoutine_nil {v : VifCtx F} (hq : v.dataTxq = []) (prep xmit : Bool) :
    nrfCfg80211DataTxRoutine dev v prep xmit = (dev, { v with wsDataTx := false }, []) := by
  simp [nrfCfg80211DataTxRoutine, hq]

/-- A run on a queue that is not empty takes one frame, and counts it only if it is sent. -/
theorem dataTxRoutine_cons {v : VifCtx F} {netbuf : F} {rest : List F}
    (hq : v.dataTxq = netbuf :: rest) (prep xmit : Bool) :
    (nrfCfg80211DataTxRoutine dev v prep xmit).1.totalTxPkts
        = dev.totalTxPkts + (if v.sends prep xmit then 1 else 0) ∧
      (nrfCfg80211DataTxRoutine dev v prep xmit).2.1.dataTxq = rest ∧
      (nrfCfg80211DataTxRoutine dev v prep xmit).2.1.numTxPkt = v.numTxPkt := by
  cases hm : v.wdev == some .monitor <;> cases prep <;> cases xmit <;>
    simp [nrfCfg80211DataTxRoutine, VifCtx.sends, VifCtx.isMonitor, hq, hm]

end Handlers

/-! ### One interface -/

/-- One interface and its device. -/
structure FlowState (F : Type) where
  dev : DevCtx
  vif : VifCtx F
  deriving DecidableEq, Repr

/-- The handlers of one interface, with the outcomes of the calls they make. -/
inductive FlowAct (F : Type)
  | startXmit (skb : F) (sameDev enq : Bool)
  | dataTx (prep xmit : Bool)
  | queueMonitor
  deriving DecidableEq, Repr

/-- One handler body. A work item runs only while it is pending. -/
def flowStep (s : FlowState F) : FlowAct F → Option (FlowState F × List (TxEvent F))
  | .startXmit skb sameDev enq =>
    let (v, _, t) := nrfWifiNetdevStartXmit s.dev s.vif skb sameDev enq
    some (⟨s.dev, v⟩, t)
  | .dataTx prep xmit =>
    if s.vif.wsDataTx then
      let (dev, v, t) := nrfCfg80211DataTxRoutine s.dev s.vif prep xmit
      some (⟨dev, v⟩, t)
    else none
  | .queueMonitor =>
    if s.vif.wsQueueMonitor then
      some (⟨s.dev, nrfCfg80211QueueMonitorRoutine s.dev s.vif⟩, [])
    else none

def flowMachine (F : Type) : Machine (FlowState F) (FlowAct F) (TxEvent F) := ⟨flowStep⟩

/-- The only interface of a device that has sent nothing yet. -/
def FlowState.init (F : Type) (iftype : IfType) (fmacVif : Option FmacVif) : FlowState F :=
  ⟨.zero, nrfWifiNetdevAddVif F iftype fmacVif⟩

/-- A frame that was dropped, or that FMAC refused. -/
def Disposal.failed : Disposal → Bool
  | .prepFailed => true
  | .rawpktXmit ok | .startXmit ok => !ok

/-- How many frames failed. -/
def TxEvent.failures (t : List (TxEvent F)) : ℕ :=
  (TxEvent.disposedIn t).countP fun p => p.2.failed

theorem TxEvent.failures_append (t u : List (TxEvent F)) :
    failures (t ++ u) = failures t + failures u := by
  simp [failures, disposedIn_append]

/-- What one handler body does to the counters and the queue: nothing, one frame accepted, or one
frame disposed of. -/
inductive FlowEffect (s s' : FlowState F) (u : List (TxEvent F)) : Prop
  | none (htotal : s'.dev.totalTxPkts = s.dev.totalTxPkts) (hnum : s'.vif.numTxPkt = s.vif.numTxPkt)
      (hq : s'.vif.dataTxq = s.vif.dataTxq) (hf : TxEvent.failures u = 0)
  | accept {skb} (htotal : s'.dev.totalTxPkts = s.dev.totalTxPkts)
      (hnum : s'.vif.numTxPkt = s.vif.numTxPkt + 1)
      (hq : s'.vif.dataTxq = s.vif.dataTxq ++ [skb]) (hf : TxEvent.failures u = 0)
  | dispose {netbuf} {sent : Bool}
      (htotal : s'.dev.totalTxPkts = s.dev.totalTxPkts + if sent then 1 else 0)
      (hnum : s'.vif.numTxPkt = s.vif.numTxPkt) (hq : s.vif.dataTxq = netbuf :: s'.vif.dataTxq)
      (hf : TxEvent.failures u = if sent then 0 else 1)

theorem flowStep_effect {s s' : FlowState F} {a : FlowAct F} {u : List (TxEvent F)}
    (h : flowStep s a = some (s', u)) : FlowEffect s s' u := by
  cases a with
  | startXmit skb sameDev enq =>
    cases sameDev <;> cases enq <;>
      simp only [flowStep, nrfWifiNetdevStartXmit, Bool.not_false, Bool.not_true, if_true,
        Bool.false_eq_true, if_false, Option.some.injEq, Prod.mk.injEq] at h <;>
      obtain ⟨rfl, rfl⟩ := h
    · exact .none rfl rfl rfl rfl
    · exact .none rfl rfl rfl rfl
    · exact .none rfl (by simp) (by simp) rfl
    · exact .accept rfl (by simp) (show _ = s.vif.dataTxq ++ [skb] by simp) rfl
  | dataTx prep xmit =>
    simp only [flowStep, Option.ite_none_right_eq_some, Option.some.injEq, Prod.mk.injEq] at h
    obtain ⟨-, rfl, rfl⟩ := h
    cases hq : s.vif.dataTxq with
    | nil =>
      rw [dataTxRoutine_nil s.dev hq]
      exact .none rfl rfl rfl rfl
    | cons netbuf rest =>
      obtain ⟨htotal, hq', hnum⟩ := dataTxRoutine_cons s.dev hq prep xmit
      refine .dispose htotal hnum (show s.vif.dataTxq = netbuf :: _ by rw [hq, hq']) ?_
      cases hm : s.vif.wdev == some .monitor <;> cases prep <;> cases xmit <;>
        simp [nrfCfg80211DataTxRoutine, VifCtx.sends, VifCtx.isMonitor, TxEvent.failures,
          TxEvent.disposedIn, Disposal.failed, hq, hm]
  | queueMonitor =>
    simp only [flowStep, Option.ite_none_right_eq_some, Option.some.injEq, Prod.mk.injEq] at h
    obtain ⟨-, rfl, rfl⟩ := h
    exact .none rfl (by simp) (by simp) rfl

/-! ### Frames that fail keep their credit -/

/-- The difference both tests read is what is queued and what has failed. -/
def Credited (t : List (TxEvent F)) (s : FlowState F) : Prop :=
  s.vif.backlog s.dev = UInt64.ofNat (s.vif.dataTxq.length + TxEvent.failures t)

theorem Credited.step {t u : List (TxEvent F)} {s s' : FlowState F} (h : Credited t s)
    (he : FlowEffect s s' u) : Credited (t ++ u) s' := by
  unfold Credited VifCtx.backlog at h ⊢
  rw [TxEvent.failures_append]
  cases he with
  | none htotal hnum hq hf => rw [htotal, hnum, hq, hf, h, Nat.add_zero]
  | accept htotal hnum hq hf =>
    rw [htotal, hnum, hq, hf, List.length_append, List.length_singleton]
    simp only [UInt64.ofNat_add] at h ⊢
    grind
  | dispose htotal hnum hq hf =>
    rw [hq, List.length_cons] at h
    rw [htotal, hnum, hf]
    simp only [UInt64.ofNat_add] at h ⊢
    split <;> grind

/-- **The difference counts the queue and the failures.** In every state an interface reaches. -/
theorem flow_backlog {iftype : IfType} {fmacVif : Option FmacVif} {acts : List (FlowAct F)}
    {s : FlowState F} {t : List (TxEvent F)}
    (h : (flowMachine F).exec (.init F iftype fmacVif) acts = some (s, t)) : Credited t s := by
  have hinit : Credited [] (FlowState.init F iftype fmacVif) := by
    simp [Credited, FlowState.init, VifCtx.backlog, DevCtx.zero, TxEvent.failures,
      TxEvent.disposedIn]
  exact (flowMachine F).exec_invariant (fun hP hs => hP.step (flowStep_effect hs)) hinit h

/-- A monitor run that finds the difference at most half the limit leaves the queue awake. -/
theorem queueMonitor_wakes {dev : DevCtx} {v : VifCtx F}
    (hb : v.backlog dev ≤ maxTxPendingQlen / 2) :
    (nrfCfg80211QueueMonitorRoutine dev v).netdev.queueStopped = false := by
  have hb' : VifCtx.backlog dev { v with wsQueueMonitor := false } ≤ maxTxPendingQlen / 2 := hb
  simp only [nrfCfg80211QueueMonitorRoutine]
  rw [if_pos hb']

/-- **A monitor that cannot wake the queue runs for ever.** It leaves everything as it was, its own
pending bit included. -/
theorem queueMonitor_stuck {dev : DevCtx} {v : VifCtx F} (hp : v.wsQueueMonitor = true)
    (hb : ¬ v.backlog dev ≤ maxTxPendingQlen / 2) :
    nrfCfg80211QueueMonitorRoutine dev v = v := by
  have hb' : ¬ VifCtx.backlog dev { v with wsQueueMonitor := false } ≤ maxTxPendingQlen / 2 := hb
  simp only [nrfCfg80211QueueMonitorRoutine]
  rw [if_neg hb', ← hp]

/-- The queue is stopped, and the pending monitor run would leave everything as it is. -/
def FlowState.Stuck (s : FlowState F) : Prop :=
  s.vif.netdev.queueStopped = true ∧ s.vif.wsQueueMonitor = true ∧
    nrfCfg80211QueueMonitorRoutine s.dev s.vif = s.vif

/-- What an interface with an empty queue is owed: a monitor run takes the waking branch and leaves
the queue awake. -/
def FlowState.Released (s : FlowState F) : Prop :=
  s.vif.backlog s.dev ≤ maxTxPendingQlen / 2 ∧
    (nrfCfg80211QueueMonitorRoutine s.dev s.vif).netdev.queueStopped = false ∧ ¬ s.Stuck

theorem released_iff (s : FlowState F) :
    s.Released ↔ s.vif.backlog s.dev ≤ maxTxPendingQlen / 2 := by
  refine ⟨fun h => h.1, fun hb => ⟨hb, queueMonitor_wakes hb, ?_⟩⟩
  rintro ⟨hstopped, -, hrun⟩
  have hawake := queueMonitor_wakes hb
  rw [hrun, hstopped] at hawake
  exact absurd hawake (by decide)

/-- **An interface is let go exactly while few of its frames have failed.** In every state a run
reaches with an empty queue, the monitor releases the interface if and only if the number of frames
that have failed in the run is, modulo `2 ^ 64`, at most half the limit. -/
theorem flow_credit_returned_iff {iftype : IfType} {fmacVif : Option FmacVif}
    {acts : List (FlowAct F)} {s : FlowState F} {t : List (TxEvent F)}
    (h : (flowMachine F).exec (.init F iftype fmacVif) acts = some (s, t))
    (hq : s.vif.dataTxq = []) :
    s.Released ↔ TxEvent.failures t % 2 ^ 64 ≤ 24 := by
  have hb : s.vif.backlog s.dev = UInt64.ofNat (TxEvent.failures t) := by
    have := flow_backlog h
    rwa [Credited, hq, List.length_nil, Nat.zero_add] at this
  rw [released_iff, hb, UInt64.le_iff_toNat_le, UInt64.toNat_ofNat']
  rfl

/-- `n` frames that are accepted and then refused by FMAC. -/
def refusedFrames (n : ℕ) : List (FlowAct ℕ) :=
  (List.range n).flatMap fun k => [.startXmit k true true, .dataTx true false]

/-- After one refused frame the monitor still lets the interface go. -/
theorem flow_credit_returned_iff_one :
    ∃ s t, (flowMachine ℕ).exec (.init ℕ .station none) (refusedFrames 1) = some (s, t) ∧
      s.Released := by
  obtain ⟨s, t, hrun, hq, hfail⟩ : ∃ s t,
      (flowMachine ℕ).exec (.init ℕ .station none) (refusedFrames 1) = some (s, t) ∧
        s.vif.dataTxq = [] ∧ TxEvent.failures t % 2 ^ 64 ≤ 24 := ⟨_, _, rfl, rfl, by decide⟩
  exact ⟨s, t, hrun, (flow_credit_returned_iff hrun hq).mpr hfail⟩

/-- **Forty-nine refused frames stop the queue for good.** The queue is empty, the device queue is
stopped, and the pending monitor run changes nothing. -/
theorem flow_credit_lost :
    ∃ s t, (flowMachine ℕ).exec (.init ℕ .station none) (refusedFrames 49) = some (s, t) ∧
      s.vif.dataTxq = [] ∧ s.Stuck ∧ ¬ s.Released := by
  have hrun : ∃ s t, (flowMachine ℕ).exec (.init ℕ .station none) (refusedFrames 49) = some (s, t) ∧
      s.vif.dataTxq = [] ∧ s.vif.netdev.queueStopped = true ∧ s.vif.wsQueueMonitor = true ∧
      ¬ s.vif.backlog s.dev ≤ maxTxPendingQlen / 2 := ⟨_, _, rfl, rfl, rfl, rfl, by decide⟩
  obtain ⟨s, t, h, hq, hstopped, hp, hb⟩ := hrun
  exact ⟨s, t, h, hq, ⟨hstopped, hp, queueMonitor_stuck hp hb⟩, fun hr => hb hr.1⟩

/-! ### Several interfaces share one subtrahend -/

/-- A device and its interfaces, by FMAC's index. -/
structure Device (F : Type) where
  dev : DevCtx
  vifs : ℕ → Option (VifCtx F)

/-- The handlers of a device's interfaces, and their addition and removal. Every frame that is
handed to FMAC is sent. -/
inductive DeviceAct (F : Type)
  | addVif (i : ℕ) (iftype : IfType) (fmacVif : Option FmacVif)
  | delVif (i : ℕ) (fmacOk : Bool)
  | wlanFmacDelVif (i : ℕ)
  | startXmit (i : ℕ) (skb : F) (sameDev enq : Bool)
  | dataTx (i : ℕ)
  | queueMonitor (i : ℕ)
  deriving DecidableEq, Repr

/-- A handler body on interface `i`. -/
def Device.onVif (s : Device F) (i : ℕ) (a : FlowAct F) : Option (Device F × List (TxEvent F)) :=
  match s.vifs i with
  | none => none
  | some v => (flowStep ⟨s.dev, v⟩ a).map fun p =>
      (⟨p.1.dev, Function.update s.vifs i (some p.1.vif)⟩, p.2)

def deviceStep (s : Device F) : DeviceAct F → Option (Device F × List (TxEvent F))
  | .addVif i iftype fmacVif =>
    -- `nrf_wifi_cfg80211_add_vif` refuses to create a monitor
    if iftype = .monitor then some (s, [])
    else if (s.vifs i).isNone then
      some ({ s with
        vifs := Function.update s.vifs i (some (nrfWifiNetdevAddVif F iftype fmacVif)) }, [])
    else none
  | .delVif i fmacOk =>
    -- the default interface cannot be deleted, and FMAC has to agree
    if i = 0 ∨ fmacOk = false then some (s, [])
    else some ({ s with vifs := Function.update s.vifs i none }, [])
  | .wlanFmacDelVif i => some ({ s with vifs := Function.update s.vifs i none }, [])
  | .startXmit i skb sameDev enq => s.onVif i (.startXmit skb sameDev enq)
  | .dataTx i => s.onVif i (.dataTx true true)
  | .queueMonitor i => s.onVif i .queueMonitor

def deviceMachine (F : Type) : Machine (Device F) (DeviceAct F) (TxEvent F) := ⟨deviceStep⟩

/-- A device without interfaces that has sent nothing. -/
def Device.init (F : Type) : Device F := ⟨.zero, fun _ => none⟩

/-- On every interface, the difference both tests read is the length of its queue. -/
def Device.Accounted (s : Device F) : Prop :=
  ∀ i v, s.vifs i = some v → (v.backlog s.dev).toNat = v.dataTxq.length

/-- What each step must find for the difference to stay the queue length: an interface is added
while the device has sent nothing, a frame is sent while its interface is the only one, and a
queue that is added to stays below `2 ^ 64` frames. -/
def Device.Accountable (s : Device F) : DeviceAct F → Prop
  | .addVif _ iftype _ => iftype ≠ .monitor → s.dev.totalTxPkts = 0
  | .startXmit i _ sameDev enq =>
    sameDev = true → enq = true → ∀ v, s.vifs i = some v → v.dataTxq.length + 1 < 2 ^ 64
  | .dataTx i => ∀ v, s.vifs i = some v → v.dataTxq ≠ [] → ∀ j, j ≠ i → s.vifs j = none
  | .delVif _ _ | .wlanFmacDelVif _ | .queueMonitor _ => True

theorem onVif_eq_some {s s' : Device F} {i : ℕ} {a : FlowAct F} {u : List (TxEvent F)} :
    s.onVif i a = some (s', u) ↔ ∃ v p, s.vifs i = some v ∧ flowStep ⟨s.dev, v⟩ a = some (p, u) ∧
      s' = ⟨p.dev, Function.update s.vifs i (some p.vif)⟩ := by
  cases hi : s.vifs i with
  | none => simp [Device.onVif, hi]
  | some v =>
    simp only [Device.onVif, hi, Option.map_eq_some_iff, Prod.mk.injEq, Prod.exists,
      Option.some.injEq]
    constructor
    · rintro ⟨p, u', hp, rfl, rfl⟩
      exact ⟨v, p, rfl, hp, rfl⟩
    · rintro ⟨w, p, rfl, hp, rfl⟩
      exact ⟨p, u, hp, rfl, rfl⟩

section Accounting

variable {s : Device F} {i : ℕ} {v v' : VifCtx F} {dev' : DevCtx}

/-- A device with one entry replaced is accounted when that entry is and all the others are. -/
theorem accounted_update {o : Option (VifCtx F)} :
    Device.Accounted ⟨dev', Function.update s.vifs i o⟩ ↔
      (∀ w, o = some w → (w.backlog dev').toNat = w.dataTxq.length) ∧
        ∀ j, j ≠ i → ∀ w, s.vifs j = some w → (w.backlog dev').toNat = w.dataTxq.length :=
  Function.forall_update_iff s.vifs
    (p := fun _ o => ∀ w : VifCtx F, o = some w → (w.backlog dev').toNat = w.dataTxq.length)

/-- Replacing one interface, with the shared counter as it was, is accounted exactly when that
interface is. -/
theorem Device.Accounted.update_iff (h : s.Accounted)
    (htotal : dev'.totalTxPkts = s.dev.totalTxPkts) :
    Device.Accounted ⟨dev', Function.update s.vifs i (some v')⟩ ↔
      (v'.numTxPkt - s.dev.totalTxPkts).toNat = v'.dataTxq.length := by
  simp only [accounted_update, VifCtx.backlog, htotal, Option.some.injEq, forall_eq']
  exact and_iff_left fun j _ w hw => h j w hw

/-- A handler that leaves counters and queue as they were leaves the device accounted. -/
theorem Device.Accounted.unmoved (h : s.Accounted) (hi : s.vifs i = some v)
    (htotal : dev'.totalTxPkts = s.dev.totalTxPkts) (hnum : v'.numTxPkt = v.numTxPkt)
    (hq : v'.dataTxq = v.dataTxq) :
    Device.Accounted ⟨dev', Function.update s.vifs i (some v')⟩ := by
  rw [h.update_iff htotal, hnum, hq]
  exact h i v hi

/-- Removing an interface moves no counter. -/
theorem Device.Accounted.remove (h : s.Accounted) :
    Device.Accounted { s with vifs := Function.update s.vifs i none } :=
  accounted_update.mpr ⟨fun _ hw => (Option.some_ne_none _ hw.symm).elim, fun j _ w hw => h j w hw⟩

/-- Accepting a frame moves the difference with the queue, until the difference wraps. -/
theorem Device.Accounted.accept_iff (h : s.Accounted) (hi : s.vifs i = some v) (skb : F)
    (htotal : dev'.totalTxPkts = s.dev.totalTxPkts) (hnum : v'.numTxPkt = v.numTxPkt + 1)
    (hq : v'.dataTxq = v.dataTxq ++ [skb]) :
    Device.Accounted ⟨dev', Function.update s.vifs i (some v')⟩ ↔
      v.dataTxq.length + 1 < 2 ^ 64 := by
  have hv : (v.numTxPkt - s.dev.totalTxPkts).toNat = v.dataTxq.length := h i v hi
  have hlt := (v.numTxPkt - s.dev.totalTxPkts).toNat_lt
  have hb : v.numTxPkt + 1 - s.dev.totalTxPkts = v.numTxPkt - s.dev.totalTxPkts + 1 := by grind
  rw [h.update_iff htotal, hnum, hq, hb, List.length_append, List.length_singleton,
    UInt64.toNat_add, hv]
  simp only [UInt64.toNat_one]
  omega

/-- Sending a frame moves the difference of every interface, and the queue of one. -/
theorem Device.Accounted.send_iff (h : s.Accounted) (hi : s.vifs i = some v) (netbuf : F)
    (htotal : dev'.totalTxPkts = s.dev.totalTxPkts + 1) (hnum : v'.numTxPkt = v.numTxPkt)
    (hq : v.dataTxq = netbuf :: v'.dataTxq) :
    Device.Accounted ⟨dev', Function.update s.vifs i (some v')⟩ ↔
      ∀ j, j ≠ i → s.vifs j = none := by
  have hsub : ∀ n : UInt64, n - dev'.totalTxPkts = n - s.dev.totalTxPkts - 1 := by
    intro n
    rw [htotal]
    grind
  have hself : (v'.numTxPkt - dev'.totalTxPkts).toNat = v'.dataTxq.length := by
    have hv : (v.numTxPkt - s.dev.totalTxPkts).toNat = v.dataTxq.length := h i v hi
    rw [hq, List.length_cons] at hv
    have hle : (1 : UInt64) ≤ v.numTxPkt - s.dev.totalTxPkts := by
      rw [UInt64.le_iff_toNat_le, hv]
      simp
    rw [hsub, hnum, UInt64.toNat_sub_of_le _ _ hle, hv]
    simp
  simp only [accounted_update, VifCtx.backlog, Option.some.injEq, forall_eq', hself, true_and]
  refine forall₂_congr fun j _ => ⟨fun h' => ?_, fun hnone w hw => ?_⟩
  · -- another interface's difference moves while its queue does not
    by_contra hne
    obtain ⟨w, hw⟩ := Option.ne_none_iff_exists'.mp hne
    have hw' := h' w hw
    rw [hsub, ← h j w hw, UInt64.toNat_inj, VifCtx.backlog] at hw'
    grind
  · rw [hnone] at hw
    cases hw

end Accounting

/-- A step from an accounted state is to an accounted one exactly under the condition. -/
theorem deviceStep_accounted_iff {s s' : Device F} {a : DeviceAct F} {u : List (TxEvent F)}
    (h : s.Accounted) (hs : deviceStep s a = some (s', u)) : s'.Accounted ↔ s.Accountable a := by
  cases a with
  | addVif i iftype fmacVif =>
    simp only [deviceStep] at hs
    split at hs
    next hm =>
      simp only [Option.some.injEq, Prod.mk.injEq] at hs
      rw [← hs.1]
      exact iff_of_true h (fun hne => absurd hm hne)
    next hm =>
      simp only [Option.ite_none_right_eq_some, Option.some.injEq, Prod.mk.injEq] at hs
      obtain ⟨-, rfl, -⟩ := hs
      rw [h.update_iff rfl, addVif_numTxPkt, addVif_dataTxq, List.length_nil, ← UInt64.toNat_zero,
        UInt64.toNat_inj]
      simp only [Device.Accountable, ne_eq, hm, not_false_eq_true, forall_const]
      grind
  | delVif i fmacOk =>
    simp only [deviceStep] at hs
    split at hs <;> simp only [Option.some.injEq, Prod.mk.injEq] at hs <;> rw [← hs.1]
    · exact iff_of_true h trivial
    · exact iff_of_true h.remove trivial
  | wlanFmacDelVif i =>
    simp only [deviceStep, Option.some.injEq, Prod.mk.injEq] at hs
    rw [← hs.1]
    exact iff_of_true h.remove trivial
  | startXmit i skb sameDev enq =>
    obtain ⟨v, p, hi, hp, rfl⟩ := onVif_eq_some.mp hs
    simp only [flowStep, Option.some.injEq, Prod.mk.injEq] at hp
    obtain ⟨rfl, -⟩ := hp
    by_cases hacc : sameDev = true ∧ enq = true
    · obtain ⟨rfl, rfl⟩ := hacc
      rw [h.accept_iff hi skb rfl (by simp [nrfWifiNetdevStartXmit])
        (by simp [nrfWifiNetdevStartXmit])]
      simp [Device.Accountable, hi]
    · refine iff_of_true (h.unmoved hi rfl ?_ ?_) (fun h₁ h₂ => absurd ⟨h₁, h₂⟩ hacc)
      all_goals cases sameDev <;> cases enq <;> simp_all [nrfWifiNetdevStartXmit]
  | dataTx i =>
    obtain ⟨v, p, hi, hp, rfl⟩ := onVif_eq_some.mp hs
    simp only [flowStep, Option.ite_none_right_eq_some, Option.some.injEq, Prod.mk.injEq] at hp
    obtain ⟨-, rfl, -⟩ := hp
    cases hq : v.dataTxq with
    | nil =>
      rw [dataTxRoutine_nil s.dev hq]
      exact iff_of_true (h.unmoved hi rfl rfl rfl) (by simp [Device.Accountable, hi, hq])
    | cons netbuf rest =>
      obtain ⟨htotal, hq', hnum⟩ := dataTxRoutine_cons s.dev hq true true
      rw [h.send_iff hi netbuf (by simpa [VifCtx.sends] using htotal) hnum
        (by rw [hq, hq'])]
      simp [Device.Accountable, hi, hq]
  | queueMonitor i =>
    obtain ⟨v, p, hi, hp, rfl⟩ := onVif_eq_some.mp hs
    simp only [flowStep, Option.ite_none_right_eq_some, Option.some.injEq, Prod.mk.injEq] at hp
    obtain ⟨-, rfl, -⟩ := hp
    exact iff_of_true (h.unmoved hi rfl (by simp) (by simp)) trivial

/-- **When the difference is the queue length.** A run over any number of interfaces has every
interface accounted in every state it passes through, so that no difference wraps below zero,
exactly when each of its steps meets `Device.Accountable`. -/
theorem device_accounted_iff {acts : List (DeviceAct F)} {s : Device F} {t : List (TxEvent F)}
    (h : (deviceMachine F).exec (.init F) acts = some (s, t)) :
    (deviceMachine F).Throughout Device.Accounted (.init F) acts ↔
      (deviceMachine F).Along Device.Accountable (.init F) acts := by
  have hinit : (Device.init F).Accounted := by
    intro i v hi
    cases hi
  exact (deviceMachine F).throughout_iff_along deviceStep_accounted_iff hinit h

/-- Two interfaces are added before anything is sent and queue a frame each; the second is deleted,
and then the first sends. -/
theorem device_accounted_iff_two :
    (deviceMachine ℕ).Throughout Device.Accounted (.init ℕ)
      [.addVif 0 .station none, .addVif 1 .station none, .startXmit 1 6 true true,
        .startXmit 0 7 true true, .delVif 1 true, .dataTx 0] := by
  refine (device_accounted_iff rfl).mpr ?_
  refine ((deviceMachine ℕ).along_cons rfl).mpr ⟨fun _ => rfl, ?_⟩
  refine ((deviceMachine ℕ).along_cons rfl).mpr ⟨fun _ => rfl, ?_⟩
  refine ((deviceMachine ℕ).along_cons rfl).mpr ⟨fun _ _ v hv => ?_, ?_⟩
  · cases hv; decide
  refine ((deviceMachine ℕ).along_cons rfl).mpr ⟨fun _ _ v hv => ?_, ?_⟩
  · cases hv; decide
  refine ((deviceMachine ℕ).along_cons rfl).mpr ⟨trivial, ?_⟩
  refine ((deviceMachine ℕ).along_cons rfl).mpr ⟨fun v hv _ j hj => ?_, trivial⟩
  by_cases h1 : j = 1
  · rw [h1]
    rfl
  · simp [Device.init, hj, h1]

/-- **An interface added late starts below zero.** The device has sent one frame when interface `1`
is added: its difference is `0 - 1`, while its queue is empty. -/
theorem device_unaccounted :
    ∃ s t v, (deviceMachine ℕ).exec (.init ℕ)
        [.addVif 0 .station none, .startXmit 0 7 true true, .dataTx 0, .addVif 1 .station none] =
      some (s, t) ∧ s.vifs 1 = some v ∧ v.dataTxq = [] ∧
      (v.backlog s.dev).toNat = 2 ^ 64 - 1 ∧ ¬ s.Accounted := by
  refine ⟨_, _, _, rfl, rfl, rfl, by decide, fun h => ?_⟩
  exact absurd (h 1 _ rfl) (by decide)

end Nrf70
