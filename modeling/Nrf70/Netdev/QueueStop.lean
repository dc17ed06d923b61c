import Nrf70.Netdev.FlowControl
import Nrf70.Netdev.TxPipeline

/-!
# Who stops and who wakes the device queue

The stop bit of the TX queue has two users. Flow control sets it in `nrf_wifi_netdev_start_xmit`
and clears it in `nrf_cfg80211_queue_monitor_routine`; in the low-power build
`nrf_wifi_twt_sleep_callbk_fn` sets and clears it for the firmware's TWT service periods. Neither
leaves a mark of its own on the bit.

Without TWT events the bit does what it is for. A stop is decided on the difference before the
frame that causes it is queued, so the queue holds at most one frame more than the limit, and the
monitor it schedules reschedules itself until it has woken the queue. With TWT events the monitor
does not know for whom the queue was stopped.

## Main results

* `queue_bounded_and_woken` — flow control alone: the bound, the pending monitor and the hysteresis
* `twt_block_kept_iff` — a TWT block stands exactly while no monitor run finds the difference at
  most `CONFIG_NRF700X_MAX_TX_PENDING_QLEN / 2`
-/

namespace Nrf70

variable {F : Type}

/-! ### The stop bit and the monitor's pending bit, handler by handler -/

section Handlers

variable (dev : DevCtx) (v : VifCtx F)

theorem flowCheck_queueStopped :
    (v.flowCheck dev).netdev.queueStopped
      = (v.netdev.queueStopped || decide (maxTxPendingQlen ≤ v.backlog dev)) := by
  rw [VifCtx.flowCheck]
  split <;> simp [*]

theorem flowCheck_wsQueueMonitor :
    (v.flowCheck dev).wsQueueMonitor
      = (v.wsQueueMonitor || decide (maxTxPendingQlen ≤ v.backlog dev)) := by
  rw [VifCtx.flowCheck]
  split <;> simp [*]

theorem queueMonitor_queueStopped :
    (nrfCfg80211QueueMonitorRoutine dev v).netdev.queueStopped
      = (v.netdev.queueStopped && !decide (v.backlog dev ≤ maxTxPendingQlen / 2)) := by
  by_cases hb : v.backlog dev ≤ maxTxPendingQlen / 2
  · simp [queueMonitor_wakes hb, hb]
  · have hb' : ¬ VifCtx.backlog dev { v with wsQueueMonitor := false } ≤ maxTxPendingQlen / 2 := hb
    simp only [nrfCfg80211QueueMonitorRoutine]
    rw [if_neg hb']
    simp [hb]

theorem queueMonitor_wsQueueMonitor :
    (nrfCfg80211QueueMonitorRoutine dev v).wsQueueMonitor
      = !decide (v.backlog dev ≤ maxTxPendingQlen / 2) := by
  have hb : VifCtx.backlog dev { v with wsQueueMonitor := false } = v.backlog dev := rfl
  simp only [nrfCfg80211QueueMonitorRoutine, hb]
  split <;> simp [*]

@[simp] theorem resched_netdev : v.resched.netdev = v.netdev := by
  rw [VifCtx.resched]
  split <;> rfl

@[simp] theorem resched_wsQueueMonitor : v.resched.wsQueueMonitor = v.wsQueueMonitor := by
  rw [VifCtx.resched]
  split <;> rfl

/-- The worker has no business with the stop bit. -/
theorem dataTxRoutine_stop (prep xmit : Bool) :
    (nrfCfg80211DataTxRoutine dev v prep xmit).2.1.netdev = v.netdev ∧
      (nrfCfg80211DataTxRoutine dev v prep xmit).2.1.wsQueueMonitor = v.wsQueueMonitor := by
  cases hq : v.dataTxq with
  | nil => simp [dataTxRoutine_nil dev hq]
  | cons netbuf rest =>
    cases hm : v.wdev == some .monitor <;> cases prep <;>
      simp [nrfCfg80211DataTxRoutine, VifCtx.isMonitor, VifCtx.assertInjector, hq, hm]

end Handlers

/-! ### Flow control alone -/

/-- A run without failures: `start_xmit` is called only on a queue that is not stopped, and FMAC
takes every frame that is handed to it. -/
def FlowState.Regular (s : FlowState F) : FlowAct F → Prop
  | .startXmit _ _ _ => s.vif.netdev.queueStopped = false
  | .dataTx prep xmit => s.vif.sends prep xmit = true
  | .queueMonitor => True

instance (s : FlowState F) (a : FlowAct F) : Decidable (s.Regular a) :=
  match a with
  | .startXmit _ _ _ => inferInstanceAs (Decidable (_ = _))
  | .dataTx _ _ => inferInstanceAs (Decidable (_ = _))
  | .queueMonitor => isTrue trivial

/-- What flow control keeps, over the history of an interface. -/
structure FlowInv (t : List (TxEvent F)) (s : FlowState F) : Prop where
  /-- The difference is the queue length and what has failed. -/
  credited : Credited t s
  /-- Nothing has failed. -/
  unfailing : TxEvent.failures t = 0
  /-- A queue that is not stopped is within the limit. -/
  awake : s.vif.netdev.queueStopped = false → s.vif.dataTxq.length ≤ 48
  /-- A stopped queue is at most one frame over it. -/
  bounded : s.vif.dataTxq.length ≤ 49
  /-- A stopped queue is watched by the monitor. -/
  watched : s.vif.netdev.queueStopped = true → s.vif.wsQueueMonitor = true

variable {t u : List (TxEvent F)} {s s' : FlowState F} {a : FlowAct F}

/-- While nothing has failed the difference is the queue length, and does not wrap. -/
theorem FlowInv.backlog_toNat (h : FlowInv t s) :
    (s.vif.backlog s.dev).toNat = s.vif.dataTxq.length := by
  have hb := h.bounded
  rw [h.credited, h.unfailing, Nat.add_zero, UInt64.toNat_ofNat']
  omega

theorem FlowInv.stops_iff (h : FlowInv t s) :
    maxTxPendingQlen ≤ s.vif.backlog s.dev ↔ 48 ≤ s.vif.dataTxq.length := by
  rw [UInt64.le_iff_toNat_le, h.backlog_toNat]
  rfl

theorem FlowInv.wakes_iff (h : FlowInv t s) :
    s.vif.backlog s.dev ≤ maxTxPendingQlen / 2 ↔ s.vif.dataTxq.length ≤ 24 := by
  rw [UInt64.le_iff_toNat_le, h.backlog_toNat]
  rfl

/-- A regular handler body fails no frame. -/
theorem FlowState.Regular.failures (hok : s.Regular a) (hs : flowStep s a = some (s', u)) :
    TxEvent.failures u = 0 := by
  cases a with
  | startXmit skb sameDev enq =>
    cases sameDev <;> cases enq <;>
      simp [flowStep, nrfWifiNetdevStartXmit] at hs <;>
      obtain ⟨-, rfl⟩ := hs <;> rfl
  | dataTx prep xmit =>
    simp only [flowStep, Option.ite_none_right_eq_some, Option.some.injEq, Prod.mk.injEq] at hs
    obtain ⟨-, -, rfl⟩ := hs
    cases hq : s.vif.dataTxq with
    | nil =>
      rw [dataTxRoutine_nil s.dev hq]
      rfl
    | cons netbuf rest =>
      simp only [FlowState.Regular, VifCtx.sends, VifCtx.isMonitor] at hok
      cases hm : s.vif.wdev == some .monitor <;> cases prep <;> cases xmit <;>
        simp [hm] at hok <;>
        simp [nrfCfg80211DataTxRoutine, VifCtx.isMonitor, TxEvent.failures,
          TxEvent.disposedIn, Disposal.failed, hq, hm]
  | queueMonitor =>
    simp only [flowStep, Option.ite_none_right_eq_some, Option.some.injEq, Prod.mk.injEq] at hs
    obtain ⟨-, -, rfl⟩ := hs
    rfl

/-- **One handler body keeps the invariant.** -/
theorem FlowInv.step (h : FlowInv t s) (hok : s.Regular a) (hs : flowStep s a = some (s', u)) :
    FlowInv (t ++ u) s' := by
  have hcredited : Credited (t ++ u) s' := h.credited.step (flowStep_effect hs)
  have hunfailing : TxEvent.failures (t ++ u) = 0 := by
    rw [TxEvent.failures_append, h.unfailing, hok.failures hs]
  have hbounded := h.bounded
  cases a with
  | startXmit skb sameDev enq =>
    -- the queue was awake, so it held at most 48 frames; with 48 it is stopped and watched
    have hawake : s.vif.netdev.queueStopped = false := hok
    have hlen := h.awake hawake
    have hstops := h.stops_iff
    cases sameDev <;> cases enq <;>
      simp only [flowStep, nrfWifiNetdevStartXmit, Bool.not_false, Bool.not_true, if_true,
        Bool.false_eq_true, if_false, Option.some.injEq, Prod.mk.injEq] at hs <;>
      obtain ⟨rfl, rfl⟩ := hs
    · exact ⟨hcredited, hunfailing, h.awake, h.bounded, h.watched⟩
    · exact ⟨hcredited, hunfailing, h.awake, h.bounded, h.watched⟩
    · refine ⟨hcredited, hunfailing, fun _ => by simpa using hlen, by simpa using hbounded, ?_⟩
      simp [flowCheck_queueStopped, flowCheck_wsQueueMonitor, hawake]
      intro hb
      exact Or.inr hb
    · refine ⟨hcredited, hunfailing, ?_, ?_, ?_⟩
      · simp only [VifCtx.enqueue, flowCheck_queueStopped, flowCheck_dataTxq, hawake, hstops,
          Bool.false_or, decide_eq_false_iff_not, List.length_append, List.length_singleton]
        omega
      · simp only [VifCtx.enqueue, flowCheck_dataTxq, List.length_append, List.length_singleton]
        omega
      · simp [VifCtx.enqueue, flowCheck_queueStopped, flowCheck_wsQueueMonitor, hawake]
        intro hb
        exact Or.inr hb
  | dataTx prep xmit =>
    simp only [flowStep, Option.ite_none_right_eq_some, Option.some.injEq, Prod.mk.injEq] at hs
    obtain ⟨-, rfl, rfl⟩ := hs
    obtain ⟨hnetdev, hmonitor⟩ := dataTxRoutine_stop s.dev s.vif prep xmit
    have hlen : (nrfCfg80211DataTxRoutine s.dev s.vif prep xmit).2.1.dataTxq.length
        ≤ s.vif.dataTxq.length := by
      cases hq : s.vif.dataTxq with
      | nil => simp [dataTxRoutine_nil s.dev hq, hq]
      | cons netbuf rest =>
        rw [(dataTxRoutine_cons s.dev hq prep xmit).2.1]
        simp
    refine ⟨hcredited, hunfailing, fun hawake => ?_, hlen.trans hbounded, fun hstopped => ?_⟩
    · rw [hnetdev] at hawake
      exact hlen.trans (h.awake hawake)
    · rw [hnetdev] at hstopped
      rw [hmonitor]
      exact h.watched hstopped
  | queueMonitor =>
    simp only [flowStep, Option.ite_none_right_eq_some, Option.some.injEq, Prod.mk.injEq] at hs
    obtain ⟨-, rfl, rfl⟩ := hs
    refine ⟨hcredited, hunfailing, fun hawake => ?_, by simpa using hbounded, fun hstopped => ?_⟩
    · -- awake before, or woken now at half the limit
      rw [queueMonitor_dataTxq]
      rw [queueMonitor_queueStopped, Bool.and_eq_false_iff] at hawake
      rcases hawake with hawake | hwoken
      · exact h.awake hawake
      · have := h.wakes_iff.mp (by simpa using hwoken)
        omega
    · rw [queueMonitor_queueStopped, Bool.and_eq_true] at hstopped
      rw [queueMonitor_wsQueueMonitor]
      exact hstopped.2

theorem FlowInv.init (iftype : IfType) (fmacVif : Option FmacVif) :
    FlowInv [] (FlowState.init F iftype fmacVif) := by
  have hawake : (nrfWifiNetdevAddVif F iftype fmacVif).netdev.queueStopped = false := by
    rw [nrfWifiNetdevAddVif, nrfWifiNetdevSetIftype]
    split <;> rfl
  refine ⟨?_, rfl, fun _ => by simp [FlowState.init], by simp [FlowState.init], fun hstopped => ?_⟩
  · simp [Credited, FlowState.init, VifCtx.backlog, DevCtx.zero, TxEvent.failures,
      TxEvent.disposedIn]
  · rw [FlowState.init, hawake] at hstopped
    exact absurd hstopped (by decide)

/-- A handler body that wakes the queue is a monitor run at half the limit. -/
theorem flowStep_wakes (hs : flowStep s a = some (s', u))
    (hstopped : s.vif.netdev.queueStopped = true) (hwoken : s'.vif.netdev.queueStopped = false) :
    s.vif.backlog s.dev ≤ maxTxPendingQlen / 2 := by
  cases a with
  | startXmit skb sameDev enq =>
    exfalso
    cases sameDev <;> cases enq <;>
      simp only [flowStep, nrfWifiNetdevStartXmit, Bool.not_false, Bool.not_true, if_true,
        Bool.false_eq_true, if_false, Option.some.injEq, Prod.mk.injEq] at hs <;>
      obtain ⟨rfl, rfl⟩ := hs <;>
      simp [VifCtx.enqueue, flowCheck_queueStopped, hstopped] at hwoken
  | dataTx prep xmit =>
    simp only [flowStep, Option.ite_none_right_eq_some, Option.some.injEq, Prod.mk.injEq] at hs
    obtain ⟨-, rfl, rfl⟩ := hs
    rw [(dataTxRoutine_stop s.dev s.vif prep xmit).1, hstopped] at hwoken
    exact absurd hwoken (by decide)
  | queueMonitor =>
    simp only [flowStep, Option.ite_none_right_eq_some, Option.some.injEq, Prod.mk.injEq] at hs
    obtain ⟨-, rfl, rfl⟩ := hs
    rw [queueMonitor_queueStopped, hstopped, Bool.true_and] at hwoken
    simpa using hwoken

/-- **Bounded backlog, no lost wake-up.** In every state of a regular run of one interface: the
difference is at most one over the limit; a stopped queue has the monitor pending; and whatever
wakes the queue does so at half the limit or below. -/
theorem queue_bounded_and_woken {iftype : IfType} {fmacVif : Option FmacVif}
    {acts : List (FlowAct F)} (h : (flowMachine F).exec (.init F iftype fmacVif) acts = some (s, t))
    (hok : (flowMachine F).Along FlowState.Regular (.init F iftype fmacVif) acts) :
    s.vif.backlog s.dev ≤ maxTxPendingQlen + 1 ∧
    (s.vif.netdev.queueStopped = true → s.vif.wsQueueMonitor = true) ∧
    (∀ a s' u, (flowMachine F).step s a = some (s', u) → s.vif.netdev.queueStopped = true →
      s'.vif.netdev.queueStopped = false → s.vif.backlog s.dev ≤ maxTxPendingQlen / 2) := by
  have hinv : FlowInv t s :=
    (flowMachine F).exec_invariant_along (fun hP hok hs => FlowInv.step hP hok hs)
      (FlowInv.init iftype fmacVif) hok h
  refine ⟨?_, hinv.watched, fun a s' u hs => flowStep_wakes hs⟩
  rw [UInt64.le_iff_toNat_le, hinv.backlog_toNat]
  exact hinv.bounded

/-- Forty-nine frames fill the queue, and the worker sends twenty-five of them. -/
def filledThenDrained : List (FlowAct ℕ) :=
  (List.range 49).map (fun k => .startXmit k true true) ++ List.replicate 25 (.dataTx true true)

set_option maxRecDepth 10000 in
/-- The last of the frames has stopped the queue, and the monitor wakes it. -/
theorem queue_bounded_and_woken_drained :
    ∃ s t s', (flowMachine ℕ).exec (.init ℕ .station none) filledThenDrained = some (s, t) ∧
      (flowMachine ℕ).step s .queueMonitor = some (s', []) ∧
      s.vif.netdev.queueStopped = true ∧ s'.vif.netdev.queueStopped = false ∧
      s.vif.wsQueueMonitor = true ∧ s.vif.backlog s.dev ≤ maxTxPendingQlen / 2 := by
  obtain ⟨s, t, s', hrun, hstep, hstopped, hwoken⟩ : ∃ s t s',
      (flowMachine ℕ).exec (.init ℕ .station none) filledThenDrained = some (s, t) ∧
      (flowMachine ℕ).step s .queueMonitor = some (s', []) ∧
      s.vif.netdev.queueStopped = true ∧ s'.vif.netdev.queueStopped = false :=
    ⟨_, _, _, rfl, rfl, rfl, rfl⟩
  have hok : (flowMachine ℕ).Along FlowState.Regular (.init ℕ .station none) filledThenDrained := by
    decide +kernel
  obtain ⟨-, hwatched, hhalf⟩ := queue_bounded_and_woken hrun hok
  exact ⟨s, t, s', hrun, hstep, hstopped, hwoken, hwatched hstopped,
    hhalf .queueMonitor s' [] hstep hstopped hwoken⟩

/-! ### Flow control and TWT -/

/-- `info.type` of a TWT sleep event: `TWT_BLOCK_TX`, `TWT_UNBLOCK_TX` or any other value. -/
inductive TwtSleepType
  | blockTx
  | unblockTx
  | other (type : ℕ)
  deriving DecidableEq, Repr

/-- `nrf_wifi_twt_sleep_callbk_fn`. -/
def nrfWifiTwtSleepCallbkFn (v : VifCtx F) : TwtSleepType → VifCtx F
  | .blockTx => { v with netdev := { v.netdev with queueStopped := true } }
  | .unblockTx => { v with netdev := { v.netdev with queueStopped := false } }
  | .other _ => v

/-- The pipeline of one interface, and whether the last block or unblock event was a block. The
driver keeps no such flag: `blocked` is history. -/
structure TwtState (F : Type) where
  tx : TxState F
  blocked : Bool
  deriving DecidableEq, Repr

/-- A TWT sleep event, or a step of the pipeline. -/
inductive TwtAct (F : Type)
  | twtSleep (type : TwtSleepType)
  | tx (a : TxAct F)
  deriving DecidableEq, Repr

/-- Whether a step is the start of a `start_xmit` call. -/
def TxAct.isEnter : TxAct F → Bool
  | .xmitEnter _ _ => true
  | _ => false

/-- One step. The stack calls `start_xmit` only while the queue is not stopped. -/
def twtStep (s : TwtState F) : TwtAct F → Option (TwtState F × List (TxEvent F))
  | .twtSleep type =>
    some ({ tx := { s.tx with vif := nrfWifiTwtSleepCallbkFn s.tx.vif type }
            blocked := match type with
              | .blockTx => true
              | .unblockTx => false
              | .other _ => s.blocked }, [])
  | .tx a =>
    if a.isEnter && s.tx.vif.netdev.queueStopped then none
    else (txStep s.tx a).map fun p => ({ s with tx := p.1 }, p.2)

def twtMachine (F : Type) : Machine (TwtState F) (TwtAct F) (TxEvent F) := ⟨twtStep⟩

/-- A freshly added interface that no TWT event has reached. -/
def TwtState.init (F : Type) (dev : DevCtx) (iftype : IfType) (fmacVif : Option FmacVif) :
    TwtState F :=
  ⟨.init F dev iftype fmacVif, false⟩

/-- A blocked queue is stopped. -/
def TwtState.Held (s : TwtState F) : Prop :=
  s.blocked = true → s.tx.vif.netdev.queueStopped = true

/-- The step is no monitor run that finds a blocked interface with little enough to send. -/
def TwtState.Unmonitored (s : TwtState F) (a : TwtAct F) : Prop :=
  a = .tx .monitorRun → s.blocked = true → ¬ s.tx.vif.backlog s.tx.dev ≤ maxTxPendingQlen / 2

instance (s : TwtState F) : Decidable s.Held :=
  inferInstanceAs (Decidable (_ → _))

instance [DecidableEq F] (s : TwtState F) (a : TwtAct F) : Decidable (s.Unmonitored a) :=
  inferInstanceAs (Decidable (_ → _ → ¬ _))

/-- No step of the pipeline but a monitor run clears the stop bit. -/
theorem TxStep.queueStopped {s s' : TxState F} {a : TxAct F} {u : List (TxEvent F)}
    (hs : TxStep s a s' u) (ha : a ≠ .monitorRun) (hstopped : s.vif.netdev.queueStopped = true) :
    s'.vif.netdev.queueStopped = true := by
  cases hs with
  | flowCheck hx => simp [flowCheck_queueStopped, hstopped]
  | resched hw => simpa using hstopped
  | monitor hp => exact absurd rfl ha
  | _ => exact hstopped

/-- **One step keeps a block exactly when it is not such a monitor run.** -/
theorem twtStep_held {s s' : TwtState F} {a : TwtAct F} {u : List (TxEvent F)} (h : s.Held)
    (hs : twtStep s a = some (s', u)) : s'.Held ↔ s.Unmonitored a := by
  cases a with
  | twtSleep type =>
    simp only [twtStep, Option.some.injEq, Prod.mk.injEq] at hs
    obtain ⟨rfl, rfl⟩ := hs
    cases type with
    | blockTx => simp [TwtState.Held, TwtState.Unmonitored, nrfWifiTwtSleepCallbkFn]
    | unblockTx => simp [TwtState.Held, TwtState.Unmonitored]
    | other type => simpa [TwtState.Held, TwtState.Unmonitored, nrfWifiTwtSleepCallbkFn] using h
  | tx a =>
    simp only [twtStep, Option.ite_none_left_eq_some, Option.map_eq_some_iff] at hs
    obtain ⟨-, ⟨x, v⟩, hx, hs⟩ := hs
    rw [Prod.mk.injEq] at hs
    obtain ⟨rfl, rfl⟩ := hs
    by_cases ha : a = .monitorRun
    · -- the run clears the bit if and only if it finds the difference low
      subst ha
      obtain ⟨hp⟩ := txStep_sound hx
      simp only [TwtState.Held, TwtState.Unmonitored, queueMonitor_queueStopped,
        Bool.and_eq_true, Bool.not_eq_true', decide_eq_false_iff_not, true_imp_iff] at h ⊢
      exact ⟨fun hkept hblocked => (hkept hblocked).2, fun hhigh hblocked =>
        ⟨h hblocked, hhigh hblocked⟩⟩
    · refine iff_of_true (fun hblocked => ?_) fun hrun => ?_
      · exact (txStep_sound hx).queueStopped ha (h hblocked)
      · exact absurd (TwtAct.tx.inj hrun) ha

/-- **A block stands exactly while the monitor finds nothing to wake.** In every interleaving of
TWT events, `start_xmit` calls on a queue that is not stopped, work runs and monitor runs, the
queue is stopped throughout every block if and only if no monitor run finds a blocked interface
with a difference of at most half the limit. -/
theorem twt_block_kept_iff {dev : DevCtx} {iftype : IfType} {fmacVif : Option FmacVif}
    {acts : List (TwtAct F)} {s : TwtState F} {t : List (TxEvent F)}
    (h : (twtMachine F).exec (.init F dev iftype fmacVif) acts = some (s, t)) :
    (twtMachine F).Throughout TwtState.Held (.init F dev iftype fmacVif) acts ↔
      (twtMachine F).Along TwtState.Unmonitored (.init F dev iftype fmacVif) acts :=
  (twtMachine F).throughout_iff_along (fun hP hs => twtStep_held hP hs)
    (fun hblocked => absurd hblocked Bool.false_ne_true) h

/-- A block, a frame that was being queued when it came, and an unblock. -/
theorem twt_block_kept_iff_one_frame :
    (twtMachine ℕ).Throughout TwtState.Held (.init ℕ .zero .station none)
      ([.tx (.xmitEnter 7 true), .twtSleep .blockTx, .tx .xmitFlowCheck, .tx (.xmitEnqueue true),
        .tx .xmitCount, .tx .xmitSchedule, .twtSleep .unblockTx]) := by
  obtain ⟨s, t, hrun⟩ : ∃ s t, (twtMachine ℕ).exec (.init ℕ .zero .station none)
      ([.tx (.xmitEnter 7 true), .twtSleep .blockTx, .tx .xmitFlowCheck, .tx (.xmitEnqueue true),
        .tx .xmitCount, .tx .xmitSchedule, .twtSleep .unblockTx]) = some (s, t) := ⟨_, _, rfl⟩
  exact (twt_block_kept_iff hrun).mpr (by decide)

/-- Forty-nine frames fill the queue, the interface is blocked, and the worker sends twenty-five of
them before the monitor runs. -/
def blockedThenDrained : List (TwtAct ℕ) :=
  ((List.range 49).flatMap fun k => (xmitCall k).map .tx) ++ [.twtSleep .blockTx] ++
    ((List.range 25).flatMap fun _ => [.txStart, .txDequeue, .txTally, .txDispatch,
      .txStartXmit true, .txResched].map .tx) ++ [.tx .monitorRun]

set_option maxRecDepth 10000 in
/-- **The monitor wakes a queue that TWT has blocked.** No unblock event has come. -/
theorem twt_block_undone :
    ∃ s t, (twtMachine ℕ).exec (.init ℕ .zero .station none) blockedThenDrained = some (s, t) ∧
      s.blocked = true ∧ s.tx.vif.netdev.queueStopped = false := by
  exact ⟨_, _, rfl, rfl, rfl⟩

end Nrf70
