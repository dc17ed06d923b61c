import Nrf70.Lib.Machine
import Nrf70.Netdev.Vif

/-!
# The TX pipeline of one interface

`nrf_wifi_netdev_start_xmit` and `nrf_cfg80211_data_tx_routine` cut into the steps between which
another context can run. The producer is serialised, and a run of `ws_data_tx` never overlaps
another one, so each has a single program counter. `schedule_work` sets the pending bit of the
work item and starting a run clears it.

## Why the queue cannot strand a frame

A run takes one frame and returns early when the queue is empty, so nothing drains the queue in a
loop. What keeps it moving is that every frame on the queue is owed a run by somebody: the pending
bit, a run that still has its length test ahead of it, or a producer that has queued a frame and
not yet called `schedule_work`. `TxState.Owed` is that disjunction and it is inductive.

## Main results

* `TxStep`, `txStep_sound` — everything one step can do
* `startXmit_exec`, `dataTxRoutine_exec` — run without interruption, the steps are the handlers
* `tx_conserves_and_wakes` — frames are neither lost nor duplicated nor stranded
* `work_steps_bounded` — the worker alone takes only boundedly many steps
-/

namespace Nrf70

variable {F : Type}

/-! ### Program counters, states and actions -/

/-- Where a call of `nrf_wifi_netdev_start_xmit` has got to. -/
inductive XmitPc (F : Type)
  | idle
  | entered (skb : F)
  | checked (skb : F)
  | enqueued
  | counted
  deriving DecidableEq, Repr

/-- Where a run of `nrf_cfg80211_data_tx_routine` has got to. `raw` and `plain` are the two sides
of the second test on the interface type; `resched` is the label of that name. -/
inductive TxPc (F : Type)
  | idle
  | started
  | dequeued (netbuf : F)
  | tallied (netbuf : F)
  | raw (netbuf : F)
  | prepared (netbuf : F)
  | plain (netbuf : F)
  | resched
  deriving DecidableEq, Repr

/-- One interface with its producer and its worker. -/
structure TxState (F : Type) where
  dev : DevCtx
  vif : VifCtx F
  xmit : XmitPc F
  work : TxPc F
  deriving DecidableEq, Repr

/-- The steps, in the order the source makes them. The outcomes of calls the driver does not
control are carried by the action. -/
inductive TxAct (F : Type)
  | xmitEnter (skb : F) (sameDev : Bool)
  | xmitFlowCheck
  | xmitEnqueue (ok : Bool)
  | xmitCount
  | xmitSchedule
  | txStart
  | txDequeue
  | txTally
  | txDispatch
  | txPrepare (ok : Bool)
  | txRawpktXmit (ok : Bool)
  | txStartXmit (ok : Bool)
  | txResched
  | monitorRun
  deriving DecidableEq, Repr

/-- One step of the producer, the worker or the queue monitor. -/
def txStep (s : TxState F) : TxAct F → Option (TxState F × List (TxEvent F))
  | .xmitEnter skb sameDev =>
    match s.xmit with
    | .idle => if sameDev then some ({ s with xmit := .entered skb }, []) else some (s, [])
    | _ => none
  | .xmitFlowCheck =>
    match s.xmit with
    | .entered skb => some ({ s with vif := s.vif.flowCheck s.dev, xmit := .checked skb }, [])
    | _ => none
  | .xmitEnqueue ok =>
    match s.xmit with
    | .checked skb =>
      if ok then
        some ({ s with vif := s.vif.enqueue skb, xmit := .enqueued },
          [.accepted skb s.vif.isMonitor])
      else some ({ s with xmit := .idle }, [])
    | _ => none
  | .xmitCount =>
    match s.xmit with
    | .enqueued =>
      some ({ s with vif := { s.vif with numTxPkt := s.vif.numTxPkt + 1 }, xmit := .counted }, [])
    | _ => none
  | .xmitSchedule =>
    match s.xmit with
    | .counted => some ({ s with vif := { s.vif with wsDataTx := true }, xmit := .idle }, [])
    | _ => none
  | .txStart =>
    match s.work with
    | .idle =>
      if s.vif.wsDataTx then
        some ({ s with vif := { s.vif with wsDataTx := false }, work := .started }, [])
      else none
    | _ => none
  | .txDequeue =>
    match s.work, s.vif.dataTxq with
    | .started, [] => some ({ s with work := .idle }, [])
    | .started, netbuf :: rest =>
      some ({ s with vif := { s.vif with dataTxq := rest }, work := .dequeued netbuf },
        [.dequeued netbuf])
    | _, _ => none
  | .txTally =>
    match s.work with
    | .dequeued netbuf =>
      some ({ s with dev := s.dev.tally s.vif.isMonitor, work := .tallied netbuf }, [])
    | _ => none
  | .txDispatch =>
    match s.work with
    | .tallied netbuf =>
      if s.vif.isMonitor then
        some ({ s with vif := s.vif.assertInjector, work := .raw netbuf }, [])
      else some ({ s with work := .plain netbuf }, [])
    | _ => none
  | .txPrepare ok =>
    match s.work with
    | .raw netbuf =>
      if ok then some ({ s with work := .prepared netbuf }, [])
      else some ({ s with dev := s.dev.rawPrepFail, work := .resched }, [.prepFailed netbuf])
    | _ => none
  | .txRawpktXmit ok =>
    match s.work with
    | .prepared netbuf =>
      some ({ s with dev := s.dev.rawpktXmit ok, work := .resched }, [.rawpktXmit netbuf ok])
    | _ => none
  | .txStartXmit ok =>
    match s.work with
    | .plain netbuf =>
      some ({ s with dev := s.dev.fmacXmit ok, work := .resched }, [.startXmit netbuf ok])
    | _ => none
  | .txResched =>
    match s.work with
    | .resched => some ({ s with vif := s.vif.resched, work := .idle }, [])
    | _ => none
  | .monitorRun =>
    if s.vif.wsQueueMonitor then
      some ({ s with vif := nrfCfg80211QueueMonitorRoutine s.dev s.vif }, [])
    else none

/-- The pipeline of one interface. -/
def txMachine (F : Type) : Machine (TxState F) (TxAct F) (TxEvent F) := ⟨txStep⟩

/-- Both contexts idle. -/
def TxState.rest (dev : DevCtx) (v : VifCtx F) : TxState F := ⟨dev, v, .idle, .idle⟩

/-- A freshly added interface. -/
def TxState.init (F : Type) (dev : DevCtx) (iftype : IfType) (fmacVif : Option FmacVif) :
    TxState F :=
  .rest dev (nrfWifiNetdevAddVif F iftype fmacVif)

/-! ### Everything a step can do -/

/-- The step relation, one constructor for each transition. Every invariant below is a case
analysis of this and none unfolds `txStep`. -/
inductive TxStep (s : TxState F) : TxAct F → TxState F → List (TxEvent F) → Prop
  | enter {skb} (hx : s.xmit = .idle) :
      TxStep s (.xmitEnter skb true) { s with xmit := .entered skb } []
  | wrongDev {skb} (hx : s.xmit = .idle) : TxStep s (.xmitEnter skb false) s []
  | flowCheck {skb} (hx : s.xmit = .entered skb) :
      TxStep s .xmitFlowCheck { s with vif := s.vif.flowCheck s.dev, xmit := .checked skb } []
  | enqueue {skb} (hx : s.xmit = .checked skb) :
      TxStep s (.xmitEnqueue true) { s with vif := s.vif.enqueue skb, xmit := .enqueued }
        [.accepted skb s.vif.isMonitor]
  | enqueueFail {skb} (hx : s.xmit = .checked skb) :
      TxStep s (.xmitEnqueue false) { s with xmit := .idle } []
  | count (hx : s.xmit = .enqueued) :
      TxStep s .xmitCount
        { s with vif := { s.vif with numTxPkt := s.vif.numTxPkt + 1 }, xmit := .counted } []
  | schedule (hx : s.xmit = .counted) :
      TxStep s .xmitSchedule { s with vif := { s.vif with wsDataTx := true }, xmit := .idle } []
  | start (hw : s.work = .idle) (hp : s.vif.wsDataTx = true) :
      TxStep s .txStart { s with vif := { s.vif with wsDataTx := false }, work := .started } []
  | dequeueEmpty (hw : s.work = .started) (hq : s.vif.dataTxq = []) :
      TxStep s .txDequeue { s with work := .idle } []
  | dequeue {netbuf rest} (hw : s.work = .started) (hq : s.vif.dataTxq = netbuf :: rest) :
      TxStep s .txDequeue
        { s with vif := { s.vif with dataTxq := rest }, work := .dequeued netbuf }
        [.dequeued netbuf]
  | tally {netbuf} (hw : s.work = .dequeued netbuf) :
      TxStep s .txTally { s with dev := s.dev.tally s.vif.isMonitor, work := .tallied netbuf } []
  | dispatchRaw {netbuf} (hw : s.work = .tallied netbuf) (hm : s.vif.isMonitor = true) :
      TxStep s .txDispatch { s with vif := s.vif.assertInjector, work := .raw netbuf } []
  | dispatchPlain {netbuf} (hw : s.work = .tallied netbuf) (hm : s.vif.isMonitor = false) :
      TxStep s .txDispatch { s with work := .plain netbuf } []
  | prepare {netbuf} (hw : s.work = .raw netbuf) :
      TxStep s (.txPrepare true) { s with work := .prepared netbuf } []
  | prepareFail {netbuf} (hw : s.work = .raw netbuf) :
      TxStep s (.txPrepare false) { s with dev := s.dev.rawPrepFail, work := .resched }
        [.prepFailed netbuf]
  | rawpktXmit {netbuf ok} (hw : s.work = .prepared netbuf) :
      TxStep s (.txRawpktXmit ok) { s with dev := s.dev.rawpktXmit ok, work := .resched }
        [.rawpktXmit netbuf ok]
  | startXmit {netbuf ok} (hw : s.work = .plain netbuf) :
      TxStep s (.txStartXmit ok) { s with dev := s.dev.fmacXmit ok, work := .resched }
        [.startXmit netbuf ok]
  | resched (hw : s.work = .resched) :
      TxStep s .txResched { s with vif := s.vif.resched, work := .idle } []
  | monitor (hp : s.vif.wsQueueMonitor = true) :
      TxStep s .monitorRun { s with vif := nrfCfg80211QueueMonitorRoutine s.dev s.vif } []

theorem txStep_sound {s s' : TxState F} {a : TxAct F} {u : List (TxEvent F)}
    (h : txStep s a = some (s', u)) : TxStep s a s' u := by
  cases a with
  | xmitEnter skb sameDev =>
    cases hx : s.xmit <;> cases sameDev <;> simp [txStep, hx] at h <;> obtain ⟨rfl, rfl⟩ := h
    · exact .wrongDev hx
    · exact .enter hx
  | xmitFlowCheck =>
    cases hx : s.xmit <;> simp [txStep, hx] at h
    obtain ⟨rfl, rfl⟩ := h
    exact .flowCheck hx
  | xmitEnqueue ok =>
    cases hx : s.xmit <;> cases ok <;> simp [txStep, hx] at h <;> obtain ⟨rfl, rfl⟩ := h
    · exact .enqueueFail hx
    · exact .enqueue hx
  | xmitCount =>
    cases hx : s.xmit <;> simp [txStep, hx] at h
    obtain ⟨rfl, rfl⟩ := h
    exact .count hx
  | xmitSchedule =>
    cases hx : s.xmit <;> simp [txStep, hx] at h
    obtain ⟨rfl, rfl⟩ := h
    exact .schedule hx
  | txStart =>
    cases hw : s.work <;> simp [txStep, hw] at h
    obtain ⟨hp, rfl, rfl⟩ := h
    exact .start hw hp
  | txDequeue =>
    cases hw : s.work <;> cases hq : s.vif.dataTxq <;> simp [txStep, hw, hq] at h <;>
      obtain ⟨rfl, rfl⟩ := h
    · exact .dequeueEmpty hw hq
    · exact .dequeue hw hq
  | txTally =>
    cases hw : s.work <;> simp [txStep, hw] at h
    obtain ⟨rfl, rfl⟩ := h
    exact .tally hw
  | txDispatch =>
    cases hw : s.work <;> cases hm : s.vif.isMonitor <;> simp [txStep, hw, hm] at h <;>
      obtain ⟨rfl, rfl⟩ := h
    · exact .dispatchPlain hw hm
    · exact .dispatchRaw hw hm
  | txPrepare ok =>
    cases hw : s.work <;> cases ok <;> simp [txStep, hw] at h <;> obtain ⟨rfl, rfl⟩ := h
    · exact .prepareFail hw
    · exact .prepare hw
  | txRawpktXmit ok =>
    cases hw : s.work <;> simp [txStep, hw] at h
    obtain ⟨rfl, rfl⟩ := h
    exact .rawpktXmit hw
  | txStartXmit ok =>
    cases hw : s.work <;> simp [txStep, hw] at h
    obtain ⟨rfl, rfl⟩ := h
    exact .startXmit hw
  | txResched =>
    cases hw : s.work <;> simp [txStep, hw] at h
    obtain ⟨rfl, rfl⟩ := h
    exact .resched hw
  | monitorRun =>
    simp only [txStep, Option.ite_none_right_eq_some, Option.some.injEq, Prod.mk.injEq] at h
    obtain ⟨hp, rfl, rfl⟩ := h
    exact .monitor hp

theorem txStep_complete {s s' : TxState F} {a : TxAct F} {u : List (TxEvent F)}
    (h : TxStep s a s' u) : txStep s a = some (s', u) := by
  cases h <;> simp [txStep, *]

/-! ### The handlers, uninterrupted -/

/-- A call of `nrf_wifi_netdev_start_xmit` whose enqueue succeeds. -/
def xmitCall (skb : F) : List (TxAct F) :=
  [.xmitEnter skb true, .xmitFlowCheck, .xmitEnqueue true, .xmitCount, .xmitSchedule]

/-- A run of `ws_data_tx`, with the outcomes of the calls it makes. -/
def workRun (v : VifCtx F) (prep xmit : Bool) : List (TxAct F) :=
  if v.dataTxq = [] then [.txStart, .txDequeue]
  else if v.isMonitor then
    if prep then
      [.txStart, .txDequeue, .txTally, .txDispatch, .txPrepare true, .txRawpktXmit xmit, .txResched]
    else [.txStart, .txDequeue, .txTally, .txDispatch, .txPrepare false, .txResched]
  else [.txStart, .txDequeue, .txTally, .txDispatch, .txStartXmit xmit, .txResched]

/-- **A call that is not interrupted is the handler.** -/
theorem startXmit_exec (dev : DevCtx) (v : VifCtx F) (skb : F) :
    (txMachine F).exec (.rest dev v) (xmitCall skb) =
      some (.rest dev (nrfWifiNetdevStartXmit dev v skb true true).1,
        (nrfWifiNetdevStartXmit dev v skb true true).2.2) := by
  simp [xmitCall, Machine.exec, txMachine, txStep, TxState.rest, nrfWifiNetdevStartXmit,
    VifCtx.enqueue]

/-- **A run that is not interrupted is the handler.** -/
theorem dataTxRoutine_exec (dev : DevCtx) {v : VifCtx F} (hp : v.wsDataTx = true)
    (prep xmit : Bool) :
    (txMachine F).exec (.rest dev v) (workRun v prep xmit) =
      some (.rest (nrfCfg80211DataTxRoutine dev v prep xmit).1
          (nrfCfg80211DataTxRoutine dev v prep xmit).2.1,
        (nrfCfg80211DataTxRoutine dev v prep xmit).2.2) := by
  cases hq : v.dataTxq with
  | nil =>
    simp [workRun, Machine.exec, txMachine, txStep, TxState.rest, nrfCfg80211DataTxRoutine, hp, hq]
  | cons netbuf rest =>
    cases hm : v.wdev == some .monitor <;> cases prep <;>
      simp [workRun, Machine.exec, txMachine, txStep, TxState.rest, nrfCfg80211DataTxRoutine,
        VifCtx.isMonitor, hp, hq, hm]

/-! ### Conservation and wake-up -/

/-- The frame a run has taken off the queue and not yet disposed of. -/
def TxPc.inHand : TxPc F → List F
  | .dequeued f | .tallied f | .raw f | .prepared f | .plain f => [f]
  | .idle | .started | .resched => []

/-- Somebody still owes the queue a run: the pending bit, a run that has not made its length test,
or a producer between its enqueue and its `schedule_work`. -/
def TxState.Owed (s : TxState F) : Prop :=
  s.vif.wsDataTx = true ∨ s.work ≠ .idle ∨ s.xmit = .enqueued ∨ s.xmit = .counted

/-- What holds between the history of a pipeline and its state. -/
structure TxInv (t : List (TxEvent F)) (s : TxState F) : Prop where
  /-- Dequeued frames followed by queued ones are the accepted ones. -/
  conserved : TxEvent.dequeuedIn t ++ s.vif.dataTxq = (TxEvent.acceptedIn t).map Prod.fst
  /-- Disposed frames followed by the one in hand are the dequeued ones. -/
  disposed : (TxEvent.disposedIn t).map Prod.fst ++ s.work.inHand = TxEvent.dequeuedIn t
  /-- A queued frame is owed a run. -/
  owed : s.vif.dataTxq ≠ [] → s.Owed

theorem TxInv.init (dev : DevCtx) (iftype : IfType) (fmacVif : Option FmacVif) :
    TxInv [] (TxState.init F dev iftype fmacVif) := by
  refine ⟨?_, rfl, fun h => absurd (addVif_dataTxq iftype fmacVif) h⟩
  exact congrArg ([] ++ ·) (addVif_dataTxq iftype fmacVif)

variable {t u : List (TxEvent F)} {s s' : TxState F} {a : TxAct F}

/-- Only an enqueue and a dequeue touch the queue, one at each end. -/
theorem TxStep.conserved (hs : TxStep s a s' u)
    (h : TxEvent.dequeuedIn t ++ s.vif.dataTxq = (TxEvent.acceptedIn t).map Prod.fst) :
    TxEvent.dequeuedIn (t ++ u) ++ s'.vif.dataTxq
      = (TxEvent.acceptedIn (t ++ u)).map Prod.fst := by
  rw [TxEvent.dequeuedIn_append, TxEvent.acceptedIn_append]
  cases hs with
  | enqueue hx =>
    simp only [TxEvent.dequeuedIn, TxEvent.acceptedIn, List.append_nil, enqueue_dataTxq,
      List.map_append, List.map_cons, List.map_nil]
    rw [← List.append_assoc, h]
  | dequeue hw hq =>
    rw [hq] at h
    simpa [TxEvent.dequeuedIn, TxEvent.acceptedIn] using h
  | _ => simpa [TxEvent.dequeuedIn, TxEvent.acceptedIn] using h

/-- A frame in hand stays in hand until one of the three disposals. -/
theorem TxStep.disposed (hs : TxStep s a s' u)
    (h : (TxEvent.disposedIn t).map Prod.fst ++ s.work.inHand = TxEvent.dequeuedIn t) :
    (TxEvent.disposedIn (t ++ u)).map Prod.fst ++ s'.work.inHand
      = TxEvent.dequeuedIn (t ++ u) := by
  rw [TxEvent.dequeuedIn_append, TxEvent.disposedIn_append]
  cases hs with
  | enter hx | wrongDev hx | flowCheck hx | enqueue hx | enqueueFail hx | count hx | schedule hx =>
    simpa [TxEvent.dequeuedIn, TxEvent.disposedIn] using h
  | monitor hp => simpa [TxEvent.dequeuedIn, TxEvent.disposedIn] using h
  | dequeue hw hq | dispatchRaw hw hq | dispatchPlain hw hq | start hw hq | dequeueEmpty hw hq =>
    rw [hw] at h
    simpa [TxEvent.dequeuedIn, TxEvent.disposedIn, TxPc.inHand] using h
  | tally hw | prepare hw | prepareFail hw | rawpktXmit hw | startXmit hw | resched hw =>
    rw [hw] at h
    simpa [TxEvent.dequeuedIn, TxEvent.disposedIn, TxPc.inHand] using h

/-- The debt is handed on: from the producer to the pending bit, from the bit to the run it
starts, and from the run back to the bit by its length test. An early return owes nothing, since
it is taken on an empty queue. -/
theorem TxStep.owed (hs : TxStep s a s' u) (h : s.vif.dataTxq ≠ [] → s.Owed)
    (hq' : s'.vif.dataTxq ≠ []) : s'.Owed := by
  unfold TxState.Owed at h ⊢
  cases hs with
  | enqueue hx => exact .inr (.inr (.inl rfl))
  | count hx => exact .inr (.inr (.inr rfl))
  | schedule hx => exact .inl rfl
  | resched hw => exact .inl (resched_wsDataTx_of_ne_nil (by simpa using hq'))
  | dequeueEmpty hw hq => exact absurd hq hq'
  | enter hx | wrongDev hx | enqueueFail hx => simpa [hx] using h hq'
  | flowCheck hx =>
    simp only [flowCheck_dataTxq, flowCheck_wsDataTx] at hq' ⊢
    simpa [hx] using h hq'
  | monitor hp =>
    simp only [queueMonitor_dataTxq, queueMonitor_wsDataTx] at hq' ⊢
    exact h hq'
  | _ => exact .inr (.inl (by simp))

/-- Every step keeps the invariant. -/
theorem TxInv.step (h : TxInv t s) (hs : TxStep s a s' u) : TxInv (t ++ u) s' :=
  ⟨hs.conserved h.conserved, hs.disposed h.disposed, hs.owed h.owed⟩

/-- Every reachable state of the pipeline has the invariant. -/
theorem TxInv.exec {dev : DevCtx} {iftype : IfType} {fmacVif : Option FmacVif}
    {acts : List (TxAct F)}
    (h : (txMachine F).exec (.init F dev iftype fmacVif) acts = some (s, t)) : TxInv t s :=
  (txMachine F).exec_invariant (fun hP hs => hP.step (txStep_sound hs))
    (TxInv.init dev iftype fmacVif) h

/-- **No frame is lost, duplicated or stranded.** For every interleaving of `start_xmit` calls,
work runs and monitor runs on a freshly added interface: the frames dequeued so far followed by
the queue are exactly the accepted frames, in order; every dequeued frame but the one in hand has
been handed to FMAC or dropped, in order and once; a non-empty queue is owed a run; and when
nobody is active and nothing is pending, every accepted frame has been disposed of. -/
theorem tx_conserves_and_wakes {dev : DevCtx} {iftype : IfType} {fmacVif : Option FmacVif}
    {acts : List (TxAct F)}
    (h : (txMachine F).exec (.init F dev iftype fmacVif) acts = some (s, t)) :
    TxEvent.dequeuedIn t ++ s.vif.dataTxq = (TxEvent.acceptedIn t).map Prod.fst ∧
    (s.vif.dataTxq ≠ [] →
      s.vif.wsDataTx = true ∨ s.work ≠ .idle ∨ s.xmit = .enqueued ∨ s.xmit = .counted) ∧
    (TxEvent.disposedIn t).map Prod.fst ++ s.work.inHand = TxEvent.dequeuedIn t ∧
    (s.xmit = .idle → s.work = .idle → s.vif.wsDataTx = false →
      (TxEvent.disposedIn t).map Prod.fst = (TxEvent.acceptedIn t).map Prod.fst) := by
  have hinv : TxInv t s := .exec h
  refine ⟨hinv.conserved, hinv.owed, hinv.disposed, fun hx hw hp => ?_⟩
  have hq : s.vif.dataTxq = [] := by
    by_contra hne
    have := hinv.owed hne
    simp [TxState.Owed, hx, hw, hp] at this
  have hd := hinv.disposed
  have hc := hinv.conserved
  rw [hw, TxPc.inHand, List.append_nil] at hd
  rw [hq, List.append_nil] at hc
  rw [hd, hc]

/-- Two frames; the second is queued while a run is between its dequeue and its length test. -/
theorem tx_conserves_and_wakes_two_frames :
    ∃ s t, (txMachine ℕ).exec (.init ℕ .zero .station none)
        (xmitCall 7 ++ [.txStart, .txDequeue, .txTally] ++ xmitCall 8 ++
          [.txDispatch, .txStartXmit true, .txResched]) = some (s, t) ∧
      TxEvent.dequeuedIn t ++ s.vif.dataTxq = (TxEvent.acceptedIn t).map Prod.fst ∧
      s.vif.dataTxq = [8] ∧
      (s.vif.wsDataTx = true ∨ s.work ≠ .idle ∨ s.xmit = .enqueued ∨ s.xmit = .counted) := by
  obtain ⟨s, t, h, hq⟩ : ∃ s t, (txMachine ℕ).exec (.init ℕ .zero .station none)
      (xmitCall 7 ++ [.txStart, .txDequeue, .txTally] ++ xmitCall 8 ++
        [.txDispatch, .txStartXmit true, .txResched]) = some (s, t) ∧ s.vif.dataTxq = [8] :=
    ⟨_, _, rfl, rfl⟩
  obtain ⟨hc, ho, -, -⟩ := tx_conserves_and_wakes h
  exact ⟨s, t, h, hc, hq, ho (by simp [hq])⟩

/-! ### The worker alone comes to rest -/

/-- The steps of a run of `ws_data_tx`. -/
def TxAct.isWork : TxAct F → Bool
  | .txStart | .txDequeue | .txTally | .txDispatch | .txPrepare _ | .txRawpktXmit _
  | .txStartXmit _ | .txResched => true
  | _ => false

/-- How many steps of the current run can still come, weighted so that a length test can pay for
the pending bit it sets. -/
def TxPc.rank : TxPc F → ℕ
  | .idle => 0
  | .started => 1
  | .resched => 3
  | .prepared _ | .plain _ => 4
  | .raw _ => 5
  | .tallied _ => 6
  | .dequeued _ => 7

/-- A bound on the worker's remaining steps: each queued frame pays for a whole run. -/
def TxState.workRank (s : TxState F) : ℕ :=
  7 * s.vif.dataTxq.length + s.work.rank + if s.vif.wsDataTx then 2 else 0

theorem TxStep.workRank_lt (hs : TxStep s a s' u) (ha : a.isWork = true) :
    s'.workRank < s.workRank := by
  cases hs with
  | start hw hp => simp [TxState.workRank, TxPc.rank, hw, hp]
  | dequeueEmpty hw hq => simp [TxState.workRank, TxPc.rank, hw, hq]
  | dequeue hw hq =>
    simp only [TxState.workRank, TxPc.rank, hw, hq, List.length_cons]
    omega
  | resched hw =>
    simp only [TxState.workRank, TxPc.rank, hw, resched_dataTxq]
    split <;> omega
  | tally hw | prepare hw | prepareFail hw | rawpktXmit hw | startXmit hw =>
    simp [TxState.workRank, TxPc.rank, hw]
  | dispatchPlain hw hm => simp [TxState.workRank, TxPc.rank, hw]
  | dispatchRaw hw hm =>
    cases hp : s.vif.wsDataTx <;> simp [TxState.workRank, TxPc.rank, hw, hp]
  | _ => simp [TxAct.isWork] at ha

/-- **The worker comes to rest.** Left alone, it takes at most `workRank` steps, so a queue that
no producer fills is emptied after boundedly many of them. -/
theorem work_steps_bounded {acts : List (TxAct F)} (hw : ∀ a ∈ acts, a.isWork = true)
    (h : (txMachine F).exec s acts = some (s', t)) : acts.length + s'.workRank ≤ s.workRank := by
  induction acts generalizing s t with
  | nil =>
    simp only [Machine.exec_nil, Option.some.injEq, Prod.mk.injEq] at h
    simp [h.1]
  | cons a acts ih =>
    obtain ⟨s₁, t₁, t₂, ha, hrest, -⟩ := (txMachine F).exec_cons_eq_some.mp h
    have hlt := (txStep_sound ha).workRank_lt (hw a (by simp))
    have hle := ih (fun b hb => hw b (by simp [hb])) hrest
    rw [List.length_cons]
    omega

end Nrf70
