import Nrf70.Cfg80211.ChgVif
import Nrf70.Netdev.TxPipeline

/-!
# Mode changes and the framing of queued frames

A frame put on `data_txq` has the framing of the interface type of that moment: Ethernet, or
radiotap under MONITOR. The queue does not record it. The worker decides from the type it reads
when it dispatches the frame, so a change of type between the two sends the frame down the wrong
path, and nothing in `nrf_wifi_cfg80211_chg_vif` drains the queue first.

The invariant is that everything queued, and a frame taken off the queue but not yet dispatched,
carries the mode the interface has now. TX steps keep it because they do not change the type. A
change of type keeps it when there is nothing to carry: `ModeState.drained`.

## Main results

* `framing_kept_of_drained` — framing is kept in every run whose changes of mode are all made on a
  drained interface
* `framing_crossed` — a run in which a queued Ethernet frame goes out as a raw packet
-/

namespace Nrf70

variable {F : Type}

/-! ### The three actors together -/

/-- One interface whose type may be changed while it transmits. -/
structure ModeState (F : Type) where
  tx : TxState F
  chg : ChgPc
  deriving DecidableEq, Repr

inductive ModeAct (F : Type)
  | tx (a : TxAct F)
  | chg (c : ChgAct)
  deriving DecidableEq, Repr

def modeStep (s : ModeState F) : ModeAct F → Option (ModeState F × List (TxEvent F))
  | .tx a => (txStep s.tx a).map fun p => ({ s with tx := p.1 }, p.2)
  | .chg c =>
    (chgStep s.tx.vif s.chg c).map fun p => (⟨{ s.tx with vif := p.1 }, p.2⟩, [])

def modeMachine (F : Type) : Machine (ModeState F) (ModeAct F) (TxEvent F) := ⟨modeStep⟩

def ModeState.init (F : Type) (dev : DevCtx) (iftype : IfType) (fmacVif : Option FmacVif) :
    ModeState F :=
  ⟨.init F dev iftype fmacVif, .idle⟩

/-! ### The law and the condition for it -/

/-- The `k`-th frame disposed of is the `k`-th accepted one; it was passed to
`nrf_wifi_fmac_start_rawpkt_xmit` only if it was queued under MONITOR, and to
`nrf_wifi_fmac_start_xmit` only if it was not. -/
def FramingKept (t : List (TxEvent F)) : Prop :=
  ∀ (k : ℕ) (f : F) (d : Disposal), (TxEvent.disposedIn t)[k]? = some (f, d) →
    ∃ monitor, (TxEvent.acceptedIn t)[k]? = some (f, monitor) ∧
      (∀ ok, d = .rawpktXmit ok → monitor = true) ∧ (∀ ok, d = .startXmit ok → monitor = false)

/-- A run has taken a frame off the queue and not yet read the type it dispatches on. -/
def TxPc.undispatched : TxPc F → Bool
  | .dequeued _ | .tallied _ => true
  | _ => false

/-- No frame is waiting to be dispatched. -/
def ModeState.drained (s : ModeState F) : Bool :=
  s.tx.vif.dataTxq.isEmpty && !s.tx.work.undispatched

/-- A step that moves the interface into or out of MONITOR is taken on a drained interface. -/
def drainedCrossing (s : ModeState F) : ModeAct F → Bool
  | .chg .install =>
    match s.chg with
    | .install iftype => (iftype == .monitor) == s.tx.vif.isMonitor || s.drained
    | _ => true
  | _ => true

/-! ### The invariant -/

/-- Whether a disposal is on the raw path. -/
def Disposal.isRaw : Disposal → Bool
  | .prepFailed | .rawpktXmit _ => true
  | .startXmit _ => false

/-- The frame in hand with the mode it will be handled under; before the dispatch that is the
interface's own mode `m`. -/
def TxPc.inHandAs (m : Bool) : TxPc F → List (F × Bool)
  | .dequeued f | .tallied f => [(f, m)]
  | .raw f | .prepared f => [(f, true)]
  | .plain f => [(f, false)]
  | .idle | .started | .resched => []

/-- Every accepted frame is disposed of, in hand or queued, in this order, and under the mode it
was accepted under. -/
def Framed (t : List (TxEvent F)) (s : TxState F) : Prop :=
  TxEvent.acceptedIn t =
    (TxEvent.disposedIn t).map (fun p => (p.1, p.2.isRaw)) ++ s.work.inHandAs s.vif.isMonitor ++
      s.vif.dataTxq.map fun f => (f, s.vif.isMonitor)

theorem Framed.init (dev : DevCtx) (iftype : IfType) (fmacVif : Option FmacVif) :
    Framed [] (TxState.init F dev iftype fmacVif) := by
  simp [Framed, TxState.init, TxState.rest, TxEvent.acceptedIn, TxEvent.disposedIn, TxPc.inHandAs]

/-- No step of the TX path changes the interface type. -/
theorem TxStep.isMonitor {s s' : TxState F} {a : TxAct F} {u : List (TxEvent F)}
    (hs : TxStep s a s' u) : s'.vif.isMonitor = s.vif.isMonitor := by
  unfold VifCtx.isMonitor
  cases hs <;> simp

/-- Every step of the TX path keeps the framing. -/
theorem Framed.txStep {t u : List (TxEvent F)} {s s' : TxState F} {a : TxAct F} (h : Framed t s)
    (hs : TxStep s a s' u) : Framed (t ++ u) s' := by
  have hm := hs.isMonitor
  unfold Framed at h ⊢
  rw [hm, TxEvent.acceptedIn_append, TxEvent.disposedIn_append, h]
  cases hs with
  | enqueue hx => simp [TxEvent.acceptedIn, TxEvent.disposedIn]
  | dequeue hw hq => simp [TxEvent.acceptedIn, TxEvent.disposedIn, TxPc.inHandAs, hw, hq]
  | dispatchRaw hw hmon | dispatchPlain hw hmon =>
    simp [TxEvent.acceptedIn, TxEvent.disposedIn, TxPc.inHandAs, hw, hmon]
  | prepareFail hw | rawpktXmit hw | startXmit hw =>
    simp [TxEvent.acceptedIn, TxEvent.disposedIn, TxPc.inHandAs, hw, Disposal.isRaw]
  | start hw hp | dequeueEmpty hw hp =>
    simp [TxEvent.acceptedIn, TxEvent.disposedIn, TxPc.inHandAs, hw]
  | tally hw | prepare hw | resched hw =>
    simp [TxEvent.acceptedIn, TxEvent.disposedIn, TxPc.inHandAs, hw]
  | _ => simp [TxEvent.acceptedIn, TxEvent.disposedIn]

/-- With nothing waiting, the mode the invariant speaks of does not matter. -/
theorem Framed.of_drained {t : List (TxEvent F)} {s s' : ModeState F} (h : Framed t s.tx)
    (hd : s.drained = true) (hq : s'.tx.vif.dataTxq = s.tx.vif.dataTxq)
    (hw : s'.tx.work = s.tx.work) : Framed t s'.tx := by
  simp only [ModeState.drained, Bool.and_eq_true, List.isEmpty_iff, Bool.not_eq_true'] at hd
  obtain ⟨hempty, hu⟩ := hd
  have hhand : ∀ m m', s.tx.work.inHandAs m = s.tx.work.inHandAs m' := by
    intro m m'
    cases hpc : s.tx.work <;> simp_all [TxPc.undispatched, TxPc.inHandAs]
  unfold Framed at h ⊢
  rw [hq, hw, hempty, hhand _ s.tx.vif.isMonitor, h, hempty]
  rfl

/-- A step of a mode change keeps the framing when it is taken under the condition. -/
theorem Framed.chgStep {t : List (TxEvent F)} {s : ModeState F} {c : ChgAct} {v' : VifCtx F}
    {pc' : ChgPc} (h : Framed t s.tx) (hok : drainedCrossing s (.chg c))
    (hs : Nrf70.chgStep s.tx.vif s.chg c = some (v', pc')) :
    Framed t { s.tx with vif := v' } := by
  have hq := chgStep_dataTxq hs
  by_cases hm : v'.isMonitor = s.tx.vif.isMonitor
  · unfold Framed at h ⊢
    rw [hm, hq]
    exact h
  · -- the mode was crossed, so this is `install`, and the condition says nothing was waiting
    have hc : c = .install := by
      by_contra hne
      exact hm (by unfold VifCtx.isMonitor; rw [chgStep_wdev hs hne])
    subst hc
    cases hpc : s.chg with
    | install iftype =>
      simp only [Nrf70.chgStep, hpc, Option.some.injEq, Prod.mk.injEq] at hs
      have hcross : (iftype == .monitor) ≠ s.tx.vif.isMonitor := by
        intro heq
        apply hm
        rw [← heq, ← hs.1]
        cases hw : s.tx.vif.wdev with
        | none => simp_all [VifCtx.isMonitor]
        | some old => simp [VifCtx.isMonitor]
      have hd : s.drained = true := by simpa [drainedCrossing, hpc, hcross] using hok
      have hframed : Framed t (⟨{ s.tx with vif := v' }, pc'⟩ : ModeState F).tx :=
        h.of_drained hd hq rfl
      exact hframed
    | _ => simp [Nrf70.chgStep, hpc] at hs

/-- Framing that every position carries is framing kept. -/
theorem Framed.kept {t : List (TxEvent F)} {s : TxState F} (h : Framed t s) : FramingKept t := by
  intro k f d hk
  refine ⟨d.isRaw, ?_, ?_, ?_⟩
  · have hlt : k < (TxEvent.disposedIn t).length := (List.getElem?_eq_some_iff.mp hk).1
    rw [h, List.append_assoc, List.getElem?_append_left (by simpa using hlt), List.getElem?_map, hk]
    rfl
  · rintro ok rfl; rfl
  · rintro ok rfl; rfl

/-- **Framing is kept when modes are changed on a drained interface.** For every interleaving of
`start_xmit` calls, work runs and type changes in which each move into or out of MONITOR finds the
queue empty and no dequeued frame undispatched, no Ethernet frame is sent raw and no radiotap frame
is sent as data. -/
theorem framing_kept_of_drained {dev : DevCtx} {iftype : IfType} {fmacVif : Option FmacVif}
    {acts : List (ModeAct F)} {s : ModeState F} {t : List (TxEvent F)}
    (hok : (modeMachine F).Along (fun s a => drainedCrossing s a) (.init F dev iftype fmacVif) acts)
    (h : (modeMachine F).exec (.init F dev iftype fmacVif) acts = some (s, t)) :
    FramingKept t := by
  have hinv : Framed t s.tx := by
    refine (modeMachine F).exec_invariant_along (P := fun t s => Framed t s.tx)
      (fun {t s a s' u} hP hok hs => ?_) (Framed.init dev iftype fmacVif) hok h
    cases a with
    | tx a =>
      obtain ⟨p, hp, heq⟩ := Option.map_eq_some_iff.mp hs
      simp only [Prod.mk.injEq] at heq
      obtain ⟨rfl, rfl⟩ := heq
      exact hP.txStep (txStep_sound hp)
    | chg c =>
      obtain ⟨p, hp, heq⟩ := Option.map_eq_some_iff.mp hs
      simp only [Prod.mk.injEq] at heq
      obtain ⟨rfl, rfl⟩ := heq
      rw [List.append_nil]
      exact hP.chgStep hok hp
  exact hinv.kept

/-! ### Crossing on a queue that is not empty -/

/-- A change to MONITOR, which needs nothing from the firmware. -/
def chgToMonitor : List ChgAct := [.enter .monitor, .force, .install, .setLink, .carrier]

/-- A run of `ws_data_tx` on the raw path. -/
def rawRun : List (TxAct F) :=
  [.txStart, .txDequeue, .txTally, .txDispatch, .txPrepare true, .txRawpktXmit true, .txResched]

/-- A run of `ws_data_tx` on the data path. -/
def plainRun : List (TxAct F) :=
  [.txStart, .txDequeue, .txTally, .txDispatch, .txStartXmit true, .txResched]

/-- One change of mode between a run that drains the queue and the next frame. -/
theorem framing_kept_of_drained_monitor :
    ∃ s, (modeMachine ℕ).exec (.init ℕ .zero .station none)
        ((xmitCall 7 ++ plainRun).map .tx ++ chgToMonitor.map .chg ++
          (xmitCall 8 ++ rawRun).map .tx) =
      some (s, [.accepted 7 false, .dequeued 7, .startXmit 7 true,
        .accepted 8 true, .dequeued 8, .rawpktXmit 8 true]) ∧
      FramingKept [.accepted 7 false, .dequeued 7, .startXmit 7 true,
        .accepted 8 true, .dequeued 8, .rawpktXmit 8 true] := by
  have hok : (modeMachine ℕ).Along (fun s a => drainedCrossing s a) (.init ℕ .zero .station none)
      ((xmitCall 7 ++ plainRun).map .tx ++ chgToMonitor.map .chg ++
        (xmitCall 8 ++ rawRun).map .tx) := by decide
  exact ⟨_, rfl, framing_kept_of_drained hok rfl⟩

/-- **A queued Ethernet frame goes out raw.** A station queues frame `7`; before the work item
runs, the interface is changed to MONITOR. -/
theorem framing_crossed :
    ∃ s, (modeMachine ℕ).exec (.init ℕ .zero .station none)
        ((xmitCall 7).map .tx ++ chgToMonitor.map .chg ++ rawRun.map .tx) =
      some (s, [.accepted 7 false, .dequeued 7, .rawpktXmit 7 true]) ∧
      ¬ FramingKept [.accepted 7 false, .dequeued 7, .rawpktXmit (7 : ℕ) true] := by
  refine ⟨_, rfl, fun h => ?_⟩
  obtain ⟨monitor, haccepted, hraw, -⟩ := h 0 7 (.rawpktXmit true) rfl
  rw [hraw true rfl] at haccepted
  simp [TxEvent.acceptedIn] at haccepted

end Nrf70
