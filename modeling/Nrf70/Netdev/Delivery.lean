import Nrf70.Netdev.Framing
import Nrf70.Netdev.MonitorTx

/-!
# From the socket to FMAC

The TX path of one interface with the bytes of its frames. `nrf_wifi_netdev_start_xmit` takes a
frame, the queue carries it, a work run prepares it if the interface is a monitor, and one of two
calls of FMAC gets a buffer. For a frame that was queued under MONITOR the buffer is to be the
prepared frame on the raw path, and for any other the frame itself on the data path; a frame that
cannot be prepared is dropped and nothing else.

This puts together what is known of the parts: that the queue keeps its order, that a change of mode
on a drained interface keeps the framing, and what preparation makes of a frame.

## Main results

* `delivers_in_order` — FMAC receives what it is to receive, in order and once
-/

namespace Nrf70

variable (lib : RawTxLib) (iter : List UInt8 → List RadiotapField)

/-! ### What FMAC is to receive -/

/-- A buffer handed to FMAC, and whether it goes down the raw path. -/
abbrev FmacBuffer := Bool × List UInt8

/-- The frame can be prepared, given head-room. -/
def Preparable (f : List UInt8) : Prop := (nrfWifiPrepareMonitorTxSkb lib iter f true).2 = .ok

instance (f : List UInt8) : Decidable (Preparable lib iter f) :=
  inferInstanceAs (Decidable (_ = _))

/-- The buffer FMAC is to receive for an accepted frame. -/
def fmacExpects : List UInt8 × Bool → Option FmacBuffer
  | (f, true) =>
    if Preparable lib iter f then some (true, (nrfWifiPrepareMonitorTxSkb lib iter f true).1)
    else none
  | (f, false) => some (false, f)

/-- The buffer FMAC has received for a frame that was disposed of. -/
def fmacReceives : List UInt8 × Disposal → Option FmacBuffer
  | (f, .rawpktXmit _) => some (true, (nrfWifiPrepareMonitorTxSkb lib iter f true).1)
  | (f, .startXmit _) => some (false, f)
  | (_, .prepFailed) => none

/-- The buffers FMAC has received, in order. -/
def deliveredIn (t : List (TxEvent (List UInt8))) : List FmacBuffer :=
  (TxEvent.disposedIn t).filterMap (fmacReceives lib iter)

/-- The buffers that are still to come. -/
def TxState.pendingBuffers (s : TxState (List UInt8)) : List FmacBuffer :=
  (s.work.inHandAs s.vif.isMonitor ++ s.vif.dataTxq.map fun f => (f, s.vif.isMonitor)).filterMap
    (fmacExpects lib iter)

/-- A run that is about to prepare its frame gets the answer the code gives, `skb_cow_head` ending
in one of the ways in `cows`. -/
def TxPc.preparesAs (cows : List Bool) (ok : Bool) : TxPc (List UInt8) → Bool
  | .raw f => cows.any fun cow => ok == decide ((nrfWifiPrepareMonitorTxSkb lib iter f cow).2 = .ok)
  | _ => true

/-- A step prepares its frame as the code does. -/
def preparesAsCode (cows : List Bool) (s : ModeState (List UInt8)) : ModeAct (List UInt8) → Bool
  | .tx (.txPrepare ok) => s.tx.work.preparesAs lib iter cows ok
  | _ => true

variable {lib iter}

/-- What is prepared without copying the head is prepared with it, and comes out the same. -/
theorem prepare_of_cowHead {f : List UInt8} {cow : Bool}
    (h : (nrfWifiPrepareMonitorTxSkb lib iter f cow).2 = .ok) :
    nrfWifiPrepareMonitorTxSkb lib iter f true = nrfWifiPrepareMonitorTxSkb lib iter f cow := by
  by_cases hmagic : HasMagic lib f
  · rw [nrfWifiPrepareMonitorTxSkb, nrfWifiPrepareMonitorTxSkb, if_pos hmagic, if_pos hmagic]
  · cases cow with
    | true => rfl
    | false => exact absurd h (prepare_refused hmagic (Or.inr rfl)).1

/-! ### What is known of the frames a run has prepared -/

/-- What was passed on by the raw path could be prepared, and what it dropped could not, if the
head-room never runs out. -/
structure Prepared (lib : RawTxLib) (iter : List UInt8 → List RadiotapField)
    (cows : List Bool) (t : List (TxEvent (List UInt8))) (s : TxState (List UInt8)) : Prop where
  sent : ∀ f ok, (f, .rawpktXmit ok) ∈ TxEvent.disposedIn t → Preparable lib iter f
  dropped : false ∉ cows → ∀ f, (f, .prepFailed) ∈ TxEvent.disposedIn t → ¬ Preparable lib iter f
  inHand : ∀ f, s.work = .prepared f → Preparable lib iter f

section Step

variable {cows : List Bool} {t u : List (TxEvent (List UInt8))}
  {s s' : TxState (List UInt8)} {a : TxAct (List UInt8)}

theorem Prepared.init (dev : DevCtx) (iftype : IfType) (fmacVif : Option FmacVif) :
    Prepared lib iter cows [] (TxState.init (List UInt8) dev iftype fmacVif) :=
  ⟨by simp [TxEvent.disposedIn], by simp [TxEvent.disposedIn],
    by simp [TxState.init, TxState.rest]⟩

/-- A step that disposes of nothing keeps what is known, if it prepares nothing. -/
theorem Prepared.of_silent (h : Prepared lib iter cows t s) (hu : TxEvent.disposedIn u = [])
    (hwork : ∀ f, s'.work = .prepared f → s.work = .prepared f) :
    Prepared lib iter cows (t ++ u) s' := by
  have hsame : TxEvent.disposedIn (t ++ u) = TxEvent.disposedIn t := by
    rw [TxEvent.disposedIn_append, hu, List.append_nil]
  exact ⟨by rw [hsame]; exact h.sent, by rw [hsame]; exact h.dropped,
    fun f hf => h.inHand f (hwork f hf)⟩

/-- Every step that prepares as the code does keeps what is known. -/
theorem Prepared.txStep (h : Prepared lib iter cows t s) (hs : TxStep s a s' u)
    (hprep : ∀ ok, a = .txPrepare ok → s.work.preparesAs lib iter cows ok = true) :
    Prepared lib iter cows (t ++ u) s' := by
  cases hs with
  | @prepare f hw =>
    have hcode := hprep true rfl
    simp only [hw, TxPc.preparesAs, List.any_eq_true, beq_iff_eq] at hcode
    obtain ⟨cow, -, hok⟩ := hcode
    have hcow := of_decide_eq_true hok.symm
    refine ⟨by simpa using h.sent, by simpa using h.dropped, fun g hg => ?_⟩
    obtain rfl : f = g := by simpa using hg
    rw [Preparable, prepare_of_cowHead hcow]
    exact hcow
  | @prepareFail f hw =>
    have hcode := hprep false rfl
    simp only [hw, TxPc.preparesAs, List.any_eq_true, beq_iff_eq] at hcode
    obtain ⟨cow, hallowed, hok⟩ := hcode
    have hcow := of_decide_eq_false hok.symm
    refine ⟨?_, fun hroom g hg => ?_, by simp⟩
    · simpa [TxEvent.disposedIn_append, TxEvent.disposedIn] using h.sent
    · simp only [TxEvent.disposedIn_append, TxEvent.disposedIn, List.mem_append,
        List.mem_singleton, Prod.mk.injEq, and_true] at hg
      rcases hg with hold | rfl
      · exact h.dropped hroom g hold
      · cases cow with
        | true => exact hcow
        | false => exact absurd hallowed hroom
  | @rawpktXmit f ok hw =>
    refine ⟨fun g ok' hg => ?_, fun hroom g hg => ?_, by simp⟩
    · simp only [TxEvent.disposedIn_append, TxEvent.disposedIn, List.mem_append,
        List.mem_singleton, Prod.mk.injEq] at hg
      rcases hg with hold | ⟨rfl, -⟩
      · exact h.sent g ok' hold
      · exact h.inHand g hw
    · refine h.dropped hroom g ?_
      simpa [TxEvent.disposedIn_append, TxEvent.disposedIn] using hg
  | startXmit hw =>
    refine ⟨?_, ?_, by simp⟩
    · simpa [TxEvent.disposedIn_append, TxEvent.disposedIn] using h.sent
    · simpa [TxEvent.disposedIn_append, TxEvent.disposedIn] using h.dropped
  | enter hx | wrongDev hx | flowCheck hx | enqueue hx => exact h.of_silent rfl fun _ hf => hf
  | enqueueFail hx | count hx | schedule hx | monitor hx => exact h.of_silent rfl fun _ hf => hf
  | _ => exact h.of_silent rfl (by simp)

end Step

/-! ### What FMAC has received -/

/-- A map that leaves out more gives a sublist. -/
theorem filterMap_sublist {α β : Type*} {g f : α → Option β} {l : List α}
    (h : ∀ x ∈ l, g x = none ∨ g x = f x) : (l.filterMap g).Sublist (l.filterMap f) := by
  induction l with
  | nil => exact .slnil
  | cons x l ih =>
    have hrest := ih fun y hy => h y (List.mem_cons_of_mem x hy)
    rcases h x List.mem_cons_self with hnone | hsame
    · rw [List.filterMap_cons_none hnone]
      exact hrest.trans (by cases hf : f x <;> simp [hf])
    · cases hf : f x with
      | none => rwa [List.filterMap_cons_none (hsame.trans hf), List.filterMap_cons_none hf]
      | some y =>
        rw [List.filterMap_cons_some (hsame.trans hf), List.filterMap_cons_some hf]
        exact hrest.cons_cons y

section Received

variable {cows : List Bool} {t : List (TxEvent (List UInt8))} {s : TxState (List UInt8)}

/-- What was received for a frame is what was expected, unless it was dropped. -/
theorem Prepared.receives (h : Prepared lib iter cows t s) {p : List UInt8 × Disposal}
    (hp : p ∈ TxEvent.disposedIn t) :
    fmacReceives lib iter p = none ∨
      fmacReceives lib iter p = fmacExpects lib iter (p.1, p.2.isRaw) := by
  obtain ⟨f, d⟩ := p
  cases d with
  | prepFailed => exact .inl rfl
  | rawpktXmit ok =>
    refine .inr ?_
    simp only [fmacReceives, Disposal.isRaw, fmacExpects]
    rw [if_pos (h.sent f ok hp)]
  | startXmit ok => exact .inr rfl

/-- With head-room for every frame, what was received is what was expected. -/
theorem Prepared.receives_all (h : Prepared lib iter cows t s)
    (hroom : false ∉ cows) {p : List UInt8 × Disposal}
    (hp : p ∈ TxEvent.disposedIn t) :
    fmacReceives lib iter p = fmacExpects lib iter (p.1, p.2.isRaw) := by
  obtain ⟨f, d⟩ := p
  cases d with
  | prepFailed =>
    simp only [fmacReceives, Disposal.isRaw, fmacExpects]
    rw [if_neg (h.dropped hroom f hp)]
  | rawpktXmit ok =>
    simp only [fmacReceives, Disposal.isRaw, fmacExpects]
    rw [if_pos (h.sent f ok hp)]
  | startXmit ok => rfl

end Received

/-- **FMAC receives what it is to receive, in order and once.** For every interleaving of
`start_xmit` calls, work runs and type changes on a freshly added interface, each move into or out
of MONITOR on a drained interface: what FMAC has received is a sublist of what it is to receive for
the accepted frames; and if the head-room never runs out, what it has received followed by what is
still to come is all of it. -/
theorem delivers_in_order {dev : DevCtx} {iftype : IfType} {fmacVif : Option FmacVif}
    {acts : List (ModeAct (List UInt8))} {s : ModeState (List UInt8)}
    {t : List (TxEvent (List UInt8))} {cows : List Bool}
    (hdrained : (modeMachine _).Along (fun s a => drainedCrossing s a) (.init _ dev iftype fmacVif)
      acts)
    (hprepares : (modeMachine _).Along (fun s a => preparesAsCode lib iter cows s a)
      (.init _ dev iftype fmacVif) acts)
    (h : (modeMachine _).exec (.init _ dev iftype fmacVif) acts = some (s, t)) :
    (deliveredIn lib iter t).Sublist ((TxEvent.acceptedIn t).filterMap (fmacExpects lib iter)) ∧
    (false ∉ cows →
      (TxEvent.acceptedIn t).filterMap (fmacExpects lib iter) =
        deliveredIn lib iter t ++ s.tx.pendingBuffers lib iter) := by
  obtain ⟨hframed, hprepared⟩ : Framed t s.tx ∧ Prepared lib iter cows t s.tx := by
    refine (modeMachine _).exec_invariant_along
      (P := fun t s => Framed t s.tx ∧ Prepared lib iter cows t s.tx) (t := [])
      (fun {t s a s' u} hP hok hs => ?_) ⟨.init dev iftype fmacVif, .init dev iftype fmacVif⟩
      ((modeMachine _).along_and.mpr ⟨hdrained, hprepares⟩) h
    cases a with
    | tx a =>
      obtain ⟨p, hp, heq⟩ := Option.map_eq_some_iff.mp hs
      simp only [Prod.mk.injEq] at heq
      obtain ⟨rfl, rfl⟩ := heq
      refine ⟨hP.1.txStep (txStep_sound hp), hP.2.txStep (txStep_sound hp) ?_⟩
      rintro ok rfl
      exact hok.2
    | chg c =>
      obtain ⟨p, hp, heq⟩ := Option.map_eq_some_iff.mp hs
      simp only [Prod.mk.injEq] at heq
      obtain ⟨rfl, rfl⟩ := heq
      rw [List.append_nil]
      exact ⟨hP.1.chgStep hok.1 hp, ⟨hP.2.sent, hP.2.dropped, hP.2.inHand⟩⟩
  have hsplit : (TxEvent.acceptedIn t).filterMap (fmacExpects lib iter) =
      (TxEvent.disposedIn t).filterMap (fun p => fmacExpects lib iter (p.1, p.2.isRaw)) ++
        s.tx.pendingBuffers lib iter := by
    rw [hframed, List.append_assoc, List.filterMap_append, List.filterMap_map]
    rfl
  rw [hsplit]
  constructor
  · exact (filterMap_sublist fun p hp => hprepared.receives hp).trans
      (List.sublist_append_left _ _)
  · intro hroom
    rw [deliveredIn, List.filterMap_congr fun p hp => hprepared.receives_all hroom hp]

/-- A frame with a radiotap header is queued on a monitor, sent, and one more is queued. -/
def twoMcsFrames : List (ModeAct (List UInt8)) :=
  (xmitCall mcsFrame ++ rawRun ++ xmitCall mcsFrame).map .tx

theorem delivers_in_order_mcs :
    ∃ s t, (modeMachine _).exec (.init _ .zero .monitor none) twoMcsFrames = some (s, t) ∧
      (TxEvent.acceptedIn t).filterMap (fmacExpects .headers radiotapFields) =
        deliveredIn .headers radiotapFields t ++ s.tx.pendingBuffers .headers radiotapFields ∧
      (deliveredIn .headers radiotapFields t).length = 1 := by
  obtain ⟨s, t, hrun, hone⟩ : ∃ s t,
      (modeMachine _).exec (.init _ .zero .monitor none) twoMcsFrames = some (s, t) ∧
        (deliveredIn .headers radiotapFields t).length = 1 := ⟨_, _, rfl, by decide⟩
  have hdelivers := @delivers_in_order .headers radiotapFields .zero .monitor none twoMcsFrames s t
    [true] (by decide) (by decide) hrun
  exact ⟨s, t, hrun, hdelivers.2 (by decide), hone⟩

end Nrf70
