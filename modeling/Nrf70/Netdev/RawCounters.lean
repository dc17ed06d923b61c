import Nrf70.Netdev.Framing

/-!
# The counters of the raw path

The stats file shows four counters of frames on a monitor: taken off the queue, refused by
`nrf_wifi_prepare_monitor_tx_skb`, accepted by FMAC and refused by FMAC. The first is counted behind
one test of the interface type and the other three behind a second one, a few lines further down,
and `nrf_wifi_cfg80211_chg_vif` can change the type in between. All four are 64-bit counters, and
what is said of them here is said modulo `2 ^ 64`.

## Main results

* `raw_counters_balance_iff` — each counter is the number of frames it counts, and the first is the
  sum of the others exactly when no change of mode falls between the two tests
-/

namespace Nrf70

variable {F : Type}

/-! ### What the counters are to say -/

/-- The number of frames of a trace with a kind of fate. -/
def disposals (p : Disposal → Bool) (t : List (TxEvent F)) : UInt64 :=
  .ofNat ((TxEvent.disposedIn t).countP fun d => p d.2)

/-- FMAC has taken the frame, on either path. -/
def Disposal.isSent : Disposal → Bool
  | .rawpktXmit ok | .startXmit ok => ok
  | .prepFailed => false

/-- Each counter is the number of frames it counts. -/
structure CountersTell (t : List (TxEvent F)) (dev : DevCtx) : Prop where
  prepFail : dev.rawTxPrepFailPkts = disposals (· == .prepFailed) t
  sentOk : dev.rawTxSentOkPkts = disposals (· == .rawpktXmit true) t
  sentFail : dev.rawTxSentFailPkts = disposals (· == .rawpktXmit false) t
  total : dev.totalTxPkts = disposals Disposal.isSent t

/-- One for a frame that is counted as dequeued and has still to be counted again, `m` being the
mode its run will find. -/
def TxPc.uncounted (m : Bool) : TxPc F → UInt64
  | .tallied _ => if m then 1 else 0
  | .raw _ | .prepared _ => 1
  | _ => 0

/-- A dequeued frame was refused, accepted, refused by FMAC, or is still in hand. -/
def TxState.Balanced (s : TxState F) : Prop :=
  s.dev.rawTxDequeuedPkts = s.dev.rawTxPrepFailPkts + s.dev.rawTxSentOkPkts +
    s.dev.rawTxSentFailPkts + s.work.uncounted s.vif.isMonitor

instance (s : TxState F) : Decidable s.Balanced := inferInstanceAs (Decidable (_ = _))

/-- A run has made its first test of the interface type and not yet its second. -/
def TxPc.betweenTests : TxPc F → Bool
  | .tallied _ => true
  | _ => false

/-- The step moves the interface into or out of MONITOR, and a run is between its two tests. -/
def ModeState.Straddles (s : ModeState F) (a : ModeAct F) : Prop :=
  a = .chg .install ∧ s.tx.work.betweenTests = true ∧
    ∃ iftype, s.chg = .install iftype ∧ (iftype == .monitor) ≠ s.tx.vif.isMonitor

variable {t u : List (TxEvent F)} {s s' : TxState F} {a : TxAct F}

/-! ### Each counter for itself -/

theorem disposals_append (p : Disposal → Bool) (t u : List (TxEvent F)) :
    disposals p (t ++ u) = disposals p t + disposals p u := by
  rw [disposals, TxEvent.disposedIn_append, List.countP_append, UInt64.ofNat_add]
  rfl

theorem CountersTell.zero : CountersTell ([] : List (TxEvent F)) .zero := ⟨rfl, rfl, rfl, rfl⟩

/-- A frame that is disposed of counts for its fate. -/
theorem disposals_singleton {e : TxEvent F} {f : F} {d : Disposal}
    (he : TxEvent.disposedIn [e] = [(f, d)]) (p : Disposal → Bool) :
    disposals p [e] = if p d then 1 else 0 := by
  rw [disposals, he]
  cases hp : p d <;> simp [hp]

/-- A step that disposes of nothing and leaves the last four counters alone. -/
theorem CountersTell.of_silent (h : CountersTell t s.dev) (hu : TxEvent.disposedIn u = [])
    (hdev : s'.dev = s.dev ∨ ∃ m, s'.dev = s.dev.tally m) : CountersTell (t ++ u) s'.dev := by
  have hsame : ∀ p, disposals p (t ++ u) = disposals p t := by
    intro p
    rw [disposals, disposals, TxEvent.disposedIn_append, hu, List.append_nil]
  obtain hdev | ⟨m, hdev⟩ := hdev
  · exact ⟨by rw [hdev, hsame, h.prepFail], by rw [hdev, hsame, h.sentOk],
      by rw [hdev, hsame, h.sentFail], by rw [hdev, hsame, h.total]⟩
  · have htally : (s.dev.tally m).rawTxPrepFailPkts = s.dev.rawTxPrepFailPkts ∧
        (s.dev.tally m).rawTxSentOkPkts = s.dev.rawTxSentOkPkts ∧
        (s.dev.tally m).rawTxSentFailPkts = s.dev.rawTxSentFailPkts ∧
        (s.dev.tally m).totalTxPkts = s.dev.totalTxPkts := by
      cases m <;> exact ⟨rfl, rfl, rfl, rfl⟩
    obtain ⟨hprep, hok, hfail, htotal⟩ := htally
    exact ⟨by rw [hdev, hprep, hsame, h.prepFail], by rw [hdev, hok, hsame, h.sentOk],
      by rw [hdev, hfail, hsame, h.sentFail], by rw [hdev, htotal, hsame, h.total]⟩

/-- Every step of the TX path counts what it does. -/
theorem CountersTell.txStep (h : CountersTell t s.dev) (hs : TxStep s a s' u) :
    CountersTell (t ++ u) s'.dev := by
  cases hs with
  | tally hw => exact h.of_silent rfl (.inr ⟨_, rfl⟩)
  | @prepareFail netbuf hw =>
    have hone := disposals_singleton (e := .prepFailed netbuf) rfl
    refine ⟨?_, ?_, ?_, ?_⟩ <;> rw [disposals_append, hone]
    · simp [DevCtx.rawPrepFail, h.prepFail]
    · simp [DevCtx.rawPrepFail, h.sentOk]
    · simp [DevCtx.rawPrepFail, h.sentFail]
    · simp [DevCtx.rawPrepFail, h.total, Disposal.isSent]
  | @rawpktXmit netbuf ok hw =>
    have hone := disposals_singleton (e := .rawpktXmit netbuf ok) rfl
    refine ⟨?_, ?_, ?_, ?_⟩ <;> rw [disposals_append, hone] <;> cases ok
    all_goals simp [DevCtx.rawpktXmit, DevCtx.fmacXmit, h.prepFail, h.sentOk, h.sentFail, h.total,
      Disposal.isSent]
  | @startXmit netbuf ok hw =>
    have hone := disposals_singleton (e := .startXmit netbuf ok) rfl
    refine ⟨?_, ?_, ?_, ?_⟩ <;> rw [disposals_append, hone] <;> cases ok
    all_goals simp [DevCtx.fmacXmit, h.prepFail, h.sentOk, h.sentFail, h.total, Disposal.isSent]
  | _ => exact h.of_silent rfl (.inl rfl)

/-! ### The sum -/

theorem TxStep.wdev (hs : TxStep s a s' u) : s'.vif.wdev = s.vif.wdev := by
  cases hs <;> simp

/-- Every step of the TX path keeps the sum. -/
theorem TxState.Balanced.txStep (h : s.Balanced) (hs : TxStep s a s' u) : s'.Balanced := by
  have hm := hs.isMonitor
  unfold TxState.Balanced at h ⊢
  rw [hm]
  cases hs with
  | start hw hp | dequeueEmpty hw hp | dequeue hw hp =>
    rw [hw] at h
    exact h
  | tally hw =>
    rw [hw] at h
    simp only [TxPc.uncounted, DevCtx.tally] at h ⊢
    split_ifs
    · simp only
      rw [h]
      grind
    · exact h
  | dispatchRaw hw hmon | dispatchPlain hw hmon =>
    rw [hw] at h
    simpa [TxPc.uncounted, hmon] using h
  | prepare hw | resched hw =>
    rw [hw] at h
    exact h
  | prepareFail hw =>
    rw [hw] at h
    simp only [TxPc.uncounted, DevCtx.rawPrepFail] at h ⊢
    rw [h]
    grind
  | @rawpktXmit netbuf ok hw =>
    rw [hw] at h
    cases ok
    all_goals
      simp only [TxPc.uncounted, DevCtx.rawpktXmit, DevCtx.fmacXmit, if_true, Bool.false_eq_true,
        if_false] at h ⊢
      rw [h]
      grind
  | @startXmit netbuf ok hw =>
    rw [hw] at h
    cases ok <;> exact h
  | _ => exact h

/-! ### Steps of a mode change -/

section Crossing

variable {s s' : ModeState F} {c : ChgAct}

/-- A change of the type shows in the sum exactly when it crosses and a run is between its two
tests. -/
theorem balanced_install_iff {v' : VifCtx F} {pc' : ChgPc} (hattached : s.tx.vif.wdev ≠ none)
    (h : s.tx.Balanced) (hs : chgStep s.tx.vif s.chg .install = some (v', pc')) :
    ({ s.tx with vif := v' } : TxState F).Balanced ↔ ¬ s.Straddles (.chg .install) := by
  obtain ⟨iftype, hpc, rfl, -⟩ := (chgStep_sound hs).install_inv
  have hmode : ({ s.tx.vif with wdev := s.tx.vif.wdev.map fun _ => iftype } :
      VifCtx F).isMonitor = (iftype == .monitor) := by
    cases hw : s.tx.vif.wdev with
    | none => exact absurd hw hattached
    | some old => simp [VifCtx.isMonitor]
  have hstraddles : s.Straddles (.chg .install) ↔
      s.tx.work.betweenTests = true ∧ (iftype == .monitor) ≠ s.tx.vif.isMonitor := by
    simp [ModeState.Straddles, hpc]
  rw [hstraddles]
  unfold TxState.Balanced at h ⊢
  dsimp only
  rw [hmode]
  cases hw : s.tx.work with
  | tallied netbuf =>
    rw [hw] at h
    simp only [TxPc.uncounted, TxPc.betweenTests, true_and, ne_eq, not_not] at h ⊢
    rw [h]
    cases (iftype == .monitor) <;> cases s.tx.vif.isMonitor <;> simp
  | _ =>
    rw [hw] at h
    exact iff_of_true h (by simp [TxPc.betweenTests])

/-- No other step of a call shows. -/
theorem balanced_chgStep {v' : VifCtx F} {pc' : ChgPc} (h : s.tx.Balanced) (hc : c ≠ .install)
    (hs : chgStep s.tx.vif s.chg c = some (v', pc')) :
    ({ s.tx with vif := v' } : TxState F).Balanced := by
  have hmode : v'.isMonitor = s.tx.vif.isMonitor := by
    unfold VifCtx.isMonitor
    rw [chgStep_wdev hs hc]
  unfold TxState.Balanced at h ⊢
  dsimp only
  rw [hmode]
  exact h

/-- The interface keeps its `wdev`. -/
theorem modeStep_attached {s s' : ModeState F} {a : ModeAct F} {u : List (TxEvent F)}
    (h : s.tx.vif.wdev ≠ none) (hs : modeStep s a = some (s', u)) : s'.tx.vif.wdev ≠ none := by
  cases a with
  | tx a =>
    obtain ⟨p, hp, heq⟩ := Option.map_eq_some_iff.mp hs
    simp only [Prod.mk.injEq] at heq
    obtain ⟨rfl, rfl⟩ := heq
    rw [(txStep_sound hp).wdev]
    exact h
  | chg c =>
    obtain ⟨p, hp, heq⟩ := Option.map_eq_some_iff.mp hs
    simp only [Prod.mk.injEq] at heq
    obtain ⟨rfl, rfl⟩ := heq
    exact (chgStep_sound hp).attached h

/-- **One step shows in the sum exactly when it straddles.** -/
theorem balanced_modeStep_iff {s s' : ModeState F} {a : ModeAct F} {u : List (TxEvent F)}
    (hattached : s.tx.vif.wdev ≠ none) (h : s.tx.Balanced) (hs : modeStep s a = some (s', u)) :
    s'.tx.Balanced ↔ ¬ s.Straddles a := by
  cases a with
  | tx a =>
    obtain ⟨p, hp, heq⟩ := Option.map_eq_some_iff.mp hs
    simp only [Prod.mk.injEq] at heq
    obtain ⟨rfl, rfl⟩ := heq
    exact iff_of_true (h.txStep (txStep_sound hp)) fun hst => by simpa using hst.1
  | chg c =>
    obtain ⟨p, hp, heq⟩ := Option.map_eq_some_iff.mp hs
    simp only [Prod.mk.injEq] at heq
    obtain ⟨rfl, rfl⟩ := heq
    by_cases hc : c = .install
    · subst hc
      exact balanced_install_iff hattached h hp
    · exact iff_of_true (balanced_chgStep h hc hp) fun hst => hc (by simpa using hst.1)

/-- One step counts what it does. -/
theorem CountersTell.modeStep {t u : List (TxEvent F)} {s s' : ModeState F} {a : ModeAct F}
    (h : CountersTell t s.tx.dev) (hs : modeStep s a = some (s', u)) :
    CountersTell (t ++ u) s'.tx.dev := by
  cases a with
  | tx a =>
    obtain ⟨p, hp, heq⟩ := Option.map_eq_some_iff.mp hs
    simp only [Prod.mk.injEq] at heq
    obtain ⟨rfl, rfl⟩ := heq
    exact h.txStep (txStep_sound hp)
  | chg c =>
    obtain ⟨p, hp, heq⟩ := Option.map_eq_some_iff.mp hs
    simp only [Prod.mk.injEq] at heq
    obtain ⟨rfl, rfl⟩ := heq
    rwa [List.append_nil]

end Crossing

/-- **What the counters of the stats file say.** For every interleaving of `start_xmit` calls, work
runs and changes of the type of a freshly added interface: each of the last four counters is the
number of frames with the fate it counts; and the number of dequeued frames is, in every state, the
number of refused, accepted and failed ones and the one in hand exactly when no change of mode
falls between the two tests of a run. -/
theorem raw_counters_balance_iff {iftype : IfType} {fmacVif : Option FmacVif}
    {acts : List (ModeAct F)} {s : ModeState F} {t : List (TxEvent F)}
    (h : (modeMachine F).exec (.init F .zero iftype fmacVif) acts = some (s, t)) :
    CountersTell t s.tx.dev ∧
    ((modeMachine F).Throughout (fun s => s.tx.Balanced) (.init F .zero iftype fmacVif) acts ↔
      (modeMachine F).Along (fun s a => ¬ s.Straddles a) (.init F .zero iftype fmacVif) acts) := by
  have hattached : (ModeState.init F .zero iftype fmacVif).tx.vif.wdev ≠ none := by
    have hwdev : (nrfWifiNetdevAddVif F iftype fmacVif).wdev = some iftype := setIftype_wdev ..
    exact fun hnone => absurd (hwdev.symm.trans hnone) (Option.some_ne_none _)
  constructor
  · exact (modeMachine F).exec_invariant (P := fun t s => CountersTell t s.tx.dev)
      (t := []) (fun hP hs => hP.modeStep hs) CountersTell.zero h
  · exact (modeMachine F).throughout_iff_along_of_invariant
      (Q := fun s => s.tx.vif.wdev ≠ none) (P := fun s => s.tx.Balanced)
      (fun hQ hs => modeStep_attached hQ hs) (fun hQ hP hs => balanced_modeStep_iff hQ hP hs)
      hattached rfl h

/-- A station is made a monitor while a run that has not counted its frame is about to send it. -/
def straddlingRun : List (ModeAct ℕ) :=
  (xmitCall 7 ++ [TxAct.txStart, .txDequeue, .txTally]).map .tx ++ chgToMonitor.map .chg ++
    [.tx .txDispatch, .tx (.txPrepare true), .tx (.txRawpktXmit true)]

theorem raw_counters_balance_iff_straddled :
    ∃ s t, (modeMachine ℕ).exec (.init ℕ .zero .station none) straddlingRun = some (s, t) ∧
      s.tx.dev.rawTxDequeuedPkts = 0 ∧ s.tx.dev.rawTxSentOkPkts = 1 ∧
      ¬ (modeMachine ℕ).Along (fun s a => ¬ s.Straddles a) (.init ℕ .zero .station none)
        straddlingRun := by
  obtain ⟨s, t, hrun, hzero, hone, hbad⟩ : ∃ s t,
      (modeMachine ℕ).exec (.init ℕ .zero .station none) straddlingRun = some (s, t) ∧
        s.tx.dev.rawTxDequeuedPkts = 0 ∧ s.tx.dev.rawTxSentOkPkts = 1 ∧ ¬ s.tx.Balanced :=
    ⟨_, _, rfl, rfl, rfl, by decide⟩
  refine ⟨s, t, hrun, hzero, hone, fun hal => hbad ?_⟩
  exact (raw_counters_balance_iff hrun).2.mpr hal _ s t (List.prefix_refl _) hrun

end Nrf70
