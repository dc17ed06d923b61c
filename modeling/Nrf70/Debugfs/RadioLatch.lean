import Nrf70.Debugfs.RadioHandlers

/-!
# The latch around the RF tests

`rf_test_run` and `rf_test` are shared by the tone, which stays on after its command, and by six
one-shot tests, which raise the latch around a firmware call. Two things go wrong with that. A
one-shot test whose call fails leaves through the error exit with the latch up, and
`nrf_wifi_radio_test_init` refuses to go on when it finds a test other than the tone. And a one-shot
test that succeeds lowers the latch, although a tone may be what had raised it: the check for a
test in progress looks at TX and RX only.

Both are read off one fact, `next_latch`, which says what a command does to the latch and to the
tone in the firmware.

## Main results

* `console_restarts_iff` — `init` works throughout a sequence of writes exactly when every one-shot
  test that is started is answered with success
* `tone_remembered_iff` — a tone in the firmware is known to the host throughout exactly when no
  one-shot test is started while the tone is on
-/

namespace Nrf70

variable (d : Nrfxlib) (o : Outcomes)

/-! ### What a command does to the latch -/

/-- The command passes the checks of a one-shot test, so the latch is raised and the firmware
called. -/
def Command.StartsOneShot (ctx : RadioCtx) : Command → Prop
  | .val .dpd v | .val .getTemperature v | .val .getRfRssi v => v ≤ 1 ∧ (v = 1 → ctx.Idle)
  | .val .setXoVal v => v ≤ 0x7f ∧ (v = 1 → ctx.Idle)
  | .val .computeOptimalXoVal _ => ctx.Idle
  | .val .rxCap v => RxCapStarts d o ctx v
  | _ => False

/-- What the firmware answers to a one-shot test. -/
def Command.oneShotOk : Command → Bool
  | .val .dpd _ => o.dpd
  | .val .getTemperature _ => o.getTemp
  | .val .getRfRssi _ => o.getRfRssi
  | .val .setXoVal _ => o.setXoVal
  | .val .computeOptimalXoVal _ => o.computeXo
  | .val .rxCap _ => o.rxCap
  | _ => true

/-- Everything a command can do to the latch and to the tone. -/
inductive LatchStep (s s' : RadioState) (c : Command) : Prop
  | ended (h : c.StartsOneShot d o s.ctx) (hok : c.oneShotOk o = true)
      (hrun : s'.ctx.rfTestRun = false) (htone : s'.fw.tone = s.fw.tone)
  | stuck (h : c.StartsOneShot d o s.ctx) (hok : c.oneShotOk o = false)
      (hrun : s'.ctx.rfTestRun = true) (htest : s'.ctx.rfTest ≠ .txTone)
      (htone : s'.fw.tone = s.fw.tone)
  | kept (h : ¬ c.StartsOneShot d o s.ctx) (hrun : s'.ctx.rfTestRun = s.ctx.rfTestRun)
      (htest : s'.ctx.rfTest = s.ctx.rfTest) (htone : s'.fw.tone = s.fw.tone)
  | toneOn (h : ¬ c.StartsOneShot d o s.ctx) (hrun : s'.ctx.rfTestRun = true)
      (htest : s'.ctx.rfTest = .txTone) (htone : s'.fw.tone = true)
  | toneOff (h : ¬ c.StartsOneShot d o s.ctx) (hrun : s'.ctx.rfTestRun = false)
      (htone : s'.fw.tone = false)

section Latch

variable {d o} {s : RadioState} {c : Command} {checks : List (Option ConfError)}
  {store : ConfParams → ConfParams}

/-- A handler that leaves the latch and the firmware alone. -/
theorem latchStep_of_fail {e : ConfError} (h : ¬ c.StartsOneShot d o s.ctx)
    (heq : c.handle d o s.ctx = .fail s.ctx e) : LatchStep d o s (c.next d o s) c := by
  refine .kept h ?_ ?_ ?_ <;> simp [Command.next, heq]

theorem latchStep_of_setParam (h : ¬ c.StartsOneShot d o s.ctx)
    (heq : c.handle d o s.ctx = setParam checks store s.ctx) :
    LatchStep d o s (c.next d o s) c := by
  refine .kept h ?_ ?_ ?_ <;> simp [Command.next, heq]

theorem latchStep_of_oneShot {test : RfTest} {call : FmacCall} {failed : ConfError}
    (heq : c.handle d o s.ctx =
      oneShot checks test call (c.oneShotOk o) failed store s.ctx)
    (hstarts : c.StartsOneShot d o s.ctx ↔ ∀ e ∈ checks, e = none) (htest : test ≠ .txTone)
    (hcall : ∀ fw b, Firmware.after fw (.fmac call b) = fw) :
    LatchStep d o s (c.next d o s) c := by
  have htone : (c.next d o s).fw.tone = s.fw.tone := by
    rw [Command.next, heq]
    exact congrArg Firmware.tone (oneShot_after hcall s.fw)
  by_cases h : c.StartsOneShot d o s.ctx
  · rw [oneShot_of_pass (hstarts.mp h)] at heq
    cases hok : c.oneShotOk o with
    | true =>
      rw [hok, if_pos rfl] at heq
      refine .ended h hok ?_ htone
      rw [Command.next, heq]
      rfl
    | false =>
      rw [hok, if_neg Bool.false_ne_true] at heq
      refine .stuck h hok ?_ ?_ htone
      · rw [Command.next, heq]
        rfl
      · rw [Command.next, heq]
        exact htest
  · obtain ⟨e, he⟩ := oneShot_of_not_pass test call (c.oneShotOk o) failed store s.ctx
      fun hp => h (hstarts.mpr hp)
    exact latchStep_of_fail h (heq.trans he)

theorem not_startsOneShot_of_isSetter {key : ValKey} {v : UInt64} (h : key.isSetter = true) :
    ¬ (Command.val key v).StartsOneShot d o s.ctx := by
  cases key <;> first | exact id | exact absurd h (by decide)

theorem latchStep_rxCap (v : UInt64) :
    LatchStep d o s ((Command.val .rxCap v).next d o s) (.val .rxCap v) := by
  have hfw : ((Command.val .rxCap v).next d o s).fw = s.fw := rxCap_after d o s.ctx v s.fw
  by_cases h : RxCapStarts d o s.ctx v
  · obtain ⟨-, hrun, htest⟩ := rxCap_of_pass h
    cases hok : o.rxCap with
    | true => exact .ended h hok (hrun.trans (by rw [hok]; rfl)) (by rw [hfw])
    | false =>
      refine .stuck h hok (hrun.trans (by rw [hok]; rfl)) ?_ (by rw [hfw])
      intro hne
      have hcap := htest.symm.trans hne
      simp [hok] at hcap
  · obtain ⟨-, hrun, htest⟩ := rxCap_of_not_pass h
    exact .kept h hrun htest (by rw [hfw])

theorem latchStep_txTone (v : UInt64) :
    LatchStep d o s ((Command.val .txTone v).next d o s) (.val .txTone v) := by
  have hnot : ¬ (Command.val .txTone v).StartsOneShot d o s.ctx := id
  have heq : (Command.val .txTone v).handle d o s.ctx = nrfWifiRadioTestTxTone o s.ctx v := rfl
  by_cases hallow : SwitchAllowed s.ctx v
  · rw [txTone_of_allowed hallow] at heq
    cases hok : o.txTone with
    | false => refine .kept hnot ?_ ?_ ?_ <;> simp [Command.next, heq, hok, Firmware.after]
    | true =>
      rcases hallow with rfl | ⟨rfl, -⟩
      · refine .toneOff hnot ?_ ?_ <;>
          simp [Command.next, heq, hok, Firmware.after, RadioCtx.unlatch]
      · refine .toneOn hnot ?_ ?_ ?_ <;>
          simp [Command.next, heq, hok, Firmware.after, RadioCtx.latch]
  · obtain ⟨e, he⟩ := txTone_of_not_allowed (o := o) hallow
    exact latchStep_of_fail hnot (heq.trans he)

theorem latchStep_init (v : UInt64) :
    LatchStep d o s ((Command.val .init v).next d o s) (.val .init v) := by
  have hnot : ¬ (Command.val .init v).StartsOneShot d o s.ctx := fun h => h
  cases hval : checkValidChannel v.toUInt8 with
  | false =>
    refine latchStep_of_fail (e := invalidValue v) hnot ?_
    show nrfWifiRadioTestInit d o s.ctx v = _
    rw [nrfWifiRadioTestInit, hval, if_neg Bool.false_ne_true]
  | true =>
    have hexit := init_exit d o s.ctx hval
    have hnext : (Command.val .init v).next d o s =
        ⟨(nrfWifiRadioTestInit d o s.ctx v).state,
          (nrfWifiRadioTestInit d o s.ctx v).events.foldl Firmware.after s.fw⟩ := rfl
    rw [hnext]
    generalize nrfWifiRadioTestInit d o s.ctx v = r at hexit
    -- the latch moves only at the exits past the tone, and then it follows the tone
    have hpast : ∀ (p : ConfParams) (fw : Firmware),
        fw.tone = (if s.ctx.rfTestRun then false else s.fw.tone) →
        LatchStep d o s ⟨{ s.ctx.stopTone with confParams := p }, fw⟩ (.val .init v) := by
      intro p fw hfw
      cases hrun : s.ctx.rfTestRun with
      | true =>
        refine .toneOff hnot ?_ ?_
        · simp [RadioCtx.stopTone, hrun, RadioCtx.unlatch]
        · simpa [hrun] using hfw
      | false =>
        refine .kept hnot ?_ ?_ ?_
        · simp [RadioCtx.stopTone, hrun]
        · simp [RadioCtx.stopTone, hrun]
        · simpa [hrun] using hfw
    cases hexit with
    | rxFailed hrx hok => exact .kept hnot rfl rfl rfl
    | txFailed hrx htx hok =>
      refine .kept hnot rfl rfl ?_
      simp [stopRxEvents_after, Firmware.after]
    | toneFailed hrx htx htone =>
      refine .kept hnot rfl rfl ?_
      simp [stopRxEvents_after, stopTxEvents_after, toneFailedEvents_after]
    | confFailed hrx htx htone hok =>
      refine hpast _ _ ?_
      simp [stopRxEvents_after, stopTxEvents_after, stopToneEvents_after, Firmware.after]
    | programmed hrx htx htone hok he =>
      refine hpast _ _ ?_
      simp [stopRxEvents_after, stopTxEvents_after, stopToneEvents_after, Firmware.after]

variable (d o s) in
/-- **What a command does to the latch and to the tone.** -/
theorem next_latch (c : Command) : LatchStep d o s (c.next d o s) c := by
  cases c with
  | setDefaults => exact .kept id rfl rfl rfl
  | bypassInvalid rest => exact latchStep_of_fail id rfl
  | unknown buf => exact latchStep_of_fail id rfl
  | sval key v =>
    obtain ⟨checks, store, heq, -⟩ := SvalKey.handle_eq_setParam d s.ctx key v
    exact latchStep_of_setParam id heq
  | regDomain reg =>
    rcases setRegDomain_cases o s.ctx reg with ⟨-, e, he⟩ | ⟨a, b, -, -, hstate, -, hfw⟩
    · exact latchStep_of_fail id he
    · refine .kept id ?_ ?_ ?_ <;>
        simp [Command.next, Command.handle, hstate, hfw, RadioCtx.setCountryCode]
  | val key v =>
    by_cases hset : key.isSetter = true
    · obtain ⟨checks, store, heq, -⟩ := ValKey.handle_of_isSetter d o s.ctx v hset
      exact latchStep_of_setParam (not_startsOneShot_of_isSetter hset) heq
    cases key with
    | rxCap => exact latchStep_rxCap v
    | txTone => exact latchStep_txTone v
    | init => exact latchStep_init v
    | setXoVal =>
      have heq : (Command.val .setXoVal v).handle d o s.ctx = nrfWifiRadioSetXoVal d o s.ctx v :=
        rfl
      rw [nrfWifiRadioSetXoVal] at heq
      refine latchStep_of_oneShot heq ?_ (by decide) (fun fw b => by cases b <;> rfl)
      simp [Command.StartsOneShot]
    | dpd | getTemperature | getRfRssi | computeOptimalXoVal =>
      refine latchStep_of_oneShot rfl ?_ (by decide) (fun fw b => by cases b <;> rfl)
      simp [Command.StartsOneShot]
    | tx =>
      have heq : (Command.val .tx v).handle d o s.ctx = nrfWifiRadioTestSetTx d o s.ctx v := rfl
      by_cases hallow : TxAllowed d s.ctx v
      · rw [setTx_of_allowed hallow] at heq
        refine .kept id ?_ ?_ ?_ <;> cases hok : o.progTx <;>
          simp [Command.next, heq, hok, Firmware.after]
      · obtain ⟨e, he⟩ := setTx_of_not_allowed (o := o) hallow
        exact latchStep_of_fail id (heq.trans he)
    | rx =>
      have heq : (Command.val .rx v).handle d o s.ctx = nrfWifiRadioTestSetRx o s.ctx v := rfl
      by_cases hallow : SwitchAllowed s.ctx v
      · rw [setRx_of_allowed hallow] at heq
        refine .kept id ?_ ?_ ?_ <;> cases hok : o.progRx <;>
          simp [Command.next, heq, hok, Firmware.after]
      · obtain ⟨e, he⟩ := setRx_of_not_allowed (o := o) hallow
        exact latchStep_of_fail id (heq.trans he)
    | _ => exact absurd rfl hset

end Latch

/-! ### `init` finds a test it can stop -/

/-- An `init` with a valid channel whose own FMAC calls all succeed returns 0. -/
def Restarts (s : RadioState) : Prop :=
  ∀ o v, checkValidChannel v.toUInt8 = true →
    CallsSucceed (nrfWifiRadioTestInit d o s.ctx v).events →
    (nrfWifiRadioTestInit d o s.ctx v).error = none

/-- A running test is the tone. -/
def OnlyToneRuns (s : RadioState) : Prop := s.ctx.rfTestRun = true → s.ctx.rfTest = .txTone

variable {d o}

/-- The latch is all that stands between `init` and success. -/
theorem restarts_iff_onlyToneRuns {s : RadioState} : Restarts d s ↔ OnlyToneRuns s := by
  constructor
  · intro h hrun
    by_contra htest
    have hbad : ¬ ToneStops .success s.ctx := fun hstops => htest (hstops hrun).1
    have hval : checkValidChannel (1 : UInt64).toUInt8 = true := by decide
    have hexit := init_exit d .success s.ctx hval
    have hret := h .success 1 (by decide)
    generalize nrfWifiRadioTestInit d .success s.ctx 1 = r at hexit hret
    cases hexit with
    | rxFailed hrx hok => exact absurd hok (by decide)
    | txFailed hrx htx hok => exact absurd hok (by decide)
    | toneFailed hrx htx htone =>
      refine absurd (hret ?_) (by simp)
      intro call ok hmem
      rw [toneFailedEvents, if_neg htest, List.append_nil] at hmem
      exact ok_of_mem_stopEvents hmem
    | confFailed hrx htx htone hok => exact absurd htone hbad
    | programmed hrx htx htone hok he => exact absurd htone hbad
  · intro h o v hval hcalls
    have hexit := init_exit d o s.ctx hval
    generalize nrfWifiRadioTestInit d o s.ctx v = r at hexit hcalls
    cases hexit with
    | rxFailed hrx hok =>
      exact absurd (hcalls (.progRx s.ctx.stopRx.confParams) false (by simp)) (by decide)
    | txFailed hrx htx hok =>
      exact absurd (hcalls (.progTx s.ctx.stopTests.confParams) false (by simp)) (by decide)
    | toneFailed hrx htx htone =>
      rw [ToneStops, Classical.not_imp] at htone
      refine absurd (hcalls (.txTone 0 s.ctx.confParams.txToneFreq s.ctx.confParams.txPower) false
        ?_) (by decide)
      simp [toneFailedEvents, h htone.1]
    | confFailed hrx htx htone hok => exact absurd (hcalls .rfParamsGet false (by simp)) (by decide)
    | programmed hrx htx htone hok he =>
      exact he.mpr (hcalls (.radioTestInit (initParams d o s.ctx v)) _ (by simp))

/-- A one-shot test that is started is answered with success. -/
def OneShotSucceeds (d : Nrfxlib) (s : RadioState) (o : Outcomes) (c : Command) : Prop :=
  c.StartsOneShot d o s.ctx → c.oneShotOk o = true

theorem onlyToneRuns_next {s : RadioState} {o : Outcomes} {c : Command} (h : OnlyToneRuns s) :
    OnlyToneRuns (c.next d o s) ↔ OneShotSucceeds d s o c := by
  rw [OneShotSucceeds, OnlyToneRuns]
  cases next_latch d o s c with
  | ended hstarts hok hrun htone => simp [hrun, hok]
  | stuck hstarts hok hrun htest htone => simp [hstarts, hok, hrun, htest]
  | kept hstarts hrun htest htone =>
    rw [hrun, htest]
    exact iff_of_true h fun h' => absurd h' hstarts
  | toneOn hstarts hrun htest htone => simp [hstarts, htest]
  | toneOff hstarts hrun htone => simp [hstarts, hrun]

variable (d)

/-- **When the console can be restarted.** -/
theorem console_restarts_iff (s : RadioState) (hrun : s.ctx.rfTestRun = false)
    (ws : List ConfWrite) :
    ((radioMachine d).Throughout (Restarts d) s ws ↔
        (radioMachine d).Along (OnCommand (OneShotSucceeds d)) s ws) ∧
      ((radioMachine d).Throughout OnlyToneRuns s ws ↔
        (radioMachine d).Along (OnCommand (OneShotSucceeds d)) s ws) := by
  have hiff : Restarts d = OnlyToneRuns := funext fun s => propext restarts_iff_onlyToneRuns
  have h : OnlyToneRuns s := fun hr => absurd hr (by simp [hrun])
  rw [hiff]
  exact ⟨radioMachine_throughout_iff d onlyToneRuns_next h ws,
    radioMachine_throughout_iff d onlyToneRuns_next h ws⟩

/-- A `dpd=1` that the firmware answers with success leaves the console usable. -/
theorem console_restarts_after_dpd :
    (radioMachine .headers).Throughout (Restarts .headers) .init [.ofText "dpd=1\n" .success] :=
  (console_restarts_iff .headers .init rfl _).1.mpr
    ⟨fun c hc => by rw [← Option.some.inj hc]; exact fun _ => rfl, fun _ _ _ => trivial⟩

/-- A `dpd=1` that the firmware refuses wedges it. -/
theorem dpd_failure_wedges_console :
    ¬ (radioMachine .headers).Throughout (Restarts .headers) .init
      [.ofText "dpd=1\n" { Outcomes.success with dpd := false }] := by
  intro h
  have hlast := throughout_runWrites .headers h
  rw [runWrites_cons .headers (c := .val .dpd 1) rfl, runWrites_nil,
    restarts_iff_onlyToneRuns] at hlast
  exact absurd (hlast rfl) (by decide)

/-! ### A tone is remembered -/

/-- A tone in the firmware is known to the host, and the next `init` switches it off before it
initialises the firmware again. -/
def ToneRemembered (s : RadioState) : Prop :=
  s.fw.tone = true →
    (s.ctx.rfTestRun = true ∧ s.ctx.rfTest = .txTone) ∧
      ∀ o v, checkValidChannel v.toUInt8 = true →
        CallsSucceed (nrfWifiRadioTestInit d o s.ctx v).events →
        ∃ before p, (nrfWifiRadioTestInit d o s.ctx v).events =
            before ++ ([.fmac .rfParamsGet true] ++ [.fmac (.radioTestInit p) true]) ∧
          (before.foldl Firmware.after s.fw).tone = false

variable {d}

theorem toneRemembered_iff {s : RadioState} :
    ToneRemembered d s ↔
      (s.fw.tone = true → s.ctx.rfTestRun = true ∧ s.ctx.rfTest = .txTone) := by
  constructor
  · intro h htone
    exact (h htone).1
  · intro h htone
    obtain ⟨hrun, htest⟩ := h htone
    refine ⟨⟨hrun, htest⟩, fun o v hval hcalls => ?_⟩
    have hret := restarts_iff_onlyToneRuns.mpr (fun _ => htest) o v hval hcalls
    have hexit := init_exit d o s.ctx hval
    generalize nrfWifiRadioTestInit d o s.ctx v = r at hexit hret
    cases hexit with
    | rxFailed | txFailed | toneFailed | confFailed => exact absurd hret (by simp)
    | programmed hrx htx hstops hok he =>
      refine ⟨stopRxEvents s.ctx ++ (stopTxEvents s.ctx ++ stopToneEvents s.ctx),
        initParams d o s.ctx v, ?_, ?_⟩
      · simp only [he.mp hret, List.append_assoc]
      · simp [stopRxEvents_after, stopTxEvents_after, stopToneEvents_after, hrun]

/-- No one-shot test is started while the tone is on. -/
def NoOneShotUnderTone (d : Nrfxlib) (s : RadioState) (o : Outcomes) (c : Command) : Prop :=
  s.fw.tone = true → ¬ c.StartsOneShot d o s.ctx

theorem toneRemembered_next {s : RadioState} {o : Outcomes} {c : Command}
    (h : ToneRemembered d s) : ToneRemembered d (c.next d o s) ↔ NoOneShotUnderTone d s o c := by
  rw [toneRemembered_iff] at h ⊢
  rw [NoOneShotUnderTone]
  cases next_latch d o s c with
  | ended hstarts hok hrun htone => simp [hstarts, hrun, htone]
  | stuck hstarts hok hrun htest htone => simp [hstarts, htest, htone]
  | kept hstarts hrun htest htone =>
    rw [hrun, htest, htone]
    exact iff_of_true h fun _ => hstarts
  | toneOn hstarts hrun htest htone => simp [hstarts, hrun, htest]
  | toneOff hstarts hrun htone => simp [hstarts, htone]

variable (d)

/-- **When a transmitting tone is remembered.** -/
theorem tone_remembered_iff (s : RadioState) (htone : s.fw.tone = false) (ws : List ConfWrite) :
    (radioMachine d).Throughout (ToneRemembered d) s ws ↔
      (radioMachine d).Along (OnCommand (NoOneShotUnderTone d)) s ws := by
  have h : ToneRemembered d s := fun hon => absurd hon (by simp [htone])
  exact radioMachine_throughout_iff d toneRemembered_next h ws

/-- The tone alone is remembered. -/
theorem tone_remembered_after_on :
    (radioMachine .headers).Throughout (ToneRemembered .headers) .init
      [.ofText "tx_tone=1\n" .success] :=
  (tone_remembered_iff .headers .init rfl _).mpr
    ⟨fun _ _ hon => absurd hon (by decide), fun _ _ _ => trivial⟩

/-- A `dpd=0` while the tone is on makes the host forget it, with no call failing. -/
theorem dpd_forgets_tone :
    ¬ (radioMachine .headers).Throughout (ToneRemembered .headers) .init
      [.ofText "tx_tone=1\n" .success, .ofText "dpd=0\n" .success] := by
  intro h
  have hlast := throughout_runWrites .headers h
  rw [runWrites_cons .headers (c := .val .txTone 1) rfl,
    runWrites_cons .headers (c := .val .dpd 0) rfl, runWrites_nil, toneRemembered_iff] at hlast
  exact absurd (hlast rfl).1 (by decide)

end Nrf70
