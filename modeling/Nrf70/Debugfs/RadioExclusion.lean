import Nrf70.Debugfs.RadioHandlers

/-!
# TX and RX in the firmware

That TX and RX do not run together is enforced through the host's copies `conf_params.tx` and
`conf_params.rx` only. The copies are set before the firmware is asked, and `set_defaults` clears
them without asking at all, so the firmware can be running a test whose copy says it is off. From
there the other test can be started.

`next_flags` says what a command does to the two copies and to the firmware, and everything else
here is read off it.

## Main results

* `known_next` — the host knows of every running test after a command exactly when it knew before
  and the command does not lose one
* `tests_exclusive_of_known` — sequences of writes that lose no test
-/

namespace Nrf70

variable (d : Nrfxlib) (o : Outcomes)

/-! ### What a command does to the flags -/

/-- TX and RX, in the host's copy and in the firmware. -/
structure Flags where
  tx : ℕ
  rx : ℕ
  fwTx : ℕ
  fwRx : ℕ

def RadioState.flags (s : RadioState) : Flags :=
  ⟨s.ctx.confParams.tx, s.ctx.confParams.rx, s.fw.tx, s.fw.rx⟩

/-- An `init` gets past switching RX off. -/
def RxStops (ctx : RadioCtx) : Prop := ctx.confParams.rx ≠ 0 → o.progRx = true

instance (ctx : RadioCtx) : Decidable (RxStops o ctx) := inferInstanceAs (Decidable (_ → _))

/-- The flags after an `init` with a valid channel. RX is stopped before TX, and a failure to stop
it leaves TX alone. -/
def initFlags (s : RadioState) : Flags where
  tx := if RxStops o s.ctx then 0 else s.ctx.confParams.tx
  rx := 0
  fwTx := if RxStops o s.ctx ∧ s.ctx.confParams.tx ≠ 0 ∧ o.progTx = true then 0 else s.fw.tx
  fwRx := if s.ctx.confParams.rx ≠ 0 ∧ o.progRx = true then 0 else s.fw.rx

/-- Everything a command can do to the flags, with the calls it makes for that. -/
inductive FlagStep (s : RadioState) : Command → Flags → List RadioEvent → Prop
  | kept {c events} (h : c ≠ .setDefaults) (htx : c ≠ .val .tx 0) (hrx : c ≠ .val .rx 0)
      (hinit : ∀ v, c = .val .init v → checkValidChannel v.toUInt8 = false) :
      FlagStep s c s.flags events
  | cleared {events} :
      FlagStep s .setDefaults { s.flags with tx := 0, rx := 0 } events
  | setTx {v p} (hv : SwitchAllowed s.ctx v) :
      FlagStep s (.val .tx v)
        { s.flags with tx := v.toNat, fwTx := if o.progTx then v.toNat else s.fw.tx }
        [.fmac (.progTx p) o.progTx]
  | setRx {v p} (hv : SwitchAllowed s.ctx v) :
      FlagStep s (.val .rx v)
        { s.flags with rx := v.toNat, fwRx := if o.progRx then v.toNat else s.fw.rx }
        [.fmac (.progRx p) o.progRx]
  | init {v events} (hval : checkValidChannel v.toUInt8 = true)
      (hrx : s.ctx.confParams.rx ≠ 0 → ∃ p, .fmac (.progRx p) o.progRx ∈ events)
      (htx : RxStops o s.ctx → s.ctx.confParams.tx ≠ 0 → ∃ p, .fmac (.progTx p) o.progTx ∈ events) :
      FlagStep s (.val .init v) (initFlags o s) events

section Flags

variable {d o} {s : RadioState} {c : Command}

theorem flagStep_of_kept {events : List RadioEvent} (hflags : (c.next d o s).flags = s.flags)
    (h : c ≠ .setDefaults) (htx : c ≠ .val .tx 0) (hrx : c ≠ .val .rx 0)
    (hinit : ∀ v, c = .val .init v → checkValidChannel v.toUInt8 = false) :
    FlagStep o s c (c.next d o s).flags events := by
  rw [hflags]
  exact .kept h htx hrx hinit

/-- A handler that leaves the host's copies alone and tells the firmware nothing about them. -/
theorem flags_eq {r : Handled} (heq : c.handle d o s.ctx = r)
    (htx : r.state.confParams.tx = s.ctx.confParams.tx)
    (hrx : r.state.confParams.rx = s.ctx.confParams.rx)
    (hfw : (r.events.foldl Firmware.after s.fw).tx = s.fw.tx ∧
      (r.events.foldl Firmware.after s.fw).rx = s.fw.rx) :
    (c.next d o s).flags = s.flags := by
  rw [RadioState.flags, RadioState.flags, Command.next, heq, htx, hrx, hfw.1, hfw.2]

theorem flags_of_fail {e : ConfError} (heq : c.handle d o s.ctx = .fail s.ctx e) :
    (c.next d o s).flags = s.flags :=
  flags_eq heq rfl rfl ⟨rfl, rfl⟩

theorem flags_of_setParam {checks : List (Option ConfError)} {store : ConfParams → ConfParams}
    (heq : c.handle d o s.ctx = setParam checks store s.ctx)
    (hstore : ∀ p, (store p).tx = p.tx ∧ (store p).rx = p.rx) :
    (c.next d o s).flags = s.flags :=
  flags_eq heq (setParam_frame ConfParams.tx (hstore _).1)
    (setParam_frame ConfParams.rx (hstore _).2) (by simp)

theorem flags_of_oneShot {checks : List (Option ConfError)} {test : RfTest} {call : FmacCall}
    {ok : Bool} {failed : ConfError} {store : ConfParams → ConfParams}
    (heq : c.handle d o s.ctx = oneShot checks test call ok failed store s.ctx)
    (hstore : ∀ p, (store p).tx = p.tx ∧ (store p).rx = p.rx)
    (hcall : ∀ fw b, Firmware.after fw (.fmac call b) = fw) :
    (c.next d o s).flags = s.flags := by
  refine flags_eq heq (oneShot_frame ConfParams.tx (hstore _).1)
    (oneShot_frame ConfParams.rx (hstore _).2) ?_
  rw [oneShot_after hcall]
  exact ⟨rfl, rfl⟩

theorem flagStep_tx (v : UInt64) :
    FlagStep o s (.val .tx v) ((Command.val .tx v).next d o s).flags
      ((Command.val .tx v).handle d o s.ctx).events := by
  have heq : (Command.val .tx v).handle d o s.ctx = nrfWifiRadioTestSetTx d o s.ctx v := rfl
  by_cases hallow : TxAllowed d s.ctx v
  · rw [setTx_of_allowed hallow] at heq
    have hflags : ((Command.val .tx v).next d o s).flags =
        { s.flags with tx := v.toNat, fwTx := if o.progTx then v.toNat else s.fw.tx } := by
      cases hok : o.progTx <;>
        simp [RadioState.flags, Command.next, heq, hok, Firmware.after, ConfParams.withTx] <;>
        split_ifs <;> rfl
    rw [hflags, heq]
    exact .setTx hallow.1
  · obtain ⟨e, he⟩ := setTx_of_not_allowed (o := o) hallow
    refine flagStep_of_kept (flags_of_fail (heq.trans he)) (by simp) ?_ (by simp) (by simp)
    -- switching off is always allowed
    intro h0
    rw [Command.val.injEq] at h0
    exact hallow ⟨Or.inl h0.2, fun h1 => absurd (h0.2.symm.trans h1) (by decide)⟩

theorem flagStep_rx (v : UInt64) :
    FlagStep o s (.val .rx v) ((Command.val .rx v).next d o s).flags
      ((Command.val .rx v).handle d o s.ctx).events := by
  have heq : (Command.val .rx v).handle d o s.ctx = nrfWifiRadioTestSetRx o s.ctx v := rfl
  by_cases hallow : SwitchAllowed s.ctx v
  · rw [setRx_of_allowed hallow] at heq
    have hflags : ((Command.val .rx v).next d o s).flags =
        { s.flags with rx := v.toNat, fwRx := if o.progRx then v.toNat else s.fw.rx } := by
      cases hok : o.progRx <;> simp [RadioState.flags, Command.next, heq, hok, Firmware.after]
    rw [hflags, heq]
    exact .setRx hallow
  · obtain ⟨e, he⟩ := setRx_of_not_allowed (o := o) hallow
    refine flagStep_of_kept (flags_of_fail (heq.trans he)) (by simp) (by simp) ?_ (by simp)
    intro h0
    rw [Command.val.injEq] at h0
    exact hallow (Or.inl h0.2)

/-- The flags at any exit of an `init`. -/
theorem init_flags {v : UInt64} {r : Handled} (hexit : InitExit d o s.ctx v r) :
    (RadioState.mk r.state (r.events.foldl Firmware.after s.fw)).flags = initFlags o s := by
  -- past the stop of TX, whatever was on is off
  have hpast (hrx : RxStops o s.ctx) (htx : s.ctx.confParams.tx ≠ 0 → o.progTx = true) :
      initFlags o s = ⟨0, 0, if s.ctx.confParams.tx ≠ 0 then 0 else s.fw.tx,
        if s.ctx.confParams.rx ≠ 0 then 0 else s.fw.rx⟩ := by
    have htx' : s.ctx.confParams.tx ≠ 0 ∧ o.progTx = true ↔ s.ctx.confParams.tx ≠ 0 :=
      ⟨And.left, fun h => ⟨h, htx h⟩⟩
    have hrx' : s.ctx.confParams.rx ≠ 0 ∧ o.progRx = true ↔ s.ctx.confParams.rx ≠ 0 :=
      ⟨And.left, fun h => ⟨h, hrx h⟩⟩
    simp only [initFlags, hrx, true_and, htx', hrx', if_true]
  cases hexit with
  | rxFailed hrx hok =>
    have hstops : ¬ RxStops o s.ctx := fun h => by simp [h hrx] at hok
    simp [initFlags, hstops, hok, RadioState.flags, Firmware.after, RadioCtx.stopRx]
  | txFailed hrx htx hok =>
    have hstops : RxStops o s.ctx := hrx
    have hrx' : s.ctx.confParams.rx ≠ 0 ∧ o.progRx = true ↔ s.ctx.confParams.rx ≠ 0 :=
      ⟨And.left, fun h => ⟨h, hrx h⟩⟩
    simp [initFlags, hstops, hok, hrx', RadioState.flags, Firmware.after, RadioCtx.stopTests,
      stopRxEvents_after]
  | toneFailed hrx htx htone =>
    simp [hpast hrx htx, RadioState.flags, RadioCtx.stopTests, stopRxEvents_after,
      stopTxEvents_after, toneFailedEvents_after]
  | confFailed hrx htx htone hok =>
    simp [hpast hrx htx, RadioState.flags, Firmware.after, stopRxEvents_after, stopTxEvents_after,
      stopToneEvents_after, clearedParams, ConfParams.zero]
  | programmed hrx htx htone hok he =>
    simp [hpast hrx htx, RadioState.flags, Firmware.after, stopRxEvents_after, stopTxEvents_after,
      stopToneEvents_after, initParams, defaultParams, clearedParams, ConfParams.zero]

/-- The calls an `init` makes to stop the tests. -/
theorem init_calls {v : UInt64} {r : Handled} (hexit : InitExit d o s.ctx v r) :
    (s.ctx.confParams.rx ≠ 0 → ∃ p, .fmac (.progRx p) o.progRx ∈ r.events) ∧
      (RxStops o s.ctx → s.ctx.confParams.tx ≠ 0 →
        ∃ p, .fmac (.progTx p) o.progTx ∈ r.events) := by
  have hstopRx (hrx : RxStops o s.ctx) (hne : s.ctx.confParams.rx ≠ 0) :
      .fmac (.progRx s.ctx.stopRx.confParams) o.progRx ∈ stopRxEvents s.ctx := by
    simp [stopRxEvents, hne, hrx hne]
  have hstopTx (htx : s.ctx.confParams.tx ≠ 0 → o.progTx = true) (hne : s.ctx.confParams.tx ≠ 0) :
      .fmac (.progTx s.ctx.stopTests.confParams) o.progTx ∈ stopTxEvents s.ctx := by
    simp [stopTxEvents, hne, htx hne]
  cases hexit with
  | rxFailed hrx hok =>
    refine ⟨fun _ => ⟨_, by rw [hok]; exact List.mem_singleton_self _⟩, fun hstops => ?_⟩
    exact absurd (hstops hrx) (by simp [hok])
  | txFailed hrx htx hok =>
    refine ⟨fun hne => ⟨_, List.mem_append_left _ (hstopRx hrx hne)⟩, fun _ _ => ?_⟩
    refine ⟨s.ctx.stopTests.confParams, ?_⟩
    rw [hok]
    exact List.mem_append_right _ (List.mem_singleton_self _)
  | toneFailed hrx htx _ | confFailed hrx htx _ _ | programmed hrx htx _ _ _ =>
    exact ⟨fun hne => ⟨_, List.mem_append_left _ (hstopRx hrx hne)⟩,
      fun _ hne => ⟨_, List.mem_append_right _ (List.mem_append_left _ (hstopTx htx hne))⟩⟩

theorem flagStep_init (v : UInt64) :
    FlagStep o s (.val .init v) ((Command.val .init v).next d o s).flags
      ((Command.val .init v).handle d o s.ctx).events := by
  have heq : (Command.val .init v).handle d o s.ctx = nrfWifiRadioTestInit d o s.ctx v := rfl
  cases hval : checkValidChannel v.toUInt8 with
  | false =>
    rw [nrfWifiRadioTestInit, hval, if_neg Bool.false_ne_true] at heq
    refine flagStep_of_kept (flags_of_fail heq) (by simp) (by simp) (by simp) ?_
    intro w hw
    rw [Command.val.injEq] at hw
    rwa [← hw.2]
  | true =>
    have hexit := init_exit d o s.ctx hval
    rw [← heq] at hexit
    rw [Command.next, init_flags hexit]
    exact .init hval (init_calls hexit).1 (init_calls hexit).2

variable (d o s) in
/-- **What a command does to the flags.** -/
theorem next_flags (c : Command) :
    FlagStep o s c (c.next d o s).flags (c.handle d o s.ctx).events := by
  cases c with
  | setDefaults =>
    have hflags : (Command.setDefaults.next d o s).flags = { s.flags with tx := 0, rx := 0 } := by
      cases hok : o.rfParamsGet <;>
        simp [RadioState.flags, Command.next, Command.handle, nrfWifiRadioTestConfInit, hok,
          Firmware.after, defaultParams, clearedParams, ConfParams.zero]
    rw [hflags]
    exact .cleared
  | bypassInvalid rest =>
    exact flagStep_of_kept (flags_of_fail rfl) (by simp) (by simp) (by simp) (by simp)
  | unknown buf =>
    exact flagStep_of_kept (flags_of_fail rfl) (by simp) (by simp) (by simp) (by simp)
  | sval key v =>
    obtain ⟨checks, store, heq, hstore, -⟩ := SvalKey.handle_eq_setParam d s.ctx key v
    exact flagStep_of_kept (flags_of_setParam heq hstore) (by simp) (by simp) (by simp) (by simp)
  | regDomain reg =>
    refine flagStep_of_kept ?_ (by simp) (by simp) (by simp) (by simp)
    rcases setRegDomain_cases o s.ctx reg with ⟨-, e, he⟩ | ⟨a, b, -, -, hstate, -, hfw⟩
    · exact flags_of_fail he
    · refine flags_eq rfl ?_ ?_ ?_ <;> simp [Command.handle, hstate, hfw, RadioCtx.setCountryCode]
  | val key v =>
    -- every other key leaves the flags alone
    have hkept (htx : key ≠ .tx) (hrx : key ≠ .rx) (hinit : key ≠ .init)
        (hflags : ((Command.val key v).next d o s).flags = s.flags) :
        FlagStep o s (.val key v) ((Command.val key v).next d o s).flags
          ((Command.val key v).handle d o s.ctx).events := by
      refine flagStep_of_kept hflags (by simp) ?_ ?_ ?_
      · exact fun h => htx (Command.val.inj h).1
      · exact fun h => hrx (Command.val.inj h).1
      · exact fun w h => absurd (Command.val.inj h).1 hinit
    by_cases hset : key.isSetter = true
    · obtain ⟨checks, store, heq, hstore, -⟩ := ValKey.handle_of_isSetter d o s.ctx v hset
      refine hkept ?_ ?_ ?_ (flags_of_setParam heq hstore)
      all_goals
        rintro rfl
        exact absurd hset (by decide)
    cases key with
    | tx => exact flagStep_tx v
    | rx => exact flagStep_rx v
    | init => exact flagStep_init v
    | rxCap =>
      refine hkept (by decide) (by decide) (by decide) (flags_eq rfl ?_ ?_ ?_)
      · exact congrArg ConfParams.tx (rxCap_confParams d o s.ctx v)
      · exact congrArg ConfParams.rx (rxCap_confParams d o s.ctx v)
      · simp [Command.handle, ValKey.handle]
    | txTone =>
      refine hkept (by decide) (by decide) (by decide) ?_
      have heq : (Command.val .txTone v).handle d o s.ctx = nrfWifiRadioTestTxTone o s.ctx v := rfl
      by_cases hallow : SwitchAllowed s.ctx v
      · rw [txTone_of_allowed hallow] at heq
        refine flags_eq heq ?_ ?_ ?_ <;> cases o.txTone <;> by_cases h1 : v = 1 <;>
          simp [h1, Firmware.after, RadioCtx.latch, RadioCtx.unlatch]
      · obtain ⟨e, he⟩ := txTone_of_not_allowed (o := o) hallow
        exact flags_of_fail (heq.trans he)
    | setXoVal =>
      refine hkept (by decide) (by decide) (by decide) ?_
      have heq : (Command.val .setXoVal v).handle d o s.ctx = nrfWifiRadioSetXoVal d o s.ctx v :=
        rfl
      rw [nrfWifiRadioSetXoVal] at heq
      exact flags_of_oneShot heq (fun p => ⟨rfl, rfl⟩) (fun fw b => by cases b <;> rfl)
    | dpd | getTemperature | getRfRssi | computeOptimalXoVal =>
      refine hkept (by decide) (by decide) (by decide) ?_
      exact flags_of_oneShot rfl (fun p => ⟨rfl, rfl⟩) (fun fw b => by cases b <;> rfl)
    | _ => exact absurd rfl hset

end Flags

/-! ### Tests the host knows of -/

/-- TX and RX are not both on in the firmware. -/
def TestsExclusive (s : RadioState) : Prop := s.fw.tx = 0 ∨ s.fw.rx = 0

/-- The host's copies are the firmware's states. -/
def FlagsAgree (s : RadioState) : Prop :=
  s.ctx.confParams.tx = s.fw.tx ∧ s.ctx.confParams.rx = s.fw.rx

/-- The host knows of every test the firmware runs, and of at most one test. -/
structure Flags.Known (f : Flags) : Prop where
  tx : f.fwTx ≠ 0 → f.tx ≠ 0
  rx : f.fwRx ≠ 0 → f.rx ≠ 0
  one : f.tx = 0 ∨ f.rx = 0

/-- The command clears the host's copy of a test that the firmware goes on running. -/
def Command.LosesTest (s : RadioState) : Command → Prop
  | .setDefaults => s.fw.tx ≠ 0 ∨ s.fw.rx ≠ 0
  | .val .tx v => v = 0 ∧ s.fw.tx ≠ 0 ∧ o.progTx = false
  | .val .rx v => v = 0 ∧ s.fw.rx ≠ 0 ∧ o.progRx = false
  | .val .init v =>
    checkValidChannel v.toUInt8 = true ∧
      (s.fw.tx ≠ 0 ∧ o.progTx = false ∨ s.fw.rx ≠ 0 ∧ o.progRx = false)
  | _ => False

variable {d o}

theorem Flags.Known.testsExclusive {s : RadioState} (h : s.flags.Known) : TestsExclusive s := by
  rcases h.one with htx | hrx
  · exact Or.inl (not_not.mp fun hne => h.tx hne htx)
  · exact Or.inr (not_not.mp fun hne => h.rx hne hrx)

/-- Stopping the tests leaves nothing unknown exactly when a test that runs is stopped. -/
theorem known_initFlags {s : RadioState} (h : s.flags.Known) :
    (initFlags o s).Known ↔
      ¬ (s.fw.tx ≠ 0 ∧ o.progTx = false ∨ s.fw.rx ≠ 0 ∧ o.progRx = false) := by
  have htx : s.fw.tx ≠ 0 → s.ctx.confParams.tx ≠ 0 := h.tx
  have hrx : s.fw.rx ≠ 0 → s.ctx.confParams.rx ≠ 0 := h.rx
  have hone : s.ctx.confParams.tx = 0 ∨ s.ctx.confParams.rx = 0 := h.one
  constructor
  · rintro hk (⟨hne, hok⟩ | ⟨hne, hok⟩)
    · have hrx0 : s.ctx.confParams.rx = 0 := hone.resolve_left (htx hne)
      have hstops : RxStops o s.ctx := fun hr => absurd hrx0 hr
      have hbad := hk.tx
      simp [initFlags, hstops, hok, hne] at hbad
    · have hbad := hk.rx
      simp [initFlags, hok, hne] at hbad
  · intro hno
    push Not at hno
    have hrxOff : (initFlags o s).fwRx = 0 := by
      by_cases hr : s.fw.rx = 0
      · simp [initFlags, hr]
      · simp [initFlags, hrx hr, hno.2 hr]
    refine ⟨fun hne => ?_, fun hne => absurd hrxOff hne, Or.inr rfl⟩
    by_cases ht : s.fw.tx = 0
    · exact absurd (by simp [initFlags, ht]) hne
    · have hrx0 : s.ctx.confParams.rx = 0 := hone.resolve_left (htx ht)
      have hstops : RxStops o s.ctx := fun hr => absurd hrx0 hr
      exact absurd (by simp [initFlags, hstops, htx ht, hno.1 ht]) hne

/-- **When a command loses a test.** -/
theorem known_next {s : RadioState} {c : Command} (h : s.flags.Known) :
    (c.next d o s).flags.Known ↔ ¬ c.LosesTest o s := by
  have hstep := next_flags d o s c
  generalize (c.next d o s).flags = f at hstep
  generalize (c.handle d o s.ctx).events = t at hstep
  cases hstep with
  | kept hdef htx hrx hinit =>
    refine iff_of_true h ?_
    intro hl
    unfold Command.LosesTest at hl
    split at hl
    · exact hdef rfl
    · exact htx (by rw [hl.1])
    · exact hrx (by rw [hl.1])
    · exact absurd hl.1 (by simp [hinit _ rfl])
    · exact hl
  | cleared =>
    show _ ↔ ¬ (s.fw.tx ≠ 0 ∨ s.fw.rx ≠ 0)
    constructor
    · rintro hk (hne | hne)
      · exact hk.tx hne rfl
      · exact hk.rx hne rfl
    · intro hno
      push Not at hno
      exact ⟨fun hne => absurd hno.1 hne, fun hne => absurd hno.2 hne, Or.inl rfl⟩
  | @setTx v p hv =>
    show _ ↔ ¬ (v = 0 ∧ s.fw.tx ≠ 0 ∧ o.progTx = false)
    rcases hv with rfl | ⟨rfl, hidle⟩
    · constructor
      · rintro hk ⟨-, hne, hok⟩
        exact hk.tx (by simpa [hok] using hne) rfl
      · intro hno
        refine ⟨fun hne => ?_, h.rx, Or.inl rfl⟩
        cases hok : o.progTx with
        | true => simp [hok] at hne
        | false => exact absurd ⟨rfl, by simpa [hok] using hne, hok⟩ hno
    · refine iff_of_true ⟨fun _ => Nat.one_ne_zero, h.rx, Or.inr hidle.1⟩ ?_
      exact fun hl => absurd hl.1 (by decide)
  | @setRx v p hv =>
    show _ ↔ ¬ (v = 0 ∧ s.fw.rx ≠ 0 ∧ o.progRx = false)
    rcases hv with rfl | ⟨rfl, hidle⟩
    · constructor
      · rintro hk ⟨-, hne, hok⟩
        exact hk.rx (by simpa [hok] using hne) rfl
      · intro hno
        refine ⟨h.tx, fun hne => ?_, Or.inr rfl⟩
        cases hok : o.progRx with
        | true => simp [hok] at hne
        | false => exact absurd ⟨rfl, by simpa [hok] using hne, hok⟩ hno
    · refine iff_of_true ⟨h.tx, fun _ => Nat.one_ne_zero, Or.inl hidle.2⟩ ?_
      exact fun hl => absurd hl.1 (by decide)
  | init hval hrx htx =>
    rw [known_initFlags h]
    show _ ↔ ¬ (_ ∧ _)
    simp [hval]

/-- A command that loses no test and whose calls all succeed keeps the copies right. -/
theorem flagsAgree_next {s : RadioState} {c : Command} (hagree : FlagsAgree s)
    (hno : ¬ c.LosesTest o s) (hcalls : CallsSucceed (c.handle d o s.ctx).events) :
    FlagsAgree (c.next d o s) := by
  obtain ⟨hatx, harx⟩ := hagree
  have hstep := next_flags d o s c
  have hiff : FlagsAgree (c.next d o s) ↔
      (c.next d o s).flags.tx = (c.next d o s).flags.fwTx ∧
        (c.next d o s).flags.rx = (c.next d o s).flags.fwRx := Iff.rfl
  rw [hiff]
  generalize (c.next d o s).flags = f at hstep
  generalize (c.handle d o s.ctx).events = t at hstep hcalls
  cases hstep with
  | kept => exact ⟨hatx, harx⟩
  | cleared =>
    have hoff : ¬ (s.fw.tx ≠ 0 ∨ s.fw.rx ≠ 0) := hno
    push Not at hoff
    exact ⟨hoff.1.symm, hoff.2.symm⟩
  | setTx hv =>
    have hok : o.progTx = true := hcalls _ _ (List.mem_singleton_self _)
    exact ⟨by simp [hok], harx⟩
  | setRx hv =>
    have hok : o.progRx = true := hcalls _ _ (List.mem_singleton_self _)
    exact ⟨hatx, by simp [hok]⟩
  | init hval hrx htx =>
    have hstops : RxStops o s.ctx := by
      intro hne
      obtain ⟨p, hp⟩ := hrx hne
      exact hcalls _ _ hp
    have htxok : s.ctx.confParams.tx ≠ 0 → o.progTx = true := by
      intro hne
      obtain ⟨p, hp⟩ := htx hstops hne
      exact hcalls _ _ hp
    constructor
    · by_cases hne : s.ctx.confParams.tx = 0
      · simp [initFlags, hstops, hne, ← hatx]
      · simp [initFlags, hstops, hne, htxok hne]
    · by_cases hne : s.ctx.confParams.rx = 0
      · simp [initFlags, hne, ← harx]
      · simp [initFlags, hne, hstops hne]

variable (d)

/-- **Sequences of writes that lose no test.** TX and RX are never both on in the firmware, and as
long as every call succeeds the host's copies are what the firmware runs. -/
theorem tests_exclusive_of_known (s : RadioState) (hoff : s.flags = ⟨0, 0, 0, 0⟩)
    (ws : List ConfWrite)
    (hok : (radioMachine d).Along (OnCommand fun s o c => ¬ c.LosesTest o s) s ws)
    {s' : RadioState} {t : List RadioEvent}
    (hexec : (radioMachine d).exec s ws = some (s', t)) :
    TestsExclusive s' ∧ (CallsSucceed t → FlagsAgree s') := by
  have hknown : s.flags.Known := by
    rw [hoff]
    exact ⟨id, id, Or.inl rfl⟩
  have hagree : FlagsAgree s := by
    rw [RadioState.flags, Flags.mk.injEq] at hoff
    exact ⟨hoff.1.trans hoff.2.2.1.symm, hoff.2.1.trans hoff.2.2.2.symm⟩
  have h := radioMachine_invariant d (Q := fun s => s.flags.Known) (R := FlagsAgree)
    (fun hk hno => (known_next hk).mpr hno) (fun _ ha hno hcalls => flagsAgree_next ha hno hcalls)
    ⟨hknown, hagree⟩ hok hexec
  exact ⟨h.1.testsExclusive, h.2⟩

/-- TX is switched on and off again, and then RX on. -/
theorem tests_exclusive_tx_then_rx :
    TestsExclusive (runWrites .headers .init
      [.ofText "tx=1\n" .success, .ofText "tx=0\n" .success, .ofText "rx=1\n" .success]) := by
  obtain ⟨t, ht⟩ := exec_runWrites .headers .init
    [.ofText "tx=1\n" .success, .ofText "tx=0\n" .success, .ofText "rx=1\n" .success]
  refine (tests_exclusive_of_known .headers .init rfl _ ?_ ht).1
  rw [along_onCommand_cons .headers (c := .val .tx 1) rfl,
    along_onCommand_cons .headers (c := .val .tx 0) rfl,
    along_onCommand_cons .headers (c := .val .rx 1) rfl]
  exact ⟨fun hl => absurd hl.1 (by decide), fun hl => absurd hl.2.2 (by decide),
    fun hl => absurd hl.1 (by decide), trivial⟩

/-- `set_defaults` lets RX join a running TX, with no call failing. -/
theorem defaults_let_rx_join_tx :
    ¬ (radioMachine .headers).Throughout TestsExclusive .init
      [.ofText "tx=1\n" .success, .ofText "set_defaults\n" .success,
        .ofText "rx=1\n" .success] := by
  intro h
  have hlast := throughout_runWrites .headers h
  rw [runWrites_cons .headers (c := .val .tx 1) rfl,
    runWrites_cons .headers (c := .setDefaults) rfl,
    runWrites_cons .headers (c := .val .rx 1) rfl, runWrites_nil] at hlast
  rcases hlast with htx | hrx
  · exact absurd htx (by decide)
  · exact absurd hrx (by decide)

end Nrf70
