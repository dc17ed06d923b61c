import Nrf70.Debugfs.TwtCommands
import Nrf70.Lib.Machine

/-!
# Waiting for the answer to a TWT setup

After a setup is sent, `nrf_wifi_wlan_twt_write` waits a second for `twt_setup_event` and sends the
setup once more when it is not set. The answer of the firmware goes to
`nrf_wifi_twt_config_callbk_fn`, which may run between any two steps of the wait.

The callback keeps what the firmware answered and leaves `twt_setup_event` alone, and nothing else
in the driver sets it. So the wait always takes its second, and a setup that the firmware took is
sent again whether it was answered or not. `twt_retry_attempt` still ends it after two.

Time goes forward, by any amount between two steps. The deadline of an attempt is `MAX_TWT_WAIT`
after the time it has read as its start.

## Main definitions

* `waiterStep` — the steps of the writer
* `nrfWifiTwtConfigCallbkFn` — the callback
* `SetupTrace` — what so many attempts make visible

## Main results

* `setups_eq_twtAttempts` — the setups of a write are those of one whose event never comes
* `twt_retry_iff` — the runs in which an answered setup is not sent again
-/

namespace Nrf70

/-! ### The callback -/

/-- The members of `struct rpu_twt_params` that the callback changes. -/
structure TwtEventParams where
  twtEvent : TwtParams
  twtEventInfoAvail : Bool
  deriving DecidableEq, Repr

/-- `nrf_wifi_twt_config_callbk_fn`. The wake time is still to do. -/
def nrfWifiTwtConfigCallbkFn (info : TwtParams) (p : TwtEventParams) : TwtEventParams where
  twtEvent := { info with targetWakeTime := p.twtEvent.targetWakeTime }
  twtEventInfoAvail := true

/-! ### The writer -/

/-- Where the writer is, from the label `retry_twt` on. -/
inductive TwtPc
  | retryTwt | umacCmdCfg | cmdStatus | startTime | whileTest | elapsedTest | ifTest | out
  deriving DecidableEq, Repr

/-- What the writer and the callback work on. Times are in microseconds. -/
structure TwtWaitState where
  pc : TwtPc
  twtSetupEvent : Bool
  twtRetryAttempt : ℕ
  startTimeUs : ℕ
  now : ℕ
  params : TwtEventParams
  deriving DecidableEq, Repr

/-- The writer is about to send its first setup. -/
def TwtWaitState.Begins (s : TwtWaitState) : Prop := s.pc = .retryTwt ∧ s.twtRetryAttempt = 0

/-- `MAX_TWT_WAIT`. -/
def maxTwtWait : ℕ := 1000 * 1000

/-- `shim_time_elapsed_us`, an `unsigned int`. -/
def TwtWaitState.timeElapsedUs (s : TwtWaitState) : ℕ := (s.now - s.startTimeUs) % 2 ^ 32

/-- What a write makes visible: a setup that is sent, and an answer in time, with the attempt. -/
inductive TwtWaitEvent
  | setup (attempt : ℕ)
  | answered (attempt : ℕ)
  deriving DecidableEq, Repr

/-- One step of the writer. `setup` is by attempt: the firmware takes the command. -/
def waiterStep (setup : ℕ → Bool) (s : TwtWaitState) :
    Option (TwtWaitState × List TwtWaitEvent) :=
  match s.pc with
  | .retryTwt => some ({ s with pc := .umacCmdCfg, twtSetupEvent := false }, [])
  | .umacCmdCfg => some ({ s with pc := .cmdStatus }, [.setup s.twtRetryAttempt])
  | .cmdStatus =>
    if setup s.twtRetryAttempt then some ({ s with pc := .startTime }, [])
    else some ({ s with pc := .out }, [])
  | .startTime => some ({ s with pc := .whileTest, startTimeUs := s.now }, [])
  | .whileTest =>
    if s.twtSetupEvent then some ({ s with pc := .ifTest }, [])
    else some ({ s with pc := .elapsedTest }, [])
  | .elapsedTest =>
    if maxTwtWait ≤ s.timeElapsedUs then some ({ s with pc := .ifTest }, [])
    else some ({ s with pc := .whileTest }, [])
  | .ifTest =>
    if s.twtSetupEvent then some ({ s with pc := .out }, [])
    else if s.twtRetryAttempt + 1 ≠ 2 then
      some ({ s with pc := .retryTwt, twtRetryAttempt := s.twtRetryAttempt + 1 }, [])
    else some ({ s with pc := .out, twtRetryAttempt := s.twtRetryAttempt + 1 }, [])
  | .out => none

/-- A setup has been sent, and its deadline has not passed. -/
def TwtWaitState.inTime (s : TwtWaitState) : Bool :=
  match s.pc with
  | .cmdStatus | .startTime => true
  | .whileTest | .elapsedTest | .ifTest => s.now < s.startTimeUs + maxTwtWait
  | .retryTwt | .umacCmdCfg | .out => false

/-- The writer, the firmware's answer and the clock. -/
inductive TwtWaitAct
  | waiter
  | response (info : TwtParams)
  | tick (us : ℕ)
  deriving DecidableEq, Repr

def twtWaitStep (setup : ℕ → Bool) (s : TwtWaitState) :
    TwtWaitAct → Option (TwtWaitState × List TwtWaitEvent)
  | .waiter => waiterStep setup s
  | .response info =>
    some ({ s with params := nrfWifiTwtConfigCallbkFn info s.params },
      if s.inTime then [.answered s.twtRetryAttempt] else [])
  | .tick us => some ({ s with now := s.now + us }, [])

def twtWaitMachine (setup : ℕ → Bool) : Machine TwtWaitState TwtWaitAct TwtWaitEvent :=
  ⟨twtWaitStep setup⟩

/-! ### What attempts make visible -/

/-- The event is a setup. -/
def TwtWaitEvent.isSetup : TwtWaitEvent → Bool
  | .setup _ => true
  | .answered _ => false

/-- So many attempts, each a setup and the answers to it. -/
inductive SetupTrace : ℕ → List TwtWaitEvent → Prop
  | nil : SetupTrace 0 []
  | setup {n t} (h : SetupTrace n t) : SetupTrace (n + 1) (t ++ [.setup n])
  | answered {n t} (h : SetupTrace (n + 1) t) : SetupTrace (n + 1) (t ++ [.answered n])

/-- A setup that is answered in time is not sent again, and none is sent more than twice. -/
structure AnsweredOnce (t : List TwtWaitEvent) : Prop where
  notAgain : t.Pairwise fun e e' => e.isSetup = false → e'.isSetup = false
  atMostTwo : t.countP TwtWaitEvent.isSetup ≤ 2

namespace SetupTrace

variable {n : ℕ} {t : List TwtWaitEvent}

theorem countP_isSetup (h : SetupTrace n t) : t.countP TwtWaitEvent.isSetup = n := by
  induction h with
  | nil => rfl
  | setup h ih => rw [List.countP_append, ih]; rfl
  | answered h ih => rw [List.countP_append, ih]; rfl

theorem lt_of_answered_mem (h : SetupTrace n t) {i : ℕ} (hi : .answered i ∈ t) : i < n := by
  induction h with
  | nil => exact absurd hi List.not_mem_nil
  | setup h ih =>
    have hmem := (List.mem_append.mp hi).resolve_right (by simp)
    exact Nat.lt_succ_of_lt (ih hmem)
  | answered h ih =>
    rcases List.mem_append.mp hi with hmem | hlast
    · exact ih hmem
    · rw [TwtWaitEvent.answered.inj (List.mem_singleton.mp hlast)]
      exact Nat.lt_succ_self _

/-- No answer is before a setup exactly when the last attempt is the only one answered. -/
theorem pairwise_iff (h : SetupTrace n t) :
    (t.Pairwise fun e e' => e.isSetup = false → e'.isSetup = false) ↔
      ∀ i, i + 1 < n → .answered i ∉ t := by
  induction h with
  | nil => simp
  | @setup n t h ih =>
    rw [List.pairwise_append]
    constructor
    · rintro ⟨-, -, hlast⟩ i - hmem
      have hmem := (List.mem_append.mp hmem).resolve_right (by simp)
      exact absurd (hlast _ hmem _ (List.mem_singleton_self _) rfl) (by simp [TwtWaitEvent.isSetup])
    · intro hnone
      have hno : ∀ i, .answered i ∉ t := fun i hmem =>
        hnone i (Nat.succ_lt_succ (h.lt_of_answered_mem hmem)) (List.mem_append_left _ hmem)
      refine ⟨ih.mpr fun i _ => hno i, List.pairwise_singleton _ _, ?_⟩
      intro e he _ _ hsetup
      cases e with
      | setup => exact absurd hsetup (by simp [TwtWaitEvent.isSetup])
      | answered i => exact absurd he (hno i)
  | @answered n t h ih =>
    rw [List.pairwise_append]
    constructor
    · rintro ⟨hpairwise, -, -⟩ i hi hmem
      rcases List.mem_append.mp hmem with hmem | hlast
      · exact ih.mp hpairwise i hi hmem
      · rw [TwtWaitEvent.answered.inj (List.mem_singleton.mp hlast)] at hi
        exact Nat.lt_irrefl _ hi
    · intro hnone
      refine ⟨ih.mpr fun i hi hmem => hnone i hi (List.mem_append_left _ hmem),
        List.pairwise_singleton _ _, ?_⟩
      intro e _ e' he' _
      rw [List.mem_singleton.mp he']
      rfl

end SetupTrace

/-! ### Runs -/

/-- The writer waits for the answer to a setup that the firmware took. -/
def TwtPc.waits : TwtPc → Bool
  | .startTime | .whileTest | .elapsedTest | .ifTest => true
  | .retryTwt | .umacCmdCfg | .cmdStatus | .out => false

/-- The setups sent before a state. -/
def TwtWaitState.sent (s : TwtWaitState) : ℕ :=
  match s.pc with
  | .retryTwt | .umacCmdCfg => s.twtRetryAttempt
  | .cmdStatus | .startTime | .whileTest | .elapsedTest | .ifTest => s.twtRetryAttempt + 1
  | .out => min (s.twtRetryAttempt + 1) 2

/-- What holds while a setup is waited for: nothing has set the event since it was reset, the
firmware took every setup waited for, and the trace is that of the setups sent. -/
structure WaitInv (setup : ℕ → Bool) (t : List TwtWaitEvent) (s : TwtWaitState) : Prop where
  trace : SetupTrace s.sent t
  event : s.pc ≠ .retryTwt → s.twtSetupEvent = false
  attempt : s.pc ≠ .out → s.twtRetryAttempt ≤ 1
  retried : 0 < s.twtRetryAttempt → setup 0 = true
  taken : s.pc.waits = true → setup s.twtRetryAttempt = true
  ended : s.pc = .out → s.twtRetryAttempt = 0 → setup 0 = false

/-- The action is an answer. -/
def TwtWaitAct.isResponse : TwtWaitAct → Bool
  | .response _ => true
  | .waiter | .tick _ => false

/-- The firmware answers the first setup in time. -/
def TwtWaitAct.AnswersFirst (s : TwtWaitState) (a : TwtWaitAct) : Prop :=
  s.twtRetryAttempt = 0 ∧ s.inTime = true ∧ a.isResponse = true

instance (s : TwtWaitState) (a : TwtWaitAct) : Decidable (a.AnswersFirst s) :=
  inferInstanceAs (Decidable (_ ∧ _))

section Runs

variable {setup : ℕ → Bool} {s s' : TwtWaitState} {t u : List TwtWaitEvent} {a : TwtWaitAct}

theorem WaitInv.init (h : s.Begins) : WaitInv setup [] s := by
  obtain ⟨hpc, hattempt⟩ := h
  have hsent : s.sent = 0 := by rw [TwtWaitState.sent, hpc]; exact hattempt
  constructor
  · rw [hsent]
    exact .nil
  · exact fun hne => absurd hpc hne
  · intro _
    rw [hattempt]
    exact Nat.zero_le _
  · intro hpos
    rw [hattempt] at hpos
    exact absurd hpos (Nat.lt_irrefl _)
  · simp [hpc, TwtPc.waits]
  · simp [hpc]

/-- The states of the clock and of the callback do not count for the writer. -/
theorem WaitInv.congr (h : WaitInv setup t s) (hpc : s'.pc = s.pc)
    (hevent : s'.twtSetupEvent = s.twtSetupEvent)
    (hattempt : s'.twtRetryAttempt = s.twtRetryAttempt) : WaitInv setup t s' := by
  have hsent : s'.sent = s.sent := by rw [TwtWaitState.sent, TwtWaitState.sent, hpc, hattempt]
  constructor
  · rw [hsent]
    exact h.trace
  · rw [hpc, hevent]
    exact h.event
  · rw [hpc, hattempt]
    exact h.attempt
  · rw [hattempt]
    exact h.retried
  · rw [hpc, hattempt]
    exact h.taken
  · rw [hpc, hattempt]
    exact h.ended

theorem TwtWaitState.sent_of_waits (h : s.pc.waits = true) : s.sent = s.twtRetryAttempt + 1 := by
  rw [TwtWaitState.sent]
  cases hpc : s.pc with
  | startTime | whileTest | elapsedTest | ifTest => rfl
  | retryTwt | umacCmdCfg | cmdStatus | out => exact absurd h (by simp [hpc, TwtPc.waits])

/-- Going on to wait changes nothing. -/
theorem WaitInv.wait {pc : TwtPc} (h : WaitInv setup t s) (hsent : s.sent = s.twtRetryAttempt + 1)
    (hpc : s.pc ≠ .retryTwt ∧ s.pc ≠ .out) (hwaits : pc.waits = true)
    (htaken : setup s.twtRetryAttempt = true) : WaitInv setup t { s with pc := pc } := by
  constructor
  · rw [TwtWaitState.sent_of_waits hwaits, ← hsent]
    exact h.trace
  · exact fun _ => h.event hpc.1
  · exact fun _ => h.attempt hpc.2
  · exact h.retried
  · exact fun _ => htaken
  · rintro rfl
    exact absurd hwaits Bool.false_ne_true

/-- A setup that the firmware does not take is the last. -/
theorem WaitInv.giveUp (h : WaitInv setup t s) (hpc : s.pc = .cmdStatus)
    (hfail : setup s.twtRetryAttempt = false) : WaitInv setup t { s with pc := .out } := by
  have htrace := h.trace
  have hsent : min (s.twtRetryAttempt + 1) 2 = s.twtRetryAttempt + 1 :=
    Nat.min_eq_left (Nat.succ_le_succ (h.attempt (by simp [hpc])))
  simp only [TwtWaitState.sent, hpc] at htrace
  rw [← hsent] at htrace
  refine ⟨htrace, fun _ => h.event (by simp [hpc]), by simp, h.retried, by simp [TwtPc.waits], ?_⟩
  intro _ hzero
  have hzero : s.twtRetryAttempt = 0 := hzero
  rwa [hzero] at hfail

/-- After the first timeout there is a second attempt. -/
theorem WaitInv.retry (h : WaitInv setup t s) (hpc : s.pc = .ifTest)
    (hagain : s.twtRetryAttempt + 1 ≠ 2) :
    WaitInv setup t { s with pc := .retryTwt, twtRetryAttempt := s.twtRetryAttempt + 1 } := by
  have htrace := h.trace
  have htaken := h.taken (by rw [hpc]; rfl)
  have hzero : s.twtRetryAttempt = 0 := by
    have := h.attempt (by simp [hpc])
    omega
  simp only [TwtWaitState.sent, hpc] at htrace
  rw [hzero] at htaken
  refine ⟨htrace, by simp, ?_, fun _ => htaken, by simp [TwtPc.waits], by simp⟩
  intro _
  exact Nat.succ_le_succ (Nat.le_of_eq hzero)

/-- After the second timeout there is no third. -/
theorem WaitInv.finish (h : WaitInv setup t s) (hpc : s.pc = .ifTest)
    (hlast : s.twtRetryAttempt + 1 = 2) :
    WaitInv setup t { s with pc := .out, twtRetryAttempt := s.twtRetryAttempt + 1 } := by
  have htrace := h.trace
  have hone : s.twtRetryAttempt = 1 := Nat.succ.inj hlast
  simp only [TwtWaitState.sent, hpc, hone] at htrace
  refine ⟨?_, fun _ => h.event (by simp [hpc]), by simp, fun _ => h.retried (by omega),
    by simp [TwtPc.waits], by simp⟩
  rw [TwtWaitState.sent, hone]
  exact htrace

/-- **The invariant of the writer**, step by step. -/
theorem WaitInv.waiterStep (h : WaitInv setup t s) (hs : waiterStep setup s = some (s', u)) :
    WaitInv setup (t ++ u) s' := by
  have htrace := h.trace
  have hwait : ∀ {pc : TwtPc}, s.pc.waits = true → pc.waits = true →
      WaitInv setup t { s with pc := pc } := fun hwaits hwaits' => by
    refine h.wait (TwtWaitState.sent_of_waits hwaits) ⟨?_, ?_⟩ hwaits' (h.taken hwaits) <;>
    · intro hpc
      exact absurd hwaits (by simp [hpc, TwtPc.waits])
  rw [Nrf70.waiterStep] at hs
  rw [TwtWaitState.sent] at htrace
  cases hpc : s.pc with
  | retryTwt =>
    simp only [hpc, Option.some.injEq, Prod.mk.injEq] at hs htrace
    obtain ⟨rfl, rfl⟩ := hs
    rw [List.append_nil]
    exact ⟨htrace, fun _ => rfl, fun _ => h.attempt (by simp [hpc]), h.retried,
      by simp [TwtPc.waits], by simp⟩
  | umacCmdCfg =>
    simp only [hpc, Option.some.injEq, Prod.mk.injEq] at hs htrace
    obtain ⟨rfl, rfl⟩ := hs
    exact ⟨htrace.setup, fun _ => h.event (by simp [hpc]), fun _ => h.attempt (by simp [hpc]),
      h.retried, by simp [TwtPc.waits], by simp⟩
  | cmdStatus =>
    simp only [hpc] at hs
    split_ifs at hs with htaken
    · obtain ⟨rfl, rfl⟩ := Prod.mk.inj (Option.some.inj hs)
      rw [List.append_nil]
      exact h.wait (by rw [TwtWaitState.sent, hpc]) (by simp [hpc]) rfl htaken
    · obtain ⟨rfl, rfl⟩ := Prod.mk.inj (Option.some.inj hs)
      rw [List.append_nil]
      exact h.giveUp hpc (Bool.not_eq_true _ ▸ htaken)
  | startTime =>
    simp only [hpc, Option.some.injEq, Prod.mk.injEq] at hs
    obtain ⟨rfl, rfl⟩ := hs
    rw [List.append_nil]
    have hwhile : WaitInv setup t { s with pc := .whileTest } := hwait (by rw [hpc]; rfl) rfl
    exact hwhile.congr rfl rfl rfl
  | whileTest | elapsedTest =>
    have hwaits : s.pc.waits = true := by rw [hpc]; rfl
    simp only [hpc] at hs
    split_ifs at hs
    all_goals
      obtain ⟨rfl, rfl⟩ := Prod.mk.inj (Option.some.inj hs)
      rw [List.append_nil]
      exact hwait hwaits rfl
  | ifTest =>
    -- the event is as the reset left it, so this is always a timeout
    have hevent : ¬ s.twtSetupEvent = true := by simp [h.event (by simp [hpc])]
    simp only [hpc] at hs
    rw [if_neg hevent] at hs
    split_ifs at hs with hagain
    · obtain ⟨rfl, rfl⟩ := Prod.mk.inj (Option.some.inj hs)
      rw [List.append_nil]
      exact h.retry hpc hagain
    · obtain ⟨rfl, rfl⟩ := Prod.mk.inj (Option.some.inj hs)
      rw [List.append_nil]
      exact h.finish hpc (not_not.mp hagain)
  | out => simp [hpc] at hs

/-- The invariant over a run. An answer in time goes to the setup that is waited for. -/
theorem WaitInv.step (h : WaitInv setup t s) (hs : twtWaitStep setup s a = some (s', u)) :
    WaitInv setup (t ++ u) s' := by
  cases a with
  | waiter => exact h.waiterStep hs
  | tick us =>
    obtain ⟨rfl, rfl⟩ := Prod.mk.inj (Option.some.inj hs)
    rw [List.append_nil]
    exact h.congr rfl rfl rfl
  | response info =>
    obtain ⟨rfl, rfl⟩ := Prod.mk.inj (Option.some.inj hs)
    have hkeep : WaitInv setup t { s with params := nrfWifiTwtConfigCallbkFn info s.params } :=
      h.congr rfl rfl rfl
    split_ifs with htime
    · have hsent : s.sent = s.twtRetryAttempt + 1 := by
        rw [TwtWaitState.inTime] at htime
        rw [TwtWaitState.sent]
        cases hpc : s.pc with
        | retryTwt | umacCmdCfg | out => simp [hpc] at htime
        | cmdStatus | startTime | whileTest | elapsedTest | ifTest => rfl
      refine ⟨?_, hkeep.event, hkeep.attempt, hkeep.retried, hkeep.taken, hkeep.ended⟩
      have htrace := h.trace
      rw [hsent] at htrace
      have hanswered := htrace.answered
      rwa [← hsent] at hanswered
    · rw [List.append_nil]
      exact hkeep

theorem WaitInv.exec {as : List TwtWaitAct} (hbegins : s.Begins)
    (hexec : (twtWaitMachine setup).exec s as = some (s', t)) : WaitInv setup t s' :=
  (twtWaitMachine setup).exec_invariant (P := WaitInv setup) (fun h hs => h.step hs)
    (.init hbegins) hexec

/-- Two setups are sent at most, and one if the firmware does not take it. -/
theorem WaitInv.sent_le (h : WaitInv setup t s) : s.sent ≤ if setup 0 then 2 else 1 := by
  have hretried := h.retried
  have hattempt := h.attempt
  rw [TwtWaitState.sent]
  split_ifs with htaken
  · cases hpc : s.pc with
    | retryTwt | umacCmdCfg => exact Nat.le_succ_of_le (hattempt (by simp [hpc]))
    | cmdStatus | startTime | whileTest | elapsedTest | ifTest =>
      exact Nat.succ_le_succ (hattempt (by simp [hpc]))
    | out => exact Nat.min_le_right _ _
  · have hzero : s.twtRetryAttempt = 0 := Nat.eq_zero_of_not_pos fun hpos => htaken (hretried hpos)
    rw [hzero]
    cases s.pc <;> decide

/-- A write that is over has sent all of them. -/
theorem WaitInv.sent_of_out (h : WaitInv setup t s) (hout : s.pc = .out) :
    s.sent = if setup 0 then 2 else 1 := by
  refine le_antisymm h.sent_le ?_
  rw [TwtWaitState.sent, hout]
  split_ifs with htaken
  · have hpos : s.twtRetryAttempt ≠ 0 := fun hzero => by simp [h.ended hout hzero] at htaken
    exact le_min (by omega) le_rfl
  · exact le_min (by omega) (by omega)

/-- **The setups of a write that is over** are those of a write whose event never comes. -/
theorem setups_eq_twtAttempts {as : List TwtWaitAct} {o : TwtOutcomes} (info : TwtParams)
    (hbegins : s.Begins) (hexec : (twtWaitMachine o.setup).exec s as = some (s', t))
    (hout : s'.pc = .out) :
    (twtAttempts { o with event := fun _ => false } info 2 0).filterMap TwtEvent.command =
      List.replicate (t.countP TwtWaitEvent.isSetup) (.configTwt info) := by
  have hinv := WaitInv.exec hbegins hexec
  rw [hinv.trace.countP_isSetup, hinv.sent_of_out hout]
  cases hfirst : o.setup 0 <;> cases hsecond : o.setup 1 <;>
    simp [twtAttempts, hfirst, hsecond, TwtEvent.command, List.replicate]

/-- The writer makes nothing visible but its setups. -/
theorem waiterStep_trace (hs : waiterStep setup s = some (s', u)) :
    u = [] ∨ u = [.setup s.twtRetryAttempt] := by
  rw [waiterStep] at hs
  cases hpc : s.pc with
  | umacCmdCfg =>
    simp only [hpc, Option.some.injEq, Prod.mk.injEq] at hs
    exact Or.inr hs.2.symm
  | retryTwt | startTime =>
    simp only [hpc, Option.some.injEq, Prod.mk.injEq] at hs
    exact Or.inl hs.2.symm
  | cmdStatus | whileTest | elapsedTest | ifTest =>
    simp only [hpc] at hs
    split_ifs at hs
    all_goals exact Or.inl (Prod.mk.inj (Option.some.inj hs)).2.symm
  | out => simp [hpc] at hs

/-- An answer to the first setup is one that the callback gets in time. -/
theorem answered_mem_iff (hs : twtWaitStep setup s a = some (s', u)) :
    .answered 0 ∈ u ↔ a.AnswersFirst s := by
  cases a with
  | waiter =>
    refine iff_of_false (fun hmem => ?_) fun h => absurd h.2.2 Bool.false_ne_true
    obtain rfl | rfl := waiterStep_trace hs
    · exact absurd hmem List.not_mem_nil
    · exact absurd hmem (by simp)
  | tick us =>
    obtain ⟨-, rfl⟩ := Prod.mk.inj (Option.some.inj hs)
    exact iff_of_false List.not_mem_nil fun h => absurd h.2.2 Bool.false_ne_true
  | response info =>
    obtain ⟨-, rfl⟩ := Prod.mk.inj (Option.some.inj hs)
    rw [TwtWaitAct.AnswersFirst]
    split_ifs with htime
    · simp [htime, TwtWaitAct.isResponse, eq_comm]
    · simp [htime]

/-- **The runs in which an answered setup is not sent again**, and none more than twice: those in
which the firmware does not take the first setup, or does not answer it in time. A write that is
over has sent it again in all others. -/
theorem twt_retry_iff {as : List TwtWaitAct} (hbegins : s.Begins)
    (hexec : (twtWaitMachine setup).exec s as = some (s', t)) :
    ((setup 0 = false ∨ (twtWaitMachine setup).Along (fun s a => ¬ a.AnswersFirst s) s as) →
      AnsweredOnce t) ∧
    (s'.pc = .out → (AnsweredOnce t ↔
      setup 0 = false ∨ (twtWaitMachine setup).Along (fun s a => ¬ a.AnswersFirst s) s as)) := by
  have hinv := WaitInv.exec hbegins hexec
  have hle := hinv.sent_le
  have hfirst := (twtWaitMachine setup).along_iff_not_mem_trace answered_mem_iff hexec
  have htwo : t.countP TwtWaitEvent.isSetup ≤ 2 := by
    rw [hinv.trace.countP_isSetup]
    refine hle.trans ?_
    split_ifs <;> decide
  have honce : AnsweredOnce t ↔ ∀ i, i + 1 < s'.sent → .answered i ∉ t := by
    rw [← hinv.trace.pairwise_iff]
    exact ⟨fun h => h.notAgain, fun h => ⟨h, htwo⟩⟩
  have hkept : (setup 0 = false ∨ .answered 0 ∉ t) → AnsweredOnce t := by
    rw [honce]
    intro hcond i hi
    split_ifs at hle with htaken
    · obtain rfl : i = 0 := by omega
      exact hcond.resolve_left (by simp [htaken])
    · omega
  rw [hfirst]
  refine ⟨hkept, fun hout => ⟨fun h => ?_, hkept⟩⟩
  have hsent := hinv.sent_of_out hout
  split_ifs at hsent with htaken
  · exact Or.inr (honce.mp h 0 (by omega))
  · exact Or.inl (by simpa using htaken)

end Runs

/-- A writer about to send, at time 0. -/
def sampleTwtWait : TwtWaitState :=
  ⟨.retryTwt, false, 0, 0, 0, ⟨nrfWifiWlanFmacTwtInit.twtCmd, false⟩⟩

/-- The firmware takes the setup and answers it, the second is over, and the writer goes on. -/
def answeredRun (before after : ℕ) : List TwtWaitAct :=
  [.waiter, .waiter, .waiter, .waiter, .tick before,
    .response nrfWifiWlanFmacTwtInit.twtCmd, .tick after, .waiter, .waiter, .waiter, .waiter,
    .waiter]

/-- An answer after the deadline: the write may send its setup again. -/
theorem twt_retry_iff_late :
    ∃ s, (twtWaitMachine fun _ => true).exec sampleTwtWait (answeredRun 1000000 0) =
      some (s, [.setup 0, .setup 1]) ∧ AnsweredOnce [.setup 0, .setup 1] := by
  have hexec : (twtWaitMachine fun _ => true).exec sampleTwtWait (answeredRun 1000000 0) =
      some (⟨.cmdStatus, false, 1, 0, 1000000, ⟨nrfWifiWlanFmacTwtInit.twtCmd, true⟩⟩,
        [.setup 0, .setup 1]) := by decide +kernel
  exact ⟨_, hexec, (twt_retry_iff ⟨rfl, rfl⟩ hexec).1 (Or.inr (by decide +kernel))⟩

/-- **An answered setup that is sent again.** The answer comes after 5 ms, the writer waits its
second all the same and sends another. -/
theorem answered_setup_resent :
    ∃ s t, (twtWaitMachine fun _ => true).exec sampleTwtWait (answeredRun 5000 995000) =
      some (s, t) ∧ t = [.setup 0, .answered 0, .setup 1] ∧ ¬ AnsweredOnce t :=
  ⟨⟨.cmdStatus, false, 1, 0, 1000000, ⟨nrfWifiWlanFmacTwtInit.twtCmd, true⟩⟩,
    [.setup 0, .answered 0, .setup 1], by decide +kernel, rfl,
    fun h => absurd h.notAgain (by decide +kernel)⟩

end Nrf70
