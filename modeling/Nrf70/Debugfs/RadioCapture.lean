import Nrf70.Debugfs.RadioHandlers
import Nrf70.Lib.Ledger

/-!
# The RX capture buffer

`rx_cap` allocates the buffer of a capture, `3 * capture_length` bytes as `capture_length` is then,
and a read of the `stats` file prints the buffer, as far as `capture_length` then says, and frees
it. Nothing ties the length to the buffer in between, and the error exit of `rx_cap` frees the
buffer and keeps the pointer.

`next_capture` says what a command does to the pointer, the buffers and the length, and everything
else here is read off it.

## Main results

* `captureValid_next` — when a command keeps the buffer valid
* `capture_safe_iff` — the sequences of writes and reads in which the buffer is valid throughout, no
  buffer is freed twice and no read goes astray
-/

namespace Nrf70

/-! ### Writes of `conf` and reads of `stats` -/

/-- What a write of `conf` or a read of `stats` makes visible: the events of a handler, and the
bytes of the capture that are read. -/
inductive CaptureEvent
  | radio (e : RadioEvent)
  | read (buf index : ℕ)

/-- The reads that print one sample, in the order of the arguments. -/
def sampleReads (buf i : ℕ) : List CaptureEvent :=
  [.read buf (i * 3 + 2), .read buf (i * 3 + 1), .read buf (i * 3 + 0)]

/-- `nrf_wifi_wlan_fmac_dbgfs_stats_show`, as far as it deals with the capture. `ok` is the outcome
of `nrf_wifi_fmac_stats_get`, and a failure of it skips the capture too. -/
def nrfWifiWlanFmacDbgfsStatsShow (ctx : RadioCtx) (ok : Bool) : RadioCtx × List CaptureEvent :=
  if !ok then
    (ctx, [.radio (.prErr (some
      "nrf_wifi_wlan_fmac_dbgfs_stats_show: nrf_wifi_fmac_stats_get failed\n"))])
  else
    match ctx.rxCapBuf with
    | none => (ctx, [])
    | some b =>
      let (freed, events) := ctx.kfreeRxCapBuf
      ({ freed with rxCapBuf := none },
        (List.range ctx.confParams.captureLength).flatMap (sampleReads b) ++ events.map .radio)

/-- A call of `nrf_wifi_wlan_fmac_radio_test_conf_write`, or of
`nrf_wifi_wlan_fmac_dbgfs_stats_show`. -/
inductive CaptureAct
  | confWrite (w : ConfWrite)
  | statsShow (ok : Bool)

variable (d : Nrfxlib) (o : Outcomes)

/-- One call. -/
def captureStep (ctx : RadioCtx) : CaptureAct → RadioCtx × List CaptureEvent
  | .confWrite w =>
    let r := nrfWifiWlanFmacRadioTestConfWrite d ctx w
    (r.1, r.2.1.map .radio)
  | .statsShow ok => nrfWifiWlanFmacDbgfsStatsShow ctx ok

/-- Sequences of writes and reads. -/
def captureMachine : Machine RadioCtx CaptureAct CaptureEvent :=
  ⟨fun ctx a => some (captureStep d ctx a)⟩

/-! ### The pointer, the buffers and the length -/

/-- The buffer an event of a handler frees. -/
def RadioEvent.freed : RadioEvent → Option ℕ
  | .kfree b => some b
  | _ => none

/-- The buffer an event frees. -/
def CaptureEvent.freed : CaptureEvent → Option ℕ
  | .radio e => e.freed
  | .read .. => none

/-- The capture as its readers see it. -/
structure Capture where
  buf : Option ℕ
  bufs : List CapBuf
  length : ℕ

def RadioCtx.capture (ctx : RadioCtx) : Capture :=
  ⟨ctx.rxCapBuf, ctx.capBufs, ctx.confParams.captureLength⟩

/-- A buffer that was freed. -/
def CapBuf.kill (c : CapBuf) : CapBuf := { c with live := false }

/-- The buffers after the one pointed to has been freed. -/
def Capture.freeBuf (k : Capture) : List CapBuf :=
  match k.buf with
  | none => k.bufs
  | some b => k.bufs.modify b CapBuf.kill

/-- The pointer is NULL or points to a live buffer that is long enough. -/
def Capture.Valid (k : Capture) : Prop :=
  ∀ b, k.buf = some b → ∃ c, k.bufs[b]? = some c ∧ c.live = true ∧ 3 * k.length ≤ c.size

/-- The checks of `nrf_wifi_radio_test_rx_cap` pass. -/
def RxCapAllowed (ctx : RadioCtx) (rxCapType : UInt64) : Prop :=
  RxCapType d rxCapType ∧ ctx.confParams.captureLength ≠ 0 ∧ ctx.Idle

instance (ctx : RadioCtx) (rxCapType : UInt64) : Decidable (RxCapAllowed d ctx rxCapType) :=
  inferInstanceAs (Decidable (_ ∧ _ ∧ _))

/-- Everything a command can do to the capture, with the buffers it frees. -/
inductive CapStep (ctx : RadioCtx) : Command → Capture → List ℕ → Prop
  | kept {c n} (hcap : ∀ v, c ≠ .val .rxCap v)
      (hlen : ∀ v, c = .val .rxCaptureLength v → ¬ (v < 16384 ∧ ctx.Idle))
      (hn : n = ctx.confParams.captureLength ∨ n = 0) :
      CapStep ctx c { ctx.capture with length := n } []
  | resized {v} (hv : v < 16384) (hidle : ctx.Idle) :
      CapStep ctx (.val .rxCaptureLength v) { ctx.capture with length := v.toNat } []
  | refused {v} (hv : ¬ RxCapAllowed d ctx v) :
      CapStep ctx (.val .rxCap v) { ctx.capture with bufs := ctx.capture.freeBuf }
        ctx.rxCapBuf.toList
  | noMemory {v} (hv : RxCapAllowed d ctx v) (hok : o.kzalloc = false) :
      CapStep ctx (.val .rxCap v) { ctx.capture with buf := none, bufs := ctx.capture.freeBuf }
        ctx.rxCapBuf.toList
  | captured {v} (hv : RxCapAllowed d ctx v) (halloc : o.kzalloc = true) (hok : o.rxCap = true) :
      CapStep ctx (.val .rxCap v)
        { ctx.capture with
          buf := some ctx.capBufs.length
          bufs := ctx.capture.freeBuf ++ [⟨ctx.confParams.captureLength * 3, true⟩] }
        ctx.rxCapBuf.toList
  | failed {v} (hv : RxCapAllowed d ctx v) (halloc : o.kzalloc = true) (hok : o.rxCap = false) :
      CapStep ctx (.val .rxCap v)
        { ctx.capture with
          buf := some ctx.capBufs.length
          bufs := ctx.capture.freeBuf ++ [⟨ctx.confParams.captureLength * 3, false⟩] }
        (ctx.rxCapBuf.toList ++ [ctx.capBufs.length])

section Effect

variable {d o} {ctx : RadioCtx} {c : Command}

/-- A handler that has nothing to do with the buffers. -/
structure LeavesCapture (ctx : RadioCtx) (r : Handled) : Prop where
  buf : r.state.rxCapBuf = ctx.rxCapBuf
  bufs : r.state.capBufs = ctx.capBufs
  freed : r.events.filterMap RadioEvent.freed = []
  length : r.state.confParams.captureLength = ctx.confParams.captureLength ∨
    r.state.confParams.captureLength = 0

theorem leavesCapture_fail (e : ConfError) : LeavesCapture ctx (.fail ctx e) :=
  ⟨rfl, rfl, rfl, Or.inl rfl⟩

theorem leavesCapture_setParam {checks : List (Option ConfError)}
    {store : ConfParams → ConfParams}
    (hstore : (store ctx.confParams).captureLength = ctx.confParams.captureLength) :
    LeavesCapture ctx (setParam checks store ctx) := by
  refine ⟨?_, ?_, by simp, Or.inl (setParam_frame ConfParams.captureLength hstore)⟩
  · rw [setParam]
    split <;> rfl
  · rw [setParam]
    split <;> rfl

theorem leavesCapture_oneShot {checks : List (Option ConfError)} {test : RfTest} {call : FmacCall}
    {ok : Bool} {failed : ConfError} {store : ConfParams → ConfParams}
    (hstore : (store ctx.confParams).captureLength = ctx.confParams.captureLength) :
    LeavesCapture ctx (oneShot checks test call ok failed store ctx) := by
  by_cases hp : ∀ c ∈ checks, c = none
  · rw [oneShot_of_pass hp]
    split
    · exact ⟨rfl, rfl, rfl, Or.inl hstore⟩
    · exact ⟨rfl, rfl, rfl, Or.inl rfl⟩
  · obtain ⟨e, he⟩ := oneShot_of_not_pass test call ok failed store ctx hp
    rw [he]
    exact leavesCapture_fail e

theorem leavesCapture_setTx (v : UInt64) : LeavesCapture ctx (nrfWifiRadioTestSetTx d o ctx v) := by
  by_cases hallow : TxAllowed d ctx v
  · rw [setTx_of_allowed hallow]
    refine ⟨rfl, rfl, rfl, Or.inl ?_⟩
    show (ctx.confParams.withTx d v).captureLength = _
    rw [ConfParams.withTx]
    split <;> rfl
  · obtain ⟨e, he⟩ := setTx_of_not_allowed (o := o) hallow
    rw [he]
    exact leavesCapture_fail e

theorem leavesCapture_setRx (v : UInt64) : LeavesCapture ctx (nrfWifiRadioTestSetRx o ctx v) := by
  by_cases hallow : SwitchAllowed ctx v
  · rw [setRx_of_allowed hallow]
    exact ⟨rfl, rfl, rfl, Or.inl rfl⟩
  · obtain ⟨e, he⟩ := setRx_of_not_allowed (o := o) hallow
    rw [he]
    exact leavesCapture_fail e

theorem leavesCapture_txTone (v : UInt64) :
    LeavesCapture ctx (nrfWifiRadioTestTxTone o ctx v) := by
  by_cases hallow : SwitchAllowed ctx v
  · rw [txTone_of_allowed hallow]
    split
    · split
      · exact ⟨rfl, rfl, rfl, Or.inl rfl⟩
      · exact ⟨rfl, rfl, rfl, Or.inl rfl⟩
    · exact ⟨rfl, rfl, rfl, Or.inl rfl⟩
  · obtain ⟨e, he⟩ := txTone_of_not_allowed (o := o) hallow
    rw [he]
    exact leavesCapture_fail e

theorem leavesCapture_regDomain (reg : List UInt8) :
    LeavesCapture ctx (nrfWifiRadioTestSetRegDomain o ctx reg) := by
  by_cases h : ∃ a b, reg = [a, b] ∧ RegDomain a b
  · obtain ⟨a, b, rfl, hreg⟩ := h
    rw [setRegDomain_of_valid hreg]
    split
    · exact ⟨rfl, rfl, rfl, Or.inl rfl⟩
    · exact ⟨rfl, rfl, rfl, Or.inl rfl⟩
  · have hfail : ∃ e, nrfWifiRadioTestSetRegDomain o ctx reg = .fail ctx e :=
      setRegDomain_of_not_valid fun a b heq hreg => h ⟨a, b, heq, hreg⟩
    obtain ⟨e, he⟩ := hfail
    rw [he]
    exact leavesCapture_fail e

theorem leavesCapture_init (v : UInt64) :
    LeavesCapture ctx (nrfWifiRadioTestInit d o ctx v) := by
  cases hval : checkValidChannel v.toUInt8 with
  | false =>
    rw [nrfWifiRadioTestInit, hval, if_neg Bool.false_ne_true]
    exact leavesCapture_fail _
  | true =>
    have hrx : (stopRxEvents ctx).filterMap RadioEvent.freed = [] := by
      rw [stopRxEvents]
      split_ifs <;> rfl
    have htx : (stopTxEvents ctx).filterMap RadioEvent.freed = [] := by
      rw [stopTxEvents]
      split_ifs <;> rfl
    have htone : (stopToneEvents ctx).filterMap RadioEvent.freed = [] := by
      rw [stopToneEvents]
      split_ifs <;> rfl
    have hfailed : (toneFailedEvents ctx).filterMap RadioEvent.freed = [] := by
      rw [toneFailedEvents]
      split_ifs <;> rfl
    have hbuf : ctx.stopTone.rxCapBuf = ctx.rxCapBuf ∧ ctx.stopTone.capBufs = ctx.capBufs := by
      rw [RadioCtx.stopTone]
      split_ifs <;> exact ⟨rfl, rfl⟩
    have hexit := init_exit d o ctx hval
    generalize nrfWifiRadioTestInit d o ctx v = r at hexit
    cases hexit with
    | rxFailed => exact ⟨rfl, rfl, rfl, Or.inl rfl⟩
    | txFailed =>
      exact ⟨rfl, rfl, by simp [List.filterMap_append, hrx, RadioEvent.freed], Or.inl rfl⟩
    | toneFailed =>
      exact ⟨rfl, rfl, by simp [List.filterMap_append, hrx, htx, hfailed], Or.inl rfl⟩
    | confFailed =>
      exact ⟨hbuf.1, hbuf.2,
        by simp [List.filterMap_append, hrx, htx, htone, RadioEvent.freed], Or.inr rfl⟩
    | programmed =>
      exact ⟨hbuf.1, hbuf.2,
        by simp [List.filterMap_append, hrx, htx, htone, RadioEvent.freed], Or.inr rfl⟩

theorem capStep_of_leaves {r : Handled} (heq : c.handle d o ctx = r) (h : LeavesCapture ctx r)
    (hcap : ∀ v, c ≠ .val .rxCap v)
    (hlen : ∀ v, c = .val .rxCaptureLength v → ¬ (v < 16384 ∧ ctx.Idle)) :
    CapStep d o ctx c (c.handle d o ctx).state.capture
      ((c.handle d o ctx).events.filterMap RadioEvent.freed) := by
  have hcapture : r.state.capture =
      { ctx.capture with length := r.state.confParams.captureLength } := by
    rw [RadioCtx.capture, h.buf, h.bufs]
    rfl
  rw [heq, h.freed, hcapture]
  exact .kept hcap hlen h.length

theorem capStep_rxCaptureLength (v : UInt64) :
    CapStep d o ctx (.val .rxCaptureLength v)
      ((Command.val .rxCaptureLength v).handle d o ctx).state.capture
      (((Command.val .rxCaptureLength v).handle d o ctx).events.filterMap RadioEvent.freed) := by
  have heq : (Command.val .rxCaptureLength v).handle d o ctx =
      nrfWifiRadioTestSetRxCaptureLength ctx v := rfl
  rw [nrfWifiRadioTestSetRxCaptureLength] at heq
  by_cases hpass : v < 16384 ∧ ctx.Idle
  · rw [setParam_of_pass (by simpa using hpass)] at heq
    rw [heq]
    exact .resized hpass.1 hpass.2
  · have hfail : ∃ e, (Command.val .rxCaptureLength v).handle d o ctx = .fail ctx e := by
      rw [heq]
      exact setParam_of_not_pass _ ctx (by simpa using hpass)
    obtain ⟨e, he⟩ := hfail
    refine capStep_of_leaves he (leavesCapture_fail e) (by simp) ?_
    intro w hw
    rw [Command.val.injEq] at hw
    rwa [← hw.2]

/-! ### What `rx_cap` does -/

theorem freeBuf_of_none {k : Capture} (h : k.buf = none) : k.freeBuf = k.bufs := by
  rw [Capture.freeBuf, h]

theorem freeBuf_of_some {k : Capture} {b : ℕ} (h : k.buf = some b) :
    k.freeBuf = k.bufs.modify b CapBuf.kill := by
  rw [Capture.freeBuf, h]

theorem length_freeBuf (k : Capture) : k.freeBuf.length = k.bufs.length := by
  rw [Capture.freeBuf]
  split <;> simp

theorem kfreeRxCapBuf_fst :
    ctx.kfreeRxCapBuf.1 = { ctx with capBufs := ctx.capture.freeBuf } := by
  rw [RadioCtx.kfreeRxCapBuf]
  split
  · next h =>
    rw [freeBuf_of_none (k := ctx.capture) h]
    rfl
  · next b h =>
    rw [freeBuf_of_some (k := ctx.capture) h]
    rfl

theorem kfreeRxCapBuf_freed :
    ctx.kfreeRxCapBuf.2.filterMap RadioEvent.freed = ctx.rxCapBuf.toList := by
  rw [RadioCtx.kfreeRxCapBuf]
  cases ctx.rxCapBuf <;> rfl

theorem kfreeRxCapBuf_append_freed {events : List RadioEvent}
    (h : events.filterMap RadioEvent.freed = []) :
    (ctx.kfreeRxCapBuf.2 ++ events).filterMap RadioEvent.freed = ctx.rxCapBuf.toList := by
  rw [List.filterMap_append, h, List.append_nil, kfreeRxCapBuf_freed]

theorem modify_append_singleton {α : Type} (l : List α) (a : α) (f : α → α) :
    (l ++ [a]).modify l.length f = l ++ [f a] := by
  induction l with
  | nil => rfl
  | cons c l ih => simpa using ih

/-- Freeing a buffer that was just allocated for a test. -/
theorem kfreeRxCapBuf_latch (size : ℕ) (test : RfTest) :
    ((ctx.setRxCapBuf size).latch test).kfreeRxCapBuf =
      ({ ctx.latch test with
          rxCapBuf := some ctx.capBufs.length
          capBufs := ctx.capBufs ++ [⟨size, false⟩] },
        [.kfree ctx.capBufs.length]) := by
  simp only [RadioCtx.kfreeRxCapBuf, RadioCtx.latch, RadioCtx.setRxCapBuf, modify_append_singleton]

theorem firstError_rxCap {v : UInt64} :
    firstError
      [checkThat (RxCapType d v) (invalidValue v),
        checkThat (ctx.confParams.captureLength ≠ 0)
          ⟨.einval, some "nrf_wifi_radio_test_rx_cap: Invalid rx_capture_length 0\n"⟩,
        checkTestInProg ctx .enoexec] = none ↔ RxCapAllowed d ctx v := by
  simp [RxCapAllowed]

theorem capStep_rxCap (v : UInt64) :
    CapStep d o ctx (.val .rxCap v) ((Command.val .rxCap v).handle d o ctx).state.capture
      (((Command.val .rxCap v).handle d o ctx).events.filterMap RadioEvent.freed) := by
  show CapStep d o ctx (.val .rxCap v) (nrfWifiRadioTestRxCap d o ctx v).state.capture
    ((nrfWifiRadioTestRxCap d o ctx v).events.filterMap RadioEvent.freed)
  by_cases hallow : RxCapAllowed d ctx v
  swap
  · obtain ⟨e, he⟩ := Option.ne_none_iff_exists'.mp (mt firstError_rxCap.mp hallow)
    simp only [nrfWifiRadioTestRxCap, he, rxCapError, List.nil_append, kfreeRxCapBuf_fst,
      kfreeRxCapBuf_freed]
    exact .refused hallow
  have hlen : ctx.capture.freeBuf.length = ctx.capBufs.length := length_freeBuf ctx.capture
  cases halloc : o.kzalloc with
  | false =>
    simp only [nrfWifiRadioTestRxCap, firstError_rxCap.mpr hallow, halloc, Bool.not_false, if_true,
      rxCapError, kfreeRxCapBuf_fst, List.append_assoc]
    rw [kfreeRxCapBuf_append_freed rfl]
    exact .noMemory hallow halloc
  | true =>
    cases hok : o.rxCap with
    | true =>
      simp only [nrfWifiRadioTestRxCap, firstError_rxCap.mpr hallow, halloc, hok, Bool.not_true,
        Bool.false_eq_true, if_false, if_true, kfreeRxCapBuf_fst]
      rw [kfreeRxCapBuf_append_freed rfl]
      have hstep := CapStep.captured hallow halloc hok
      rw [← hlen] at hstep
      exact hstep
    | false =>
      simp only [nrfWifiRadioTestRxCap, firstError_rxCap.mpr hallow, halloc, hok, Bool.not_true,
        Bool.false_eq_true, if_false, rxCapError, kfreeRxCapBuf_latch]
      rw [List.filterMap_append, kfreeRxCapBuf_append_freed rfl, kfreeRxCapBuf_fst]
      have hstep := CapStep.failed hallow halloc hok
      rw [← hlen] at hstep
      exact hstep

/-! ### All commands -/

variable (d o ctx) in
/-- **What a command does to the capture.** -/
theorem next_capture (c : Command) :
    CapStep d o ctx c (c.handle d o ctx).state.capture
      ((c.handle d o ctx).events.filterMap RadioEvent.freed) := by
  cases c with
  | setDefaults =>
    refine capStep_of_leaves rfl ⟨rfl, rfl, rfl, Or.inr ?_⟩ (by simp) (by simp)
    show (if o.rfParamsGet = true then _ else _ : ConfParams).captureLength = 0
    split <;> rfl
  | bypassInvalid rest =>
    exact capStep_of_leaves rfl (leavesCapture_fail _) (by simp) (by simp)
  | unknown buf =>
    exact capStep_of_leaves rfl (leavesCapture_fail _) (by simp) (by simp)
  | sval key v =>
    obtain ⟨checks, store, heq, -, hlen⟩ := SvalKey.handle_eq_setParam d ctx key v
    exact capStep_of_leaves heq (leavesCapture_setParam (hlen _)) (by simp) (by simp)
  | regDomain reg =>
    exact capStep_of_leaves rfl (leavesCapture_regDomain reg) (by simp) (by simp)
  | val key v =>
    have hleaves {r : Handled} (heq : (Command.val key v).handle d o ctx = r)
        (h : LeavesCapture ctx r) (hcap : key ≠ .rxCap) (hlen : key ≠ .rxCaptureLength) :
        CapStep d o ctx (.val key v) ((Command.val key v).handle d o ctx).state.capture
          (((Command.val key v).handle d o ctx).events.filterMap RadioEvent.freed) := by
      refine capStep_of_leaves heq h ?_ ?_
      · exact fun w hw => hcap (Command.val.inj hw).1
      · exact fun w hw => absurd (Command.val.inj hw).1 hlen
    by_cases hset : key.isSetter = true
    · by_cases hlen : key = .rxCaptureLength
      · subst hlen
        exact capStep_rxCaptureLength v
      · obtain ⟨checks, store, heq, -, hkeep⟩ := ValKey.handle_of_isSetter d o ctx v hset
        refine hleaves heq (leavesCapture_setParam (hkeep hlen _)) ?_ hlen
        rintro rfl
        exact absurd hset (by decide)
    cases key with
    | rxCap => exact capStep_rxCap v
    | tx => exact hleaves rfl (leavesCapture_setTx v) (by decide) (by decide)
    | rx => exact hleaves rfl (leavesCapture_setRx v) (by decide) (by decide)
    | init => exact hleaves rfl (leavesCapture_init v) (by decide) (by decide)
    | txTone => exact hleaves rfl (leavesCapture_txTone v) (by decide) (by decide)
    | setXoVal =>
      have heq : (Command.val .setXoVal v).handle d o ctx = nrfWifiRadioSetXoVal d o ctx v := rfl
      rw [nrfWifiRadioSetXoVal] at heq
      exact hleaves heq (leavesCapture_oneShot rfl) (by decide) (by decide)
    | dpd | getTemperature | getRfRssi | computeOptimalXoVal =>
      exact hleaves rfl (leavesCapture_oneShot rfl) (by decide) (by decide)
    | _ => exact absurd rfl hset

end Effect

/-! ### When the buffer stays valid -/

/-- The command keeps the buffer valid. A length that is stored fits the buffer there is, a capture
that gets as far as the firmware succeeds, and one that is refused finds no buffer. -/
def Command.KeepsCapture (ctx : RadioCtx) : Command → Prop
  | .val .rxCaptureLength v =>
    v < 16384 ∧ ctx.Idle →
      ∀ b c, ctx.rxCapBuf = some b → ctx.capBufs[b]? = some c → 3 * v.toNat ≤ c.size
  | .val .rxCap v =>
    if RxCapAllowed d ctx v then o.kzalloc = true → o.rxCap = true else ctx.rxCapBuf = none
  | _ => True

section Valid

variable {d o} {ctx : RadioCtx} {c : Command} {k : Capture}

theorem Capture.Valid.of_le (h : k.Valid) {n : ℕ} (hn : n ≤ k.length) :
    Capture.Valid { k with length := n } := by
  intro b hb
  obtain ⟨c, hc, hlive, hsize⟩ := h b hb
  exact ⟨c, hc, hlive, le_trans (Nat.mul_le_mul_left 3 hn) hsize⟩

theorem not_valid_of_dead {b : ℕ} {c : CapBuf} (hbuf : k.buf = some b) (hc : k.bufs[b]? = some c)
    (hdead : c.live = false) : ¬ k.Valid := by
  intro h
  obtain ⟨c', hc', hlive, -⟩ := h b hbuf
  rw [hc, Option.some.injEq] at hc'
  rw [← hc', hdead] at hlive
  exact Bool.false_ne_true hlive

/-- **When a command keeps the buffer valid.** -/
theorem captureValid_next (h : ctx.capture.Valid) :
    (c.handle d o ctx).state.capture.Valid ↔ c.KeepsCapture d o ctx := by
  have hstep := next_capture d o ctx c
  generalize (c.handle d o ctx).state.capture = k at hstep
  generalize (c.handle d o ctx).events.filterMap RadioEvent.freed = freed at hstep
  cases hstep with
  | kept hcap hlen hn =>
    have hle : _ ≤ ctx.confParams.captureLength := hn.elim le_of_eq fun h0 => h0 ▸ Nat.zero_le _
    refine iff_of_true (h.of_le hle) ?_
    unfold Command.KeepsCapture
    split
    · exact fun hv => absurd hv (hlen _ rfl)
    · exact absurd rfl (hcap _)
    · trivial
  | @resized v hv hidle =>
    show _ ↔ (v < 16384 ∧ ctx.Idle → _)
    constructor
    · intro hvalid _ b c hb hc
      obtain ⟨c', hc', -, hsize⟩ := hvalid b hb
      have hc'' : ctx.capBufs[b]? = some c' := hc'
      rw [hc, Option.some.injEq] at hc''
      rw [hc'']
      exact hsize
    · intro hfit b hb
      obtain ⟨c, hc, hlive, -⟩ := h b hb
      exact ⟨c, hc, hlive, hfit ⟨hv, hidle⟩ b c hb hc⟩
  | @refused v hv =>
    show _ ↔ if RxCapAllowed d ctx v then _ else _
    rw [if_neg hv]
    cases hbuf : ctx.rxCapBuf with
    | none =>
      refine iff_of_true (fun b hb => ?_) rfl
      exact absurd (hbuf.symm.trans hb) (by simp)
    | some b =>
      obtain ⟨c, hc, -, -⟩ := h b hbuf
      refine iff_of_false (not_valid_of_dead (b := b) (c := c.kill) hbuf ?_ rfl) (by simp)
      show ctx.capture.freeBuf[b]? = _
      rw [freeBuf_of_some (k := ctx.capture) hbuf, List.getElem?_modify, hc]
      simp
  | @noMemory v hv hok =>
    show _ ↔ if RxCapAllowed d ctx v then _ else _
    rw [if_pos hv]
    refine iff_of_true (fun b hb => absurd hb (by simp)) ?_
    exact fun halloc => absurd (hok.symm.trans halloc) Bool.false_ne_true
  | @captured v hv halloc hok =>
    show _ ↔ if RxCapAllowed d ctx v then _ else _
    rw [if_pos hv]
    refine iff_of_true (fun b hb => ?_) fun _ => hok
    refine ⟨⟨ctx.confParams.captureLength * 3, true⟩, ?_, rfl, ?_⟩
    · rw [← Option.some.inj hb, show ctx.capBufs.length = ctx.capture.freeBuf.length from
        (length_freeBuf ctx.capture).symm]
      simp
    · exact le_of_eq (Nat.mul_comm 3 _)
  | @failed v hv halloc hok =>
    show _ ↔ if RxCapAllowed d ctx v then _ else _
    rw [if_pos hv]
    refine iff_of_false ?_ fun hno => absurd (hok.symm.trans (hno halloc)) Bool.false_ne_true
    refine not_valid_of_dead rfl (c := ⟨ctx.confParams.captureLength * 3, false⟩) ?_ rfl
    rw [show ctx.capBufs.length = ctx.capture.freeBuf.length from
      (length_freeBuf ctx.capture).symm]
    simp

end Valid

/-! ### One call -/

/-- The call keeps the buffer valid. A read of `stats` always does. -/
def CaptureAct.KeepsCapture (ctx : RadioCtx) : CaptureAct → Prop
  | .confWrite w => ∀ c, w.command = some c → c.KeepsCapture d w.fmac ctx
  | .statsShow _ => True

/-- Every byte the call reads belongs to a live buffer. -/
def ReadsLive (ctx : RadioCtx) (a : CaptureAct) : Prop :=
  ∀ b i, .read b i ∈ (captureStep d ctx a).2 →
    ∃ c, ctx.capBufs[b]? = some c ∧ c.live = true ∧ i < c.size

/-- The buffers that were freed are dead, and each was freed once. -/
def FreedSoFar (t : List CaptureEvent) (ctx : RadioCtx) : Prop :=
  FreedOnce (fun c : CapBuf => c.live = false) (t.filterMap CaptureEvent.freed) ctx.capBufs

section Step

variable {d} {ctx : RadioCtx}

theorem freed_map_radio (t : List RadioEvent) :
    (t.map CaptureEvent.radio).filterMap CaptureEvent.freed = t.filterMap RadioEvent.freed := by
  rw [List.filterMap_map]
  rfl

variable (d ctx) in
/-- What a write does to the capture. -/
theorem confWrite_capture (w : ConfWrite) :
    (w.command = none ∧ (captureStep d ctx (.confWrite w)).1.capture = ctx.capture ∧
        (captureStep d ctx (.confWrite w)).2.filterMap CaptureEvent.freed = []) ∨
      ∃ c, w.command = some c ∧
        (captureStep d ctx (.confWrite w)).1.capture = (c.handle d w.fmac ctx).state.capture ∧
        (captureStep d ctx (.confWrite w)).2.filterMap CaptureEvent.freed =
          (c.handle d w.fmac ctx).events.filterMap RadioEvent.freed := by
  cases hc : w.command with
  | none =>
    refine Or.inl ⟨rfl, ?_⟩
    simp only [captureStep, nrfWifiWlanFmacRadioTestConfWrite, hc]
    exact ⟨trivial, rfl⟩
  | some c =>
    refine Or.inr ⟨c, rfl, ?_⟩
    have hlog : ∀ e, (c.report w.inBuf.length e).1.filterMap RadioEvent.freed = [] := by
      intro e
      cases c <;> cases e <;> rfl
    simp only [captureStep, nrfWifiWlanFmacRadioTestConfWrite, hc]
    refine ⟨trivial, ?_⟩
    rw [freed_map_radio, List.filterMap_append, hlog, List.append_nil]

/-- What a read of `stats` does to the capture. -/
theorem statsShow_capture :
    (captureStep d ctx (.statsShow true)).1.capture =
        { ctx.capture with buf := none, bufs := ctx.capture.freeBuf } ∧
      (captureStep d ctx (.statsShow true)).2.filterMap CaptureEvent.freed =
        ctx.rxCapBuf.toList := by
  have hreads : ∀ b n, ((List.range n).flatMap (sampleReads b)).filterMap CaptureEvent.freed =
      [] := by
    intro b n
    rw [List.filterMap_eq_nil_iff]
    intro e he
    obtain ⟨i, -, hi⟩ := List.mem_flatMap.mp he
    simp only [sampleReads, List.mem_cons, List.not_mem_nil, or_false] at hi
    rcases hi with rfl | rfl | rfl <;> rfl
  simp only [captureStep, nrfWifiWlanFmacDbgfsStatsShow, Bool.not_true, Bool.false_eq_true,
    if_false]
  split
  · next hbuf =>
    rw [freeBuf_of_none (k := ctx.capture) hbuf, hbuf]
    exact ⟨by rw [RadioCtx.capture, hbuf], rfl⟩
  · next b hbuf =>
    rw [List.filterMap_append, hreads, freed_map_radio, kfreeRxCapBuf_freed, kfreeRxCapBuf_fst]
    exact ⟨rfl, rfl⟩

theorem captureValid_step (h : ctx.capture.Valid) (a : CaptureAct) :
    (captureStep d ctx a).1.capture.Valid ↔ a.KeepsCapture d ctx := by
  cases a with
  | confWrite w =>
    show _ ↔ ∀ c, w.command = some c → c.KeepsCapture d w.fmac ctx
    rcases confWrite_capture d ctx w with ⟨hnone, hcapture, -⟩ | ⟨c, hc, hcapture, -⟩
    · rw [hcapture]
      exact iff_of_true h fun c hc => absurd (hnone.symm.trans hc) (by simp)
    · rw [hcapture, captureValid_next h]
      refine ⟨fun hk c' hc' => ?_, fun hk => hk c hc⟩
      rw [hc, Option.some.injEq] at hc'
      rwa [← hc']
  | statsShow ok =>
    refine iff_of_true ?_ trivial
    cases ok with
    | false => exact h
    | true =>
      rw [statsShow_capture.1]
      exact fun b hb => absurd hb (by simp)

/-- A valid buffer can be freed. -/
theorem FreedOnce.freeBuf {freed : List ℕ} (h : ctx.capture.Valid)
    (hfreed : FreedOnce (fun c : CapBuf => c.live = false) freed ctx.capBufs) :
    FreedOnce (fun c : CapBuf => c.live = false) (freed ++ ctx.rxCapBuf.toList)
      ctx.capture.freeBuf := by
  cases hbuf : ctx.rxCapBuf with
  | none =>
    rw [freeBuf_of_none (k := ctx.capture) hbuf, Option.toList_none, List.append_nil]
    exact hfreed
  | some b =>
    obtain ⟨c, hc, hlive, -⟩ := h b hbuf
    rw [freeBuf_of_some (k := ctx.capture) hbuf]
    exact hfreed.free (fun _ => rfl) hc (by simp [hlive])

theorem freedSoFar_step {t : List CaptureEvent} (h : ctx.capture.Valid) (hfreed : FreedSoFar t ctx)
    (a : CaptureAct) : FreedSoFar (t ++ (captureStep d ctx a).2) (captureStep d ctx a).1 := by
  have hfree := FreedOnce.freeBuf h hfreed
  rw [FreedSoFar, List.filterMap_append]
  cases a with
  | statsShow ok =>
    cases ok with
    | false =>
      show FreedOnce _ (_ ++ []) ctx.capBufs
      rwa [List.append_nil]
    | true =>
      rw [statsShow_capture.2, show (captureStep d ctx (.statsShow true)).1.capBufs = _ from
        congrArg Capture.bufs statsShow_capture.1]
      exact hfree
  | confWrite w =>
    rcases confWrite_capture d ctx w with ⟨-, hcap, hnone⟩ | ⟨c, -, hcap, hsome⟩
    · rw [hnone, List.append_nil, show (captureStep d ctx (.confWrite w)).1.capBufs = _ from
        congrArg Capture.bufs hcap]
      exact hfreed
    · rw [hsome, show (captureStep d ctx (.confWrite w)).1.capBufs = _ from
        congrArg Capture.bufs hcap]
      have hstep := next_capture d w.fmac ctx c
      generalize (c.handle d w.fmac ctx).state.capture = k at hstep
      generalize (c.handle d w.fmac ctx).events.filterMap RadioEvent.freed = freed at hstep
      cases hstep with
      | kept | resized =>
        rw [List.append_nil]
        exact hfreed
      | refused | noMemory => exact hfree
      | captured => exact hfree.append _
      | failed =>
        have hnew := hfree.append_dead (a := ⟨ctx.confParams.captureLength * 3, false⟩) rfl
        rw [length_freeBuf, List.append_assoc] at hnew
        exact hnew

/-- Reading a valid buffer is safe. -/
theorem readsLive_of_valid (h : ctx.capture.Valid) (a : CaptureAct) : ReadsLive d ctx a := by
  intro b i hmem
  cases a with
  | confWrite w => simp [captureStep] at hmem
  | statsShow ok =>
    cases ok with
    | false => simp [captureStep, nrfWifiWlanFmacDbgfsStatsShow] at hmem
    | true =>
      simp only [captureStep, nrfWifiWlanFmacDbgfsStatsShow, Bool.not_true, Bool.false_eq_true,
        if_false] at hmem
      split at hmem
      · exact absurd hmem List.not_mem_nil
      · next b' hbuf =>
        obtain ⟨c, hc, hlive, hsize⟩ := h b' hbuf
        simp only [List.mem_append, List.mem_flatMap, List.mem_range, sampleReads] at hmem
        rcases hmem with ⟨j, hj, hread⟩ | hread
        · have hlen : j < ctx.capture.length := hj
          simp only [List.mem_cons, CaptureEvent.read.injEq, List.not_mem_nil, or_false] at hread
          have hb : b = b' := by tauto
          exact ⟨c, hb ▸ hc, hlive, by omega⟩
        · simp at hread

end Step

/-! ### Over a whole run -/

/-- The buffer is valid throughout, no buffer is freed twice, and no read goes astray. -/
structure CaptureSafe (ctx : RadioCtx) (as : List CaptureAct) : Prop where
  valid : (captureMachine d).Throughout (fun ctx => ctx.capture.Valid) ctx as
  freedOnce : ∀ ctx' t, (captureMachine d).exec ctx as = some (ctx', t) →
    (t.filterMap CaptureEvent.freed).Nodup
  readsLive : (captureMachine d).Along (ReadsLive d) ctx as

theorem captureMachine_step {d : Nrfxlib} {ctx ctx' : RadioCtx} {a : CaptureAct}
    {u : List CaptureEvent} (h : (captureMachine d).step ctx a = some (ctx', u)) :
    ctx' = (captureStep d ctx a).1 ∧ u = (captureStep d ctx a).2 :=
  (captureMachine d).step_eq_of_total (fun _ _ => rfl) h

/-- A write that names a command. -/
theorem captureMachine_confWrite {w : ConfWrite} {c : Command} (hc : w.command = some c)
    (ctx : RadioCtx) :
    (captureMachine d).step ctx (.confWrite w) =
      some ((c.handle d w.fmac ctx).state, (captureStep d ctx (.confWrite w)).2) := by
  have hfst : (captureStep d ctx (.confWrite w)).1 = (c.handle d w.fmac ctx).state := by
    simp only [captureStep, nrfWifiWlanFmacRadioTestConfWrite, hc]
  rw [← hfst]
  rfl

theorem keepsCapture_confWrite {w : ConfWrite} {c : Command} (hc : w.command = some c)
    (ctx : RadioCtx) :
    CaptureAct.KeepsCapture d ctx (.confWrite w) ↔ c.KeepsCapture d w.fmac ctx :=
  ⟨fun h => h c hc, fun h c' hc' => by rwa [← Option.some.inj (hc.symm.trans hc')]⟩

/-- **When the capture buffer is safe.** For every sequence of writes of `conf` and reads of
`stats`, and all outcomes. -/
theorem capture_safe_iff {ctx : RadioCtx} (h : ctx.capture.Valid) (as : List CaptureAct) :
    CaptureSafe d ctx as ↔ (captureMachine d).Along (CaptureAct.KeepsCapture d · ·) ctx as := by
  obtain ⟨⟨ctx', t⟩, hexec⟩ :=
    (captureMachine d).exec_total (fun ctx a => ⟨_, rfl⟩) (s := ctx) as
  have hiff : (captureMachine d).Throughout (fun ctx => ctx.capture.Valid) ctx as ↔
      (captureMachine d).Along (CaptureAct.KeepsCapture d · ·) ctx as := by
    refine (captureMachine d).throughout_iff_along (fun {ctx a _ _} hvalid hstep => ?_) h hexec
    rw [(captureMachine_step hstep).1]
    exact captureValid_step hvalid a
  refine ⟨fun hsafe => hiff.mp hsafe.valid, fun hkeeps => ?_⟩
  have hvalid := hiff.mpr hkeeps
  refine ⟨hvalid, fun ctx₁ t₁ hexec₁ => ?_, ?_⟩
  · have hal : (captureMachine d).Along (fun ctx _ => ctx.capture.Valid) ctx as :=
      (captureMachine d).along_of_throughout (fun _ _ hv => hv) hvalid
    refine ((captureMachine d).exec_invariant_along (P := FreedSoFar) (t := []) ?_ freedOnce_nil hal
      hexec₁).1
    intro t s a s' u hfreed hv hstep
    rw [(captureMachine_step hstep).1, (captureMachine_step hstep).2]
    exact freedSoFar_step hv hfreed a
  · exact (captureMachine d).along_of_throughout (fun _ a hv => readsLive_of_valid hv a) hvalid

/-- A capture of four samples that is read once. -/
theorem capture_safe_four_samples :
    CaptureSafe .headers .zero
      [.confWrite (.ofText "rx_capture_length=4\n" .success),
        .confWrite (.ofText "rx_cap=0\n" .success), .statsShow true] := by
  rw [capture_safe_iff .headers (fun b hb => absurd hb (by simp [RadioCtx.capture, RadioCtx.zero])),
    (captureMachine .headers).along_cons
      (captureMachine_confWrite .headers (c := .val .rxCaptureLength 4) rfl _),
    (captureMachine .headers).along_cons
      (captureMachine_confWrite .headers (c := .val .rxCap 0) rfl _),
    keepsCapture_confWrite .headers (c := .val .rxCaptureLength 4) rfl,
    keepsCapture_confWrite .headers (c := .val .rxCap 0) rfl]
  refine ⟨fun _ b c hb => absurd hb (by simp [RadioCtx.zero]), ?_, trivial, fun _ _ _ => trivial⟩
  dsimp only [Command.KeepsCapture]
  rw [if_pos (by decide)]
  exact fun _ => rfl

/-- A capture type that is not known frees the buffer and keeps the pointer. -/
theorem capture_dangles_after_refusal :
    ¬ CaptureSafe .headers .zero
      [.confWrite (.ofText "rx_capture_length=4\n" .success),
        .confWrite (.ofText "rx_cap=0\n" .success),
        .confWrite (.ofText "rx_cap=5\n" .success)] := by
  intro hsafe
  have hvalid := hsafe.valid
  rw [(captureMachine .headers).throughout_cons
      (captureMachine_confWrite .headers (c := .val .rxCaptureLength 4) rfl _),
    (captureMachine .headers).throughout_cons
      (captureMachine_confWrite .headers (c := .val .rxCap 0) rfl _),
    (captureMachine .headers).throughout_cons
      (captureMachine_confWrite .headers (c := .val .rxCap 5) rfl _),
    (captureMachine .headers).throughout_nil] at hvalid
  exact not_valid_of_dead (b := 0) (c := ⟨12, false⟩) rfl rfl rfl hvalid.2.2.2

end Nrf70
