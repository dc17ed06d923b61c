import Nrf70.Debugfs.RadioHandlers

/-!
# The configuration TX starts with

Three rules tie parameters to each other: the RU index to the RU tone, the packet length to the
throughput mode and the RU tone, and the preamble to the throughput mode. Each is checked when one
of its parameters is written, the index, the length and the preamble, and not when the others are.
`nrf_wifi_radio_test_set_tx` checks none of them. So what counts at `tx=1` is the last write that
touched a rule's parameters: the rule holds unless that write was one that does not check it and
broke it, or a `nrf_wifi_radio_test_conf_init` that gave up after clearing everything.

## Main results

* `next_txParams` — what a command does to the five parameters of the rules
* `rule_next` — a rule holds after a command exactly when the command does not break it, and the
  rule held before or the command touches its parameters
* `tx_starts_legal_iff` — sequences of writes that start with a successful `init`
-/

namespace Nrf70

variable (d : Nrfxlib) (o : Outcomes)

/-! ### The rules -/

/-- The parameters the rules are about. -/
structure TxParams where
  tputMode : ℕ
  preamble : ℕ
  len : ℕ
  ruTone : ℕ
  ruIndex : ℕ
  deriving DecidableEq, Repr

def ConfParams.txParams (p : ConfParams) : TxParams :=
  ⟨p.txPktTputMode, p.txPktPreamble, p.txPktLen, p.ruTone, p.ruIndex⟩

inductive Rule
  | index | length | preamble
  deriving DecidableEq, Repr

/-- What the setter that checks a rule demands of the parameters together. That the length is not
zero is asked for by its setter as well, but whatever the other parameters are: it is no part of the
rule, and a `conf_init` that gives up leaves a length of zero. -/
def Rule.Holds (p : TxParams) : Rule → Prop
  | .index => RuIndexAllowed p.ruTone p.ruIndex
  | .length => txPktLenError d p.tputMode p.ruTone p.len = none
  | .preamble => PreambleAllowed d p.tputMode p.preamble

/-- All three rules hold. -/
def TxLegal (p : ConfParams) : Prop := ∀ rule : Rule, rule.Holds d p.txParams

/-! ### Writes that touch them -/

/-- The command writes one of the five parameters and passes the checks of its setter. -/
def Command.SetsTxParam (ctx : RadioCtx) : Command → Prop
  | .val .txPktTputMode v => v.toNat < d.tputModeMax ∧ ctx.Idle
  | .val .txPktPreamble v => ctx.Idle ∧ PreambleAllowed d ctx.confParams.txPktTputMode v.toNat
  | .val .txPktLen v =>
    v ≠ 0 ∧ ctx.confParams.txPktTputMode ≠ d.tputModeMax ∧
      txPktLenError d ctx.confParams.txPktTputMode ctx.confParams.ruTone v.toNat = none ∧ ctx.Idle
  | .val .ruTone v => v ∈ [26, 52, 106, 242] ∧ ctx.Idle
  | .val .ruIndex v => RuIndexAllowed ctx.confParams.ruTone v.toNat ∧ ctx.Idle
  | _ => False

/-- The command gets as far as `nrf_wifi_radio_test_conf_init`. -/
def Command.Resets (ctx : RadioCtx) : Command → Prop
  | .setDefaults => True
  | .val .init v =>
    checkValidChannel v.toUInt8 = true ∧ (ctx.confParams.rx ≠ 0 → o.progRx = true) ∧
      (ctx.confParams.tx ≠ 0 → o.progTx = true) ∧ ToneStops o ctx
  | _ => False

/-- The parameters after a reset: the defaults, or what a failure leaves. -/
def resetTxParams : TxParams := if o.rfParamsGet then ⟨0, 1, 1400, 26, 1⟩ else ⟨0, 0, 0, 0, 0⟩

/-- Everything a command can do to the five parameters. -/
inductive TxParamStep (ctx : RadioCtx) : Command → TxParams → Prop
  | kept {c} (hset : ¬ c.SetsTxParam d ctx) (hreset : ¬ c.Resets o ctx) :
      TxParamStep ctx c ctx.confParams.txParams
  | tputMode {v} (h : (Command.val .txPktTputMode v).SetsTxParam d ctx) :
      TxParamStep ctx (.val .txPktTputMode v) { ctx.confParams.txParams with tputMode := v.toNat }
  | preamble {v} (h : (Command.val .txPktPreamble v).SetsTxParam d ctx) :
      TxParamStep ctx (.val .txPktPreamble v) { ctx.confParams.txParams with preamble := v.toNat }
  | len {v} (h : (Command.val .txPktLen v).SetsTxParam d ctx) :
      TxParamStep ctx (.val .txPktLen v) { ctx.confParams.txParams with len := d.txPktLen v }
  | ruTone {v} (h : (Command.val .ruTone v).SetsTxParam d ctx) :
      TxParamStep ctx (.val .ruTone v) { ctx.confParams.txParams with ruTone := v.toNat }
  | ruIndex {v} (h : (Command.val .ruIndex v).SetsTxParam d ctx) :
      TxParamStep ctx (.val .ruIndex v) { ctx.confParams.txParams with ruIndex := v.toNat }
  | reset {c} (h : c.Resets o ctx) : TxParamStep ctx c (resetTxParams o)

section Step

variable {d o} {ctx : RadioCtx} {c : Command}

/-- A setter of one of the five: its effect when it is accepted, and nothing otherwise. -/
theorem txParamStep_of_setParam {checks : List (Option ConfError)}
    {store : ConfParams → ConfParams}
    (hchecks : (∀ e ∈ checks, e = none) ↔ c.SetsTxParam d ctx) (hreset : ¬ c.Resets o ctx)
    (hset : c.SetsTxParam d ctx → TxParamStep d o ctx c (store ctx.confParams).txParams) :
    TxParamStep d o ctx c (setParam checks store ctx).state.confParams.txParams := by
  by_cases h : c.SetsTxParam d ctx
  · rw [setParam_of_pass (hchecks.mpr h)]
    exact hset h
  · obtain ⟨e, he⟩ := setParam_of_not_pass store ctx fun hp => h (hchecks.mp hp)
    rw [he]
    exact .kept h hreset

/-- A handler that leaves the five alone. -/
theorem txParamStep_of_frame (hset : ¬ c.SetsTxParam d ctx) (hreset : ¬ c.Resets o ctx)
    (h : (c.handle d o ctx).state.confParams.txParams = ctx.confParams.txParams) :
    TxParamStep d o ctx c (c.handle d o ctx).state.confParams.txParams := by
  rw [h]
  exact .kept hset hreset

theorem txParamStep_init (v : UInt64) :
    TxParamStep d o ctx (.val .init v)
      ((Command.val .init v).handle d o ctx).state.confParams.txParams := by
  have heq : (Command.val .init v).handle d o ctx = nrfWifiRadioTestInit d o ctx v := rfl
  have hset : ¬ (Command.val .init v).SetsTxParam d ctx := id
  rw [heq]
  cases hval : checkValidChannel v.toUInt8 with
  | false =>
    rw [nrfWifiRadioTestInit, hval, if_neg Bool.false_ne_true]
    exact .kept hset fun h => absurd h.1 (by simp [hval])
  | true =>
    have hexit := init_exit d o ctx hval
    generalize nrfWifiRadioTestInit d o ctx v = r at hexit
    cases hexit with
    | rxFailed hrx hok => exact .kept hset fun h => absurd (h.2.1 hrx) (by simp [hok])
    | txFailed hrx htx hok => exact .kept hset fun h => absurd (h.2.2.1 htx) (by simp [hok])
    | toneFailed hrx htx htone => exact .kept hset fun h => absurd h.2.2.2 htone
    | confFailed hrx htx htone hok =>
      have hreset : (Command.val .init v).Resets o ctx := ⟨hval, hrx, htx, htone⟩
      have hp : (clearedParams d o).txParams = resetTxParams o := by
        rw [resetTxParams, hok]
        rfl
      show TxParamStep d o ctx _ (clearedParams d o).txParams
      rw [hp]
      exact .reset hreset
    | programmed hrx htx htone hok he =>
      have hreset : (Command.val .init v).Resets o ctx := ⟨hval, hrx, htx, htone⟩
      have hp : (initParams d o ctx v).txParams = resetTxParams o := by
        rw [resetTxParams, hok]
        rfl
      show TxParamStep d o ctx _ (initParams d o ctx v).txParams
      rw [hp]
      exact .reset hreset

theorem txParamStep_setDefaults :
    TxParamStep d o ctx .setDefaults
      (Command.setDefaults.handle d o ctx).state.confParams.txParams := by
  have hp : (Command.setDefaults.handle d o ctx).state.confParams.txParams = resetTxParams o := by
    show ConfParams.txParams (if o.rfParamsGet = true then _ else _) = _
    rw [resetTxParams]
    split <;> rfl
  rw [hp]
  exact .reset trivial

/-- The setters of the five parameters. -/
theorem txParamStep_setter {key : ValKey} (v : UInt64) (hset : key.isSetter = true) :
    TxParamStep d o ctx (.val key v)
      ((Command.val key v).handle d o ctx).state.confParams.txParams := by
  cases key with
  | txPktTputMode =>
    refine txParamStep_of_setParam ?_ id fun h => ?_
    · simp [Command.SetsTxParam]
    · exact .tputMode h
  | txPktPreamble =>
    refine txParamStep_of_setParam ?_ id fun h => ?_
    · simp [Command.SetsTxParam]
    · exact .preamble h
  | txPktLen =>
    refine txParamStep_of_setParam ?_ id fun h => ?_
    · simp [Command.SetsTxParam]
    · exact .len h
  | ruTone =>
    refine txParamStep_of_setParam ?_ id fun h => ?_
    · simp [Command.SetsTxParam]
    · exact .ruTone h
  | ruIndex =>
    refine txParamStep_of_setParam ?_ id fun h => ?_
    · simp [Command.SetsTxParam]
    · exact .ruIndex h
  | phyCalibRxdc | phyCalibTxdc | phyCalibTxpow | phyCalibRxiq | phyCalibTxiq | heLtf | heGi
  | txPktSgi | txPktGap | txPower | rxCaptureLength | rxLnaGain | rxBbGain | txToneFreq | txPktCw
  | bypassRegDomain =>
    exact txParamStep_of_frame id id (setParam_frame ConfParams.txParams rfl)
  | _ => exact absurd hset (by decide)

variable (d o ctx) in
/-- **What a command does to the parameters of the rules.** -/
theorem next_txParams (c : Command) :
    TxParamStep d o ctx c (c.handle d o ctx).state.confParams.txParams := by
  cases c with
  | setDefaults => exact txParamStep_setDefaults
  | bypassInvalid | unknown => exact .kept id id
  | sval key v =>
    refine txParamStep_of_frame id id ?_
    cases key <;> exact setParam_frame ConfParams.txParams rfl
  | regDomain reg =>
    refine txParamStep_of_frame id id ?_
    rcases setRegDomain_cases o ctx reg with ⟨-, e, he⟩ | ⟨a, b, -, -, hstate, -⟩
    · rw [Command.handle, he]
      rfl
    · rw [Command.handle, hstate]
      rfl
  | val key v =>
    by_cases hset : key.isSetter = true
    · exact txParamStep_setter v hset
    cases key with
    | init => exact txParamStep_init v
    | tx =>
      refine txParamStep_of_frame id id ?_
      show (nrfWifiRadioTestSetTx d o ctx v).state.confParams.txParams = _
      by_cases hallow : TxAllowed d ctx v
      · rw [setTx_of_allowed hallow]
        show (ctx.confParams.withTx d v).txParams = _
        rw [ConfParams.withTx]
        split <;> rfl
      · obtain ⟨e, he⟩ := setTx_of_not_allowed (o := o) hallow
        rw [he]
        rfl
    | rx =>
      refine txParamStep_of_frame id id ?_
      show (nrfWifiRadioTestSetRx o ctx v).state.confParams.txParams = _
      by_cases hallow : SwitchAllowed ctx v
      · rw [setRx_of_allowed hallow]
        rfl
      · obtain ⟨e, he⟩ := setRx_of_not_allowed (o := o) hallow
        rw [he]
        rfl
    | txTone =>
      refine txParamStep_of_frame id id (congrArg ConfParams.txParams ?_)
      exact txTone_confParams
    | rxCap =>
      exact txParamStep_of_frame id id (congrArg ConfParams.txParams (rxCap_confParams d o ctx v))
    | setXoVal | dpd | getTemperature | getRfRssi | computeOptimalXoVal =>
      exact txParamStep_of_frame id id (oneShot_frame ConfParams.txParams rfl)
    | _ => exact absurd rfl hset

end Step

/-! ### Writes that break a rule -/

/-- The parameters of a rule. -/
def Rule.keys : Rule → List ValKey
  | .index => [.ruTone, .ruIndex]
  | .length => [.txPktTputMode, .ruTone, .txPktLen]
  | .preamble => [.txPktTputMode, .txPktPreamble]

/-- The command writes a parameter of the rule, or all of them. -/
def Rule.Touches (rule : Rule) (ctx : RadioCtx) (c : Command) : Prop :=
  (∃ key ∈ rule.keys, ∃ v, c = .val key v ∧ c.SetsTxParam d ctx) ∨ c.Resets o ctx

/-- The command breaks the rule: a new RU tone or throughput mode that the other parameters do not
fit, or a reset that gives up and leaves an RU tone of 0. -/
def Rule.Breaks (rule : Rule) (ctx : RadioCtx) (c : Command) : Prop :=
  match rule, c with
  | .index, .val .ruTone v =>
    (Command.val .ruTone v).SetsTxParam d ctx ∧ ¬ RuIndexAllowed v.toNat ctx.confParams.ruIndex
  | .length, .val .ruTone v =>
    (Command.val .ruTone v).SetsTxParam d ctx ∧
      txPktLenError d ctx.confParams.txPktTputMode v.toNat ctx.confParams.txPktLen ≠ none
  | .length, .val .txPktTputMode v =>
    (Command.val .txPktTputMode v).SetsTxParam d ctx ∧
      txPktLenError d v.toNat ctx.confParams.ruTone ctx.confParams.txPktLen ≠ none
  | .preamble, .val .txPktTputMode v =>
    (Command.val .txPktTputMode v).SetsTxParam d ctx ∧
      ¬ PreambleAllowed d v.toNat ctx.confParams.txPktPreamble
  | .index, c => c.Resets o ctx ∧ o.rfParamsGet = false
  | _, _ => False

section Rules

variable {d o} {ctx : RadioCtx} {c : Command} {rule : Rule}

/-- A length within a limit is stored as it is. -/
theorem txPktLenError_stored {tputMode ruTone : ℕ} {v : UInt64}
    (h : txPktLenError d tputMode ruTone v.toNat = none) :
    txPktLenError d tputMode ruTone (d.txPktLen v) = none := by
  by_cases hlegacy : tputMode = d.tputModeLegacy
  · rw [txPktLenError, if_pos hlegacy, checkThat_eq_none] at h
    have hv : d.txPktLen v = v.toNat := d.txPktLen_of_le v (UInt64.le_iff_toNat_le.mpr h)
    rw [txPktLenError, if_pos hlegacy, checkThat_eq_none, hv]
    exact h
  by_cases htb : tputMode = d.tputModeHeTb
  · have hle : v.toNat ≤ 4000 := by
      rw [txPktLenError, if_neg hlegacy, if_pos htb] at h
      split_ifs at h <;> rw [checkThat_eq_none] at h <;> omega
    rwa [d.txPktLen_of_le v (UInt64.le_iff_toNat_le.mpr hle)]
  · rw [txPktLenError, if_neg hlegacy, if_neg htb]

/-- The rules after a reset. -/
theorem holds_resetTxParams :
    rule.Holds d (resetTxParams o) ↔ ¬ (rule = .index ∧ o.rfParamsGet = false) := by
  rw [resetTxParams]
  cases rule with
  | index => cases o.rfParamsGet <;> simp [Rule.Holds, RuIndexAllowed]
  | length =>
    cases o.rfParamsGet <;> simp [Rule.Holds, txPktLenError, d.tputModeLegacy_eq]
  | preamble =>
    cases o.rfParamsGet <;>
      simp [Rule.Holds, PreambleAllowed, d.pktPreambleShort_eq, d.pktPreambleLong_eq]

/-- A reset breaks at most the rule about the index. -/
theorem breaks_of_resets (h : c.Resets o ctx) :
    rule.Breaks d o ctx c ↔ rule = .index ∧ o.rfParamsGet = false := by
  have hc : c = .setDefaults ∨ ∃ v, c = .val .init v := by
    unfold Command.Resets at h
    split at h
    · exact Or.inl rfl
    · exact Or.inr ⟨_, rfl⟩
    · exact h.elim
  rcases hc with rfl | ⟨v, rfl⟩
  · cases rule <;> simp [Rule.Breaks, h]
  · cases rule <;> simp [Rule.Breaks, h]

/-- A command that writes none of the five breaks nothing. -/
theorem not_breaks_of_kept (hset : ¬ c.SetsTxParam d ctx) (hreset : ¬ c.Resets o ctx) :
    ¬ rule.Breaks d o ctx c := by
  intro h
  unfold Rule.Breaks at h
  split at h
  · exact hset h.1
  · exact hset h.1
  · exact hset h.1
  · exact hset h.1
  · exact hreset h.1
  · exact h

/-- **One command and one rule.** -/
theorem rule_next (rule : Rule) (c : Command) :
    rule.Holds d (c.handle d o ctx).state.confParams.txParams ↔
      ¬ rule.Breaks d o ctx c ∧
        (rule.Holds d ctx.confParams.txParams ∨ rule.Touches d o ctx c) := by
  have hstep := next_txParams d o ctx c
  generalize (c.handle d o ctx).state.confParams.txParams = q at hstep
  cases hstep with
  | kept hset hreset =>
    have hno : ¬ rule.Touches d o ctx c := by
      rintro (⟨_, _, _, _, hs⟩ | hr)
      · exact hset hs
      · exact hreset hr
    exact ⟨fun h => ⟨not_breaks_of_kept hset hreset, Or.inl h⟩, fun h => h.2.resolve_right hno⟩
  | reset h =>
    rw [holds_resetTxParams, breaks_of_resets h]
    exact ⟨fun hn => ⟨hn, Or.inr (Or.inr h)⟩, And.left⟩
  | @tputMode v h =>
    cases rule <;>
      simp [Rule.Holds, Rule.Breaks, Rule.Touches, Rule.keys, Command.Resets,
        ConfParams.txParams, h]
  | @preamble v h =>
    -- the setter has checked the rule
    have hnew := h.2
    cases rule <;>
      simp [Rule.Holds, Rule.Breaks, Rule.Touches, Rule.keys, Command.Resets,
        ConfParams.txParams, h, hnew]
  | @len v h =>
    -- the setter has checked the rule
    have hnew := txPktLenError_stored h.2.2.1
    cases rule <;>
      simp [Rule.Holds, Rule.Breaks, Rule.Touches, Rule.keys, Command.Resets,
        ConfParams.txParams, h, hnew]
  | @ruTone v h =>
    cases rule <;>
      simp [Rule.Holds, Rule.Breaks, Rule.Touches, Rule.keys, Command.Resets,
        ConfParams.txParams, h]
  | @ruIndex v h =>
    -- the setter has checked the rule
    have hnew := h.1
    cases rule <;>
      simp [Rule.Holds, Rule.Breaks, Rule.Touches, Rule.keys, Command.Resets,
        ConfParams.txParams, h, hnew]

end Rules

/-! ### Sequences of writes -/

/-- The write is a `tx=1` that `nrf_wifi_radio_test_set_tx` accepts. -/
def ConfWrite.StartsTx (s : RadioState) (w : ConfWrite) : Prop :=
  w.command = some (.val .tx 1) ∧ (nrfWifiRadioTestSetTx d w.fmac s.ctx 1).error = none

/-- The writes `as` of a sequence lead to `s'`, and the next one starts TX there. -/
def TxStartsAfter (s : RadioState) (ws as : List ConfWrite) (s' : RadioState) : Prop :=
  ∃ w bs t, ws = as ++ w :: bs ∧ (radioMachine d).exec s as = some (s', t) ∧ w.StartsTx d s'

/-- TX is started only with a legal configuration. -/
def TxStartsLegal (s : RadioState) (ws : List ConfWrite) : Prop :=
  ∀ as s', TxStartsAfter d s ws as s' → TxLegal d s'.ctx.confParams

/-- A write that breaks the rule. -/
def Rule.BrokenBy (rule : Rule) (s : RadioState) (w : ConfWrite) : Prop :=
  ∃ c, w.command = some c ∧ rule.Breaks d w.fmac s.ctx c

/-- A write that touches the parameters of the rule. -/
def Rule.TouchedBy (rule : Rule) (s : RadioState) (w : ConfWrite) : Prop :=
  ∃ c, w.command = some c ∧ rule.Touches d w.fmac s.ctx c

/-- When TX is started, no rule was broken by the last write that touched its parameters. -/
def NoRuleLeftBroken (s : RadioState) (ws : List ConfWrite) : Prop :=
  ∀ as s', TxStartsAfter d s ws as s' → ∀ rule : Rule,
    ¬ (radioMachine d).Pending (rule.BrokenBy d) (rule.TouchedBy d) s as

variable {d}

theorem rule_step (rule : Rule) {s s' : RadioState} {w : ConfWrite} {u : List RadioEvent}
    (hstep : (radioMachine d).step s w = some (s', u)) :
    rule.Holds d s'.ctx.confParams.txParams ↔
      ¬ rule.BrokenBy d s w ∧
        (rule.Holds d s.ctx.confParams.txParams ∨ rule.TouchedBy d s w) := by
  rw [(radioMachine_step d hstep).1, radioStep_fst, Rule.BrokenBy, Rule.TouchedBy]
  cases w.command with
  | none => simp
  | some c => simpa [Command.next] using rule_next rule c

/-- A successful `init` leaves the defaults, which are legal. -/
theorem txLegal_of_init {o : Outcomes} {ctx : RadioCtx} {v : UInt64}
    (h : (nrfWifiRadioTestInit d o ctx v).error = none) :
    TxLegal d (nrfWifiRadioTestInit d o ctx v).state.confParams := by
  have hval : checkValidChannel v.toUInt8 = true := by
    by_contra hne
    rw [nrfWifiRadioTestInit, if_neg hne] at h
    simp at h
  have hexit := init_exit d o ctx hval
  generalize nrfWifiRadioTestInit d o ctx v = r at hexit h
  cases hexit with
  | rxFailed | txFailed | toneFailed | confFailed => exact absurd h (by simp)
  | programmed hrx htx htone hok he =>
    intro rule
    have hp : (initParams d o ctx v).txParams = resetTxParams o := by
      rw [resetTxParams, hok]
      rfl
    show rule.Holds d (initParams d o ctx v).txParams
    rw [hp, holds_resetTxParams]
    exact fun hb => absurd hb.2 (by simp [hok])

variable (d)

/-- **When TX is started only with a legal configuration.** After a successful `init`, exactly in
the sequences of writes in which no rule is left broken by the last write that touched it. -/
theorem tx_starts_legal_iff (s : RadioState) {w : ConfWrite} {v : UInt64}
    (hw : w.command = some (.val .init v))
    (hinit : (nrfWifiRadioTestInit d w.fmac s.ctx v).error = none) (ws : List ConfWrite) :
    TxStartsLegal d (radioStep d s w).1 ws ↔ NoRuleLeftBroken d (radioStep d s w).1 ws := by
  have hlegal : TxLegal d (radioStep d s w).1.ctx.confParams := by
    rw [radioStep_fst, hw]
    exact txLegal_of_init hinit
  refine forall_congr' fun as => forall_congr' fun s' => imp_congr_right ?_
  rintro ⟨w', bs, t, -, hexec, -⟩
  refine forall_congr' fun rule => ?_
  exact (radioMachine d).holds_iff_not_pending
    (P := fun s => rule.Holds d s.ctx.confParams.txParams) (rule_step rule) (hlegal rule) hexec

/-- The defaults are legal to start with. -/
theorem tx_starts_legal_at_defaults :
    TxStartsLegal .headers (radioStep .headers .init (.ofText "init=1\n" .success)).1
      [.ofText "tx=1\n" .success] := by
  rw [tx_starts_legal_iff .headers .init (w := .ofText "init=1\n" .success) (v := 1) rfl rfl]
  rintro as s' ⟨w, bs, t, hws, -, -⟩ rule
  cases as with
  | nil => exact id
  | cons a as => simp at hws

/-- An RU index of the tone 26 under the tone 242. -/
theorem tx_starts_with_stale_index :
    ¬ TxStartsLegal .headers (radioStep .headers .init (.ofText "init=1\n" .success)).1
      [.ofText "ru_index=9\n" .success, .ofText "ru_tone=242\n" .success,
        .ofText "tx=1\n" .success] := by
  intro h
  have hlegal := h [.ofText "ru_index=9\n" .success, .ofText "ru_tone=242\n" .success] _
    ⟨.ofText "tx=1\n" .success, [], _, rfl, (exec_runWrites .headers _ _).choose_spec, rfl, ?_⟩
  · have hindex := hlegal .index
    rw [runWrites_cons .headers (c := .val .ruIndex 9) rfl,
      runWrites_cons .headers (c := .val .ruTone 242) rfl, runWrites_nil] at hindex
    exact absurd (show RuIndexAllowed 242 9 from hindex) (by decide)
  · rw [runWrites_cons .headers (c := .val .ruIndex 9) rfl,
      runWrites_cons .headers (c := .val .ruTone 242) rfl, runWrites_nil]
    rfl

end Nrf70
