import Nrf70.Debugfs.RadioHandlers

/-!
# What refused writes and running tests leave of the configuration

Two laws one would expect of `conf_params`. A write that is refused stores nothing, and while TX or
RX is running no parameter moves. Most handlers obey both, since they store last and behind
`check_test_in_prog`. This module says exactly where the rest do not.

Refused writes: `tx`, `rx` and `init` store before they ask the firmware, `set_defaults` clears
before it asks, and `reg_domain` stores before it looks for a test in progress. Running tests:
`he_ltf`, `he_gi` and `tx_pkt_sgi` never look, `set_xo_val` looks for the value 1 only, and
`reg_domain` looks too late.

## Main results

* `rejected_keeps_conf_iff` — for every state, command and outcome
* `frozen_iff` — for every state with a test in progress and every parameter command
-/

namespace Nrf70

variable (d : Nrfxlib) (o : Outcomes)

/-! ### Refused writes -/

/-- Nothing has changed but the flags of tests that were switched off in the firmware. -/
def StoppedOnly (p : ConfParams) (r : Handled) : Prop :=
  ∃ tx rx, r.state.confParams = { p with tx := tx, rx := rx } ∧
    (tx = p.tx ∨ tx = 0 ∧ ∃ q, q.tx = 0 ∧ .fmac (.progTx q) true ∈ r.events) ∧
    (rx = p.rx ∨ rx = 0 ∧ ∃ q, q.rx = 0 ∧ .fmac (.progRx q) true ∈ r.events)

/-- The configuration is the same after the command, up to the tests an `init` has stopped. -/
def Command.KeepsConf (ctx : RadioCtx) (c : Command) : Prop :=
  (c.handle d o ctx).state.confParams = ctx.confParams ∨
    (∃ v, c = .val .init v) ∧ StoppedOnly ctx.confParams (c.handle d o ctx)

/-- A command that is refused keeps the configuration. -/
def Command.KeepsConfIfRefused (ctx : RadioCtx) (c : Command) : Prop :=
  (c.handle d o ctx).error ≠ none → c.KeepsConf d o ctx

/-- The commands that store before they can still be refused, and what makes that harmless: the
firmware agrees, or what is stored is there already. -/
def Command.StoresSafely (ctx : RadioCtx) : Command → Prop
  | .setDefaults => o.rfParamsGet = true ∨ ctx.confParams = clearedParams d o
  | .regDomain reg => ∀ a b, reg = [a, b] → RegDomain a b →
      (ctx.Idle ∧ o.setReg = true) ∨ ctx.confParams.countryCode = (a, b)
  | .val .tx v => TxAllowed d ctx v → o.progTx = true ∨ v = 0 ∧ ctx.confParams.tx = 0
  | .val .rx v => SwitchAllowed ctx v → o.progRx = true ∨ v = 0 ∧ ctx.confParams.rx = 0
  | .val .init v => checkValidChannel v.toUInt8 = true →
      (ctx.confParams.rx ≠ 0 → o.progRx = true) ∧ (ctx.confParams.tx ≠ 0 → o.progTx = true) ∧
        (ToneStops o ctx →
          (o.rfParamsGet = false → ctx.stopTests.confParams = clearedParams d o) ∧
          (o.rfParamsGet = true → o.radioTestInit = false →
            ctx.stopTests.confParams = initParams d o ctx v))
  | _ => True

section Refused

variable {d o} {ctx : RadioCtx} {c : Command}

/-- A handler that never stores, or never when it is refused. -/
theorem keepsConfIfRefused_of_eq
    (h : (c.handle d o ctx).error ≠ none → (c.handle d o ctx).state.confParams = ctx.confParams) :
    c.KeepsConfIfRefused d o ctx :=
  fun herr => Or.inl (h herr)

/-- Past the tests, an `init` keeps the configuration exactly when what it has stored is what
stopping the tests leaves. -/
theorem keepsConf_iff_of_past {r : Handled} {rest : List RadioEvent}
    (htx : r.state.confParams.tx = 0) (hrx : r.state.confParams.rx = 0)
    (hevents : r.events = stopRxEvents ctx ++ (stopTxEvents ctx ++ rest)) :
    (r.state.confParams = ctx.confParams ∨ StoppedOnly ctx.confParams r) ↔
      ctx.stopTests.confParams = r.state.confParams := by
  constructor
  · rintro (heq | ⟨tx, rx, heq, -, -⟩)
    · rw [heq] at htx hrx
      have hself : { ctx.confParams with rx := 0, tx := 0 } =
          { ctx.confParams with rx := ctx.confParams.rx, tx := ctx.confParams.tx } := by
        rw [htx, hrx]
      rw [heq]
      exact hself
    · rw [heq] at htx hrx
      obtain rfl : tx = 0 := htx
      obtain rfl : rx = 0 := hrx
      exact heq.symm
  · intro heq
    refine Or.inr ⟨0, 0, heq.symm, ?_, ?_⟩
    · by_cases hne : ctx.confParams.tx = 0
      · exact Or.inl hne.symm
      · refine Or.inr ⟨rfl, ctx.stopTests.confParams, rfl, ?_⟩
        simp [hevents, stopTxEvents, hne]
    · by_cases hne : ctx.confParams.rx = 0
      · exact Or.inl hne.symm
      · refine Or.inr ⟨rfl, ctx.stopRx.confParams, rfl, ?_⟩
        simp [hevents, stopRxEvents, hne]

theorem keepsConf_init_iff (v : UInt64) :
    (Command.val .init v).KeepsConfIfRefused d o ctx ↔
      (Command.val .init v).StoresSafely d o ctx := by
  have hkeeps : (Command.val .init v).KeepsConf d o ctx ↔
      (nrfWifiRadioTestInit d o ctx v).state.confParams = ctx.confParams ∨
        StoppedOnly ctx.confParams (nrfWifiRadioTestInit d o ctx v) := by
    show _ ∨ (∃ w, Command.val .init v = .val .init w) ∧ _ ↔ _
    simp only [Command.val.injEq, true_and, exists_eq', true_and]
    rfl
  have heq : (Command.val .init v).handle d o ctx = nrfWifiRadioTestInit d o ctx v := rfl
  rw [Command.KeepsConfIfRefused, hkeeps, heq, Command.StoresSafely]
  cases hval : checkValidChannel v.toUInt8 with
  | false =>
    refine iff_of_true (fun _ => Or.inl ?_) (fun h => absurd h Bool.false_ne_true)
    rw [nrfWifiRadioTestInit, hval, if_neg Bool.false_ne_true]
    rfl
  | true =>
    have hexit := init_exit d o ctx hval
    generalize nrfWifiRadioTestInit d o ctx v = r at hexit
    cases hexit with
    | rxFailed hrx hok =>
      refine iff_of_false ?_ fun h => absurd ((h rfl).1 hrx) (by simp [hok])
      intro h
      rcases h (by simp) with hkeep | ⟨tx, rx, hkeep, -, hrx' | ⟨-, q, -, hq⟩⟩
      · exact hrx (congrArg ConfParams.rx hkeep).symm
      · exact hrx (hrx'.symm.trans (congrArg ConfParams.rx hkeep).symm)
      · simp at hq
    | txFailed hrx htx hok =>
      refine iff_of_false ?_ fun h => absurd ((h rfl).2.1 htx) (by simp [hok])
      intro h
      rcases h (by simp) with hkeep | ⟨tx, rx, hkeep, htx' | ⟨-, q, -, hq⟩, -⟩
      · exact htx (congrArg ConfParams.tx hkeep).symm
      · exact htx (htx'.symm.trans (congrArg ConfParams.tx hkeep).symm)
      · rw [stopRxEvents] at hq
        split_ifs at hq <;> simp at hq
    | toneFailed hrx htx htone =>
      refine iff_of_true (fun _ => ?_) fun _ => ⟨hrx, htx, fun h => absurd h htone⟩
      exact (keepsConf_iff_of_past rfl rfl rfl).mpr rfl
    | confFailed hrx htx htone hok =>
      rw [keepsConf_iff_of_past rfl rfl rfl]
      constructor
      · intro h _
        exact ⟨hrx, htx, fun _ => ⟨fun _ => h (by simp), fun h' => absurd h' (by simp [hok])⟩⟩
      · intro h _
        exact ((h rfl).2.2 htone).1 hok
    | programmed hrx htx htone hok he =>
      rw [keepsConf_iff_of_past rfl rfl rfl]
      constructor
      · intro h _
        refine ⟨hrx, htx, fun _ => ⟨fun h' => absurd h' (by simp [hok]), fun _ hinit => h ?_⟩⟩
        exact fun herr => absurd (he.mp herr) (by simp [hinit])
      · intro h herr
        refine ((h rfl).2.2 htone).2 hok ?_
        exact Bool.eq_false_iff.mpr fun hinit => herr (he.mpr hinit)

/-- For every other command the configuration is to be the same. -/
theorem keepsConf_iff_of_ne_init (h : ∀ v, c ≠ .val .init v) :
    c.KeepsConf d o ctx ↔ (c.handle d o ctx).state.confParams = ctx.confParams := by
  refine ⟨fun hk => hk.resolve_right ?_, Or.inl⟩
  rintro ⟨⟨v, hv⟩, -⟩
  exact h v hv

/-- A handler that stores and then is refused or not. -/
theorem keepsConfIfRefused_iff_of_stored {p : ConfParams} {ok : Prop} (h : ∀ v, c ≠ .val .init v)
    (hstate : (c.handle d o ctx).state.confParams = p)
    (herr : (c.handle d o ctx).error = none ↔ ok) :
    c.KeepsConfIfRefused d o ctx ↔ ok ∨ p = ctx.confParams := by
  rw [Command.KeepsConfIfRefused, keepsConf_iff_of_ne_init h, hstate, Ne, herr]
  exact or_iff_not_imp_left.symm

/-- The same behind checks that change nothing when one of them fails. -/
theorem keepsConfIfRefused_iff_of_checked {p : ConfParams} {allowed ok same : Prop}
    (h : ∀ v, c ≠ .val .init v) (hfail : ¬ allowed → ∃ e, c.handle d o ctx = .fail ctx e)
    (hstate : allowed → (c.handle d o ctx).state.confParams = p)
    (herr : allowed → ((c.handle d o ctx).error = none ↔ ok))
    (hsame : allowed → (p = ctx.confParams ↔ same)) :
    c.KeepsConfIfRefused d o ctx ↔ (allowed → ok ∨ same) := by
  by_cases hallow : allowed
  · rw [keepsConfIfRefused_iff_of_stored h (hstate hallow) (herr hallow), hsame hallow]
    exact ⟨fun hk _ => hk, fun hk => hk hallow⟩
  · obtain ⟨e, he⟩ := hfail hallow
    refine iff_of_true (keepsConfIfRefused_of_eq fun _ => ?_) fun ha => absurd ha hallow
    rw [he]
    rfl

theorem keepsConf_setDefaults_iff :
    Command.setDefaults.KeepsConfIfRefused d o ctx ↔ Command.setDefaults.StoresSafely d o ctx := by
  have hstate : (Command.setDefaults.handle d o ctx).state.confParams =
      if o.rfParamsGet then defaultParams d o ctx.confParams.countryCode
      else clearedParams d o := rfl
  have herr : (Command.setDefaults.handle d o ctx).error = none ↔ o.rfParamsGet = true :=
    checkThat_eq_none
  rw [keepsConfIfRefused_iff_of_stored (by simp) hstate herr, Command.StoresSafely]
  cases hok : o.rfParamsGet with
  | true => simp
  | false => simp [eq_comm]

/-- Switching TX off stores nothing when it is off. -/
theorem withTx_zero_of_eq {p : ConfParams} (h : p.tx = 0) : p.withTx d 0 = p := by
  rw [ConfParams.withTx, if_neg fun hb => absurd hb.1 (by decide)]
  show { p with tx := 0 } = p
  rw [← h]

theorem keepsConf_tx_iff (v : UInt64) :
    (Command.val .tx v).KeepsConfIfRefused d o ctx ↔ (Command.val .tx v).StoresSafely d o ctx := by
  have heq : (Command.val .tx v).handle d o ctx = nrfWifiRadioTestSetTx d o ctx v := rfl
  refine keepsConfIfRefused_iff_of_checked (p := ctx.confParams.withTx d v) (by simp) ?_ ?_ ?_ ?_
  · intro hnot
    exact setTx_of_not_allowed hnot
  · intro hallow
    rw [heq, setTx_of_allowed hallow]
  · intro hallow
    rw [heq, setTx_of_allowed hallow]
    exact checkThat_eq_none
  · intro hallow
    constructor
    · intro h
      have htx : v.toNat = ctx.confParams.tx := congrArg ConfParams.tx h
      rcases hallow.1 with rfl | ⟨rfl, hidle⟩
      · exact ⟨rfl, htx.symm⟩
      · exact absurd (htx.trans hidle.2) (by decide)
    · rintro ⟨rfl, htx⟩
      exact withTx_zero_of_eq htx

theorem keepsConf_rx_iff (v : UInt64) :
    (Command.val .rx v).KeepsConfIfRefused d o ctx ↔ (Command.val .rx v).StoresSafely d o ctx := by
  have heq : (Command.val .rx v).handle d o ctx = nrfWifiRadioTestSetRx o ctx v := rfl
  refine keepsConfIfRefused_iff_of_checked (p := { ctx.confParams with rx := v.toNat }) (by simp)
    ?_ ?_ ?_ ?_
  · intro hnot
    exact setRx_of_not_allowed hnot
  · intro hallow
    rw [heq, setRx_of_allowed hallow]
  · intro hallow
    rw [heq, setRx_of_allowed hallow]
    exact checkThat_eq_none
  · intro hallow
    constructor
    · intro h
      have hrx : v.toNat = ctx.confParams.rx := congrArg ConfParams.rx h
      rcases hallow with rfl | ⟨rfl, hidle⟩
      · exact ⟨rfl, hrx.symm⟩
      · exact absurd (hrx.trans hidle.1) (by decide)
    · rintro ⟨rfl, hrx⟩
      show { ctx.confParams with rx := 0 } = ctx.confParams
      rw [← hrx]

/-- Storing a country code changes nothing exactly when it is there already. -/
theorem setCountryCode_confParams_eq {a b : UInt8} :
    (ctx.setCountryCode (a, b)).confParams = ctx.confParams ↔
      ctx.confParams.countryCode = (a, b) := by
  constructor
  · intro h
    exact (congrArg ConfParams.countryCode h).symm
  · intro h
    show { ctx.confParams with countryCode := (a, b) } = _
    rw [← h]

theorem keepsConf_regDomain_iff (reg : List UInt8) :
    (Command.regDomain reg).KeepsConfIfRefused d o ctx ↔
      (Command.regDomain reg).StoresSafely d o ctx := by
  rcases setRegDomain_cases o ctx reg with
    ⟨hnot, e, he⟩ | ⟨a, b, rfl, hreg, hstate, herr, -⟩
  · refine iff_of_true (keepsConfIfRefused_of_eq fun _ => ?_) fun a b heq hreg => ?_
    · rw [Command.handle, he]
      rfl
    · exact absurd hreg (hnot a b heq)
  · have hstored : ((Command.regDomain [a, b]).handle d o ctx).state.confParams =
        (ctx.setCountryCode (a, b)).confParams := congrArg RadioCtx.confParams hstate
    rw [keepsConfIfRefused_iff_of_stored (by simp) hstored herr, setCountryCode_confParams_eq]
    constructor
    · rintro h a' b' heq -
      rw [List.cons.injEq, List.cons.injEq] at heq
      rwa [← heq.1, ← heq.2.1]
    · intro h
      exact h a b rfl hreg

theorem storesSafely_of_isSetter {key : ValKey} {v : UInt64} (h : key.isSetter = true) :
    (Command.val key v).StoresSafely d o ctx := by
  cases key <;> first | exact trivial | exact absurd h (by decide)

variable (d o ctx) in
/-- **When a refused command keeps the configuration**, in every state, for every command and
whatever FMAC answers. -/
theorem rejected_keeps_conf_iff (c : Command) :
    c.KeepsConfIfRefused d o ctx ↔ c.StoresSafely d o ctx := by
  cases c with
  | setDefaults => exact keepsConf_setDefaults_iff
  | regDomain reg => exact keepsConf_regDomain_iff reg
  | bypassInvalid | unknown =>
    exact iff_of_true (keepsConfIfRefused_of_eq fun _ => rfl) trivial
  | sval key v =>
    refine iff_of_true (keepsConfIfRefused_of_eq fun herr => ?_) trivial
    cases key <;> exact congrArg RadioCtx.confParams (setParam_of_error herr)
  | val key v =>
    by_cases hset : key.isSetter = true
    · obtain ⟨checks, store, heq, -⟩ := ValKey.handle_of_isSetter d o ctx v hset
      refine iff_of_true (keepsConfIfRefused_of_eq fun herr => ?_) (storesSafely_of_isSetter hset)
      rw [Command.handle, heq] at herr ⊢
      exact congrArg RadioCtx.confParams (setParam_of_error herr)
    cases key with
    | init => exact keepsConf_init_iff v
    | tx => exact keepsConf_tx_iff v
    | rx => exact keepsConf_rx_iff v
    | rxCap =>
      exact iff_of_true (keepsConfIfRefused_of_eq fun _ => rxCap_confParams d o ctx v) trivial
    | txTone =>
      exact iff_of_true (keepsConfIfRefused_of_eq fun _ => txTone_confParams) trivial
    | dpd | setXoVal | getTemperature | getRfRssi | computeOptimalXoVal =>
      exact iff_of_true (keepsConfIfRefused_of_eq fun herr => oneShot_of_error herr) trivial
    | _ => exact absurd rfl hset

end Refused

/-- `reg_domain=US` while TX is running is refused and stored. -/
theorem refused_reg_domain_is_stored :
    ¬ (Command.regDomain [85, 83]).KeepsConfIfRefused .headers .success
      (runWrites .headers .init [.ofText "tx=1\n" .success]).ctx := by
  intro h
  rw [runWrites_cons .headers (c := .val .tx 1) rfl, runWrites_nil] at h
  rcases (keepsConf_regDomain_iff [85, 83]).mp h 85 83 rfl (by decide) with ⟨hidle, -⟩ | hcc
  · exact absurd hidle.2 (by decide)
  · exact absurd hcc (by decide)

/-! ### Running tests -/

/-- A `name=value` command other than `tx`, `rx` and `init`. -/
def Command.IsParameter : Command → Prop
  | .setDefaults | .val .tx _ | .val .rx _ | .val .init _ => False
  | _ => True

/-- The command changes a parameter although a test is running. -/
def Command.Thaws (ctx : RadioCtx) : Command → Prop
  | .val .heLtf v => v ≤ 2 ∧ ctx.confParams.heLtf ≠ v.toNat
  | .val .heGi v => v ≤ 2 ∧ ctx.confParams.heGi ≠ v.toNat
  | .val .txPktSgi v => v ≤ 1 ∧ ctx.confParams.txPktSgi ≠ v.toNat
  | .val .setXoVal v => v ≤ 0x7f ∧ v ≠ 1 ∧ o.setXoVal = true ∧
      ctx.confParams.rfParams d.xoFreqByteOffset ≠ v.toUInt8
  | .regDomain reg => ∃ a b, reg = [a, b] ∧ RegDomain a b ∧ ctx.confParams.countryCode ≠ (a, b)
  | _ => False

section Frozen

variable {d o} {ctx : RadioCtx} {c : Command}

/-- A setter that looks for a test in progress does nothing during one. -/
theorem setParam_frozen {checks : List (Option ConfError)} {store : ConfParams → ConfParams}
    (hrun : ¬ ctx.Idle) (hlooks : (∀ e ∈ checks, e = none) → ctx.Idle) :
    (setParam checks store ctx).state.confParams = ctx.confParams := by
  obtain ⟨e, he⟩ := setParam_of_not_pass store ctx fun hp => hrun (hlooks hp)
  rw [he]
  rfl

/-- A setter that does not look changes something exactly when its value is new. -/
theorem setParam_thawed {checks : List (Option ConfError)} {store : ConfParams → ConfParams}
    {p q : Prop} (hpass : (∀ e ∈ checks, e = none) ↔ p)
    (hsame : store ctx.confParams = ctx.confParams ↔ ¬ q) :
    (setParam checks store ctx).state.confParams = ctx.confParams ↔ ¬ (p ∧ q) := by
  by_cases h : ∀ e ∈ checks, e = none
  · rw [setParam_of_pass h]
    show store ctx.confParams = ctx.confParams ↔ _
    rw [hsame]
    simp [hpass.mp h]
  · obtain ⟨e, he⟩ := setParam_of_not_pass store ctx h
    rw [he]
    exact iff_of_true rfl fun hpq => h (hpass.mpr hpq.1)

theorem frozen_setter {key : ValKey} (v : UInt64) (hrun : ¬ ctx.Idle) (hset : key.isSetter = true) :
    (key.handle d o ctx v).state.confParams = ctx.confParams ↔
      ¬ (Command.val key v).Thaws d o ctx := by
  cases key with
  | heLtf =>
    refine setParam_thawed (by simp) ?_
    rw [not_not]
    exact ⟨fun h => (congrArg ConfParams.heLtf h).symm, fun h => by rw [← h]⟩
  | heGi =>
    refine setParam_thawed (by simp) ?_
    rw [not_not]
    exact ⟨fun h => (congrArg ConfParams.heGi h).symm, fun h => by rw [← h]⟩
  | txPktSgi =>
    refine setParam_thawed (by simp) ?_
    rw [not_not]
    exact ⟨fun h => (congrArg ConfParams.txPktSgi h).symm, fun h => by rw [← h]⟩
  | phyCalibRxdc | phyCalibTxdc | phyCalibTxpow | phyCalibRxiq | phyCalibTxiq | txPktTputMode
  | txPktPreamble | txPktGap | txPktLen | txPower | ruTone | ruIndex | rxCaptureLength | rxLnaGain
  | rxBbGain | txToneFreq | txPktCw | bypassRegDomain =>
    exact iff_of_true (setParam_frozen hrun (by simp +contextual)) id
  | _ => exact absurd hset (by decide)

/-- The same for a one-shot test, which stores when the firmware agrees. -/
theorem oneShot_thawed {checks : List (Option ConfError)} {test : RfTest} {call : FmacCall}
    {ok : Bool} {failed : ConfError} {store : ConfParams → ConfParams} {p q : Prop}
    (hpass : (∀ e ∈ checks, e = none) ↔ p)
    (hsame : store ctx.confParams = ctx.confParams ↔ ¬ q) :
    (oneShot checks test call ok failed store ctx).state.confParams = ctx.confParams ↔
      ¬ (p ∧ ok = true ∧ q) := by
  by_cases h : ∀ e ∈ checks, e = none
  · rw [oneShot_of_pass h]
    cases ok with
    | true =>
      show store ctx.confParams = ctx.confParams ↔ _
      rw [hsame]
      simp [hpass.mp h]
    | false => exact iff_of_true rfl fun hpq => absurd hpq.2.1 Bool.false_ne_true
  · obtain ⟨e, he⟩ := oneShot_of_not_pass test call ok failed store ctx h
    rw [he]
    exact iff_of_true rfl fun hpq => h (hpass.mpr hpq.1)

theorem frozen_setXoVal (v : UInt64) (hrun : ¬ ctx.Idle) :
    (nrfWifiRadioSetXoVal d o ctx v).state.confParams = ctx.confParams ↔
      ¬ (Command.val .setXoVal v).Thaws d o ctx := by
  have hthaws : (Command.val .setXoVal v).Thaws d o ctx ↔
      (v ≤ 0x7f ∧ v ≠ 1) ∧ o.setXoVal = true ∧
        ctx.confParams.rfParams d.xoFreqByteOffset ≠ v.toUInt8 := and_assoc.symm
  rw [hthaws, nrfWifiRadioSetXoVal]
  refine oneShot_thawed ?_ ?_
  · -- the check for a test in progress is made for the value 1 only
    simp [hrun]
  · rw [not_not]
    constructor
    · intro heq
      have hupdate := congrArg ConfParams.rfParams heq
      exact (Function.update_eq_self_iff.mp hupdate).symm
    · intro heq
      rw [← heq, Function.update_eq_self]

theorem frozen_regDomain (reg : List UInt8) :
    (nrfWifiRadioTestSetRegDomain o ctx reg).state.confParams = ctx.confParams ↔
      ¬ (Command.regDomain reg).Thaws d o ctx := by
  rcases setRegDomain_cases o ctx reg with ⟨hnot, e, he⟩ | ⟨a, b, rfl, hreg, hstate, -⟩
  · rw [he]
    refine iff_of_true rfl ?_
    rintro ⟨a, b, heq, hreg, -⟩
    exact hnot a b heq hreg
  · rw [hstate, setCountryCode_confParams_eq]
    constructor
    · rintro hcc ⟨a', b', heq, -, hne⟩
      rw [List.cons.injEq, List.cons.injEq] at heq
      rw [← heq.1, ← heq.2.1] at hne
      exact hne hcc
    · intro hno
      by_contra hne
      exact hno ⟨a, b, rfl, hreg, hne⟩

/-- A parameter command during a test keeps the configuration exactly when it is none of the few
that change it. -/
theorem frozen_handle (hrun : ¬ ctx.Idle) (hparam : c.IsParameter) :
    (c.handle d o ctx).state.confParams = ctx.confParams ↔ ¬ c.Thaws d o ctx := by
  cases c with
  | setDefaults => exact hparam.elim
  | bypassInvalid | unknown => exact iff_of_true rfl id
  | regDomain reg => exact frozen_regDomain reg
  | sval key v =>
    refine iff_of_true ?_ id
    cases key with
    | txPktMcs => exact setParam_frozen hrun (by simp +contextual)
    | txPktRate => exact setParam_frozen hrun (by simp +contextual)
    | txPktNum => exact setParam_frozen hrun (by simp +contextual)
  | val key v =>
    by_cases hset : key.isSetter = true
    · exact frozen_setter v hrun hset
    cases key with
    | tx | rx | init => exact hparam.elim
    | setXoVal => exact frozen_setXoVal v hrun
    | rxCap => exact iff_of_true (rxCap_confParams d o ctx v) id
    | txTone => exact iff_of_true txTone_confParams id
    | dpd | getTemperature | getRfRssi | computeOptimalXoVal =>
      exact iff_of_true (oneShot_frame id rfl) id
    | _ => exact absurd rfl hset

end Frozen

/-- **When the parameters are frozen.** In every state with a test in progress, a write that names
a parameter leaves `conf_params` alone exactly when its command is none of the few that change
it. -/
theorem frozen_iff (s : RadioState) (w : ConfWrite)
    (hrun : s.ctx.confParams.tx ≠ 0 ∨ s.ctx.confParams.rx ≠ 0)
    (hparam : ∀ c, w.command = some c → c.IsParameter) :
    (radioStep d s w).1.ctx.confParams = s.ctx.confParams ↔
      OnCommand (fun s o c => ¬ c.Thaws d o s.ctx) s w := by
  have hbusy : ¬ s.ctx.Idle := fun hidle => hrun.elim (fun h => h hidle.2) (fun h => h hidle.1)
  rw [radioStep_fst, OnCommand]
  cases hc : w.command with
  | none => simp
  | some c => simpa [Command.next] using frozen_handle (d := d) (o := w.fmac) hbusy (hparam c hc)

/-- `tx_power` is frozen while TX is running. -/
theorem frozen_tx_power :
    (radioStep .headers
        (runWrites .headers .init [.ofText "init=1\n" .success, .ofText "tx=1\n" .success])
        (.ofText "tx_power=3\n" .success)).1.ctx.confParams =
      (runWrites .headers .init
        [.ofText "init=1\n" .success, .ofText "tx=1\n" .success]).ctx.confParams := by
  rw [runWrites_cons .headers (c := .val .init 1) rfl,
    runWrites_cons .headers (c := .val .tx 1) rfl, runWrites_nil]
  refine (frozen_iff .headers _ _ (Or.inl (by decide)) ?_).mpr ?_
  · intro c hc
    rw [← Option.some.inj (show some (Command.val .txPower 3) = some c from hc)]
    trivial
  · intro c hc
    rw [← Option.some.inj (show some (Command.val .txPower 3) = some c from hc)]
    exact id

/-- `he_ltf` is not. -/
theorem he_ltf_thaws :
    (runWrites .headers .init
        [.ofText "init=1\n" .success, .ofText "tx=1\n" .success]).ctx.confParams.tx = 1 ∧
      (radioStep .headers
          (runWrites .headers .init [.ofText "init=1\n" .success, .ofText "tx=1\n" .success])
          (.ofText "he_ltf=1\n" .success)).1.ctx.confParams ≠
        (runWrites .headers .init
          [.ofText "init=1\n" .success, .ofText "tx=1\n" .success]).ctx.confParams := by
  rw [runWrites_cons .headers (c := .val .init 1) rfl,
    runWrites_cons .headers (c := .val .tx 1) rfl, runWrites_nil]
  refine ⟨rfl, fun h => ?_⟩
  exact absurd (congrArg ConfParams.heLtf h) (by decide)

end Nrf70
