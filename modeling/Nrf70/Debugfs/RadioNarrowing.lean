import Nrf70.Debugfs.ConfDispatch
import Nrf70.Debugfs.RadioHandlers

/-!
# Channels and tones as C converts them

`init` and `tx_tone_freq` are read as `unsigned long` and then converted. The channel check has an
`unsigned char` for a parameter, so it looks at the value modulo 256. The range of the tone is
compared with an `unsigned long`, where `-10` is a number close to `2 ^ 64`, and no value is between
that and `10`.

## Main results

* `checkValidChannel_eq_true_iff` — the channels the check knows
* `setTxToneFreq_refuses` — every frequency is refused
* `conversions_exact_iff` — the values both treat as they are written
-/

namespace Nrf70

/-- The channels of `check_valid_chan_2g` and `check_valid_chan_5g`. -/
def listedChannels : List ℕ :=
  List.range' 1 14 ++
    [32, 36, 40, 44, 48, 52, 56, 60, 64, 68, 96, 100, 104, 108, 112, 116, 120, 124, 128, 132, 136,
      140, 144, 149, 153, 157, 159, 161, 163, 165, 167, 169, 171, 173, 175, 177]

/-- The check knows the listed channels. -/
theorem checkValidChannel_eq_true_iff (c : UInt8) :
    checkValidChannel c = true ↔ c.toNat ∈ listedChannels :=
  @forall_byte (fun c => checkValidChannel c = true ↔ c.toNat ∈ listedChannels)
    (by decide +kernel) c

theorem lt_256_of_mem_listedChannels {n : ℕ} (h : n ∈ listedChannels) : n < 256 := by
  have hall : ∀ n ∈ listedChannels, n < 256 := by decide
  exact hall n h

/-- No frequency passes the comparison with `10` and with `-10`. -/
theorem setTxToneFreq_refuses (ctx : RadioCtx) (val : UInt64) :
    (nrfWifiRadioTestSetTxToneFreq ctx val).error ≠ none := by
  rw [nrfWifiRadioTestSetTxToneFreq, Ne, setParam_error_eq_none]
  intro hpass
  have hrange := checkThat_eq_none.mp (hpass _ List.mem_cons_self)
  rw [not_or, UInt64.lt_iff_toNat_lt, UInt64.lt_iff_toNat_lt] at hrange
  have h10 : (10 : UInt64).toNat = 10 := rfl
  have hneg : (-10 : UInt64).toNat = 2 ^ 64 - 10 := rfl
  omega

/-! ### `init` without a test in progress -/

section Init

variable {d : Nrfxlib} {o : Outcomes} {ctx : RadioCtx}

/-- No TX, RX or RF test is in progress. -/
def RadioCtx.NoTest (ctx : RadioCtx) : Prop := ctx.Idle ∧ ctx.rfTestRun = false

/-- Past the channel check every error of `nrf_wifi_radio_test_init` is another one. -/
theorem init_errno_of_valid (h : ctx.NoTest) {val : UInt64}
    (hval : checkValidChannel val.toUInt8 = true) {e : ConfError}
    (he : (nrfWifiRadioTestInit d o ctx val).error = some e) : e.errno = .enoexec := by
  obtain ⟨⟨hrx, htx⟩, hrun⟩ := h
  have hstopRx : initStopRx o ctx = .done ctx := by simp [initStopRx, hrx]
  have hstopTx : initStopTx o ctx = .done ctx := by simp [initStopTx, htx]
  have hstopTone : initStopTone d o ctx = .done ctx := by simp [initStopTone, hrun]
  rw [nrfWifiRadioTestInit, if_pos hval, hstopRx, Outcome.done_andThen, hstopTx,
    Outcome.done_andThen, hstopTone, Outcome.done_andThen] at he
  cases hget : o.rfParamsGet with
  | false =>
    simp only [nrfWifiRadioTestConfInit, hget, Outcome.andThen, checkThat] at he
    exact (Option.some.inj he) ▸ rfl
  | true =>
    rw [Outcome.andThen_of_none (by simp [nrfWifiRadioTestConfInit, hget])] at he
    simp only [initProgram, checkThat] at he
    split_ifs at he
    exact (Option.some.inj he) ▸ rfl

/-- `nrf_wifi_radio_test_init` calls a value invalid exactly when the check refuses its low byte. -/
theorem init_error_iff (h : ctx.NoTest) (val : UInt64) :
    (nrfWifiRadioTestInit d o ctx val).error = some (invalidValue val) ↔
      val.toNat % 256 ∉ listedChannels := by
  have hlow : val.toUInt8.toNat = val.toNat % 256 := UInt64.toNat_toUInt8 val
  rw [← hlow, ← checkValidChannel_eq_true_iff]
  by_cases hval : checkValidChannel val.toUInt8 = true
  · refine iff_of_false (fun he => ?_) (not_not.mpr hval)
    exact absurd (init_errno_of_valid h hval he) (by simp [invalidValue])
  · rw [nrfWifiRadioTestInit, if_neg hval]
    exact iff_of_true rfl hval

end Init

/-! ### The texts -/

section Texts

/-- A number written after the name of a parameter that is read as unsigned reaches its handler. -/
theorem command_of_number (key : ValKey) (val : UInt64) (o : Outcomes) :
    (ConfWrite.ofText (key.text ++ toString val.toNat ++ "\n") o).command =
      some (.val key val) := by
  have hnum : SignedNumeral false (cBytes (toString val.toNat)) val.toNat :=
    .plain (numeral_toString val.toNat)
  have hnl : cBytes "\n" = [10] := rfl
  have htext : ∀ key ∈ confKeys ++ [.val .bypassRegDomain],
      0 ∉ cBytes key.str ∧ 10 ∉ cBytes key.str ∧ (cBytes key.str).length < 400 := by
    decide +kernel
  obtain ⟨h0, h10, hlen⟩ := htext (.val key) (mem_radioKeys _)
  have hbytes : ∀ c ∈ cBytes (toString val.toNat), NumeralByte c := hnum.bytes
  have hdigits : (cBytes (toString val.toNat)).length ≤ 20 :=
    length_toString_le (by decide) (val.toNat_lt.trans (by decide))
  have h0' : 0 ∉ cBytes key.text ++ cBytes (toString val.toNat) := by
    rw [List.mem_append, not_or]
    exact ⟨h0, fun h => absurd (hbytes 0 h) (by decide)⟩
  have h10' : 10 ∉ cBytes key.text ++ cBytes (toString val.toNat) := by
    rw [List.mem_append, not_or]
    exact ⟨h10, fun h => absurd (hbytes 10 h) (by decide)⟩
  have hlen' : (cBytes key.text ++ cBytes (toString val.toNat)).length < 499 := by
    have hlen : (cBytes key.text).length < 400 := hlen
    rw [List.length_append]
    omega
  have hread : radioKeys.numeric (cBytes key.text ++ cBytes (toString val.toNat)) =
      some (.val key, (val.toNat : ℤ)) := by
    refine (NumKeys.numeric_eq_some h10').mpr ⟨⟨[], _, rfl, by simp, hnum⟩, ?_⟩
    have hlt := val.toNat_lt
    exact ⟨Int.natCast_nonneg _, by omega⟩
  obtain ⟨c, hc, hcnum⟩ := (calls_iff h0' hlen' o (.val key) val.toNat).mpr
    ⟨not_hasSetDefaults (.val key) (hnum.mono fun _ => rfl), hread⟩
  rw [ConfWrite.ofText, cBytes_append, cBytes_append, hnl, hc]
  cases c with
  | val key' val' =>
    obtain ⟨hkey, hval⟩ := Prod.mk.inj (Option.some.inj hcnum)
    rw [ConfKey.val.inj hkey, UInt64.toNat_inj.mp (Int.ofNat_inj.mp hval)]
  | sval => exact absurd hcnum (by simp [Command.numeric])
  | setDefaults | regDomain | bypassInvalid | unknown =>
    exact absurd hcnum (by simp [Command.numeric])

end Texts

/-! ### Exactness -/

/-- `init=v` passes the channel check of its handler. -/
def InitPasses (d : Nrfxlib) (o : Outcomes) (ctx : RadioCtx) (v : UInt64) : Prop :=
  ∃ val, (ConfWrite.ofText (ValKey.init.text ++ toString v.toNat ++ "\n") o).command =
      some (.val .init val) ∧
    (nrfWifiRadioTestInit d o ctx val).error ≠ some (invalidValue val)

/-- `tx_tone_freq=v` reaches its handler with a value. -/
def ToneReaches (o : Outcomes) (v : ℤ) (val : UInt64) : Prop :=
  (ConfWrite.ofText (ValKey.txToneFreq.text ++ toString v ++ "\n") o).command =
    some (.val .txToneFreq val)

/-- `tx_tone_freq=v` is accepted by its handler. -/
def ToneAccepted (o : Outcomes) (ctx : RadioCtx) (v : ℤ) : Prop :=
  ∃ val, ToneReaches o v val ∧ (nrfWifiRadioTestSetTxToneFreq ctx val).error = none

/-- `tx_tone_freq=v` is accepted exactly in the range of the frequency, and then `v` is stored. -/
def ToneExact (o : Outcomes) (ctx : RadioCtx) (v : ℤ) : Prop :=
  (ToneAccepted o ctx v ↔ -10 ≤ v ∧ v ≤ 10) ∧
    ∀ val, ToneReaches o v val → (nrfWifiRadioTestSetTxToneFreq ctx val).error = none →
      (nrfWifiRadioTestSetTxToneFreq ctx val).state.confParams.txToneFreq = v

theorem not_toneAccepted (o : Outcomes) (ctx : RadioCtx) (v : ℤ) : ¬ ToneAccepted o ctx v :=
  fun ⟨val, _, hnone⟩ => setTxToneFreq_refuses ctx val hnone

theorem initPasses_iff {d : Nrfxlib} {o : Outcomes} {ctx : RadioCtx} (h : ctx.NoTest)
    (v : UInt64) : InitPasses d o ctx v ↔ v.toNat % 256 ∈ listedChannels := by
  have hinit := @init_error_iff d o ctx h v
  constructor
  · rintro ⟨val, hcmd, hval⟩
    rw [command_of_number] at hcmd
    obtain rfl : v = val := (Command.val.inj (Option.some.inj hcmd)).2
    exact not_not.mp (mt hinit.mpr hval)
  · intro hmem
    exact ⟨v, command_of_number .init v o, mt hinit.mp (not_not.mpr hmem)⟩

/-- **The values that C conversions do not change the meaning of.** Without a test in progress,
`init` passes the listed channels and no other value up to the values whose low byte is a channel,
and `tx_tone_freq` is right only about the values outside its range, since it refuses them all. -/
theorem conversions_exact_iff (d : Nrfxlib) (o : Outcomes) {ctx : RadioCtx} (h : ctx.NoTest) :
    (∀ v : UInt64, (InitPasses d o ctx v ↔ v.toNat ∈ listedChannels) ↔
      v.toNat < 256 ∨ v.toNat % 256 ∉ listedChannels) ∧
    ∀ v : ℤ, ToneExact o ctx v ↔ ¬ (-10 ≤ v ∧ v ≤ 10) := by
  constructor
  · intro v
    rw [initPasses_iff h]
    by_cases hlt : v.toNat < 256
    · rw [Nat.mod_eq_of_lt hlt]
      exact iff_of_true Iff.rfl (Or.inl hlt)
    · have hno : v.toNat ∉ listedChannels := fun hmem => hlt (lt_256_of_mem_listedChannels hmem)
      simp only [hno, hlt, iff_false, false_or]
  · intro v
    have hstored : ∀ val, ToneReaches o v val →
        (nrfWifiRadioTestSetTxToneFreq ctx val).error = none →
        (nrfWifiRadioTestSetTxToneFreq ctx val).state.confParams.txToneFreq = v :=
      fun val _ hnone => absurd hnone (setTxToneFreq_refuses ctx val)
    rw [ToneExact, and_iff_left hstored]
    simp only [not_toneAccepted o ctx v, false_iff]

/-- With a zeroed context, `init=11` passes and `init=306` does not. -/
theorem conversions_exact_iff_init :
    InitPasses .headers .success .zero 11 ∧ ¬ InitPasses .headers .success .zero 306 := by
  have hexact := (@conversions_exact_iff .headers .success .zero ⟨⟨rfl, rfl⟩, rfl⟩).1
  exact ⟨((hexact 11).mpr (by decide)).mpr (by decide),
    mt ((hexact 306).mpr (by decide)).mp (by decide)⟩

/-- **Conversions that change what is accepted.** `init=257` passes as channel 1, and the
frequencies `5` and `-5` are refused. -/
theorem conversions_misread :
    (InitPasses .headers .success .zero 257 ∧ 257 ∉ listedChannels) ∧
    ¬ ToneAccepted .success .zero 5 ∧ ¬ ToneAccepted .success .zero (-5) :=
  ⟨⟨(initPasses_iff ⟨⟨rfl, rfl⟩, rfl⟩ 257).mpr (by decide), by decide⟩,
    not_toneAccepted _ _ 5, not_toneAccepted _ _ (-5)⟩

end Nrf70
