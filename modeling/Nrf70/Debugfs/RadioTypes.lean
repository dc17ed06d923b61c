import Nrf70.Debugfs.RadioNarrowing
import Nrf70.Debugfs.RadioRates
import Nrf70.Lib.Printf

/-!
# The types of the radio-test parameters

The parameters without an upper bound are stored through the conversions to their fields. What a
field holds then comes back through the same conversion, also by way of what `%d` prints of it. Two
of the values a field could hold never get there: the rate `5`, which the `conf` file would show as
`5.5`, and a tone frequency other than zero.

## What is outside the repository

`Nrfxlib.FieldTypes` are the types of these fields, and how large the constants of nrfxlib are.

## Main results

* `confTypes_throughout` — what the fields hold throughout every sequence of writes
-/

namespace Nrf70

/-! ### Conversions -/

/-- A conversion to a signed type of at most 32 bits. -/
def IsSignedConv (conv : Int64 → ℤ) : Prop :=
  ∃ bits, 8 ≤ bits ∧ bits ≤ 32 ∧ ∀ v, conv v = v.toInt.bmod (2 ^ bits)

/-- A number that a conversion keeps, and `%d` as well. -/
def Kept (conv : Int64 → ℤ) (v : ℤ) : Prop := IsInt v ∧ conv (Int64.ofInt v) = v

section Conv

variable {conv : Int64 → ℤ} {v : ℤ}

theorem toInt_ofInt_of_isInt (h : IsInt v) : (Int64.ofInt v).toInt = v := by
  rw [IsInt] at h
  exact Int64.toInt_ofInt_of_le (by omega) (by omega)

/-- A number of fewer bits than a type is one of the type. -/
theorem bmod_two_pow_of_le {bits k : ℕ} (hk : k < bits) (hlow : -2 ^ k ≤ v) (hhigh : v < 2 ^ k) :
    v.bmod (2 ^ bits) = v := by
  have hpow : (2 : ℤ) ^ k * 2 ≤ 2 ^ bits := by
    rw [← pow_succ]
    exact pow_le_pow_right₀ (by decide) hk
  refine Int.bmod_eq_of_le_mul_two ?_ ?_
  · push_cast
    omega
  · push_cast
    omega

/-- What a conversion yields is an `int`. -/
theorem isInt_bmod_two_pow {bits : ℕ} (hpos : 0 < bits) (hbits : bits ≤ 32) (v : ℤ) :
    IsInt (v.bmod (2 ^ bits)) := by
  obtain ⟨k, rfl⟩ := Nat.exists_eq_succ_of_ne_zero hpos.ne'
  have hk : (2 : ℤ) ^ k ≤ 2 ^ 31 := pow_le_pow_right₀ (by decide) (Nat.le_of_succ_le_succ hbits)
  have hpow : 0 < 2 ^ (k + 1) := Nat.two_pow_pos _
  have hlow := Int.le_bmod (x := v) hpow
  have hhigh := Int.bmod_lt (x := v) hpow
  rw [pow_succ] at hlow hhigh ⊢
  push_cast at hlow hhigh
  constructor <;> omega

theorem kept_of_small (hconv : IsSignedConv conv) (hlow : -2 ^ 7 ≤ v) (hhigh : v < 2 ^ 7) :
    Kept conv v := by
  obtain ⟨bits, h8, -, heq⟩ := hconv
  have hint : IsInt v := ⟨by omega, by omega⟩
  refine ⟨hint, ?_⟩
  rw [heq, toInt_ofInt_of_isInt hint]
  exact bmod_two_pow_of_le h8 hlow hhigh

/-- What a conversion has stored is kept. -/
theorem kept_conv (hconv : IsSignedConv conv) (v : Int64) : Kept conv (conv v) := by
  obtain ⟨bits, h8, h32, heq⟩ := hconv
  have hint : IsInt (conv v) := by
    rw [heq]
    exact isInt_bmod_two_pow (by omega) h32 _
  refine ⟨hint, ?_⟩
  rw [heq, toInt_ofInt_of_isInt hint, heq, Int.bmod_bmod]

end Conv

/-! ### Fields -/

variable (d : Nrfxlib) (o : Outcomes)

/-- The types of the fields of `struct rpu_conf_params`, and the sizes of the constants. -/
structure Nrfxlib.FieldTypes : Prop where
  txPktMcs : IsSignedConv d.txPktMcs
  txPktRate : IsSignedConv d.txPktRate
  txPktNum : IsSignedConv d.txPktNum
  txPktLen : ∃ bits < 32, ∀ val, d.txPktLen val = val.toNat % 2 ^ bits
  tputModeMax : d.tputModeMax < 2 ^ 31
  pktPreambleMixed : d.pktPreambleMixed < 2 ^ 31
  maxTxPwrRadioTest : d.maxTxPwrRadioTest < 2 ^ 31
  maxTxPwrSysTest : d.maxTxPwrSysTest < 2 ^ 31

theorem fieldTypes_headers : Nrfxlib.headers.FieldTypes where
  txPktMcs := ⟨8, by decide, by decide, Int64.toInt_toInt8⟩
  txPktRate := ⟨8, by decide, by decide, Int64.toInt_toInt8⟩
  txPktNum := ⟨32, by decide, by decide, Int64.toInt_toInt32⟩
  txPktLen := ⟨16, by decide, UInt64.toNat_toUInt16⟩
  tputModeMax := by decide
  pktPreambleMixed := by decide
  maxTxPwrRadioTest := by decide
  maxTxPwrSysTest := by decide

/-- What the fields hold. -/
structure ConfTypes (p : ConfParams) : Prop where
  txPktMcs : Kept d.txPktMcs p.txPktMcs
  txPktRate : Kept d.txPktRate p.txPktRate
  txPktNum : Kept d.txPktNum p.txPktNum
  txPktLen : IsInt p.txPktLen ∧ d.txPktLen (UInt64.ofNat p.txPktLen) = p.txPktLen
  /-- The legacy rate 5.5 is written `55`. -/
  rate : p.txPktRate ≠ 5
  /-- Every frequency is refused. -/
  tone : p.txToneFreq = 0

variable {d}

/-- A length comes back. -/
theorem kept_txPktLen (hd : d.FieldTypes) (val : UInt64) :
    IsInt (d.txPktLen val) ∧ d.txPktLen (UInt64.ofNat (d.txPktLen val)) = d.txPktLen val := by
  obtain ⟨bits, hbits, heq⟩ := hd.txPktLen
  have hpow : 2 ^ bits ≤ 2 ^ 31 := Nat.pow_le_pow_right (by decide) (Nat.le_of_lt_succ hbits)
  have hlt : d.txPktLen val < 2 ^ bits := by
    rw [heq]
    exact Nat.mod_lt _ (Nat.two_pow_pos bits)
  have hint : IsInt (d.txPktLen val) := ⟨by omega, by omega⟩
  refine ⟨hint, ?_⟩
  rw [heq (UInt64.ofNat _), toNat_ofNat_of_isInt hint, Nat.mod_eq_of_lt hlt]

/-- A rate the check lets through is not stored as `5`. -/
theorem txPktRate_ne_five (hd : d.FieldTypes) {tputMode nss : ℕ} {val : Int64}
    (h : checkValidDataRate d tputMode nss val.toInt32 = none) : d.txPktRate val ≠ 5 := by
  obtain ⟨bits, h8, -, heq⟩ := hd.txPktRate
  intro hfive
  -- the low byte is that of the rate, whatever the type
  have hbyte : val.toInt % 2 ^ 8 = 5 := by
    have hdvd : 2 ^ 8 ∣ 2 ^ bits := Nat.pow_dvd_pow 2 h8
    have hmod := Int.bmod_bmod_of_dvd (a := val.toInt) hdvd
    rw [← heq, hfive] at hmod
    have hemod := Int.bmod_emod (x := val.toInt) (m := 2 ^ 8)
    rw [← hmod] at hemod
    exact hemod.symm
  have hnarrow := toInt_toInt32_eq val
  have hbit : ¬ val.toInt32 &&& 0x80 ≠ 0 := by
    rw [and_bit7_ne_zero_iff]
    omega
  have hneg : val.toInt32 ≠ -1 := by
    rw [Ne, ← Int32.toInt_inj]
    have h1 : (-1 : Int32).toInt = -1 := rfl
    omega
  rw [checkValidDataRate, if_neg hneg, if_neg hbit] at h
  split_ifs at h with hmem
  rw [mem_legacyRates_iff] at hmem
  have hall : ∀ r ∈ legacyRates, r % 2 ^ 8 ≠ 5 := by decide
  rcases hmem with hrate | hone
  · have := hall _ hrate
    omega
  · omega

/-! ### Fresh configurations -/

theorem confTypes_clearedParams (hd : d.FieldTypes) : ConfTypes d (clearedParams d o) where
  txPktMcs := kept_of_small (v := 0) hd.txPktMcs (by decide) (by decide)
  txPktRate := kept_of_small (v := 0) hd.txPktRate (by decide) (by decide)
  txPktNum := kept_of_small (v := 0) hd.txPktNum (by decide) (by decide)
  txPktLen := ⟨(by decide : IsInt 0), d.txPktLen_of_le 0 (by decide)⟩
  rate := (by decide : (0 : ℤ) ≠ 5)
  tone := rfl

variable {o}

theorem confTypes_zero (hd : d.FieldTypes) : ConfTypes d .zero :=
  { confTypes_clearedParams .success hd with }

theorem confTypes_defaultParams (hd : d.FieldTypes) (cc : UInt8 × UInt8) :
    ConfTypes d (defaultParams d o cc) :=
  { confTypes_clearedParams o hd with
    txPktRate := kept_of_small (v := 6) hd.txPktRate (by decide) (by decide)
    txPktNum := kept_of_small (v := -1) hd.txPktNum (by decide) (by decide)
    txPktLen := ⟨(by decide : IsInt 1400), d.txPktLen_of_le 1400 (by decide)⟩
    rate := (by decide : (6 : ℤ) ≠ 5) }

/-! ### Commands -/

section Commands

variable {ctx : RadioCtx} {checks : List (Option ConfError)} {store : ConfParams → ConfParams}

/-- A setter keeps what the fields hold when its assignment does under its checks. -/
theorem confTypes_setParam (h : ConfTypes d ctx.confParams)
    (hstore : (∀ c ∈ checks, c = none) → ConfTypes d (store ctx.confParams)) :
    ConfTypes d (setParam checks store ctx).state.confParams := by
  rcases setParam_confParams with heq | ⟨hpass, heq⟩
  · rwa [heq]
  · rw [heq]
    exact hstore hpass

theorem confTypes_sval (hd : d.FieldTypes) (h : ConfTypes d ctx.confParams) (key : SvalKey)
    (v : Int64) : ConfTypes d (key.handle d ctx v).state.confParams := by
  cases key with
  | txPktMcs =>
    exact confTypes_setParam h fun _ => { h with txPktMcs := kept_conv hd.txPktMcs v }
  | txPktNum =>
    exact confTypes_setParam h fun _ => { h with txPktNum := kept_conv hd.txPktNum v }
  | txPktRate =>
    refine confTypes_setParam h fun hp => ?_
    have hcheck := hp _ (List.mem_cons_of_mem _ List.mem_cons_self)
    exact { h with
      txPktRate := kept_conv hd.txPktRate v
      rate := txPktRate_ne_five hd (Option.map_eq_none_iff.mp hcheck) }

theorem confTypes_setter (hd : d.FieldTypes) (h : ConfTypes d ctx.confParams) {key : ValKey}
    (v : UInt64) (hset : key.isSetter = true) :
    ConfTypes d (key.handle d o ctx v).state.confParams := by
  cases key with
  | txPktLen => exact confTypes_setParam h fun _ => { h with txPktLen := kept_txPktLen hd v }
  | txToneFreq =>
    have hsame : (nrfWifiRadioTestSetTxToneFreq ctx v).state = ctx :=
      setParam_of_error (setTxToneFreq_refuses ctx v)
    show ConfTypes d (nrfWifiRadioTestSetTxToneFreq ctx v).state.confParams
    rwa [hsame]
  | dpd | setXoVal | init | tx | rx | rxCap | txTone | getTemperature | getRfRssi
  | computeOptimalXoVal => exact absurd hset (by decide)
  | _ => exact confTypes_setParam h fun _ => { h with }

theorem confTypes_oneShot {test : RfTest} {call : FmacCall} {ok : Bool} {failed : ConfError}
    (h : ConfTypes d ctx.confParams) (hstore : ConfTypes d (store ctx.confParams)) :
    ConfTypes d (oneShot checks test call ok failed store ctx).state.confParams := by
  by_cases hp : ∀ c ∈ checks, c = none
  · rw [oneShot_of_pass hp]
    split
    · exact hstore
    · exact h
  · obtain ⟨e, he⟩ := oneShot_of_not_pass test call ok failed store ctx hp
    rwa [he]

theorem confTypes_setTx (h : ConfTypes d ctx.confParams) (v : UInt64) :
    ConfTypes d (nrfWifiRadioTestSetTx d o ctx v).state.confParams := by
  by_cases hallow : TxAllowed d ctx v
  · rw [setTx_of_allowed hallow]
    show ConfTypes d (ctx.confParams.withTx d v)
    rw [ConfParams.withTx]
    split
    · exact { h with }
    · exact { h with }
  · obtain ⟨e, he⟩ := setTx_of_not_allowed (o := o) hallow
    rwa [he]

theorem confTypes_setRx (h : ConfTypes d ctx.confParams) (v : UInt64) :
    ConfTypes d (nrfWifiRadioTestSetRx o ctx v).state.confParams := by
  by_cases hallow : SwitchAllowed ctx v
  · rw [setRx_of_allowed hallow]
    exact { h with }
  · obtain ⟨e, he⟩ := setRx_of_not_allowed (o := o) hallow
    rwa [he]

theorem confTypes_init (hd : d.FieldTypes) (h : ConfTypes d ctx.confParams) (v : UInt64) :
    ConfTypes d (nrfWifiRadioTestInit d o ctx v).state.confParams := by
  cases hval : checkValidChannel v.toUInt8 with
  | false =>
    rw [nrfWifiRadioTestInit, hval, if_neg Bool.false_ne_true]
    exact h
  | true =>
    have hexit := init_exit d o ctx hval
    generalize nrfWifiRadioTestInit d o ctx v = r at hexit
    cases hexit with
    | rxFailed | txFailed | toneFailed => exact { h with }
    | confFailed => exact confTypes_clearedParams o hd
    | programmed => exact { confTypes_defaultParams (o := o) hd ctx.confParams.countryCode with }

/-- **Every command keeps what the fields hold.** -/
theorem confTypes_next (hd : d.FieldTypes) {s : RadioState} {c : Command}
    (h : ConfTypes d s.ctx.confParams) : ConfTypes d (c.next d o s).ctx.confParams := by
  show ConfTypes d (c.handle d o s.ctx).state.confParams
  cases c with
  | setDefaults =>
    show ConfTypes d (if o.rfParamsGet = true then _ else _)
    split
    · exact confTypes_defaultParams hd _
    · exact confTypes_clearedParams o hd
  | bypassInvalid | unknown => exact h
  | sval key v => exact confTypes_sval hd h key v
  | regDomain reg =>
    show ConfTypes d (nrfWifiRadioTestSetRegDomain o s.ctx reg).state.confParams
    rcases setRegDomain_cases o s.ctx reg with ⟨-, e, he⟩ | ⟨a, b, -, -, hstate, -⟩
    · rwa [he]
    · rw [hstate]
      exact { h with }
  | val key v =>
    by_cases hset : key.isSetter = true
    · exact confTypes_setter hd h v hset
    cases key with
    | tx => exact confTypes_setTx h v
    | rx => exact confTypes_setRx h v
    | init => exact confTypes_init hd h v
    | txTone =>
      show ConfTypes d (nrfWifiRadioTestTxTone o s.ctx v).state.confParams
      rwa [txTone_confParams]
    | rxCap =>
      show ConfTypes d (nrfWifiRadioTestRxCap d o s.ctx v).state.confParams
      rwa [rxCap_confParams]
    | setXoVal => exact confTypes_oneShot h { h with }
    | dpd | getTemperature | getRfRssi | computeOptimalXoVal => exact confTypes_oneShot h h
    | _ => exact absurd rfl hset

end Commands

/-- **What the fields hold throughout every sequence of writes** from a zeroed `conf_params`,
whatever FMAC answers. -/
theorem confTypes_throughout (hd : d.FieldTypes) (ctx : RadioCtx) (fw : Firmware)
    (ws : List ConfWrite) :
    (radioMachine d).Throughout (fun s => ConfTypes d s.ctx.confParams)
      ⟨{ ctx with confParams := .zero }, fw⟩ ws :=
  radioMachine_throughout d (P := fun s => ConfTypes d s.ctx.confParams) (confTypes_next hd)
    (confTypes_zero hd) ws

end Nrf70
