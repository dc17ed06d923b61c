import Mathlib.Data.List.Basic
import Nrf70.Lib.CInt

/-!
# The copies into commands

A command to the firmware is a structure of fixed-size arrays, each with a field for the number of
bytes in it, and the handlers of `cfg80211_if.c` fill them with `memcpy`. Lengths come from user
space and from the air, in whatever type the kernel has for them: `int`, `u8` or `size_t`.
`nrf_wifi_cfg80211_auth` and `nrf_wifi_cfg80211_assoc` compare each length with the size of the
array first, and give up when it is too long. The other handlers do not.

Only lengths matter here: a handler is the list of the copies it makes.

## What is outside the repository

The arrays and the types of their length fields are nrfxlib's, `CmdLayout`. A length field holds
every length up to the size of its array, and every byte. The limits that the handlers compare with
are the sizes of the arrays. The SSID element is what `cfg80211_find_ie` returned: its offset, and
its length byte.

## Main results

* `command_copies_iff` — the lengths with which each handler's copies fit
-/

namespace Nrf70

/-! ### Arrays and copies -/

/-- An array of a command. `store` converts a number to the type of its length field. -/
structure CmdArray where
  cap : ℕ
  store : ℤ → ℤ
  cap_lt : cap < 2 ^ 31
  store_eq : ∀ n : ℤ, 0 ≤ n → n ≤ cap ∨ n < 256 → store n = n

/-- A `memcpy` into an array: the number of bytes, and what the length field is set to. -/
structure Copy where
  dst : CmdArray
  copied : ℕ
  stored : ℤ

/-- The bytes fit into the array, and are as many as the length field says. -/
def Copy.Fits (c : Copy) : Prop := c.copied ≤ c.dst.cap ∧ c.stored = c.copied

/-- All copies of a handler fit. -/
def CopiesFit (copies : List Copy) : Prop := ∀ c ∈ copies, c.Fits

/-- `memcpy(array, src, len); array_len = len;`. -/
def CmdArray.copy (a : CmdArray) (len : ℤ) : Copy := ⟨a, toSizeT len, a.store len⟩

/-- A copy behind a check: a length above the size of the array ends the handler. -/
def CmdArray.checkedCopy (a : CmdArray) (len : ℤ) (rest : List Copy) : List Copy :=
  if len > a.cap then [] else a.copy len :: rest

/-- A field of a request that may be left out, copied behind a check. -/
def CmdArray.optionalCopy (a : CmdArray) (len : ℕ) (rest : List Copy) : List Copy :=
  if len ≠ 0 then a.checkedCopy len rest else rest

/-! ### The handlers -/

/-- The arrays that the handlers fill. -/
structure CmdLayout where
  key : CmdArray
  seq : CmdArray
  bssIe : CmdArray
  ssid : CmdArray
  saeData : CmdArray
  wpaIe : CmdArray
  frame : CmdArray
  supportedChannels : CmdArray
  supportedOperClasses : CmdArray
  basicRates : CmdArray

/-- The lengths in a `struct key_params`. -/
structure KeyLengths where
  keyLen : Int32
  seqLen : Int32

/-- The lengths in a `struct cfg80211_auth_request`. `iesLen` is `none` for NULL `ies`. -/
structure AuthLengths where
  iesLen : Option Int32
  ssidIe : Option (ℕ × UInt8)
  keyLen : UInt8
  authDataLen : UInt64

/-- The lengths in a `struct cfg80211_assoc_request`. -/
structure AssocLengths where
  iesLen : Option Int32
  ssidIe : Option (ℕ × UInt8)
  ieLen : UInt64

/-- The lengths in a `struct station_parameters`. -/
structure StaLengths where
  supportedChannelsLen : UInt8
  supportedOperClassesLen : UInt8

section Handlers

variable (lay : CmdLayout)

/-- `nrf_wifi_cfg80211_add_key`. -/
def nrfWifiCfg80211AddKeyCopies (params : Option KeyLengths) (alloc : Bool) : List Copy :=
  match params with
  | none => []
  | some params =>
    if !alloc then []
    else
      (if params.keyLen ≠ 0 then [lay.key.copy params.keyLen.toInt] else []) ++
        if params.seqLen ≠ 0 then [lay.seq.copy params.seqLen.toInt] else []

/-- The copy of the SSID, which `auth` and `assoc` make alike, and what comes behind it. -/
def ssidCopies (iesLen : Int32) (ssidIe : Option (ℕ × UInt8)) (rest : List Copy) : List Copy :=
  match ssidIe with
  | none => []
  | some (off, len) =>
    if iesLen.toInt < 2 ∨ (off + 2 + len.toNat : ℤ) > iesLen.toInt then []
    -- it is the length field that is compared
    else if lay.ssid.store len.toNat > lay.ssid.cap then []
    else lay.ssid.copy len.toNat :: rest

/-- `nrf_wifi_cfg80211_auth`. -/
def nrfWifiCfg80211AuthCopies (req : AuthLengths) (alloc : Bool) : List Copy :=
  if !alloc then []
  else
    match req.iesLen with
    | none => []
    | some iesLen =>
      if iesLen = 0 then []
      else
        lay.bssIe.checkedCopy iesLen.toInt <|
          ssidCopies lay iesLen req.ssidIe <|
            lay.key.optionalCopy req.keyLen.toNat <|
              lay.saeData.optionalCopy req.authDataLen.toNat []

/-- `nrf_wifi_cfg80211_assoc`. -/
def nrfWifiCfg80211AssocCopies (req : AssocLengths) (alloc : Bool) : List Copy :=
  if !alloc then []
  else
    match req.iesLen with
    | none => []
    | some iesLen =>
      if iesLen = 0 then []
      else ssidCopies lay iesLen req.ssidIe (lay.wpaIe.optionalCopy req.ieLen.toNat [])

/-- `nrf_wifi_cfg80211_mgmt_tx`. -/
def nrfWifiCfg80211MgmtTxCopies (len : UInt64) (alloc : Bool) : List Copy :=
  if !alloc then [] else if len ≠ 0 then [lay.frame.copy len.toNat] else []

/-- `nrf_wifi_cfg80211_chg_sta`. -/
def nrfWifiCfg80211ChgStaCopies (params : StaLengths) (alloc : Bool) : List Copy :=
  if !alloc then []
  else
    (if params.supportedChannelsLen > 0 then
      [lay.supportedChannels.copy params.supportedChannelsLen.toNat] else []) ++
    if params.supportedOperClassesLen > 0 then
      [lay.supportedOperClasses.copy params.supportedOperClassesLen.toNat] else []

/-- `nrf_wifi_cfg80211_chg_bss`, which copies as many bytes as its length field says. -/
def nrfWifiCfg80211ChgBssCopies (basicRatesLen : UInt8) (alloc : Bool) : List Copy :=
  if !alloc then []
  else
    let numBasicRates := lay.basicRates.store basicRatesLen.toNat
    [⟨lay.basicRates, toSizeT numBasicRates, numBasicRates⟩]

end Handlers

/-! ### When a copy fits -/

section Fits

variable {a : CmdArray} {copies : List Copy}

@[simp] theorem copiesFit_nil : CopiesFit [] := by simp [CopiesFit]

@[simp] theorem copiesFit_cons {c : Copy} :
    CopiesFit (c :: copies) ↔ c.Fits ∧ CopiesFit copies := by
  simp [CopiesFit]

@[simp] theorem copiesFit_append {copies' : List Copy} :
    CopiesFit (copies ++ copies') ↔ CopiesFit copies ∧ CopiesFit copies' := by
  simp [CopiesFit, or_imp, forall_and]

/-- A copy fits when the length is that of no more than the array; a negative one is not. -/
theorem fits_copy_iff {len : ℤ} (hlow : -2 ^ 31 ≤ len) (hhigh : len < 2 ^ 64) :
    (a.copy len).Fits ↔ 0 ≤ len ∧ len ≤ a.cap := by
  have hcap := a.cap_lt
  rw [Copy.Fits, CmdArray.copy, toSizeT]
  constructor
  · rintro ⟨hfits, -⟩
    dsimp only at hfits
    omega
  · rintro ⟨hpos, hle⟩
    have hsame : ((len % 2 ^ 64).toNat : ℤ) = len := by omega
    refine ⟨show (len % 2 ^ 64).toNat ≤ a.cap by omega, ?_⟩
    show a.store len = ((len % 2 ^ 64).toNat : ℤ)
    rw [a.store_eq len hpos (.inl hle), hsame]

theorem fits_copy_nat_iff {len : ℕ} (hlen : len < 2 ^ 64) :
    (a.copy len).Fits ↔ len ≤ a.cap := by
  rw [fits_copy_iff (by omega) (by omega)]
  omega

/-- What is behind a check fits, unless the length is negative. -/
theorem copiesFit_checkedCopy_iff {len : ℤ} (hlow : -2 ^ 31 ≤ len) (hrest : CopiesFit copies) :
    CopiesFit (a.checkedCopy len copies) ↔ 0 ≤ len := by
  have hcap := a.cap_lt
  rw [CmdArray.checkedCopy]
  split_ifs with hlong
  · exact iff_of_true copiesFit_nil (by omega)
  · rw [copiesFit_cons, fits_copy_iff hlow (by omega), and_iff_left hrest]
    omega

theorem copiesFit_optionalCopy (len : ℕ) (hrest : CopiesFit copies) :
    CopiesFit (a.optionalCopy len copies) := by
  rw [CmdArray.optionalCopy]
  split_ifs
  · exact (copiesFit_checkedCopy_iff (by omega) hrest).mpr (by omega)
  · exact hrest

/-- The copy of the SSID is behind a check. -/
theorem copiesFit_ssidCopies (lay : CmdLayout) (iesLen : Int32) (ssidIe : Option (ℕ × UInt8))
    (hrest : CopiesFit copies) : CopiesFit (ssidCopies lay iesLen ssidIe copies) := by
  cases ssidIe with
  | none => exact copiesFit_nil
  | some ie =>
    obtain ⟨off, len⟩ := ie
    have hbyte : len.toNat < 256 := len.toNat_lt
    have hstore : lay.ssid.store len.toNat = len.toNat :=
      lay.ssid.store_eq len.toNat (by omega) (.inr (by omega))
    simp only [ssidCopies, hstore]
    split_ifs with hbad hlong
    · exact copiesFit_nil
    · exact copiesFit_nil
    · rw [copiesFit_cons, fits_copy_nat_iff (by omega)]
      exact ⟨by omega, hrest⟩

end Fits

/-! ### When the copies of a handler fit -/

section Handlers

variable {lay : CmdLayout}

/-- An unchecked copy that is left out when the length is zero. -/
theorem copiesFit_ite_copy {a : CmdArray} {p : Prop} [Decidable p] {len : ℤ} (hzero : ¬ p → len = 0)
    (hlow : -2 ^ 31 ≤ len) (hhigh : len < 2 ^ 64) :
    CopiesFit (if p then [a.copy len] else []) ↔ 0 ≤ len ∧ len ≤ a.cap := by
  split_ifs with hp
  · rw [copiesFit_cons, fits_copy_iff hlow hhigh, and_iff_left copiesFit_nil]
  · have hlen := hzero hp
    exact iff_of_true copiesFit_nil (by omega)

theorem addKeyCopies_fit_iff (params : Option KeyLengths) (alloc : Bool) :
    CopiesFit (nrfWifiCfg80211AddKeyCopies lay params alloc) ↔
      (alloc = true → ∀ p, params = some p →
        (0 ≤ p.keyLen.toInt ∧ p.keyLen.toInt ≤ lay.key.cap) ∧
          0 ≤ p.seqLen.toInt ∧ p.seqLen.toInt ≤ lay.seq.cap) := by
  have hfield : ∀ (a : CmdArray) (len : Int32),
      CopiesFit (if len ≠ 0 then [a.copy len.toInt] else []) ↔
        0 ≤ len.toInt ∧ len.toInt ≤ a.cap := by
    intro a len
    have hlow := len.le_toInt
    have hhigh := len.toInt_lt
    refine copiesFit_ite_copy (fun hzero => ?_) hlow (by omega)
    rw [not_not.mp hzero]
    rfl
  cases params with
  | none => simp [nrfWifiCfg80211AddKeyCopies]
  | some p =>
    cases alloc with
    | false => simp [nrfWifiCfg80211AddKeyCopies]
    | true =>
      simp only [nrfWifiCfg80211AddKeyCopies, Bool.not_true, Bool.false_eq_true, if_false,
        copiesFit_append, hfield]
      simp

/-- Everything that `auth` copies behind the elements of the BSS is checked. -/
theorem authCopies_fit_iff (req : AuthLengths) (alloc : Bool) :
    CopiesFit (nrfWifiCfg80211AuthCopies lay req alloc) ↔
      (alloc = true → ∀ n, req.iesLen = some n → 0 ≤ n.toInt) := by
  rw [nrfWifiCfg80211AuthCopies]
  cases alloc with
  | false => simp
  | true =>
    cases req.iesLen with
    | none => simp
    | some n =>
      have hkey : CopiesFit (lay.key.optionalCopy req.keyLen.toNat
          (lay.saeData.optionalCopy req.authDataLen.toNat [])) :=
        copiesFit_optionalCopy _ (copiesFit_optionalCopy _ copiesFit_nil)
      simp only [Bool.not_true, Bool.false_eq_true, if_false, Option.some.injEq, forall_eq',
        true_imp_iff]
      split_ifs with hzero
      · simp [hzero]
      · exact copiesFit_checkedCopy_iff n.le_toInt (copiesFit_ssidCopies lay n req.ssidIe hkey)

/-- Everything that `assoc` copies is checked. -/
theorem assocCopies_fit (req : AssocLengths) (alloc : Bool) :
    CopiesFit (nrfWifiCfg80211AssocCopies lay req alloc) := by
  rw [nrfWifiCfg80211AssocCopies]
  cases alloc with
  | false => simp
  | true =>
    cases req.iesLen with
    | none => simp
    | some n =>
      simp only [Bool.not_true, Bool.false_eq_true, if_false]
      split_ifs
      · exact copiesFit_nil
      · exact copiesFit_ssidCopies lay n req.ssidIe (copiesFit_optionalCopy _ copiesFit_nil)

theorem mgmtTxCopies_fit_iff (len : UInt64) (alloc : Bool) :
    CopiesFit (nrfWifiCfg80211MgmtTxCopies lay len alloc) ↔
      (alloc = true → len.toNat ≤ lay.frame.cap) := by
  have hlen := len.toNat_lt
  rw [nrfWifiCfg80211MgmtTxCopies]
  cases alloc with
  | false => simp
  | true =>
    simp only [Bool.not_true, Bool.false_eq_true, if_false, true_imp_iff]
    rw [copiesFit_ite_copy (fun hzero => by rw [not_not.mp hzero]; rfl) (by omega) (by omega)]
    omega

theorem chgStaCopies_fit_iff (params : StaLengths) (alloc : Bool) :
    CopiesFit (nrfWifiCfg80211ChgStaCopies lay params alloc) ↔
      (alloc = true → params.supportedChannelsLen.toNat ≤ lay.supportedChannels.cap ∧
        params.supportedOperClassesLen.toNat ≤ lay.supportedOperClasses.cap) := by
  have hfield : ∀ (a : CmdArray) (len : UInt8),
      CopiesFit (if len > 0 then [a.copy len.toNat] else []) ↔ len.toNat ≤ a.cap := by
    intro a len
    have hbyte := len.toNat_lt
    rw [copiesFit_ite_copy (fun hzero => ?_) (by omega) (by omega)]
    · omega
    · rw [gt_iff_lt, UInt8.lt_iff_toNat_lt, UInt8.toNat_zero] at hzero
      omega
  rw [nrfWifiCfg80211ChgStaCopies]
  cases alloc with
  | false => simp
  | true =>
    simp only [Bool.not_true, Bool.false_eq_true, if_false, copiesFit_append, hfield, true_imp_iff]

theorem chgBssCopies_fit_iff (basicRatesLen : UInt8) (alloc : Bool) :
    CopiesFit (nrfWifiCfg80211ChgBssCopies lay basicRatesLen alloc) ↔
      (alloc = true → basicRatesLen.toNat ≤ lay.basicRates.cap) := by
  have hbyte := basicRatesLen.toNat_lt
  have hstore : lay.basicRates.store basicRatesLen.toNat = basicRatesLen.toNat :=
    lay.basicRates.store_eq _ (by omega) (.inr (by omega))
  rw [nrfWifiCfg80211ChgBssCopies]
  cases alloc with
  | false => simp
  | true =>
    have hcopy : (⟨lay.basicRates, toSizeT basicRatesLen.toNat, basicRatesLen.toNat⟩ : Copy) =
        lay.basicRates.copy basicRatesLen.toNat := by
      rw [CmdArray.copy, hstore]
    simp only [Bool.not_true, Bool.false_eq_true, if_false, hstore, true_imp_iff]
    rw [hcopy, copiesFit_cons, fits_copy_nat_iff (by omega), and_iff_left copiesFit_nil]

end Handlers

/-- **The copies that fit.** For every request, with its lengths any values of their types: what
`assoc` copies always fits, and what `auth` copies does unless the length of the elements is
negative. The four other handlers check nothing, and their copies fit exactly when the lengths
happen to be those of no more than the arrays. -/
theorem command_copies_iff (lay : CmdLayout) (alloc : Bool) (key : Option KeyLengths)
    (auth : AuthLengths) (assoc : AssocLengths) (len : UInt64) (sta : StaLengths)
    (basicRatesLen : UInt8) :
    (CopiesFit (nrfWifiCfg80211AddKeyCopies lay key alloc) ↔
      (alloc = true → ∀ p, key = some p →
        (0 ≤ p.keyLen.toInt ∧ p.keyLen.toInt ≤ lay.key.cap) ∧
          0 ≤ p.seqLen.toInt ∧ p.seqLen.toInt ≤ lay.seq.cap)) ∧
    (CopiesFit (nrfWifiCfg80211AuthCopies lay auth alloc) ↔
      (alloc = true → ∀ n, auth.iesLen = some n → 0 ≤ n.toInt)) ∧
    CopiesFit (nrfWifiCfg80211AssocCopies lay assoc alloc) ∧
    (CopiesFit (nrfWifiCfg80211MgmtTxCopies lay len alloc) ↔
      (alloc = true → len.toNat ≤ lay.frame.cap)) ∧
    (CopiesFit (nrfWifiCfg80211ChgStaCopies lay sta alloc) ↔
      (alloc = true → sta.supportedChannelsLen.toNat ≤ lay.supportedChannels.cap ∧
        sta.supportedOperClassesLen.toNat ≤ lay.supportedOperClasses.cap)) ∧
    (CopiesFit (nrfWifiCfg80211ChgBssCopies lay basicRatesLen alloc) ↔
      (alloc = true → basicRatesLen.toNat ≤ lay.basicRates.cap)) :=
  ⟨addKeyCopies_fit_iff key alloc, authCopies_fit_iff auth alloc, assocCopies_fit assoc alloc,
    mgmtTxCopies_fit_iff len alloc, chgStaCopies_fit_iff sta alloc,
    chgBssCopies_fit_iff basicRatesLen alloc⟩

/-- An array with a length field that holds every `int`. -/
def intArray (cap : ℕ) (hcap : cap < 2 ^ 31) : CmdArray := ⟨cap, id, hcap, fun _ _ _ => rfl⟩

/-- Arrays of the sizes that nrfxlib gives them. -/
def nrfxlibLayout : CmdLayout where
  key := intArray 32 (by decide)
  seq := intArray 256 (by decide)
  bssIe := intArray 400 (by decide)
  ssid := intArray 32 (by decide)
  saeData := intArray 256 (by decide)
  wpaIe := intArray 400 (by decide)
  frame := intArray 400 (by decide)
  supportedChannels := intArray 64 (by decide)
  supportedOperClasses := intArray 64 (by decide)
  basicRates := intArray 32 (by decide)

/-- A management frame of 401 bytes is copied into an array of 400. -/
theorem not_copiesFit_long_frame :
    ¬ CopiesFit (nrfWifiCfg80211MgmtTxCopies nrfxlibLayout 401 true) := by
  rw [mgmtTxCopies_fit_iff]
  decide

end Nrf70
