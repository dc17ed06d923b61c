import Mathlib.Data.List.Basic
import Mathlib.Logic.Function.Basic

/-!
# Station information

`sta_set_sinfo` copies what the firmware knows about a station into a `struct station_info` of
cfg80211: each field whose bit is set in `valid_fields`, with its own bit in `filled`. Two of the
fields are rates, which are taken apart. A rate of the firmware has two words of bits: which of its
fields are valid, and flags for its width and its guard interval.

The two rates are translated by two copies of one piece of code. The copy for the RX rate looks for
the bits of the VHT fields in the flags, where the other one looks among the valid fields.

## What is outside the repository

The bits of the firmware's words are nrfxlib's, and parameters here, `StaMasks`. A field that is
neither of the rates is copied as it is, so its type does not matter.

## Main results

* `rates_alike_iff` — the rates that both copies translate alike, and what else a rate changes
-/

namespace Nrf70

/-! ### Rates -/

/-- `enum rate_info_bw`, as far as the driver uses it. -/
inductive RateInfoBw
  | bw20
  | bw40
  | bw80
  | bw160
  deriving DecidableEq, Repr

/-- The fields of `struct rate_info` the driver writes. -/
@[ext]
structure RateInfo where
  flags : UInt16
  legacy : UInt16
  mcs : UInt8
  nss : UInt8
  bw : RateInfoBw
  deriving DecidableEq, Repr

/-- `struct nrf_wifi_rate_info`. -/
structure NrfWifiRateInfo where
  validFields : UInt32
  bitrate : UInt32
  nrfWifiMcs : UInt8
  vhtMcs : UInt8
  vhtNss : UInt8
  nrfWifiFlags : UInt32
  deriving DecidableEq, Repr

/-- `RATE_INFO_FLAGS_MCS`. -/
def rateInfoFlagsMcs : UInt16 := 1

/-- `RATE_INFO_FLAGS_VHT_MCS`. -/
def rateInfoFlagsVhtMcs : UInt16 := 2

/-- `RATE_INFO_FLAGS_SHORT_GI`. -/
def rateInfoFlagsShortGi : UInt16 := 4

/-- The bits of `nrf_wifi_flags`, `NRF_WIFI_RATE_INFO_*`, and of `valid_fields`,
`NRF_WIFI_RATE_INFO_BITRATE_*_VALID`. -/
structure RateMasks where
  width40 : UInt32
  width80 : UInt32
  width160 : UInt32
  shortGi : UInt32
  bitrateValid : UInt32
  mcsValid : UInt32
  vhtMcsValid : UInt32
  vhtNssValid : UInt32

section Rates

variable (m : RateMasks)

/-- The width of a rate. -/
def rateBw (nrfWifiFlags : UInt32) : RateInfoBw :=
  if nrfWifiFlags &&& m.width40 ≠ 0 then .bw40
  else if nrfWifiFlags &&& m.width80 ≠ 0 then .bw80
  else if nrfWifiFlags &&& m.width160 ≠ 0 then .bw160
  else .bw20

/-- The translation of a rate up to its VHT fields. -/
def rateLegacy (r : NrfWifiRateInfo) (rate : RateInfo) : RateInfo :=
  let rate := { rate with bw := rateBw m r.nrfWifiFlags }
  let rate := if r.nrfWifiFlags &&& m.shortGi ≠ 0 then
      { rate with flags := rate.flags ||| rateInfoFlagsShortGi } else rate
  let rate := if r.validFields &&& m.bitrateValid ≠ 0 then
      { rate with legacy := r.bitrate.toUInt16 } else rate
  if r.validFields &&& m.mcsValid ≠ 0 then
    { rate with mcs := r.nrfWifiMcs, flags := rate.flags ||| rateInfoFlagsMcs } else rate

/-- The VHT fields of a rate, with the word in which their bits are looked for. -/
def rateVht (word : UInt32) (r : NrfWifiRateInfo) (rate : RateInfo) : RateInfo :=
  let rate := if word &&& m.vhtMcsValid ≠ 0 then
      { rate with mcs := r.vhtMcs, flags := rate.flags ||| rateInfoFlagsVhtMcs } else rate
  if word &&& m.vhtNssValid ≠ 0 then { rate with nss := r.vhtNss } else rate

/-- The branch of `sta_set_sinfo` for the TX rate. -/
def staSetTxrate (r : NrfWifiRateInfo) (rate : RateInfo) : RateInfo :=
  rateVht m r.validFields r (rateLegacy m r rate)

/-- The branch of `sta_set_sinfo` for the RX rate. -/
def staSetRxrate (r : NrfWifiRateInfo) (rate : RateInfo) : RateInfo :=
  rateVht m r.nrfWifiFlags r (rateLegacy m r rate)

end Rates

/-! ### Station information -/

/-- The fields that are copied as they are. -/
inductive StaField
  | connectedTime | inactiveTime | rxBytes | txBytes | signal | signalAvg | staFlags | llid | plid
  | plinkState | rxPackets | txPackets | txRetries | txFailed | expectedThroughput
  | beaconLossCount | localPm | peerPm | nonpeerPm | tOffset | rxDroppedMisc | rxBeacon
  | rxBeaconSignalAvg | bssParam | chainSignal | chainSignalAvg
  deriving DecidableEq, Repr

/-- `NL80211_STA_INFO_TX_BITRATE`. -/
def nl80211StaInfoTxBitrate : UInt64 := 8

/-- `NL80211_STA_INFO_RX_BITRATE`. -/
def nl80211StaInfoRxBitrate : UInt64 := 14

/-- `NL80211_STA_INFO_*` of the other fields. -/
def nl80211StaInfo : StaField → UInt64
  | .connectedTime => 16
  | .inactiveTime => 1
  | .rxBytes => 2
  | .txBytes => 3
  | .signal => 7
  | .signalAvg => 13
  | .staFlags => 17
  | .llid => 4
  | .plid => 5
  | .plinkState => 6
  | .rxPackets => 9
  | .txPackets => 10
  | .txRetries => 11
  | .txFailed => 12
  | .expectedThroughput => 27
  | .beaconLossCount => 18
  | .localPm => 20
  | .peerPm => 21
  | .nonpeerPm => 22
  | .tOffset => 19
  | .rxDroppedMisc => 28
  | .rxBeacon => 29
  | .rxBeaconSignalAvg => 30
  | .bssParam => 15
  | .chainSignal => 25
  | .chainSignalAvg => 26

/-- `BIT`. -/
def bitOf (n : UInt64) : UInt64 := 1 <<< n

/-- nrfxlib's bits. -/
structure StaMasks extends RateMasks where
  txBitrateValid : UInt32
  rxBitrateValid : UInt32
  fieldValid : StaField → UInt32

/-- `struct nrf_wifi_sta_info`. -/
structure NrfWifiStaInfo (V : Type*) where
  validFields : UInt32
  value : StaField → V
  txBitrate : NrfWifiRateInfo
  rxBitrate : NrfWifiRateInfo

/-- `struct station_info`. -/
structure StationInfo (V : Type*) where
  filled : UInt64
  value : StaField → V
  txrate : RateInfo
  rxrate : RateInfo

section Station

variable {V : Type*} (m : StaMasks) (sta : NrfWifiStaInfo V)

/-- The branch of a field that is copied as it is. -/
def setField (sinfo : StationInfo V) (f : StaField) : StationInfo V :=
  if sta.validFields &&& m.fieldValid f ≠ 0 then
    { sinfo with
      value := Function.update sinfo.value f (sta.value f)
      filled := sinfo.filled ||| bitOf (nl80211StaInfo f) }
  else sinfo

/-- The branch of the TX rate. -/
def setTxBitrate (sinfo : StationInfo V) : StationInfo V :=
  if sta.validFields &&& m.txBitrateValid ≠ 0 then
    { sinfo with
      txrate := staSetTxrate m.toRateMasks sta.txBitrate sinfo.txrate
      filled := sinfo.filled ||| bitOf nl80211StaInfoTxBitrate }
  else sinfo

/-- The branch of the RX rate. -/
def setRxBitrate (sinfo : StationInfo V) : StationInfo V :=
  if sta.validFields &&& m.rxBitrateValid ≠ 0 then
    { sinfo with
      rxrate := staSetRxrate m.toRateMasks sta.rxBitrate sinfo.rxrate
      filled := sinfo.filled ||| bitOf nl80211StaInfoRxBitrate }
  else sinfo

/-- The fields before the rates, in the order of the source. -/
def fieldsBefore : List StaField :=
  [.connectedTime, .inactiveTime, .rxBytes, .txBytes, .signal, .signalAvg]

/-- The fields behind them. -/
def fieldsBehind : List StaField :=
  [.staFlags, .llid, .plid, .plinkState, .rxPackets, .txPackets, .txRetries, .txFailed,
    .expectedThroughput, .beaconLossCount, .localPm, .peerPm, .nonpeerPm, .tOffset, .rxDroppedMisc,
    .rxBeacon, .rxBeaconSignalAvg, .bssParam, .chainSignal, .chainSignalAvg]

/-- `sta_set_sinfo`. -/
def staSetSinfo (sinfo : StationInfo V) : StationInfo V :=
  let sinfo := fieldsBefore.foldl (setField m sta) sinfo
  let sinfo := setTxBitrate m sta sinfo
  let sinfo := setRxBitrate m sta sinfo
  fieldsBehind.foldl (setField m sta) sinfo

/-! ### What the other fields leave alone -/

@[simp] theorem txrate_setField (sinfo : StationInfo V) (f : StaField) :
    (setField m sta sinfo f).txrate = sinfo.txrate := by
  rw [setField]
  split_ifs <;> rfl

@[simp] theorem rxrate_setField (sinfo : StationInfo V) (f : StaField) :
    (setField m sta sinfo f).rxrate = sinfo.rxrate := by
  rw [setField]
  split_ifs <;> rfl

@[simp] theorem txrate_foldl_setField (fields : List StaField) (sinfo : StationInfo V) :
    (fields.foldl (setField m sta) sinfo).txrate = sinfo.txrate := by
  induction fields generalizing sinfo with
  | nil => rfl
  | cons f fields ih => rw [List.foldl_cons, ih, txrate_setField]

@[simp] theorem rxrate_foldl_setField (fields : List StaField) (sinfo : StationInfo V) :
    (fields.foldl (setField m sta) sinfo).rxrate = sinfo.rxrate := by
  induction fields generalizing sinfo with
  | nil => rfl
  | cons f fields ih => rw [List.foldl_cons, ih, rxrate_setField]

/-- The TX rate is the one its branch makes of the one that was there. -/
theorem txrate_staSetSinfo (sinfo : StationInfo V) :
    (staSetSinfo m sta sinfo).txrate =
      if sta.validFields &&& m.txBitrateValid ≠ 0 then
        staSetTxrate m.toRateMasks sta.txBitrate sinfo.txrate
      else sinfo.txrate := by
  simp only [staSetSinfo, txrate_foldl_setField]
  rw [setRxBitrate, setTxBitrate]
  split_ifs <;> simp

/-- The RX rate is the one its branch makes of the one that was there. -/
theorem rxrate_staSetSinfo (sinfo : StationInfo V) :
    (staSetSinfo m sta sinfo).rxrate =
      if sta.validFields &&& m.rxBitrateValid ≠ 0 then
        staSetRxrate m.toRateMasks sta.rxBitrate sinfo.rxrate
      else sinfo.rxrate := by
  simp only [staSetSinfo, rxrate_foldl_setField]
  rw [setRxBitrate, setTxBitrate]
  split_ifs <;> simp

/-- The firmware's record with other rates in it. -/
def NrfWifiStaInfo.withRates (tx rx : NrfWifiRateInfo) : NrfWifiStaInfo V :=
  { sta with txBitrate := tx, rxBitrate := rx }

/-- Two records of cfg80211 that differ in nothing but the rates. -/
def StationInfo.SameButRates (a b : StationInfo V) : Prop :=
  a.filled = b.filled ∧ a.value = b.value

variable {m sta}

theorem StationInfo.SameButRates.setField {a b : StationInfo V} (h : a.SameButRates b)
    (tx rx : NrfWifiRateInfo) (f : StaField) :
    (Nrf70.setField m (sta.withRates tx rx) a f).SameButRates (Nrf70.setField m sta b f) := by
  obtain ⟨hfilled, hvalue⟩ := h
  by_cases hvalid : sta.validFields &&& m.fieldValid f = 0
  · simp [SameButRates, Nrf70.setField, NrfWifiStaInfo.withRates, hvalid, hfilled, hvalue]
  · simp [SameButRates, Nrf70.setField, NrfWifiStaInfo.withRates, hvalid, hfilled, hvalue]

theorem StationInfo.SameButRates.foldl_setField {a b : StationInfo V} (h : a.SameButRates b)
    (tx rx : NrfWifiRateInfo) (fields : List StaField) :
    (fields.foldl (Nrf70.setField m (sta.withRates tx rx)) a).SameButRates
      (fields.foldl (Nrf70.setField m sta) b) := by
  induction fields generalizing a b with
  | nil => exact h
  | cons f fields ih => exact ih (h.setField tx rx f)

theorem StationInfo.SameButRates.setTxBitrate {a b : StationInfo V} (h : a.SameButRates b)
    (tx rx : NrfWifiRateInfo) :
    (Nrf70.setTxBitrate m (sta.withRates tx rx) a).SameButRates (Nrf70.setTxBitrate m sta b) := by
  obtain ⟨hfilled, hvalue⟩ := h
  by_cases hvalid : sta.validFields &&& m.txBitrateValid = 0
  · simp [SameButRates, Nrf70.setTxBitrate, NrfWifiStaInfo.withRates, hvalid, hfilled, hvalue]
  · simp [SameButRates, Nrf70.setTxBitrate, NrfWifiStaInfo.withRates, hvalid, hfilled, hvalue]

theorem StationInfo.SameButRates.setRxBitrate {a b : StationInfo V} (h : a.SameButRates b)
    (tx rx : NrfWifiRateInfo) :
    (Nrf70.setRxBitrate m (sta.withRates tx rx) a).SameButRates (Nrf70.setRxBitrate m sta b) := by
  obtain ⟨hfilled, hvalue⟩ := h
  by_cases hvalid : sta.validFields &&& m.rxBitrateValid = 0
  · simp [SameButRates, Nrf70.setRxBitrate, NrfWifiStaInfo.withRates, hvalid, hfilled, hvalue]
  · simp [SameButRates, Nrf70.setRxBitrate, NrfWifiStaInfo.withRates, hvalid, hfilled, hvalue]

/-- The rates of a record change nothing but the rates. -/
theorem sameButRates_staSetSinfo (tx rx : NrfWifiRateInfo) (sinfo : StationInfo V) :
    (staSetSinfo m (sta.withRates tx rx) sinfo).SameButRates (staSetSinfo m sta sinfo) := by
  have hstart : sinfo.SameButRates sinfo := ⟨rfl, rfl⟩
  have hbefore := @StationInfo.SameButRates.foldl_setField V m sta _ _ hstart tx rx fieldsBefore
  exact ((hbefore.setTxBitrate tx rx).setRxBitrate tx rx).foldl_setField tx rx fieldsBehind

end Station

/-! ### When the two copies agree -/

/-- A bit is in a word to which others have been added exactly when it is in the word. -/
theorem or_or_eq_iff {x a v : UInt16} (h : a &&& v = 0) :
    x ||| a ||| v = x ||| a ↔ x ||| v = x := by
  have hbits : ∀ k, ¬ (a.toBitVec.getLsbD k = true ∧ v.toBitVec.getLsbD k = true) := by
    intro k hk
    have hzero := congrArg (fun w : UInt16 => w.toBitVec.getLsbD k) h
    simp [hk.1, hk.2] at hzero
  constructor
  · intro heq
    refine UInt16.eq_of_toBitVec_eq (BitVec.eq_of_getLsbD_eq fun k hk => ?_)
    have hk := congrArg (fun w : UInt16 => w.toBitVec.getLsbD k) heq
    have hdisjoint := hbits k
    simp only [UInt16.toBitVec_or, BitVec.getLsbD_or] at hk ⊢
    grind
  · intro heq
    refine UInt16.eq_of_toBitVec_eq (BitVec.eq_of_getLsbD_eq fun k hk => ?_)
    have hk := congrArg (fun w : UInt16 => w.toBitVec.getLsbD k) heq
    simp only [UInt16.toBitVec_or, BitVec.getLsbD_or] at hk ⊢
    grind

section Agree

variable {m : RateMasks} {r : NrfWifiRateInfo} {rate : RateInfo}

/-- The VHT bit is not one that the other fields add. -/
theorem flags_rateLegacy_or_vht :
    (rateLegacy m r rate).flags ||| rateInfoFlagsVhtMcs = (rateLegacy m r rate).flags ↔
      rate.flags ||| rateInfoFlagsVhtMcs = rate.flags := by
  simp only [rateLegacy]
  split_ifs
  · rw [or_or_eq_iff (by decide), or_or_eq_iff (by decide)]
  · exact or_or_eq_iff (by decide)
  · rw [or_or_eq_iff (by decide), or_or_eq_iff (by decide)]
  · exact or_or_eq_iff (by decide)
  · exact or_or_eq_iff (by decide)
  · exact Iff.rfl
  · exact or_or_eq_iff (by decide)
  · exact Iff.rfl

theorem mcs_rateLegacy :
    (rateLegacy m r rate).mcs =
      if r.validFields &&& m.mcsValid ≠ 0 then r.nrfWifiMcs else rate.mcs := by
  simp only [rateLegacy]
  split_ifs <;> rfl

@[simp] theorem nss_rateLegacy : (rateLegacy m r rate).nss = rate.nss := by
  simp only [rateLegacy]
  split_ifs <;> rfl

theorem ite_eq_ite_iff {α : Type*} {p q : Prop} [Decidable p] [Decidable q] {a b : α} :
    ((if p then a else b) = if q then a else b) ↔ (p ↔ q) ∨ b = a := by
  by_cases hp : p <;> by_cases hq : q <;> simp [hp, hq, eq_comm]

theorem mcs_rateVht (w : UInt32) :
    (rateVht m w r rate).mcs = if w &&& m.vhtMcsValid ≠ 0 then r.vhtMcs else rate.mcs := by
  simp only [rateVht]
  split_ifs <;> rfl

theorem flags_rateVht (w : UInt32) :
    (rateVht m w r rate).flags =
      if w &&& m.vhtMcsValid ≠ 0 then rate.flags ||| rateInfoFlagsVhtMcs else rate.flags := by
  simp only [rateVht]
  split_ifs <;> rfl

theorem nss_rateVht (w : UInt32) :
    (rateVht m w r rate).nss = if w &&& m.vhtNssValid ≠ 0 then r.vhtNss else rate.nss := by
  simp only [rateVht]
  split_ifs <;> rfl

theorem legacy_rateVht (w : UInt32) : (rateVht m w r rate).legacy = rate.legacy := by
  simp only [rateVht]
  split_ifs <;> rfl

theorem bw_rateVht (w : UInt32) : (rateVht m w r rate).bw = rate.bw := by
  simp only [rateVht]
  split_ifs <;> rfl

/-- Two words give the same VHT fields when they have the same bits for them, or when the fields
hold already what they would be set to. -/
theorem rateVht_eq_iff (w w' : UInt32) :
    rateVht m w r rate = rateVht m w' r rate ↔
      ((w &&& m.vhtMcsValid ≠ 0 ↔ w' &&& m.vhtMcsValid ≠ 0) ∨
        rate.flags = rate.flags ||| rateInfoFlagsVhtMcs ∧ rate.mcs = r.vhtMcs) ∧
      ((w &&& m.vhtNssValid ≠ 0 ↔ w' &&& m.vhtNssValid ≠ 0) ∨ rate.nss = r.vhtNss) := by
  rw [RateInfo.ext_iff, flags_rateVht, flags_rateVht, mcs_rateVht, mcs_rateVht, nss_rateVht,
    nss_rateVht, legacy_rateVht, legacy_rateVht, bw_rateVht, bw_rateVht, ite_eq_ite_iff,
    ite_eq_ite_iff, ite_eq_ite_iff, or_and_left]
  constructor
  · rintro ⟨hflags, -, hmcs, hnss, -⟩
    exact ⟨⟨hflags, hmcs⟩, hnss⟩
  · rintro ⟨⟨hflags, hmcs⟩, hnss⟩
    exact ⟨hflags, rfl, hmcs, hnss, rfl⟩

/-- **When the two copies agree on a rate.** -/
theorem staSetRxrate_eq_iff :
    staSetRxrate m r rate = staSetTxrate m r rate ↔
      ((r.nrfWifiFlags &&& m.vhtMcsValid ≠ 0 ↔ r.validFields &&& m.vhtMcsValid ≠ 0) ∨
        rate.flags = rate.flags ||| rateInfoFlagsVhtMcs ∧
          (if r.validFields &&& m.mcsValid ≠ 0 then r.nrfWifiMcs else rate.mcs) = r.vhtMcs) ∧
      ((r.nrfWifiFlags &&& m.vhtNssValid ≠ 0 ↔ r.validFields &&& m.vhtNssValid ≠ 0) ∨
        rate.nss = r.vhtNss) := by
  have hflags : (rateLegacy m r rate).flags = (rateLegacy m r rate).flags ||| rateInfoFlagsVhtMcs ↔
      rate.flags = rate.flags ||| rateInfoFlagsVhtMcs := by
    rw [eq_comm, flags_rateLegacy_or_vht, eq_comm]
  rw [staSetRxrate, staSetTxrate, rateVht_eq_iff, hflags, mcs_rateLegacy, nss_rateLegacy]

end Agree

section Alike

variable {V : Type*} {m : StaMasks}

/-- **The rates that are translated alike.** From one record of the firmware and one rate to start
with, the RX rate becomes what the TX rate becomes exactly when the flags have the bits of the two
VHT fields that the valid fields have, or where they do not, the rate holds already what the field
would be set to. A rate whose bit is clear is left as it was, and a record changes no other field,
nor the other rate. -/
theorem rates_alike_iff {staTx staRx : NrfWifiStaInfo V} {sinfoTx sinfoRx : StationInfo V}
    (htx : staTx.validFields &&& m.txBitrateValid ≠ 0)
    (hrx : staRx.validFields &&& m.rxBitrateValid ≠ 0) {r : NrfWifiRateInfo} {rate : RateInfo}
    (hrTx : staTx.txBitrate = r) (hrRx : staRx.rxBitrate = r) (hrateTx : sinfoTx.txrate = rate)
    (hrateRx : sinfoRx.rxrate = rate) :
    ((staSetSinfo m staRx sinfoRx).rxrate = (staSetSinfo m staTx sinfoTx).txrate ↔
      ((r.nrfWifiFlags &&& m.vhtMcsValid ≠ 0 ↔ r.validFields &&& m.vhtMcsValid ≠ 0) ∨
        rate.flags = rate.flags ||| rateInfoFlagsVhtMcs ∧
          (if r.validFields &&& m.mcsValid ≠ 0 then r.nrfWifiMcs else rate.mcs) = r.vhtMcs) ∧
      ((r.nrfWifiFlags &&& m.vhtNssValid ≠ 0 ↔ r.validFields &&& m.vhtNssValid ≠ 0) ∨
        rate.nss = r.vhtNss)) ∧
    ∀ (sta : NrfWifiStaInfo V) (sinfo : StationInfo V),
      (sta.validFields &&& m.txBitrateValid = 0 →
        (staSetSinfo m sta sinfo).txrate = sinfo.txrate) ∧
      (sta.validFields &&& m.rxBitrateValid = 0 →
        (staSetSinfo m sta sinfo).rxrate = sinfo.rxrate) ∧
      ∀ tx rx, (staSetSinfo m (sta.withRates tx rx) sinfo).SameButRates (staSetSinfo m sta sinfo) ∧
        (staSetSinfo m (sta.withRates tx sta.rxBitrate) sinfo).rxrate =
          (staSetSinfo m sta sinfo).rxrate ∧
        (staSetSinfo m (sta.withRates sta.txBitrate rx) sinfo).txrate =
          (staSetSinfo m sta sinfo).txrate := by
  refine ⟨?_, fun sta sinfo => ⟨fun hclear => ?_, fun hclear => ?_, fun tx rx => ?_⟩⟩
  · rw [rxrate_staSetSinfo, txrate_staSetSinfo, if_pos htx, if_pos hrx, hrTx, hrRx, hrateTx,
      hrateRx, staSetRxrate_eq_iff]
  · rw [txrate_staSetSinfo, if_neg (not_not.mpr hclear)]
  · rw [rxrate_staSetSinfo, if_neg (not_not.mpr hclear)]
  · refine ⟨sameButRates_staSetSinfo tx rx sinfo, ?_, ?_⟩
    · rw [rxrate_staSetSinfo, rxrate_staSetSinfo]
      rfl
    · rw [txrate_staSetSinfo, txrate_staSetSinfo]
      rfl

end Alike

/-- Bits for both words, some of them the same. -/
def sampleMasks : StaMasks where
  width40 := 8
  width80 := 16
  width160 := 32
  shortGi := 64
  bitrateValid := 1
  mcsValid := 4
  vhtMcsValid := 8
  vhtNssValid := 16
  txBitrateValid := 64
  rxBitrateValid := 128
  fieldValid := fun _ => 1

/-- A record with one rate in both directions, and no other field. -/
def sampleStation (r : NrfWifiRateInfo) : NrfWifiStaInfo ℕ := ⟨192, fun _ => 0, r, r⟩

/-- Nothing has been filled in yet. -/
def emptyStationInfo : StationInfo ℕ := ⟨0, fun _ => 0, ⟨0, 0, 0, 0, .bw20⟩, ⟨0, 0, 0, 0, .bw20⟩⟩

/-- A rate without VHT fields is translated alike. -/
theorem rates_alike_iff_legacy :
    (staSetSinfo sampleMasks (sampleStation ⟨1, 540, 0, 0, 0, 0⟩) emptyStationInfo).rxrate =
      (staSetSinfo sampleMasks (sampleStation ⟨1, 540, 0, 0, 0, 0⟩) emptyStationInfo).txrate :=
  (rates_alike_iff (by decide) (by decide) rfl rfl rfl rfl).1.mpr (by decide)

/-- A rate at VHT MCS 7 with two streams: the RX rate has neither. -/
theorem rates_not_alike_vht :
    (staSetSinfo sampleMasks (sampleStation ⟨24, 0, 0, 7, 2, 0⟩) emptyStationInfo).txrate =
        ⟨rateInfoFlagsVhtMcs, 0, 7, 2, .bw20⟩ ∧
      (staSetSinfo sampleMasks (sampleStation ⟨24, 0, 0, 7, 2, 0⟩) emptyStationInfo).rxrate =
        ⟨0, 0, 0, 0, .bw20⟩ := by
  rw [txrate_staSetSinfo, rxrate_staSetSinfo]
  decide

end Nrf70
