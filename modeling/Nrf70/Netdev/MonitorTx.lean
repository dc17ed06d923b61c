import Mathlib.Data.List.Induction
import Nrf70.Lib.Radiotap
import Nrf70.Netdev.Vif

/-!
# Frames injected on a monitor

Before a frame goes to the raw path of FMAC, its radiotap header is replaced by a raw header: the
length of what follows, a queue, and the rate the radiotap header asked for. A frame that starts
with the magic number of a raw header already has one, and is passed on as it is.

The firmware trusts the raw header. One that is built here has the right length, and its MCS is
capped; but a radiotap rate is only halved, so a rate that no legacy frame can have gets through,
and of a header that user space wrote nothing is looked at but the magic number.

## What is outside the repository

The layout of `struct raw_tx_pkt_header` and the numbers in it are nrfxlib's. They are in
`RawTxLib`, with what the code relies on: the magic number comes first and `LEGACY` is the first of
the modes.
The radiotap iterator is the kernel's, and a parameter: the fields it yields for a frame, until it
reports an end or an error. `skb_cow_head` is an outcome.

## Main results

* `parseTxMeta_eq` — the last field that gives a rate decides
* `prepare_reframes` — what preparation does to a frame, and that doing it again changes nothing
* `raw_headers_wellFormed_iff` — the frames whose raw header can be trusted
-/

namespace Nrf70

/-! ### The raw header -/

/-- `struct raw_tx_pkt_header`. -/
structure RawTxPktHeader where
  magicNum : UInt32
  dataRate : UInt8
  packetLength : UInt16
  txMode : UInt8
  queue : UInt8
  rawTxFlag : UInt8
  deriving DecidableEq, Repr

/-- The layout of the raw header and the numbers nrfxlib gives. -/
structure RawTxLib where
  magicNumRawtx : UInt32
  modeLegacy : UInt8
  modeHt : UInt8
  modeVht : UInt8
  acBe : UInt8
  sizeofHdr : ℕ
  /-- The structure in memory. -/
  bytes : RawTxPktHeader → List UInt8
  /-- The structure at the front of a buffer. -/
  read : List UInt8 → RawTxPktHeader
  length_bytes : ∀ h, (bytes h).length = sizeofHdr
  read_bytes : ∀ h rest, read (bytes h ++ rest) = h
  take_bytes : ∀ h, (bytes h).take 4 = le32 h.magicNum
  four_le : 4 ≤ sizeofHdr
  modeLegacy_eq : modeLegacy = 0
  modeHt_ne : modeHt ≠ 0
  modeVht_ne : modeVht ≠ 0

/-- The numbers of nrfxlib's public headers, and the layout a C compiler gives the structure. -/
def RawTxLib.headers : RawTxLib where
  magicNumRawtx := 0x12345678
  modeLegacy := 0
  modeHt := 1
  modeVht := 2
  acBe := 1
  sizeofHdr := 12
  bytes h := le32 h.magicNum ++ [h.dataRate, 0] ++ le16 h.packetLength ++
    [h.txMode, h.queue, h.rawTxFlag, 0]
  read skb :=
    { magicNum := ofLe32 (skb.take 4)
      dataRate := skb[4]?.getD 0
      packetLength := UInt16.ofNat (ofLe ((skb.drop 6).take 2))
      txMode := skb[8]?.getD 0
      queue := skb[9]?.getD 0
      rawTxFlag := skb[10]?.getD 0 }
  length_bytes _ := rfl
  read_bytes h rest := by
    have hmagic : ofLe32 (le32 h.magicNum) = h.magicNum := ofLe32_le32 _
    have hlen : UInt16.ofNat (ofLe (le16 h.packetLength)) = h.packetLength := by
      rw [ofLe_le16, UInt16.ofNat_toNat]
    refine Eq.trans (b := RawTxPktHeader.mk (ofLe32 (le32 h.magicNum)) h.dataRate
      (UInt16.ofNat (ofLe (le16 h.packetLength))) h.txMode h.queue h.rawTxFlag) rfl ?_
    rw [hmagic, hlen]
  take_bytes _ := rfl
  four_le := by decide
  modeLegacy_eq := rfl
  modeHt_ne := by decide
  modeVht_ne := by decide

/-- `raw_hdr = {0}`. -/
def RawTxPktHeader.zero : RawTxPktHeader := ⟨0, 0, 0, 0, 0, 0⟩

/-! ### The rate of a radiotap header -/

def ieee80211RadiotapRate : ℕ := 2
def ieee80211RadiotapMcs : ℕ := 19
def ieee80211RadiotapVht : ℕ := 21
def ieee80211RadiotapMcsHaveMcs : UInt8 := 0x02

/-- `nrf_wifi_map_radiotap_rate`. -/
def nrfWifiMapRadiotapRate (rtRate : UInt8) : UInt8 :=
  if rtRate = 11 then 55 else if rtRate &&& 1 = 0 then rtRate / 2 else 0

variable (lib : RawTxLib) (iter : List UInt8 → List RadiotapField)

/-- The body of the loop of `nrf_wifi_parse_radiotap_tx_meta`. -/
def parseTxField (rawHdr : RawTxPktHeader) (f : RadiotapField) : RawTxPktHeader :=
  if f.index = ieee80211RadiotapRate then
    let mappedRate := nrfWifiMapRadiotapRate (f.byte 0)
    if mappedRate ≠ 0 then { rawHdr with txMode := lib.modeLegacy, dataRate := mappedRate }
    else rawHdr
  else if f.index = ieee80211RadiotapMcs then
    if f.byte 0 &&& ieee80211RadiotapMcsHaveMcs ≠ 0 then
      { rawHdr with txMode := lib.modeHt, dataRate := min (f.byte 2) 7 }
    else rawHdr
  else if f.index = ieee80211RadiotapVht then
    if 5 ≤ f.arg.length then
      { rawHdr with txMode := lib.modeVht, dataRate := min ((f.byte 4 >>> 4) &&& 0x0f) 9 }
    else rawHdr
  else rawHdr

/-- `nrf_wifi_parse_radiotap_tx_meta`. -/
def nrfWifiParseRadiotapTxMeta (skb : List UInt8) (rawHdr : RawTxPktHeader) : RawTxPktHeader :=
  (iter skb).foldl (parseTxField lib) rawHdr

/-! ### Preparing a frame -/

/-- The frame has a raw header already. -/
def HasMagic (skb : List UInt8) : Prop :=
  lib.sizeofHdr ≤ skb.length ∧ ofLe32 (skb.take 4) = lib.magicNumRawtx

instance (skb : List UInt8) : Decidable (HasMagic lib skb) := inferInstanceAs (Decidable (_ ∧ _))

/-- `U16_MAX`. -/
def u16Max : ℕ := 65535

/-- What `nrf_wifi_prepare_monitor_tx_skb` returns: `0`, `-EINVAL` or `-ENOMEM`. -/
inductive PrepareRet
  | ok | einval | enomem
  deriving DecidableEq, Repr

/-- The end of `nrf_wifi_prepare_monitor_tx_skb`, with the radiotap header removed. -/
def pushRawHdr (skb : List UInt8) (rawHdr : RawTxPktHeader) (cowHead : Bool) :
    List UInt8 × PrepareRet :=
  if u16Max < skb.length then (skb, .einval)
  else if !cowHead then (skb, .enomem)
  else
    let rawHdr := { rawHdr with magicNum := lib.magicNumRawtx }
    let rawHdr :=
      if rawHdr.txMode = 0 ∧ rawHdr.dataRate = 0 then
        { rawHdr with txMode := lib.modeLegacy, dataRate := 0 }
      else rawHdr
    let rawHdr := { rawHdr with
      packetLength := UInt16.ofNat skb.length, queue := lib.acBe, rawTxFlag := 1 }
    (lib.bytes rawHdr ++ skb, .ok)

/-- `nrf_wifi_prepare_monitor_tx_skb`: the buffer after it, and its return value. -/
def nrfWifiPrepareMonitorTxSkb (skb : List UInt8) (cowHead : Bool) : List UInt8 × PrepareRet :=
  if HasMagic lib skb then (skb, .ok)
  else if radiotapHdrSize ≤ skb.length then
    if itVersion skb = 0 then
      let rtapLen := itLen skb
      if radiotapHdrSize ≤ rtapLen ∧ rtapLen ≤ skb.length then
        pushRawHdr lib (skb.drop rtapLen) (nrfWifiParseRadiotapTxMeta lib iter skb .zero) cowHead
      else pushRawHdr lib skb .zero cowHead
    else pushRawHdr lib skb .zero cowHead
  else pushRawHdr lib skb .zero cowHead

/-! ### What preparation is for -/

/-- The frame starts with a radiotap header that fits into it. -/
def HasRadiotap (f : List UInt8) : Prop :=
  radiotapHdrSize ≤ f.length ∧ itVersion f = 0 ∧ radiotapHdrSize ≤ itLen f ∧ itLen f ≤ f.length

instance (f : List UInt8) : Decidable (HasRadiotap f) := inferInstanceAs (Decidable (_ ∧ _))

/-- The frame without its radiotap header. -/
def payload (f : List UInt8) : List UInt8 := if HasRadiotap f then f.drop (itLen f) else f

/-- The fields of its radiotap header. -/
def txFields (f : List UInt8) : List RadiotapField := if HasRadiotap f then iter f else []

/-- The mode and the rate a field asks for, if it asks for any. -/
def RadiotapField.txRate (f : RadiotapField) : Option (UInt8 × UInt8) :=
  if f.index = ieee80211RadiotapRate then
    if nrfWifiMapRadiotapRate (f.byte 0) ≠ 0 then
      some (lib.modeLegacy, nrfWifiMapRadiotapRate (f.byte 0))
    else none
  else if f.index = ieee80211RadiotapMcs then
    if f.byte 0 &&& ieee80211RadiotapMcsHaveMcs ≠ 0 then some (lib.modeHt, min (f.byte 2) 7)
    else none
  else if f.index = ieee80211RadiotapVht then
    if 5 ≤ f.arg.length then some (lib.modeVht, min ((f.byte 4 >>> 4) &&& 0x0f) 9) else none
  else none

/-- The field that decides: the last one that asks for a rate. -/
def decidingField (fields : List RadiotapField) : Option RadiotapField :=
  (fields.filter fun f => (f.txRate lib).isSome).getLast?

/-- The mode and the rate of a frame: those of the deciding field, or `LEGACY` and no rate. -/
def txRateOf (fields : List RadiotapField) : UInt8 × UInt8 :=
  ((decidingField lib fields).bind (RadiotapField.txRate lib)).getD (lib.modeLegacy, 0)

/-- The raw header of a frame of `len` bytes. -/
def rawHdrFor (len : ℕ) (rate : UInt8 × UInt8) : RawTxPktHeader where
  magicNum := lib.magicNumRawtx
  dataRate := rate.2
  packetLength := UInt16.ofNat len
  txMode := rate.1
  queue := lib.acBe
  rawTxFlag := 1

variable {lib iter} {f : List UInt8}

/-! ### The loop over the fields -/

/-- A field sets the mode and the rate it asks for. -/
theorem parseTxField_eq (rawHdr : RawTxPktHeader) (f : RadiotapField) :
    parseTxField lib rawHdr f =
      match f.txRate lib with
      | none => rawHdr
      | some (mode, rate) => { rawHdr with txMode := mode, dataRate := rate } := by
  simp only [parseTxField, RadiotapField.txRate]
  split_ifs <;> rfl

/-- The last field decides, if it asks for a rate. -/
theorem decidingField_append (fields : List RadiotapField) (f : RadiotapField) :
    decidingField lib (fields ++ [f]) =
      if (f.txRate lib).isSome then some f else decidingField lib fields := by
  rw [decidingField, List.filter_append]
  split_ifs with h
  · simp [h]
  · simp [h, decidingField]

/-- **The last field that asks for a rate decides.** -/
theorem parseTxFields_eq (rawHdr : RawTxPktHeader) (fields : List RadiotapField) :
    fields.foldl (parseTxField lib) rawHdr =
      let rate := ((decidingField lib fields).bind (RadiotapField.txRate lib)).getD
        (rawHdr.txMode, rawHdr.dataRate)
      { rawHdr with txMode := rate.1, dataRate := rate.2 } := by
  induction fields using List.reverseRecOn with
  | nil => rfl
  | append_singleton fields f ih =>
    rw [List.foldl_append, List.foldl_cons, List.foldl_nil, ih, parseTxField_eq,
      decidingField_append]
    cases hf : f.txRate lib with
    | none => simp
    | some rate => simp [hf]

/-! ### The whole of it -/

/-- A frame without a raw header is given one, in front of its payload. -/
theorem prepare_eq (hmagic : ¬ HasMagic lib f) (cowHead : Bool) :
    nrfWifiPrepareMonitorTxSkb lib iter f cowHead =
      pushRawHdr lib (payload f) ((txFields iter f).foldl (parseTxField lib) .zero) cowHead := by
  rw [nrfWifiPrepareMonitorTxSkb, if_neg hmagic, payload, txFields]
  by_cases h : HasRadiotap f
  · rw [if_pos h, if_pos h, if_pos h.1, if_pos h.2.1, if_pos h.2.2]
    rfl
  · rw [if_neg h, if_neg h]
    by_cases hlen : radiotapHdrSize ≤ f.length
    · rw [if_pos hlen]
      by_cases hversion : itVersion f = 0
      · rw [if_pos hversion]
        exact if_neg fun hfits => h ⟨hlen, hversion, hfits⟩
      · rw [if_neg hversion]
        rfl
    · rw [if_neg hlen]
      rfl

/-- The header it is given, with a mode and a rate. -/
theorem pushRawHdr_of_rate {skb : List UInt8} (rate : UInt8 × UInt8) (h : skb.length ≤ u16Max) :
    pushRawHdr lib skb { RawTxPktHeader.zero with txMode := rate.1, dataRate := rate.2 } true =
      (lib.bytes (rawHdrFor lib skb.length rate) ++ skb, .ok) := by
  obtain ⟨mode, rate⟩ := rate
  rw [pushRawHdr, if_neg (Nat.not_lt.mpr h)]
  by_cases hzero : mode = 0 ∧ rate = 0
  · obtain ⟨rfl, rfl⟩ := hzero
    simp [rawHdrFor, lib.modeLegacy_eq]
  · simp [hzero, rawHdrFor]

/-- A frame that fits is given the header of its payload and of the rate it asks for. -/
theorem prepare_of_fits (hmagic : ¬ HasMagic lib f) (h : (payload f).length ≤ u16Max) :
    nrfWifiPrepareMonitorTxSkb lib iter f true =
      (lib.bytes (rawHdrFor lib (payload f).length (txRateOf lib (txFields iter f))) ++ payload f,
        .ok) := by
  have hzero : (RawTxPktHeader.zero.txMode, RawTxPktHeader.zero.dataRate) =
      (lib.modeLegacy, 0) := by
    rw [lib.modeLegacy_eq]
    rfl
  rw [prepare_eq hmagic, parseTxFields_eq, hzero]
  exact pushRawHdr_of_rate _ h

/-- A frame that does not fit, or finds no head-room, is refused. -/
theorem prepare_refused (hmagic : ¬ HasMagic lib f) {cowHead : Bool}
    (h : u16Max < (payload f).length ∨ cowHead = false) :
    (nrfWifiPrepareMonitorTxSkb lib iter f cowHead).2 ≠ .ok ∧
      (u16Max < (payload f).length →
        (nrfWifiPrepareMonitorTxSkb lib iter f cowHead).2 = .einval) := by
  have heinval : PrepareRet.einval ≠ .ok := by decide
  have henomem : PrepareRet.enomem ≠ .ok := by decide
  rw [prepare_eq hmagic, pushRawHdr]
  by_cases hlong : u16Max < (payload f).length
  · rw [if_pos hlong]
    exact ⟨heinval, fun _ => rfl⟩
  · obtain rfl := h.resolve_left hlong
    rw [if_neg hlong]
    exact ⟨henomem, fun h => absurd h hlong⟩

/-- A frame with a raw header in front has the magic number. -/
theorem hasMagic_bytes {h : RawTxPktHeader} (hmagic : h.magicNum = lib.magicNumRawtx)
    (skb : List UInt8) : HasMagic lib (lib.bytes h ++ skb) := by
  have hfour := lib.four_le
  refine ⟨by rw [List.length_append, lib.length_bytes]; omega, ?_⟩
  rw [List.take_append_of_le_length (by rw [lib.length_bytes]; exact hfour), lib.take_bytes, hmagic,
    ofLe32_le32]

/-- **What preparation does.** A frame without a raw header whose payload is too long is refused.
Any other is given a raw header for its payload, with the mode and the rate of the deciding field;
and preparing the result again leaves it as it is. -/
theorem prepare_reframes (f : List UInt8) (hmagic : ¬ HasMagic lib f) :
    (u16Max < (payload f).length → (nrfWifiPrepareMonitorTxSkb lib iter f true).2 = .einval) ∧
    ((payload f).length ≤ u16Max → ∃ h,
      nrfWifiPrepareMonitorTxSkb lib iter f true = (lib.bytes h ++ payload f, .ok) ∧
      h.magicNum = lib.magicNumRawtx ∧ h.packetLength.toNat = (payload f).length ∧
      h.queue = lib.acBe ∧ h.rawTxFlag = 1 ∧
      (h.txMode, h.dataRate) = txRateOf lib (txFields iter f) ∧
      ∀ cowHead, nrfWifiPrepareMonitorTxSkb lib iter (lib.bytes h ++ payload f) cowHead =
        (lib.bytes h ++ payload f, .ok)) := by
  constructor
  · intro hlong
    exact (prepare_refused hmagic (Or.inl hlong)).2 hlong
  · intro hfits
    refine ⟨_, prepare_of_fits hmagic hfits, rfl, ?_, rfl, rfl, rfl, fun cowHead => ?_⟩
    · have hlt : (payload f).length < 2 ^ 16 := Nat.lt_succ_of_le hfits
      rw [rawHdrFor, UInt16.toNat_ofNat', Nat.mod_eq_of_lt hlt]
    · rw [nrfWifiPrepareMonitorTxSkb, if_pos (hasMagic_bytes rfl _)]

/-- Four bytes behind a radiotap header that asks for HT MCS 9. -/
def mcsFrame : List UInt8 := [0, 0, 11, 0, 0, 0, 8, 0, 0x02, 0, 9] ++ [0x08, 0x01, 0x00, 0x00]

theorem prepare_reframes_mcs :
    ∃ h, nrfWifiPrepareMonitorTxSkb .headers radiotapFields mcsFrame true =
        (RawTxLib.headers.bytes h ++ [0x08, 0x01, 0x00, 0x00], .ok) ∧
      h.packetLength = 4 ∧ (h.txMode, h.dataRate) = (1, 7) := by
  obtain ⟨h, hprepare, -, hlen, -, -, hrate, -⟩ :=
    (@prepare_reframes .headers radiotapFields mcsFrame (by decide)).2 (by decide)
  have hpayload : payload mcsFrame = [0x08, 0x01, 0x00, 0x00] := by decide
  rw [hpayload] at hprepare hlen
  exact ⟨h, hprepare, UInt16.toNat_inj.mp hlen, hrate.trans (by decide)⟩

/-! ### What reaches FMAC -/

/-- The rates of a legacy frame, with `0` for one that is left open. -/
def rawLegacyRates : List UInt8 := [0, 1, 2, 55, 11, 6, 9, 12, 18, 24, 36, 48, 54]

/-- The radiotap rates that become one of them. `110`, which is 55 Mb/s, becomes the code for
5.5 Mb/s. -/
def rtapLegacyRates : List UInt8 := [2, 4, 11, 110, 22, 12, 18, 24, 36, 48, 72, 96, 108]

variable (lib iter)

/-- A mode with a rate it has. -/
def RateAllowed (rate : UInt8 × UInt8) : Prop :=
  (rate.1 = lib.modeLegacy ∧ rate.2 ∈ rawLegacyRates) ∨ (rate.1 = lib.modeHt ∧ rate.2 ≤ 7) ∨
    (rate.1 = lib.modeVht ∧ rate.2 ≤ 9)

instance (rate : UInt8 × UInt8) : Decidable (RateAllowed lib rate) :=
  inferInstanceAs (Decidable (_ ∨ _))

/-- The raw header of a buffer is consistent with it. -/
def WellFormedRaw (skb : List UInt8) : Prop :=
  lib.sizeofHdr ≤ skb.length ∧
    (lib.read skb).packetLength.toNat = skb.length - lib.sizeofHdr ∧
    RateAllowed lib ((lib.read skb).txMode, (lib.read skb).dataRate)

instance (skb : List UInt8) : Decidable (WellFormedRaw lib skb) :=
  inferInstanceAs (Decidable (_ ∧ _))

/-- The frames that can be injected safely: those with a consistent raw header of their own, and
those that are refused or whose deciding field is not a rate no legacy frame has. -/
def InjectsSafely (f : List UInt8) (cowHead : Bool) : Prop :=
  if HasMagic lib f then WellFormedRaw lib f
  else (payload f).length ≤ u16Max → cowHead = true →
    ∀ field, decidingField lib (txFields iter f) = some field →
      field.index = ieee80211RadiotapRate → field.byte 0 ∈ rtapLegacyRates

variable {lib iter}

/-- The radiotap rates that become a rate of a legacy frame. -/
theorem mapRadiotapRate_mem_iff (rate : UInt8) (h : nrfWifiMapRadiotapRate rate ≠ 0) :
    nrfWifiMapRadiotapRate rate ∈ rawLegacyRates ↔ rate ∈ rtapLegacyRates := by
  have hall : ∀ n < 256, nrfWifiMapRadiotapRate (UInt8.ofNat n) ≠ 0 →
      (nrfWifiMapRadiotapRate (UInt8.ofNat n) ∈ rawLegacyRates ↔
        UInt8.ofNat n ∈ rtapLegacyRates) := by decide +kernel
  have hrate := hall rate.toNat rate.toNat_lt
  rw [UInt8.ofNat_toNat] at hrate
  exact hrate h

/-- Only a `RATE` field can ask for a rate that is not allowed. -/
theorem rateAllowed_txRate_iff {field : RadiotapField} {rate : UInt8 × UInt8}
    (h : field.txRate lib = some rate) :
    RateAllowed lib rate ↔
      (field.index = ieee80211RadiotapRate → field.byte 0 ∈ rtapLegacyRates) := by
  rw [RadiotapField.txRate] at h
  split_ifs at h with hrate hmapped hmcs hhave hvht hsize
  · obtain rfl := Option.some.inj h
    have hht : lib.modeLegacy ≠ lib.modeHt := lib.modeLegacy_eq ▸ lib.modeHt_ne.symm
    have hvht : lib.modeLegacy ≠ lib.modeVht := lib.modeLegacy_eq ▸ lib.modeVht_ne.symm
    simp [RateAllowed, hht, hvht, hrate, mapRadiotapRate_mem_iff _ hmapped]
  · obtain rfl := Option.some.inj h
    exact iff_of_true (Or.inr (Or.inl ⟨rfl, Std.min_le_right⟩)) fun hidx => absurd hidx hrate
  · obtain rfl := Option.some.inj h
    exact iff_of_true (Or.inr (Or.inr ⟨rfl, Std.min_le_right⟩)) fun hidx => absurd hidx hrate

/-- The rate of a frame is allowed unless its deciding field asks for one that is not. -/
theorem rateAllowed_txRateOf_iff (fields : List RadiotapField) :
    RateAllowed lib (txRateOf lib fields) ↔
      ∀ field, decidingField lib fields = some field →
        field.index = ieee80211RadiotapRate → field.byte 0 ∈ rtapLegacyRates := by
  rw [txRateOf]
  cases hfield : decidingField lib fields with
  | none =>
    refine iff_of_true (Or.inl ⟨rfl, ?_⟩) (by simp)
    exact List.mem_cons_self
  | some field =>
    have hmem := List.mem_of_mem_getLast? (Option.mem_def.mpr hfield)
    obtain ⟨rate, hrate⟩ := Option.isSome_iff_exists.mp (List.mem_filter.mp hmem).2
    simp only [Option.bind_some, hrate, Option.getD_some, rateAllowed_txRate_iff hrate,
      Option.some.injEq, forall_eq']

/-- A raw header that is built here is as good as its rate. -/
theorem wellFormedRaw_rawHdrFor_iff {p : List UInt8} (h : p.length ≤ u16Max)
    (rate : UInt8 × UInt8) :
    WellFormedRaw lib (lib.bytes (rawHdrFor lib p.length rate) ++ p) ↔ RateAllowed lib rate := by
  have hlt : p.length < 2 ^ 16 := Nat.lt_succ_of_le h
  rw [WellFormedRaw, lib.read_bytes, List.length_append, lib.length_bytes]
  simp only [rawHdrFor, UInt16.toNat_ofNat', Nat.mod_eq_of_lt hlt, Nat.add_sub_cancel_left,
    Nat.le_add_right, true_and]

/-- What preparation lets through is consistent for exactly the frames that can be injected
safely. -/
theorem wellFormed_prepare_iff (f : List UInt8) (cowHead : Bool) :
    ((nrfWifiPrepareMonitorTxSkb lib iter f cowHead).2 = .ok →
      WellFormedRaw lib (nrfWifiPrepareMonitorTxSkb lib iter f cowHead).1) ↔
    InjectsSafely lib iter f cowHead := by
  rw [InjectsSafely]
  by_cases hmagic : HasMagic lib f
  · rw [if_pos hmagic, nrfWifiPrepareMonitorTxSkb, if_pos hmagic]
    exact forall_prop_of_true rfl
  rw [if_neg hmagic]
  by_cases hrefused : u16Max < (payload f).length ∨ cowHead = false
  · have hret := (@prepare_refused lib iter f hmagic cowHead hrefused).1
    refine iff_of_true (fun h => absurd h hret) fun hfits hcow => ?_
    rcases hrefused with hlong | hnone
    · omega
    · exact absurd (hcow.symm.trans hnone) (by decide)
  · obtain ⟨hfits, hcow⟩ := not_or.mp hrefused
    rw [Nat.not_lt] at hfits
    obtain rfl : cowHead = true := by simpa using hcow
    rw [prepare_of_fits hmagic hfits, forall_prop_of_true rfl, wellFormedRaw_rawHdrFor_iff hfits,
      rateAllowed_txRateOf_iff, forall_prop_of_true hfits, forall_prop_of_true rfl]

section Routine

variable {F : Type} {dev : DevCtx} {v : VifCtx F} {skb : F} {rest : List F}

/-- The routine passes on what was prepared. -/
theorem rawpktXmit_mem_iff (hmonitor : v.isMonitor = true) (hq : v.dataTxq = skb :: rest)
    (prep xmit : Bool) :
    TxEvent.rawpktXmit skb xmit ∈ (nrfCfg80211DataTxRoutine dev v prep xmit).2.2 ↔ prep = true := by
  have hmon : ∀ b, ({ v with wsDataTx := b, dataTxq := rest } : VifCtx F).isMonitor = true :=
    fun _ => hmonitor
  simp only [nrfCfg80211DataTxRoutine, hq, hmon, if_true]
  cases prep <;> simp

end Routine

/-- **Which raw headers can be trusted.** When a monitor hands a frame to the raw path of FMAC, the
raw header at its front is consistent with it for exactly the frames that can be injected
safely. -/
theorem raw_headers_wellFormed_iff {dev : DevCtx} {v : VifCtx (List UInt8)} {f : List UInt8}
    {rest : List (List UInt8)} (hmonitor : v.isMonitor = true) (hq : v.dataTxq = f :: rest)
    (cowHead xmit : Bool) :
    (TxEvent.rawpktXmit f xmit ∈ (nrfCfg80211DataTxRoutine dev v
        (decide ((nrfWifiPrepareMonitorTxSkb lib iter f cowHead).2 = .ok)) xmit).2.2 →
      WellFormedRaw lib (nrfWifiPrepareMonitorTxSkb lib iter f cowHead).1) ↔
    InjectsSafely lib iter f cowHead := by
  rw [rawpktXmit_mem_iff hmonitor hq, decide_eq_true_iff]
  exact wellFormed_prepare_iff f cowHead

/-- A monitor with one frame to send. -/
def monitorWith (f : List UInt8) : VifCtx (List UInt8) :=
  { nrfWifiNetdevAddVif (List UInt8) .monitor none with dataTxq := [f] }

theorem raw_headers_wellFormed_iff_mcs :
    WellFormedRaw .headers
      (nrfWifiPrepareMonitorTxSkb .headers radiotapFields mcsFrame true).1 := by
  refine (@raw_headers_wellFormed_iff .headers radiotapFields .zero (monitorWith mcsFrame) mcsFrame
    [] rfl rfl true true).mpr ?_ ?_
  · rw [InjectsSafely, if_neg (by decide)]
    intro _ _ field hfield hrate
    have hmcs : decidingField .headers (txFields radiotapFields mcsFrame) =
        some ⟨ieee80211RadiotapMcs, [0x02, 0, 9]⟩ := by decide
    rw [hmcs] at hfield
    rw [← Option.some.inj hfield] at hrate
    exact absurd hrate (by decide)
  · decide

/-- Four bytes behind a radiotap header that asks for 7 Mb/s. -/
def sevenMbpsFrame : List UInt8 := [0, 0, 9, 0, 4, 0, 0, 0, 14] ++ [0x08, 0x01, 0x00, 0x00]

/-- Four bytes behind a raw header that says five. -/
def wrongLengthFrame : List UInt8 :=
  RawTxLib.headers.bytes ⟨0x12345678, 0, 5, 0, 1, 1⟩ ++ [0x08, 0x01, 0x00, 0x00]

/-- **Raw headers that cannot be trusted.** Both frames reach the raw path, one with a legacy rate
of 7 Mb/s and the other with a length that is not that of its payload. -/
theorem untrusted_raw_headers :
    (TxEvent.rawpktXmit sevenMbpsFrame true ∈ (nrfCfg80211DataTxRoutine .zero
        (monitorWith sevenMbpsFrame) (decide ((nrfWifiPrepareMonitorTxSkb .headers radiotapFields
          sevenMbpsFrame true).2 = .ok)) true).2.2 ∧
      ¬ WellFormedRaw .headers
        (nrfWifiPrepareMonitorTxSkb .headers radiotapFields sevenMbpsFrame true).1) ∧
    (TxEvent.rawpktXmit wrongLengthFrame true ∈ (nrfCfg80211DataTxRoutine .zero
        (monitorWith wrongLengthFrame) (decide ((nrfWifiPrepareMonitorTxSkb .headers radiotapFields
          wrongLengthFrame true).2 = .ok)) true).2.2 ∧
      ¬ WellFormedRaw .headers
        (nrfWifiPrepareMonitorTxSkb .headers radiotapFields wrongLengthFrame true).1) := by
  refine ⟨⟨?_, ?_⟩, ⟨?_, ?_⟩⟩
  all_goals decide

end Nrf70
