import Mathlib.Data.Int.Notation
import Mathlib.Tactic.SplitIfs
import Nrf70.Lib.Radiotap

/-!
# The radiotap header of a received frame

A frame that arrives on a monitor is handed to the network core behind a radiotap header of 15
bytes. The header is a packed structure whose fields happen to lie where the radiotap rules put
them, so it can be parsed. Two of its fields are wrong: the test that tells CCK from OFDM compares a
rate in Mb/s with 22, as if it were in units of 500 kb/s, and the signal is cut down to its low byte
where the driver's own `rssi` divides by 100.

## What is outside the repository

`struct raw_rx_pkt_header` and the number of `RPU_TPUT_MODE_LEGACY` are nrfxlib's. A frequency, a
rate and its flags are unsigned, the signal is a signed 16-bit number.

## Main results

* `radiotapFields_rxHdr` — the header is parsed as it was filled in
* `rx_header_tells_iff` — the headers that say what the firmware has reported
-/

namespace Nrf70

/-! ### The header -/

/-- `struct raw_rx_pkt_header`. -/
structure RawRxPktHeader where
  frequency : UInt16
  signal : Int16
  rateFlags : UInt8
  rate : UInt8
  deriving DecidableEq, Repr

/-- `struct nrf_wifi_radiotap_rx_hdr`. -/
structure NrfWifiRadiotapRxHdr where
  itVersion : UInt8
  itPad : UInt8
  itLen : UInt16
  itPresent : UInt32
  flags : UInt8
  rate : UInt8
  chanFreq : UInt16
  chanFlags : UInt16
  signal : Int8
  deriving DecidableEq, Repr

/-- The packed structure in memory. -/
def NrfWifiRadiotapRxHdr.bytes (h : NrfWifiRadiotapRxHdr) : List UInt8 :=
  [h.itVersion, h.itPad] ++ le16 h.itLen ++ le32 h.itPresent ++ [h.flags, h.rate] ++
    le16 h.chanFreq ++ le16 h.chanFlags ++ [h.signal.toUInt8]

def ieee80211ChanCck : UInt16 := 0x0020
def ieee80211ChanOfdm : UInt16 := 0x0040
def ieee80211Chan2ghz : UInt16 := 0x0080
def ieee80211Chan5ghz : UInt16 := 0x0100

/-- `BIT`. -/
def bit (n : UInt32) : UInt32 := 1 <<< n

/-- The bits of `FLAGS`, `RATE`, `CHANNEL` and `DBM_ANTSIGNAL`. -/
def rxHdrPresent : UInt32 := bit 1 ||| bit 2 ||| bit 3 ||| bit 5

/-- `nrf_wifi_raw_legacy_rate_to_rtap`. -/
def nrfWifiRawLegacyRateToRtap (fwRate : UInt8) : UInt8 :=
  if fwRate = 55 then 11 else if fwRate ≤ 54 then fwRate * 2 else 0

variable (legacy : UInt8)

/-- `nrf_wifi_fill_radiotap_rx`; `legacy` is the number of `RPU_TPUT_MODE_LEGACY`. -/
def nrfWifiFillRadiotapRx (rawRxHdr : RawRxPktHeader) : NrfWifiRadiotapRxHdr :=
  let freq := rawRxHdr.frequency
  let chanFlags :=
    if 2400 ≤ freq ∧ freq ≤ 2500 then
      if rawRxHdr.rateFlags = legacy ∧ rawRxHdr.rate ≤ 22 then
        ieee80211Chan2ghz ||| ieee80211ChanCck
      else ieee80211Chan2ghz ||| ieee80211ChanOfdm
    else ieee80211Chan5ghz ||| ieee80211ChanOfdm
  let rate := if rawRxHdr.rateFlags = legacy then nrfWifiRawLegacyRateToRtap rawRxHdr.rate else 0
  { itVersion := 0
    itPad := 0
    itLen := 15
    itPresent := rxHdrPresent
    flags := 0
    rate := rate
    chanFreq := freq
    chanFlags := chanFlags
    signal := rawRxHdr.signal.toInt8 }

/-- What becomes of a frame: it goes to the network core, is freed, or stays with the caller. -/
inductive SnifferResult
  | netifRx (skb : List UInt8)
  | freed
  | kept
  deriving DecidableEq, Repr

/-- `nrf_wifi_rx_sniffer_frm_callbk_fn`: whether the interface has a netdev, the frame, the header
that came with it, whether `skb_cow_head` succeeds, and `pkt_free`. -/
def nrfWifiRxSnifferFrmCallbkFn (netdev : Bool) (skb : Option (List UInt8))
    (rawRxHdr : Option RawRxPktHeader) (cowHead pktFree : Bool) : SnifferResult :=
  match skb with
  | none => .kept
  | some skb =>
    let out := if pktFree then .freed else .kept
    if !netdev then out
    else
      match rawRxHdr with
      | none => .netifRx skb
      | some hdr =>
        if cowHead then .netifRx ((nrfWifiFillRadiotapRx legacy hdr).bytes ++ skb) else out

/-- `MBM_TO_DBM`. -/
def mbmToDbm (gain : Int16) : Int16 := gain / 100

/-- `nrf_wifi_process_rssi_from_rx`, less the time it records: the value of `rssi`. -/
def nrfWifiProcessRssiFromRx (signal : Int16) : Int16 := mbmToDbm signal

/-! ### Parsing it -/

section Parse

variable {h : NrfWifiRadiotapRxHdr} (frm : List UInt8)

/-- The bytes of the header, with the fixed part written out. -/
theorem rxHdr_frame (hversion : h.itVersion = 0) (hlen : h.itLen = 15)
    (hpresent : h.itPresent = rxHdrPresent) :
    ∃ tail, h.bytes ++ frm =
      [0, h.itPad, 15, 0, 46, 0, 0, 0, h.flags, h.rate] ++ (le16 h.chanFreq ++ le16 h.chanFlags) ++
        [h.signal.toUInt8] ++ tail := by
  have hbytes : le16 15 = [15, 0] ∧ le32 rxHdrPresent = [46, 0, 0, 0] := by decide
  refine ⟨frm, ?_⟩
  rw [NrfWifiRadiotapRxHdr.bytes, hversion, hlen, hpresent, hbytes.1, hbytes.2]
  rfl

theorem itLen_rxHdr (hversion : h.itVersion = 0) (hlen : h.itLen = 15)
    (hpresent : h.itPresent = rxHdrPresent) : itLen (h.bytes ++ frm) = 15 := by
  obtain ⟨tail, hframe⟩ := rxHdr_frame frm hversion hlen hpresent
  rw [hframe]
  rfl

/-- **The header is parsed as it was filled in.** -/
theorem radiotapFields_rxHdr (hversion : h.itVersion = 0) (hlen : h.itLen = 15)
    (hpresent : h.itPresent = rxHdrPresent) :
    radiotapFields (h.bytes ++ frm) =
      [⟨1, [h.flags]⟩, ⟨2, [h.rate]⟩, ⟨3, le16 h.chanFreq ++ le16 h.chanFlags⟩,
        ⟨5, [h.signal.toUInt8]⟩] := by
  obtain ⟨tail, hframe⟩ := rxHdr_frame frm hversion hlen hpresent
  have hitLen := itLen_rxHdr frm hversion hlen hpresent
  have hitPresent : itPresent (h.bytes ++ frm) = 46 := by rw [hframe]; rfl
  have hitVersion : itVersion (h.bytes ++ frm) = 0 := by rw [hframe]; rfl
  have hbits : (List.range 29).filter (Nat.testBit 46) = [1, 2, 3, 5] := by decide
  have hlength : 15 ≤ (h.bytes ++ frm).length := by
    rw [hframe]
    simp [le16]
  have hread : ¬ ((h.bytes ++ frm).length < radiotapHdrSize ∨ itVersion (h.bytes ++ frm) ≠ 0 ∨
      (h.bytes ++ frm).length < itLen (h.bytes ++ frm) ∨ 2 ^ 29 ≤ itPresent (h.bytes ++ frm)) := by
    rw [hitLen, hitPresent, hitVersion, radiotapHdrSize]
    simp only [ne_eq, not_true_eq_false, false_or]
    omega
  rw [radiotapFields, if_neg hread, hitPresent, hbits,
    radiotapWalk_cons 8 rfl rfl (by omega), radiotapWalk_cons 9 rfl rfl (by omega),
    radiotapWalk_cons 10 rfl rfl (by omega), radiotapWalk_cons 14 rfl rfl (by omega), hframe]
  rfl

end Parse

/-! ### What the header says -/

/-- The rate codes of the firmware: Mb/s, and `55` for 5.5. -/
def fwRates : List UInt8 := [1, 2, 55, 11, 6, 9, 12, 18, 24, 36, 48, 54]

/-- A rate in units of 500 kb/s. -/
def rate500kbps (fwRate : UInt8) : ℕ := if fwRate = 55 then 11 else 2 * fwRate.toNat

/-- The rates that are sent with CCK. -/
def cckRates : List UInt8 := [1, 2, 55, 11]

/-- The 2.4 GHz band. -/
def In2ghz (freq : UInt16) : Prop := 2400 ≤ freq ∧ freq ≤ 2500

instance (freq : UInt16) : Decidable (In2ghz freq) := inferInstanceAs (Decidable (_ ∧ _))

/-- The header in front of a frame, parsed, says what the firmware has reported. -/
structure RxHdrTells (legacy : UInt8) (rawRxHdr : RawRxPktHeader) (frame : List UInt8) : Prop where
  len : itLen frame = 15
  fields : ∃ flags rate channel signal,
    radiotapFields frame = [⟨1, [flags]⟩, ⟨2, [rate]⟩, ⟨3, channel⟩, ⟨5, [signal]⟩] ∧
    ofLe (channel.take 2) = rawRxHdr.frequency.toNat ∧
    (rawRxHdr.rateFlags = legacy → rate.toNat = rate500kbps rawRxHdr.rate) ∧
    (In2ghz rawRxHdr.frequency →
      let cck := rawRxHdr.rateFlags = legacy ∧ rawRxHdr.rate ∈ cckRates
      ((ofLe (channel.drop 2)).testBit 5 = true ↔ cck) ∧
        ((ofLe (channel.drop 2)).testBit 6 = true ↔ ¬ cck)) ∧
    signal.toInt8.toInt = (nrfWifiProcessRssiFromRx rawRxHdr.signal).toInt

/-- The signals whose low byte, as a signed number, is their hundredth. -/
def SignalKept (signal : Int16) : Prop :=
  (signal.toInt - signal.toInt.tdiv 100) % 256 = 0 ∧
    -128 ≤ signal.toInt.tdiv 100 ∧ signal.toInt.tdiv 100 < 128

instance (signal : Int16) : Decidable (SignalKept signal) := inferInstanceAs (Decidable (_ ∧ _))

/-- The legacy rates on the wrong side of 22. -/
def misjudgedRates : List UInt8 := [55, 6, 9, 12, 18]

theorem toInt_processRssi (signal : Int16) :
    (nrfWifiProcessRssiFromRx signal).toInt = signal.toInt.tdiv 100 :=
  Int16.toInt_div_of_ne_right _ _ (by decide)

theorem toInt8_eq_rssi_iff (signal : Int16) :
    signal.toInt8.toInt = (nrfWifiProcessRssiFromRx signal).toInt ↔ SignalKept signal := by
  rw [toInt_processRssi, Int16.toInt_toInt8, SignalKept]
  generalize signal.toInt.tdiv 100 = dbm
  unfold Int.bmod
  simp only [Int.natCast_pow, Nat.cast_ofNat]
  omega

/-- The two flags of a channel of the 2.4 GHz band. -/
theorem chanFlags_2ghz (rawRxHdr : RawRxPktHeader) (h2ghz : In2ghz rawRxHdr.frequency) :
    let flags := ofLe (le16 (nrfWifiFillRadiotapRx legacy rawRxHdr).chanFlags)
    (flags.testBit 5 = true ↔ rawRxHdr.rateFlags = legacy ∧ rawRxHdr.rate ≤ 22) ∧
      (flags.testBit 6 = true ↔ ¬ (rawRxHdr.rateFlags = legacy ∧ rawRxHdr.rate ≤ 22)) := by
  have hband : 2400 ≤ rawRxHdr.frequency ∧ rawRxHdr.frequency ≤ 2500 := h2ghz
  simp only [nrfWifiFillRadiotapRx, hband, and_self, if_true]
  by_cases hcck : rawRxHdr.rateFlags = legacy ∧ rawRxHdr.rate ≤ 22
  · rw [if_pos hcck]
    exact ⟨iff_of_true (by decide) hcck, iff_of_false (by decide) (not_not.mpr hcck)⟩
  · rw [if_neg hcck]
    exact ⟨iff_of_false (by decide) hcck, iff_of_true (by decide) hcck⟩

/-- The header says what was reported for exactly the legacy rates that are not misjudged and the
signals that are kept. -/
theorem rxHdrTells_iff {rawRxHdr : RawRxPktHeader}
    (hlegal : rawRxHdr.rateFlags = legacy → rawRxHdr.rate ∈ fwRates) (frm : List UInt8) :
    RxHdrTells legacy rawRxHdr ((nrfWifiFillRadiotapRx legacy rawRxHdr).bytes ++ frm) ↔
      (In2ghz rawRxHdr.frequency → rawRxHdr.rateFlags = legacy →
        rawRxHdr.rate ∉ misjudgedRates) ∧
      SignalKept rawRxHdr.signal := by
  have hparse := radiotapFields_rxHdr frm (h := nrfWifiFillRadiotapRx legacy rawRxHdr) rfl rfl rfl
  have hjudged : ∀ r ∈ fwRates, (r ≤ 22 ↔ r ∈ cckRates) ↔ r ∉ misjudgedRates := by
    decide +kernel
  constructor
  · rintro ⟨-, flags, rate, channel, signal, hfields, -, -, hmod, hsignal⟩
    rw [hparse] at hfields
    simp only [List.cons.injEq, RadiotapField.mk.injEq, true_and, and_true] at hfields
    obtain ⟨-, -, rfl, rfl⟩ := hfields
    refine ⟨fun h2ghz hleg => ?_, (toInt8_eq_rssi_iff _).mp hsignal⟩
    rw [← hjudged _ (hlegal hleg)]
    have hflags := (chanFlags_2ghz legacy rawRxHdr h2ghz).1
    simp only [hleg, true_and] at hflags
    have hcck := (hmod h2ghz).1
    simp only [hleg, true_and] at hcck
    exact hflags.symm.trans hcck
  · rintro ⟨hmod, hsignal⟩
    refine ⟨itLen_rxHdr frm rfl rfl rfl, _, _, _, _, hparse, ?_, ?_, ?_,
      (toInt8_eq_rssi_iff _).mpr hsignal⟩
    · exact ofLe_le16 rawRxHdr.frequency
    · intro hleg
      have hrates : ∀ r ∈ fwRates, (nrfWifiRawLegacyRateToRtap r).toNat = rate500kbps r := by
        decide +kernel
      simp only [nrfWifiFillRadiotapRx, hleg, if_true]
      exact hrates _ (hlegal hleg)
    · intro h2ghz
      have hcck : rawRxHdr.rateFlags = legacy ∧ rawRxHdr.rate ≤ 22 ↔
          rawRxHdr.rateFlags = legacy ∧ rawRxHdr.rate ∈ cckRates :=
        and_congr_right fun hleg => (hjudged _ (hlegal hleg)).mpr (hmod h2ghz hleg)
      rw [← hcck]
      exact chanFlags_2ghz legacy rawRxHdr h2ghz

/-- **What the header of a received frame says.** It is parsed as the four fields it has, with the
frequency and the rate the firmware reported; the modulation and the signal are right for exactly
the legacy rates that are not misjudged and the signals that are kept. -/
theorem rx_header_tells_iff (rawRxHdr : RawRxPktHeader)
    (hlegal : rawRxHdr.rateFlags = legacy → rawRxHdr.rate ∈ fwRates) (frm : List UInt8)
    (pktFree : Bool) :
    ∃ rtap : List UInt8, rtap.length = 15 ∧
      nrfWifiRxSnifferFrmCallbkFn legacy true (some frm) (some rawRxHdr) true pktFree =
        .netifRx (rtap ++ frm) ∧
      (RxHdrTells legacy rawRxHdr (rtap ++ frm) ↔
        (In2ghz rawRxHdr.frequency → rawRxHdr.rateFlags = legacy →
          rawRxHdr.rate ∉ misjudgedRates) ∧
        SignalKept rawRxHdr.signal) :=
  ⟨(nrfWifiFillRadiotapRx legacy rawRxHdr).bytes, rfl, rfl, rxHdrTells_iff legacy hlegal frm⟩

/-- A frame of 11 Mb/s on channel 1 at `-5947` mBm, whose low byte is `-59`. -/
theorem rx_header_tells_iff_cck :
    ∃ rtap : List UInt8, rtap.length = 15 ∧
      nrfWifiRxSnifferFrmCallbkFn 0 true (some [0x80]) (some ⟨2412, -5947, 0, 11⟩) true true =
        .netifRx (rtap ++ [0x80]) ∧
      RxHdrTells 0 ⟨2412, -5947, 0, 11⟩ (rtap ++ [0x80]) := by
  obtain ⟨rtap, hlen, hrx, htells⟩ :=
    rx_header_tells_iff 0 ⟨2412, -5947, 0, 11⟩ (by decide) [0x80] true
  exact ⟨rtap, hlen, hrx, htells.mpr (by decide)⟩

/-- **Headers that say something else.** A frame of 6 Mb/s is marked CCK and one of 5.5 Mb/s OFDM,
and a signal of `-5000` mBm is reported as 120 dBm. -/
theorem rx_header_tells_otherwise :
    ¬ RxHdrTells 0 ⟨2412, 0, 0, 6⟩ ((nrfWifiFillRadiotapRx 0 ⟨2412, 0, 0, 6⟩).bytes ++ []) ∧
    ¬ RxHdrTells 0 ⟨2412, 0, 0, 55⟩ ((nrfWifiFillRadiotapRx 0 ⟨2412, 0, 0, 55⟩).bytes ++ []) ∧
    ¬ RxHdrTells 0 ⟨2412, -5000, 0, 11⟩
      ((nrfWifiFillRadiotapRx 0 ⟨2412, -5000, 0, 11⟩).bytes ++ []) ∧
    (nrfWifiFillRadiotapRx 0 ⟨2412, -5000, 0, 11⟩).signal = 120 := by
  refine ⟨?_, ?_, ?_, rfl⟩
  · rw [rxHdrTells_iff 0 (by decide)]
    decide
  · rw [rxHdrTells_iff 0 (by decide)]
    decide
  · rw [rxHdrTells_iff 0 (by decide)]
    decide

end Nrf70
