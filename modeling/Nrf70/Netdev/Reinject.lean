import Nrf70.Lib.Kstring
import Nrf70.Netdev.MonitorTx
import Nrf70.Netdev.SnifferRx

/-!
# Frames that are captured and injected again

A relay reads frames from a monitor and writes them to a monitor as they are, with the radiotap
header `nrf_wifi_rx_sniffer_frm_callbk_fn` has put in front. `nrf_wifi_prepare_monitor_tx_skb` has
to find its way back from that header: to the frame behind it, and to the rate the header gives in
units of 500 kb/s.

The way back is exact for the rate codes up to 55, of which `55` stands for 5.5 Mb/s. A frame that
was not received at a legacy rate is captured with a rate of `0`, which asks for nothing.

## Main results

* `prepare_captured` — what becomes of a captured frame that is injected
* `relay_keeps_frames` — what arrives at the end of a chain of relays
-/

namespace Nrf70

/-- The first four bytes of a captured frame, as a number. -/
def capturedMagic : UInt32 := 0x000f0000

/-- The rate code with which a captured frame is injected. -/
def reinjectedRate (legacy : UInt8) (rawRxHdr : RawRxPktHeader) : UInt8 :=
  if rawRxHdr.rateFlags = legacy ∧ rawRxHdr.rate ≤ 55 then rawRxHdr.rate else 0

section Captured

variable {lib : RawTxLib} {legacy : UInt8} (rawRxHdr : RawRxPktHeader) (frm : List UInt8)

/-- A frame as a monitor captures it. -/
def captured (legacy : UInt8) (rawRxHdr : RawRxPktHeader) (frm : List UInt8) : List UInt8 :=
  (nrfWifiFillRadiotapRx legacy rawRxHdr).bytes ++ frm

theorem length_captured : (captured legacy rawRxHdr frm).length = frm.length + 15 := by
  have hbytes : (nrfWifiFillRadiotapRx legacy rawRxHdr).bytes.length = 15 := rfl
  rw [captured, List.length_append, hbytes, Nat.add_comm]

theorem itLen_captured : itLen (captured legacy rawRxHdr frm) = 15 :=
  itLen_rxHdr frm rfl rfl rfl

/-- A captured frame does not look like one with a raw header. -/
theorem not_hasMagic_captured (hmagic : lib.magicNumRawtx ≠ capturedMagic) :
    ¬ HasMagic lib (captured legacy rawRxHdr frm) := by
  obtain ⟨tail, hframe⟩ := rxHdr_frame (h := nrfWifiFillRadiotapRx legacy rawRxHdr) frm rfl rfl rfl
  have hfirst : (captured legacy rawRxHdr frm).take 4 = [0, 0, 15, 0] := by
    rw [captured, hframe]
    rfl
  have hvalue : ofLe32 [0, 0, 15, 0] = capturedMagic := by decide
  rintro ⟨-, hhas⟩
  rw [hfirst, hvalue] at hhas
  exact hmagic hhas.symm

theorem hasRadiotap_captured : HasRadiotap (captured legacy rawRxHdr frm) := by
  obtain ⟨tail, hframe⟩ := rxHdr_frame (h := nrfWifiFillRadiotapRx legacy rawRxHdr) frm rfl rfl rfl
  refine ⟨?_, ?_, ?_, ?_⟩
  · rw [length_captured, radiotapHdrSize]
    omega
  · rw [captured, hframe]
    rfl
  · rw [itLen_captured, radiotapHdrSize]
    omega
  · rw [itLen_captured, length_captured]
    omega

/-- Behind the header is the frame. -/
theorem payload_captured : payload (captured legacy rawRxHdr frm) = frm := by
  rw [payload, if_pos (hasRadiotap_captured rawRxHdr frm), itLen_captured]
  rfl

/-! ### The way of a rate -/

/-- A legacy rate that goes through both conversions. -/
theorem mapRate_legacyRate (rate : UInt8) :
    nrfWifiMapRadiotapRate (nrfWifiRawLegacyRateToRtap rate) = if rate ≤ 55 then rate else 0 :=
  @forall_byte
    (fun r => nrfWifiMapRadiotapRate (nrfWifiRawLegacyRateToRtap r) = if r ≤ 55 then r else 0)
    (by decide +kernel) rate

/-- The rate a captured frame asks for. -/
theorem mapRate_fillRadiotapRx :
    nrfWifiMapRadiotapRate (nrfWifiFillRadiotapRx legacy rawRxHdr).rate =
      reinjectedRate legacy rawRxHdr := by
  rw [reinjectedRate, nrfWifiFillRadiotapRx]
  by_cases hlegacy : rawRxHdr.rateFlags = legacy
  · simp only [hlegacy, if_true, true_and]
    exact mapRate_legacyRate rawRxHdr.rate
  · simp only [hlegacy, if_false, false_and]
    rfl

/-- Of the four fields only the rate can ask for one. -/
theorem txRateOf_captured :
    txRateOf lib (txFields radiotapFields (captured legacy rawRxHdr frm)) =
      (lib.modeLegacy, reinjectedRate legacy rawRxHdr) := by
  have hparse := radiotapFields_rxHdr frm (h := nrfWifiFillRadiotapRx legacy rawRxHdr) rfl rfl rfl
  rw [txFields, if_pos (hasRadiotap_captured rawRxHdr frm), captured, hparse, txRateOf,
    decidingField]
  have hrate : RadiotapField.txRate lib ⟨2, [(nrfWifiFillRadiotapRx legacy rawRxHdr).rate]⟩ =
      if reinjectedRate legacy rawRxHdr ≠ 0 then
        some (lib.modeLegacy, reinjectedRate legacy rawRxHdr) else none := by
    rw [← mapRate_fillRadiotapRx rawRxHdr]
    rfl
  have hflags : ∀ arg, RadiotapField.txRate lib ⟨1, arg⟩ = none := fun _ => rfl
  have hchannel : ∀ arg, RadiotapField.txRate lib ⟨3, arg⟩ = none := fun _ => rfl
  have hsignal : ∀ arg, RadiotapField.txRate lib ⟨5, arg⟩ = none := fun _ => rfl
  by_cases hzero : reinjectedRate legacy rawRxHdr = 0
  · simp [hflags, hchannel, hsignal, hrate, hzero]
  · simp [hflags, hchannel, hsignal, hrate, hzero]

/-- **A captured frame that is injected.** It is handed to FMAC behind a raw header for the frame
that was received, in legacy mode and with the rate it was received at; one that is too long is
refused. -/
theorem prepare_captured (hmagic : lib.magicNumRawtx ≠ capturedMagic) :
    nrfWifiPrepareMonitorTxSkb lib radiotapFields (captured legacy rawRxHdr frm) true =
      if frm.length ≤ u16Max then
        (lib.bytes (rawHdrFor lib frm.length (lib.modeLegacy, reinjectedRate legacy rawRxHdr)) ++
          frm, .ok)
      else (frm, .einval) := by
  have hno : ¬ HasMagic lib (captured legacy rawRxHdr frm) :=
    not_hasMagic_captured rawRxHdr frm hmagic
  split_ifs with hfits
  · have hpayload : (payload (captured legacy rawRxHdr frm)).length ≤ u16Max := by
      rw [payload_captured]
      exact hfits
    have hprepare := @prepare_of_fits lib radiotapFields _ hno hpayload
    rwa [payload_captured, txRateOf_captured] at hprepare
  · rw [prepare_eq hno, payload_captured, pushRawHdr, if_pos (Nat.lt_of_not_le hfits)]

end Captured

/-! ### A chain of relays -/

/-- What the monitor of a relay reports of a frame, beside its rate. -/
structure Reception where
  frequency : UInt16
  signal : Int16
  rateFlags : UInt8
  deriving DecidableEq, Repr

/-- A frame on the air, with its rate code. -/
abbrev AirFrame := List UInt8 × UInt8

variable (lib : RawTxLib) (legacy : UInt8)

/-- One relay: the frame is captured, injected as it was captured, and sent with the rate of its
raw header. -/
def relayHop (air : AirFrame) (r : Reception) : Option AirFrame :=
  match nrfWifiRxSnifferFrmCallbkFn legacy true (some air.1)
      (some ⟨r.frequency, r.signal, r.rateFlags, air.2⟩) true true with
  | .netifRx skb =>
    match nrfWifiPrepareMonitorTxSkb lib radiotapFields skb true with
    | (skb, .ok) => some (skb.drop lib.sizeofHdr, (lib.read skb).dataRate)
    | _ => none
  | _ => none

variable {lib legacy}

/-- What one relay sends. -/
theorem relayHop_eq (hmagic : lib.magicNumRawtx ≠ capturedMagic) {frm : List UInt8}
    (hfits : frm.length ≤ u16Max) (rate : UInt8) (r : Reception) :
    relayHop lib legacy (frm, rate) r =
      some (frm, if r.rateFlags = legacy ∧ rate ≤ 55 then rate else 0) := by
  have hprepare := @prepare_captured lib legacy
    ⟨r.frequency, r.signal, r.rateFlags, rate⟩ frm hmagic
  rw [if_pos hfits] at hprepare
  simp only [relayHop, nrfWifiRxSnifferFrmCallbkFn, Bool.not_true, Bool.false_eq_true, if_false,
    if_true]
  rw [captured] at hprepare
  rw [hprepare]
  simp only [lib.read_bytes, List.drop_left' (lib.length_bytes _)]
  rfl

/-- **Frames survive a chain of relays.** Whatever the relays report of frequency and signal, a
frame that fits into a raw header comes out at the end byte for byte, and with the rate it was sent
at if every relay received it at a legacy rate of at most 55. Otherwise its rate is left open, which
is a rate of 0; a frame that was sent at rate 0 arrives with it either way. -/
theorem relay_keeps_frames (hmagic : lib.magicNumRawtx ≠ capturedMagic) (hops : List Reception)
    (frm : List UInt8) (rate : UInt8) (hfits : frm.length ≤ u16Max) :
    hops.foldlM (relayHop lib legacy) (frm, rate) =
      some (frm, if ∀ r ∈ hops, r.rateFlags = legacy ∧ rate ≤ 55 then rate else 0) := by
  induction hops generalizing rate with
  | nil => simp
  | cons r hops ih =>
    rw [List.foldlM_cons, relayHop_eq hmagic hfits, Option.bind_eq_bind, Option.bind_some, ih]
    simp only [List.forall_mem_cons]
    by_cases hkept : r.rateFlags = legacy ∧ rate ≤ 55
    · rw [if_pos hkept]
      simp [hkept]
    · have hlost : ¬ ((r.rateFlags = legacy ∧ rate ≤ 55) ∧
          ∀ r ∈ hops, r.rateFlags = legacy ∧ rate ≤ 55) := fun hall => hkept hall.1
      rw [if_neg hkept, if_neg hlost, ite_self]

/-- Four bytes at 5.5 Mb/s, over two relays. -/
theorem relay_keeps_frames_two :
    [(⟨2412, -5000, 0⟩ : Reception), ⟨2412, -7000, 0⟩].foldlM (relayHop .headers 0)
      ([0x08, 0x01, 0x00, 0x00], 55) = some ([0x08, 0x01, 0x00, 0x00], 55) := by
  have hrun := @relay_keeps_frames .headers 0 (by decide)
    [⟨2412, -5000, 0⟩, ⟨2412, -7000, 0⟩] [0x08, 0x01, 0x00, 0x00] 55 (by decide)
  rw [hrun]
  decide

end Nrf70
