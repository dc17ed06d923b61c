import Nrf70.Lib.PacketBuffer
import Nrf70.Netdev.MonitorTx
import Nrf70.Netdev.SnifferRx

/-!
# Monitor frames in their buffers

`nrf_wifi_prepare_monitor_tx_skb` and `nrf_wifi_rx_sniffer_frm_callbk_fn` change a frame by moving
the window of its buffer: a radiotap header is pulled from the front, and a header is pushed there
after `skb_cow_head` has made room for it. Here they are functions on buffers, which get stuck at a
read outside the packet and at a header without room.

They refine the functions on byte strings. None of them gets stuck, whatever the buffer and its
contents; and of the allocation, which is an outcome there, it is known here when it is made.

## Main results

* `prepare_refines_bytes` — preparation of a buffer
* `sniffer_refines_bytes` — reception into a buffer
-/

namespace Nrf70

namespace PacketBuf

/-! ### The functions on buffers -/

section Functions

variable (lib : RawTxLib) (iter : List UInt8 → List RadiotapField) (k : Cow UInt8)
  (skb : PacketBuf UInt8)

/-- The first test of `nrf_wifi_prepare_monitor_tx_skb`. -/
def startsWithMagic : Option Bool :=
  if lib.sizeofHdr ≤ skb.len then
    (skb.read 0 4).map fun magicNum => decide (ofLe32 magicNum = lib.magicNumRawtx)
  else some false

/-- The second: a radiotap header is read and pulled. -/
def stripRadiotap : Option (PacketBuf UInt8 × RawTxPktHeader) :=
  if radiotapHdrSize ≤ skb.len then
    (skb.read 0 1).bind fun version =>
      if version = [0] then
        (skb.read 2 2).bind fun len =>
          let rtapLen := ofLe len
          if radiotapHdrSize ≤ rtapLen ∧ rtapLen ≤ skb.len then
            some (skb.pull rtapLen, nrfWifiParseRadiotapTxMeta lib iter skb.bytes .zero)
          else some (skb, .zero)
      else some (skb, .zero)
  else some (skb, .zero)

/-- The end of it. -/
def pushRawHdr (rawHdr : RawTxPktHeader) : Option (PacketBuf UInt8 × PrepareRet) :=
  if u16Max < skb.len then some (skb, .einval)
  else
    match skb.cowHead k lib.sizeofHdr with
    | none => some (skb, .enomem)
    | some skb =>
      let rawHdr : RawTxPktHeader := { rawHdr with magicNum := lib.magicNumRawtx }
      let rawHdr : RawTxPktHeader :=
        if rawHdr.txMode = 0 ∧ rawHdr.dataRate = 0 then
          { rawHdr with txMode := lib.modeLegacy, dataRate := 0 }
        else rawHdr
      let rawHdr := { rawHdr with
        packetLength := UInt16.ofNat skb.len, queue := lib.acBe, rawTxFlag := 1 }
      (skb.pushBytes (lib.bytes rawHdr)).map fun skb => (skb, .ok)

/-- `nrf_wifi_prepare_monitor_tx_skb`. -/
def nrfWifiPrepareMonitorTxSkb : Option (PacketBuf UInt8 × PrepareRet) :=
  (skb.startsWithMagic lib).bind fun magic =>
    if magic then some (skb, .ok)
    else (skb.stripRadiotap lib iter).bind fun (skb, rawHdr) => skb.pushRawHdr lib k rawHdr

/-- What becomes of a buffer. -/
inductive Result
  | netifRx (skb : PacketBuf UInt8)
  | freed
  | kept

/-- What becomes of the frame in it. -/
def Result.seen : Result → SnifferResult
  | .netifRx skb => .netifRx skb.bytes
  | .freed => .freed
  | .kept => .kept

variable (legacy : UInt8)

/-- `nrf_wifi_rx_sniffer_frm_callbk_fn`. -/
def nrfWifiRxSnifferFrmCallbkFn (netdev : Bool) (rawRxHdr : Option RawRxPktHeader)
    (pktFree : Bool) : Option Result :=
  let out : Result := if pktFree then .freed else .kept
  if !netdev then some out
  else
    match rawRxHdr with
    | none => some (.netifRx skb)
    | some hdr =>
      let rtap := (nrfWifiFillRadiotapRx legacy hdr).bytes
      match skb.cowHead k rtap.length with
      | none => some out
      | some skb => (skb.pushBytes rtap).map .netifRx

end Functions

/-! ### They do not get stuck -/

section Steps

variable {lib : RawTxLib} {iter : List UInt8 → List RadiotapField} {k : Cow UInt8}
  (skb : PacketBuf UInt8)

/-- The magic number is read inside the packet. -/
theorem startsWithMagic_eq :
    skb.startsWithMagic lib = some (decide (HasMagic lib skb.bytes)) := by
  rw [startsWithMagic]
  by_cases hlen : lib.sizeofHdr ≤ skb.len
  · have hfour : 0 + 4 ≤ skb.len := Nat.le_trans lib.four_le hlen
    rw [if_pos hlen, skb.read_eq hfour, Option.map_some]
    simp [HasMagic, hlen]
  · rw [if_neg hlen]
    simp [HasMagic, hlen]

/-- A radiotap header fits the packet it is in. -/
theorem itLen_le (h : HasRadiotap skb.bytes) : itLen skb.bytes ≤ skb.len := by
  rw [← skb.length_bytes]
  exact h.2.2.2

/-- The first byte, compared as a byte. -/
theorem take_one_iff {f : List UInt8} (h : 0 < f.length) : f.take 1 = [0] ↔ itVersion f = 0 := by
  obtain ⟨x, rest, rfl⟩ := List.exists_cons_of_length_pos h
  simp [itVersion]

/-- So are the version and the length, and the header is pulled if it is one. -/
theorem stripRadiotap_eq : skb.stripRadiotap lib iter =
    some (if HasRadiotap skb.bytes then skb.pull (itLen skb.bytes) else skb,
      (txFields iter skb.bytes).foldl (parseTxField lib) .zero) := by
  have hlen : skb.bytes.length = skb.len := skb.length_bytes
  rw [stripRadiotap, txFields]
  by_cases h : HasRadiotap skb.bytes
  · have hsize : radiotapHdrSize ≤ skb.len := by
      rw [← hlen]
      exact h.1
    have hone : 0 + 1 ≤ skb.len := Nat.le_trans (by decide) hsize
    have htwo : 2 + 2 ≤ skb.len := Nat.le_trans (by decide) hsize
    have hfirst : (skb.bytes.drop 0).take 1 = [0] :=
      (take_one_iff (by rw [List.drop_zero, hlen]; exact hone)).mpr h.2.1
    rw [if_pos h, if_pos h, if_pos hsize, skb.read_eq hone, Option.bind_some, if_pos hfirst,
      skb.read_eq htwo, Option.bind_some]
    exact if_pos ⟨h.2.2.1, skb.itLen_le h⟩
  · rw [if_neg h, if_neg h, List.foldl_nil]
    by_cases hsize : radiotapHdrSize ≤ skb.len
    swap
    · rw [if_neg hsize]
    have hone : 0 + 1 ≤ skb.len := Nat.le_trans (by decide) hsize
    have htwo : 2 + 2 ≤ skb.len := Nat.le_trans (by decide) hsize
    rw [if_pos hsize, skb.read_eq hone, Option.bind_some]
    by_cases hversion : (skb.bytes.drop 0).take 1 = [0]
    swap
    · rw [if_neg hversion]
    rw [if_pos hversion, skb.read_eq htwo, Option.bind_some]
    refine if_neg fun hfits => h ⟨by rw [hlen]; exact hsize, ?_, ?_⟩
    · exact (take_one_iff (by rw [hlen]; exact hone)).mp hversion
    · rw [hlen]
      exact hfits

/-- The raw header finds its room. -/
theorem pushRawHdr_eq (rawHdr : RawTxPktHeader) :
    ∃ skb' ret, skb.pushRawHdr lib k rawHdr = some (skb', ret) ∧
      (skb'.bytes, ret) =
        Nrf70.pushRawHdr lib skb.bytes rawHdr (decide (skb.CowSucceeds k lib.sizeofHdr)) ∧
      skb'.cap - skb'.tail = skb.cap - skb.tail := by
  have hlen : skb.bytes.length = skb.len := skb.length_bytes
  rw [pushRawHdr, Nrf70.pushRawHdr, hlen]
  by_cases hlong : u16Max < skb.len
  · rw [if_pos hlong, if_pos hlong]
    exact ⟨skb, .einval, rfl, rfl, rfl⟩
  rw [if_neg hlong, if_neg hlong]
  by_cases hcow : skb.CowSucceeds k lib.sizeofHdr
  swap
  · rw [cowHead_of_not_succeeds hcow, decide_eq_false hcow]
    exact ⟨skb, .enomem, rfl, rfl, rfl⟩
  obtain ⟨b, hb, hbytes, hroom, htail⟩ := cowHead_of_succeeds hcow
  have hblen : b.len = skb.len := by rw [← b.length_bytes, hbytes, hlen]
  rw [hb, decide_eq_true hcow]
  dsimp only
  rw [hblen]
  generalize hhdr : (lib.bytes _) = hdr
  have hhdrLen : hdr.length = lib.sizeofHdr := by
    rw [← hhdr]
    exact lib.length_bytes _
  obtain ⟨b', hb', hframe⟩ := frame_pushBytes (b := b) hdr (by rw [hhdrLen]; exact hroom)
  rw [hb']
  refine ⟨b', .ok, rfl, ?_, ?_⟩
  · have hpacket : b'.bytes = hdr ++ b.bytes := congrArg Frame.bytes hframe
    rw [hpacket, hbytes, ← hhdr]
    rfl
  · have hrest : b'.cap - b'.tail = b.cap - b.tail := congrArg Frame.tailroom hframe
    rw [hrest, htail]

/-- The buffer once its radiotap header is gone: what was pulled is room in front of the payload. -/
theorem frame_strip :
    (if HasRadiotap skb.bytes then skb.pull (itLen skb.bytes) else skb).frame =
      ⟨skb.data + (skb.len - (payload skb.bytes).length), payload skb.bytes,
        skb.cap - skb.tail⟩ := by
  have hlen : skb.bytes.length = skb.len := skb.length_bytes
  rw [payload]
  by_cases h : HasRadiotap skb.bytes
  · have hfits := skb.itLen_le h
    have hpulled : skb.len - (skb.len - itLen skb.bytes) = itLen skb.bytes :=
      Nat.sub_sub_self hfits
    rw [if_pos h, if_pos h, frame_pull hfits, List.length_drop, hlen, hpulled]
  · rw [if_neg h, if_neg h, hlen, Nat.sub_self, Nat.add_zero]
    rfl

end Steps

/-! ### What they do -/

section Refinement

variable (lib : RawTxLib) (iter : List UInt8 → List RadiotapField) (k : Cow UInt8)
  (skb : PacketBuf UInt8)

/-- The raw header has room where the radiotap header was, in a buffer nobody else holds, or there
is memory. -/
def CanPrepare : Prop :=
  lib.sizeofHdr ≤ skb.data + (skb.len - (payload skb.bytes).length) ∧ k.cloned = false ∨
    k.memory = true

instance : Decidable (skb.CanPrepare lib k) := inferInstanceAs (Decidable (_ ∨ _))

/-- **Preparing a buffer prepares the frame in it.** For every buffer and every frame in it, however
it is shared and whatever memory there is: nothing is read outside the packet, the header has room
when it is pushed, and the packet and the result are those of the function on byte strings; the
room behind the packet stays. A frame that nobody else holds, with a radiotap header that is not
shorter than the raw one, is never refused for want of memory. -/
theorem prepare_refines_bytes :
    ∃ skb' ret, skb.nrfWifiPrepareMonitorTxSkb lib iter k = some (skb', ret) ∧
      (skb'.bytes, ret) =
        Nrf70.nrfWifiPrepareMonitorTxSkb lib iter skb.bytes (decide (skb.CanPrepare lib k)) ∧
      skb'.cap - skb'.tail = skb.cap - skb.tail ∧
      (k.cloned = false → HasRadiotap skb.bytes → lib.sizeofHdr ≤ itLen skb.bytes →
        ret ≠ .enomem) := by
  have hlen : skb.bytes.length = skb.len := skb.length_bytes
  rw [nrfWifiPrepareMonitorTxSkb, startsWithMagic_eq, Option.bind_some]
  by_cases hmagic : HasMagic lib skb.bytes
  · rw [if_pos (decide_eq_true hmagic), Nrf70.nrfWifiPrepareMonitorTxSkb, if_pos hmagic]
    exact ⟨skb, .ok, rfl, rfl, rfl, fun _ _ _ => by decide⟩
  rw [if_neg (by simpa using hmagic), stripRadiotap_eq, Option.bind_some, prepare_eq hmagic]
  dsimp only
  generalize hstrip : (if HasRadiotap skb.bytes then skb.pull (itLen skb.bytes) else skb) = b
  have hframe : b.frame = ⟨skb.data + (skb.len - (payload skb.bytes).length), payload skb.bytes,
      skb.cap - skb.tail⟩ := by
    rw [← hstrip]
    exact skb.frame_strip
  have hdata : b.data = skb.data + (skb.len - (payload skb.bytes).length) :=
    congrArg Frame.headroom hframe
  have hbytes : b.bytes = payload skb.bytes := congrArg Frame.bytes hframe
  have htail : b.cap - b.tail = skb.cap - skb.tail := congrArg Frame.tailroom hframe
  have hcow : b.CowSucceeds k lib.sizeofHdr ↔ skb.CanPrepare lib k := by
    rw [CowSucceeds, CanPrepare, hdata]
  obtain ⟨skb', ret, hpush, hret, hroom⟩ := b.pushRawHdr_eq
    (k := k) ((txFields iter skb.bytes).foldl (parseTxField lib) .zero)
  rw [hbytes, decide_eq_decide.mpr hcow] at hret
  refine ⟨skb', ret, hpush, hret, hroom.trans htail, fun hunshared hrtap hsize => ?_⟩
  -- what was pulled is room enough
  have hcan : skb.CanPrepare lib k := by
    refine .inl ⟨?_, hunshared⟩
    rw [payload, if_pos hrtap, List.length_drop, hlen]
    have hfits := skb.itLen_le hrtap
    omega
  have hretEq : ret = (Nrf70.pushRawHdr lib (payload skb.bytes)
      ((txFields iter skb.bytes).foldl (parseTxField lib) .zero) true).2 := by
    rw [decide_eq_true hcan] at hret
    exact congrArg Prod.snd hret
  rw [hretEq, Nrf70.pushRawHdr]
  split <;> simp

/-- A frame of 5.5 Mb/s with the header it was received with, in a buffer without any room. -/
def receivedFrame : PacketBuf UInt8 where
  mem := fun i => ((nrfWifiFillRadiotapRx 0 ⟨2412, -5000, 0, 55⟩).bytes ++ [8, 1, 0, 0])[i]?.getD 0
  data := 0
  tail := 19
  cap := 19
  data_le := by decide

/-- Nobody else holds the frame, and there is no memory. -/
theorem prepare_refines_bytes_received :
    ∃ skb', receivedFrame.nrfWifiPrepareMonitorTxSkb .headers radiotapFields
        ⟨false, false, 0, fun _ => 0⟩ = some (skb', .ok) ∧
      skb'.bytes = RawTxLib.headers.bytes (rawHdrFor .headers 4 (0, 55)) ++ [8, 1, 0, 0] := by
  obtain ⟨skb', ret, hrun, hret, -⟩ := prepare_refines_bytes .headers radiotapFields
    ⟨false, false, 0, fun _ => 0⟩ receivedFrame
  have hbytes : Nrf70.nrfWifiPrepareMonitorTxSkb .headers radiotapFields receivedFrame.bytes
      (decide (receivedFrame.CanPrepare .headers ⟨false, false, 0, fun _ => 0⟩)) =
      (RawTxLib.headers.bytes (rawHdrFor .headers 4 (0, 55)) ++ [8, 1, 0, 0], .ok) := by
    decide +kernel
  rw [hbytes] at hret
  obtain ⟨hpacket, rfl⟩ := Prod.mk.inj hret
  exact ⟨skb', hrun, hpacket⟩

variable (legacy : UInt8)

/-- **Receiving into a buffer receives the frame.** -/
theorem sniffer_refines_bytes (netdev : Bool) (rawRxHdr : Option RawRxPktHeader) (pktFree : Bool) :
    ∃ r, skb.nrfWifiRxSnifferFrmCallbkFn k legacy netdev rawRxHdr pktFree = some r ∧
      r.seen = Nrf70.nrfWifiRxSnifferFrmCallbkFn legacy netdev (some skb.bytes) rawRxHdr
        (decide (skb.CowSucceeds k 15)) pktFree := by
  unfold nrfWifiRxSnifferFrmCallbkFn Nrf70.nrfWifiRxSnifferFrmCallbkFn
  have hout : ∀ out : Result, out = (if pktFree then .freed else .kept) →
      out.seen = if pktFree then .freed else .kept := by
    rintro out rfl
    cases pktFree <;> rfl
  cases netdev with
  | false => exact ⟨_, rfl, hout _ rfl⟩
  | true =>
    cases rawRxHdr with
    | none => exact ⟨_, rfl, rfl⟩
    | some hdr =>
      have hsize : (nrfWifiFillRadiotapRx legacy hdr).bytes.length = 15 := rfl
      dsimp only
      rw [hsize]
      by_cases hcow : skb.CowSucceeds k 15
      swap
      · rw [cowHead_of_not_succeeds hcow, decide_eq_false hcow]
        exact ⟨_, rfl, hout _ rfl⟩
      obtain ⟨b, hb, hbytes, hroom, -⟩ := cowHead_of_succeeds hcow
      obtain ⟨b', hb', hframe⟩ :=
        frame_pushBytes (b := b) (nrfWifiFillRadiotapRx legacy hdr).bytes hroom
      have hpacket : b'.bytes = (nrfWifiFillRadiotapRx legacy hdr).bytes ++ b.bytes :=
        congrArg Frame.bytes hframe
      rw [hb, decide_eq_true hcow]
      dsimp only
      rw [hb']
      refine ⟨.netifRx b', rfl, ?_⟩
      rw [Result.seen, hpacket, hbytes]
      rfl

end Refinement

end PacketBuf

end Nrf70
