import Nrf70.Lib.Machine
import Nrf70.Lib.PacketBuffer

/-!
# The network buffers of the OS shim

FMAC handles packets through `shim_nbuf_*`, which are the kernel's `sk_buff` operations under other
names. It writes into a packet through the pointers `shim_nbuf_data_put` and
`shim_nbuf_data_push` return, so each of them is one step here with the copy that follows it.

What FMAC can see of a buffer is its frame, the low byte of its priority, and whether its checksum
is done. The last is read from `ip_summed`, which nothing here writes: what
`shim_nbuf_set_chksum_done` writes is read by none of the others.

## What is outside the repository

The kernel stops in `skb_over_panic` or `skb_under_panic` where `skb_put` or `skb_push` leaves the
buffer. `skb_reserve` tests nothing: it moves `data` and `tail` and goes on, and it is for its
caller to see to it that the packet is empty and the room is there. Sizes and offsets are
`unsigned int` in C; that their sums stay below `2 ^ 32` is taken for granted here, as in a block of
memory that exists.

## Main results

* `nbuf_refines_frames` — every sequence of operations that reserves room only in empty packets and
  where there is some does to a buffer what it does to its view
-/

namespace Nrf70

/-- `ip_summed`. -/
inductive IpSummed
  | none | unnecessary | complete | partialSum
  deriving DecidableEq, Repr

/-- The part of `struct sk_buff` the shim uses. -/
structure SkBuff where
  buf : PacketBuf UInt8
  priority : UInt32
  ipSummed : IpSummed
  csumCompleteSw : Bool

/-! ### The shim's functions -/

/-- `shim_nbuf_alloc`, when there is memory: `alloc_skb` gives at least the size that was asked. -/
def shimNbufAlloc (mem : ℕ → UInt8) (cap : ℕ) : SkBuff := ⟨.alloc mem cap, 0, .none, false⟩

/-- `shim_nbuf_headroom_res`. -/
def shimNbufHeadroomRes (skb : SkBuff) (size : ℕ) : SkBuff :=
  { skb with buf := skb.buf.reserve size }

/-- `shim_nbuf_headroom_get`: `data` less `head`. -/
def shimNbufHeadroomGet (skb : SkBuff) : ℕ := skb.buf.data

/-- `shim_nbuf_data_size`. -/
def shimNbufDataSize (skb : SkBuff) : ℕ := skb.buf.len

/-- `shim_nbuf_data_get`, and what is read through the pointer. -/
def shimNbufDataGet (skb : SkBuff) : List UInt8 := skb.buf.bytes

/-- `shim_nbuf_data_put`, with the pointer it returns as an offset from `head`. -/
def shimNbufDataPut (skb : SkBuff) (size : ℕ) : Option (SkBuff × ℕ) :=
  (skb.buf.put size).map fun buf => ({ skb with buf }, skb.buf.tail)

@[inherit_doc shimNbufDataPut] def shimNbufDataPush (skb : SkBuff) (size : ℕ) :
    Option (SkBuff × ℕ) :=
  (skb.buf.push size).map fun buf => ({ skb with buf }, buf.data)

/-- `shim_nbuf_data_pull`; `skb_pull` returns NULL for a packet that is too short. -/
def shimNbufDataPull (skb : SkBuff) (size : ℕ) : SkBuff × Option ℕ :=
  ({ skb with buf := skb.buf.pull size },
    if size ≤ skb.buf.len then some (skb.buf.data + size) else none)

/-- `shim_nbuf_get_priority`: "Linux supports u32 but OSAL supports u8". -/
def shimNbufGetPriority (skb : SkBuff) : UInt8 := skb.priority.toUInt8

/-- `shim_nbuf_get_chksum_done`. -/
def shimNbufGetChksumDone (skb : SkBuff) : Bool := skb.ipSummed != .partialSum

/-- `shim_nbuf_set_chksum_done`. -/
def shimNbufSetChksumDone (skb : SkBuff) (chksumDone : Bool) : SkBuff :=
  { skb with csumCompleteSw := chksumDone }

/-- `shim_mem_cpy` to a pointer into the buffer. -/
def SkBuff.memCpy (skb : SkBuff) (dest : ℕ) (src : List UInt8) : SkBuff :=
  { skb with buf := skb.buf.store dest src }

/-! ### Runs -/

inductive NbufAct
  | headroomRes (size : ℕ)
  | headroomGet
  | dataSize
  | dataGet
  | dataPut (src : List UInt8)
  | dataPush (src : List UInt8)
  | dataPull (size : ℕ)
  | getPriority
  | getChksumDone
  | setChksumDone (chksumDone : Bool)
  deriving DecidableEq, Repr

/-- What an operation returns. -/
inductive NbufRet
  | size (n : ℕ)
  | data (bytes : List UInt8)
  | pulled (ok : Bool)
  | priority (prio : UInt8)
  | chksumDone (done : Bool)
  deriving DecidableEq, Repr

/-- One operation of FMAC; `none` is `skb_over_panic` or `skb_under_panic`. -/
def nbufStep (skb : SkBuff) : NbufAct → Option (SkBuff × List NbufRet)
  | .headroomRes size => some (shimNbufHeadroomRes skb size, [])
  | .headroomGet => some (skb, [.size (shimNbufHeadroomGet skb)])
  | .dataSize => some (skb, [.size (shimNbufDataSize skb)])
  | .dataGet => some (skb, [.data (shimNbufDataGet skb)])
  | .dataPut src => (shimNbufDataPut skb src.length).map fun (skb, p) => (skb.memCpy p src, [])
  | .dataPush src => (shimNbufDataPush skb src.length).map fun (skb, p) => (skb.memCpy p src, [])
  | .dataPull size =>
    let (skb, p) := shimNbufDataPull skb size
    some (skb, [.pulled p.isSome])
  | .getPriority => some (skb, [.priority (shimNbufGetPriority skb)])
  | .getChksumDone => some (skb, [.chksumDone (shimNbufGetChksumDone skb)])
  | .setChksumDone done => some (shimNbufSetChksumDone skb done, [])

def nbufMachine : Machine SkBuff NbufAct NbufRet := ⟨nbufStep⟩

/-! ### What a buffer is to FMAC -/

/-- A packet with room around it, a priority, and whether its checksum is done. -/
structure NbufView extends Frame UInt8 where
  priority : UInt8
  chksumDone : Bool
  deriving DecidableEq, Repr

def SkBuff.view (skb : SkBuff) : NbufView :=
  ⟨skb.buf.frame, skb.priority.toUInt8, skb.ipSummed != .partialSum⟩

/-- The operations on a view: a packet grows at either end as far as there is room, and shrinks at
its front. -/
def viewStep (v : NbufView) : NbufAct → Option (NbufView × List NbufRet)
  | .headroomRes size =>
    some ({ v with headroom := v.headroom + size, tailroom := v.tailroom - size }, [])
  | .headroomGet => some (v, [.size v.headroom])
  | .dataSize => some (v, [.size v.bytes.length])
  | .dataGet => some (v, [.data v.bytes])
  | .dataPut src =>
    if src.length ≤ v.tailroom then
      some ({ v with bytes := v.bytes ++ src, tailroom := v.tailroom - src.length }, [])
    else none
  | .dataPush src =>
    if src.length ≤ v.headroom then
      some ({ v with headroom := v.headroom - src.length, bytes := src ++ v.bytes }, [])
    else none
  | .dataPull size =>
    if size ≤ v.bytes.length then
      some ({ v with headroom := v.headroom + size, bytes := v.bytes.drop size }, [.pulled true])
    else some (v, [.pulled false])
  | .getPriority => some (v, [.priority v.priority])
  | .getChksumDone => some (v, [.chksumDone v.chksumDone])
  | .setChksumDone _ => some (v, [])

def viewMachine : Machine NbufView NbufAct NbufRet := ⟨viewStep⟩

/-- What `skb_reserve` asks of its caller; the other operations ask for nothing. -/
def NbufView.Permits (v : NbufView) : NbufAct → Prop
  | .headroomRes size => v.bytes = [] ∧ size ≤ v.tailroom
  | _ => True

instance (v : NbufView) : (a : NbufAct) → Decidable (v.Permits a)
  | .headroomRes _ => inferInstanceAs (Decidable (_ ∧ _))
  | .headroomGet | .dataSize | .dataGet | .dataPut _ | .dataPush _ | .dataPull _ | .getPriority
  | .getChksumDone | .setChksumDone _ => inferInstanceAs (Decidable True)

/-! ### One step -/

section Steps

variable {skb : SkBuff}

/-- Room behind the packet, as the buffer and as its view have it. -/
theorem le_tailroom_iff (hin : skb.buf.Inside) {n : ℕ} :
    n ≤ skb.view.tailroom ↔ skb.buf.tail + n ≤ skb.buf.cap := by
  have hle : skb.buf.tail ≤ skb.buf.cap := hin
  change n ≤ skb.buf.cap - skb.buf.tail ↔ _
  omega

/-- An empty packet. -/
theorem data_eq_tail (h : skb.view.bytes = []) : skb.buf.data = skb.buf.tail := by
  have hle := skb.buf.data_le
  have hlen : skb.buf.bytes.length = skb.buf.tail - skb.buf.data := skb.buf.length_bytes
  have hzero : skb.buf.bytes.length = 0 := List.length_eq_zero_iff.mpr h
  omega

/-- **The window stays inside the buffer.** -/
theorem inside_nbufStep {a : NbufAct} {skb' : SkBuff} {u : List NbufRet} (hin : skb.buf.Inside)
    (hok : skb.view.Permits a) (h : nbufStep skb a = some (skb', u)) : skb'.buf.Inside := by
  cases a with
  | headroomRes size =>
    rw [nbufStep, Option.some.injEq, Prod.mk.injEq] at h
    rw [← h.1]
    exact PacketBuf.inside_reserve ((le_tailroom_iff hin).mp hok.2)
  | dataPut src =>
    rw [nbufStep, shimNbufDataPut, Option.map_map, Option.map_eq_some_iff] at h
    obtain ⟨b, hb, hskb⟩ := h
    rw [← (Prod.mk.inj hskb).1]
    have hput : b.Inside := PacketBuf.inside_put hb
    exact hput
  | dataPush src =>
    rw [nbufStep, shimNbufDataPush, Option.map_map, Option.map_eq_some_iff] at h
    obtain ⟨b, hb, hskb⟩ := h
    rw [← (Prod.mk.inj hskb).1]
    have hpush : b.Inside := PacketBuf.inside_push hin hb
    exact hpush
  | dataPull size =>
    rw [nbufStep, shimNbufDataPull, Option.some.injEq, Prod.mk.injEq] at h
    rw [← h.1]
    exact PacketBuf.inside_pull hin
  | headroomGet | dataSize | dataGet | getPriority | getChksumDone | setChksumDone done =>
    obtain ⟨rfl, -⟩ := Prod.mk.inj (Option.some.inj h)
    exact hin

/-- A buffer with another packet in it. -/
def NbufView.withFrame (v : NbufView) (frame : Frame UInt8) : NbufView :=
  ⟨frame, v.priority, v.chksumDone⟩

theorem view_headroomRes (size : ℕ) (hnil : skb.view.bytes = []) :
    ((nbufStep skb (.headroomRes size)).map (Prod.map SkBuff.view id)) =
      viewStep skb.view (.headroomRes size) := by
  have hframe := PacketBuf.frame_reserve (n := size) (data_eq_tail hnil)
  have hbytes : skb.buf.bytes = [] := hnil
  rw [← hbytes] at hframe
  exact congrArg (fun f => some (skb.view.withFrame f, [])) hframe

theorem view_dataPut (hin : skb.buf.Inside) (src : List UInt8) :
    ((nbufStep skb (.dataPut src)).map (Prod.map SkBuff.view id)) =
      viewStep skb.view (.dataPut src) := by
  by_cases hroom : skb.buf.tail + src.length ≤ skb.buf.cap
  · obtain ⟨b', hb', hframe⟩ := PacketBuf.frame_putBytes src hroom
    obtain ⟨b, hb, hstore⟩ := Option.map_eq_some_iff.mp hb'
    rw [← hstore] at hframe
    rw [viewStep, if_pos ((le_tailroom_iff hin).mpr hroom), nbufStep, shimNbufDataPut, hb]
    exact congrArg (fun f => some (skb.view.withFrame f, [])) hframe
  · have hnone : skb.buf.put src.length = none := by rw [PacketBuf.put, if_neg hroom]
    rw [viewStep, if_neg (mt (le_tailroom_iff hin).mp hroom), nbufStep, shimNbufDataPut, hnone]
    rfl

theorem view_dataPush (src : List UInt8) :
    ((nbufStep skb (.dataPush src)).map (Prod.map SkBuff.view id)) =
      viewStep skb.view (.dataPush src) := by
  by_cases hroom : src.length ≤ skb.buf.data
  · have hroom' : src.length ≤ skb.view.headroom := hroom
    obtain ⟨b', hb', hframe⟩ := PacketBuf.frame_pushBytes src hroom
    obtain ⟨b, hb, hstore⟩ := Option.map_eq_some_iff.mp hb'
    rw [← hstore] at hframe
    rw [viewStep, if_pos hroom', nbufStep, shimNbufDataPush, hb]
    exact congrArg (fun f => some (skb.view.withFrame f, [])) hframe
  · have hroom' : ¬ src.length ≤ skb.view.headroom := hroom
    have hnone : skb.buf.push src.length = none := by rw [PacketBuf.push, if_neg hroom]
    rw [viewStep, if_neg hroom', nbufStep, shimNbufDataPush, hnone]
    rfl

theorem view_dataPull (size : ℕ) :
    ((nbufStep skb (.dataPull size)).map (Prod.map SkBuff.view id)) =
      viewStep skb.view (.dataPull size) := by
  have hlen : skb.view.bytes.length = skb.buf.len := skb.buf.length_bytes
  rw [viewStep, hlen, nbufStep, shimNbufDataPull]
  by_cases hle : size ≤ skb.buf.len
  · rw [if_pos hle, if_pos hle]
    exact congrArg (fun f => some (skb.view.withFrame f, [NbufRet.pulled true]))
      (PacketBuf.frame_pull hle)
  · rw [if_neg hle, if_neg hle, PacketBuf.pull_of_lt (Nat.lt_of_not_le hle)]
    rfl

end Steps

end Nrf70
