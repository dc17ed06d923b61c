import Nrf70.Lib.ByteMemory

/-!
# Packet buffers

A packet buffer is a block of memory with a window in it. What is in the window is the packet; the
memory in front of it is room for headers, and the memory behind it room for more data. Headers
come and go by moving the start of the window, so no byte of the packet is ever copied for one.

Seen from outside only the room and the packet count: a `Frame`. The operations on buffers refine
the operations on frames. Growing a packet gets stuck exactly where its frame has no room; room is
reserved without a test, and whoever reserves it answers for the packet being empty and the window
staying inside.

## Main definitions

* `PacketBuf`, `PacketBuf.Inside` — a buffer, and its window being inside it
* `PacketBuf.put`, `push`, `pull`, `reserve`, `cowHead` — its operations
* `Frame`, `PacketBuf.frame` — what can be seen of it

## Main results

* `PacketBuf.frame_pushBytes`, `frame_putBytes`, `frame_pull`, `frame_reserve` — the frame after
  each of them
* `PacketBuf.cowHead_of_succeeds` — a packet that is given room for a header stays as it is
-/

namespace Nrf70

/-- A buffer of `cap` cells, and a window from `data` to `tail`. -/
structure PacketBuf (β : Type*) where
  mem : ℕ → β
  data : ℕ
  tail : ℕ
  cap : ℕ
  data_le : data ≤ tail

/-- What can be seen of a buffer: the packet, and the room in front of it and behind it. -/
@[ext] structure Frame (β : Type*) where
  headroom : ℕ
  bytes : List β
  tailroom : ℕ
  deriving DecidableEq, Repr

namespace PacketBuf

variable {β : Type*} (b : PacketBuf β)

/-- The window does not reach past the end of the buffer. -/
def Inside : Prop := b.tail ≤ b.cap

instance : Decidable b.Inside := inferInstanceAs (Decidable (_ ≤ _))

/-- The length of the packet. -/
def len : ℕ := b.tail - b.data

/-- The packet. -/
def bytes : List β := Memory.load b.mem b.data b.len

def frame : Frame β := ⟨b.data, b.bytes, b.cap - b.tail⟩

@[simp] theorem length_bytes : b.bytes.length = b.len := Memory.length_load ..

/-- An empty buffer. -/
def alloc (mem : ℕ → β) (cap : ℕ) : PacketBuf β := ⟨mem, 0, 0, cap, Nat.le_refl _⟩

@[simp] theorem frame_alloc (mem : ℕ → β) (cap : ℕ) : (alloc mem cap).frame = ⟨0, [], cap⟩ := rfl

/-! ### Reading and writing the packet -/

/-- `n` cells of the packet from offset `off` on; there is nothing to be read outside it. -/
def read (off n : ℕ) : Option (List β) :=
  if off + n ≤ b.len then some (Memory.load b.mem (b.data + off) n) else none

/-- What is read is in the packet. -/
theorem read_eq {off n : ℕ} (h : off + n ≤ b.len) :
    b.read off n = some ((b.bytes.drop off).take n) := by
  rw [read, if_pos h, bytes]
  obtain ⟨rest, hrest⟩ := Nat.exists_eq_add_of_le h
  rw [hrest, Nat.add_assoc, Memory.load_add, Memory.load_add]
  have hoff : (Memory.load b.mem b.data off).length = off := Memory.length_load ..
  have hn : (Memory.load b.mem (b.data + off) n).length = n := Memory.length_load ..
  rw [List.drop_left' hoff, List.take_left' hn]

/-- Cells of the buffer are overwritten. -/
def store (a : ℕ) (bs : List β) : PacketBuf β := { b with mem := Memory.write b.mem a bs }

/-! ### Moving the window -/

/-- Move the window up by `n` cells, for room in front of it. Nothing is tested: a packet that is
not empty is left behind, and the window may leave the buffer. -/
def reserve (n : ℕ) : PacketBuf β :=
  ⟨b.mem, b.data + n, b.tail + n, b.cap, Nat.add_le_add_right b.data_le n⟩

/-- Add room for `n` cells at the end of the packet. -/
def put (n : ℕ) : Option (PacketBuf β) :=
  if b.tail + n ≤ b.cap then
    some ⟨b.mem, b.data, b.tail + n, b.cap, Nat.le_trans b.data_le (Nat.le_add_right ..)⟩
  else none

/-- Add room for `n` cells at the front of the packet. -/
def push (n : ℕ) : Option (PacketBuf β) :=
  if n ≤ b.data then
    some ⟨b.mem, b.data - n, b.tail, b.cap, Nat.le_trans (Nat.sub_le ..) b.data_le⟩
  else none

/-- Take `n` cells away from the front of the packet; one that is shorter stays as it is. -/
def pull (n : ℕ) : PacketBuf β :=
  if h : n ≤ b.len then
    ⟨b.mem, b.data + n, b.tail, b.cap, by
      have hle := b.data_le
      rw [len] at h
      omega⟩
  else b

/-- The buffer in a larger block, with `n` more cells in front. -/
def expandHead (fresh : ℕ → β) (n : ℕ) : PacketBuf β where
  mem := fun x => if n ≤ x then b.mem (x - n) else fresh x
  data := b.data + n
  tail := b.tail + n
  cap := b.cap + n
  data_le := Nat.add_le_add_right b.data_le n

/-- Append to the packet. -/
def putBytes (bs : List β) : Option (PacketBuf β) :=
  (b.put bs.length).map fun b' => b'.store b.tail bs

/-- Put a header in front of the packet. -/
def pushBytes (bs : List β) : Option (PacketBuf β) :=
  (b.push bs.length).map fun b' => b'.store b'.data bs

/-! ### Where the window is -/

section Windows

variable {b}

theorem inside_reserve {n : ℕ} (h : b.tail + n ≤ b.cap) : (b.reserve n).Inside := h

theorem inside_put {n : ℕ} {b' : PacketBuf β} (h : b.put n = some b') : b'.Inside := by
  rw [put, Option.ite_none_right_eq_some, Option.some.injEq] at h
  obtain ⟨hroom, rfl⟩ := h
  exact hroom

theorem inside_push {n : ℕ} {b' : PacketBuf β} (hin : b.Inside) (h : b.push n = some b') :
    b'.Inside := by
  rw [push, Option.ite_none_right_eq_some, Option.some.injEq] at h
  obtain ⟨-, rfl⟩ := h
  exact hin

theorem inside_pull {n : ℕ} (hin : b.Inside) : (b.pull n).Inside := by
  rw [pull]
  split
  · exact hin
  · exact hin

end Windows

/-! ### What can be seen of it -/

section Views

variable {b}

/-- Writing in front of the packet changes nothing in it. -/
theorem load_write_below {mem : ℕ → β} {a d n : ℕ} {bs : List β} (h : a + bs.length ≤ d) :
    Memory.load (Memory.write mem a bs) d n = Memory.load mem d n :=
  Memory.load_congr fun i _ => Memory.write_of_outside mem (.inr (by omega))

/-- Nor does writing behind it. -/
theorem load_write_above {mem : ℕ → β} {a d n : ℕ} {bs : List β} (h : d + n ≤ a) :
    Memory.load (Memory.write mem a bs) d n = Memory.load mem d n :=
  Memory.load_congr fun i hi => Memory.write_of_outside mem (.inl (by omega))

/-- **A header goes in front.** -/
theorem frame_pushBytes (bs : List β) (h : bs.length ≤ b.data) :
    ∃ b', b.pushBytes bs = some b' ∧
      b'.frame = ⟨b.data - bs.length, bs ++ b.bytes, b.cap - b.tail⟩ := by
  refine ⟨_, by rw [pushBytes, push, if_pos h, Option.map_some], ?_⟩
  have hlen : b.tail - (b.data - bs.length) = bs.length + (b.tail - b.data) := by
    have hle := b.data_le
    omega
  have hback : b.data - bs.length + bs.length = b.data := Nat.sub_add_cancel h
  refine Frame.ext rfl ?_ rfl
  simp only [frame, bytes, len, store, hlen]
  rw [Memory.load_add, Memory.load_write_self, hback, load_write_below (Nat.le_of_eq hback)]

/-- **Data goes behind.** -/
theorem frame_putBytes (bs : List β) (h : b.tail + bs.length ≤ b.cap) :
    ∃ b', b.putBytes bs = some b' ∧
      b'.frame = ⟨b.data, b.bytes ++ bs, b.cap - b.tail - bs.length⟩ := by
  refine ⟨_, by rw [putBytes, put, if_pos h, Option.map_some], ?_⟩
  have hle := b.data_le
  have hlen : b.tail + bs.length - b.data = (b.tail - b.data) + bs.length := by omega
  have htail : b.data + (b.tail - b.data) = b.tail := by omega
  refine Frame.ext rfl ?_ (Nat.sub_add_eq ..)
  simp only [frame, bytes, len, store, hlen]
  rw [Memory.load_add, htail, Memory.load_write_self, load_write_above (Nat.le_of_eq htail)]

/-- **A header is taken away.** -/
theorem frame_pull {n : ℕ} (h : n ≤ b.len) :
    (b.pull n).frame = ⟨b.data + n, b.bytes.drop n, b.cap - b.tail⟩ := by
  obtain ⟨rest, hrest⟩ := Nat.exists_eq_add_of_le h
  have hn : (Memory.load b.mem b.data n).length = n := Memory.length_load ..
  have hlen : b.tail - (b.data + n) = rest := by
    rw [len] at hrest
    omega
  rw [pull, dif_pos h]
  refine Frame.ext rfl ?_ rfl
  simp only [frame, bytes, len, hlen]
  rw [len] at hrest
  rw [hrest, Memory.load_add, List.drop_left' hn]

theorem pull_of_lt {n : ℕ} (h : b.len < n) : b.pull n = b := by
  rw [pull, dif_neg (Nat.not_le_of_lt h)]

/-- **A larger block holds the same packet.** -/
theorem frame_expandHead (fresh : ℕ → β) (n : ℕ) :
    (b.expandHead fresh n).frame = ⟨b.data + n, b.bytes, b.cap - b.tail⟩ := by
  have hlen : b.tail + n - (b.data + n) = b.tail - b.data := Nat.add_sub_add_right ..
  have hroom : b.cap + n - (b.tail + n) = b.cap - b.tail := Nat.add_sub_add_right ..
  refine Frame.ext rfl ?_ hroom
  simp only [frame, bytes, len, expandHead, hlen]
  refine Memory.load_congr fun i _ => ?_
  rw [if_pos (by omega)]
  congr 1
  omega

/-- **Room in front of an empty packet.** -/
theorem frame_reserve {n : ℕ} (h : b.data = b.tail) :
    (b.reserve n).frame = ⟨b.data + n, [], b.cap - b.tail - n⟩ := by
  have hlen : b.tail + n - (b.data + n) = 0 := by omega
  refine Frame.ext rfl ?_ (Nat.sub_add_eq ..)
  simp only [frame, bytes, len, reserve, hlen, Memory.load_zero]

end Views

/-! ### Room for a header, whoever else holds the packet -/

/-- How an allocator answers: whether somebody else holds the packet, whether there is memory for
a new block, how many cells more than asked for it has, and what is in the new ones. -/
structure Cow (β : Type*) where
  cloned : Bool
  memory : Bool
  spare : ℕ
  fresh : ℕ → β

/-- Nothing has to be allocated, or there is memory. -/
def CowSucceeds (k : Cow β) (n : ℕ) : Prop := n ≤ b.data ∧ k.cloned = false ∨ k.memory = true

instance (k : Cow β) (n : ℕ) : Decidable (b.CowSucceeds k n) := inferInstanceAs (Decidable (_ ∨ _))

/-- Make sure that there is room for a header of `n` cells and that nobody else holds the packet. -/
def cowHead (k : Cow β) (n : ℕ) : Option (PacketBuf β) :=
  if n ≤ b.data ∧ k.cloned = false then some b
  else if k.memory then some (b.expandHead k.fresh (n - b.data + k.spare)) else none

variable {b}

/-- It keeps the packet and the room behind it. -/
theorem cowHead_of_succeeds {k : Cow β} {n : ℕ} (h : b.CowSucceeds k n) :
    ∃ b', b.cowHead k n = some b' ∧ b'.bytes = b.bytes ∧ n ≤ b'.data ∧
      b'.cap - b'.tail = b.cap - b.tail := by
  rw [cowHead]
  by_cases hroom : n ≤ b.data ∧ k.cloned = false
  · exact ⟨b, if_pos hroom, rfl, hroom.1, rfl⟩
  · have hmem : k.memory = true := h.resolve_left hroom
    have hframe := frame_expandHead (b := b) k.fresh (n - b.data + k.spare)
    refine ⟨_, by rw [if_neg hroom, if_pos hmem], congrArg Frame.bytes hframe, ?_,
      congrArg Frame.tailroom hframe⟩
    change n ≤ b.data + (n - b.data + k.spare)
    omega

theorem cowHead_of_not_succeeds {k : Cow β} {n : ℕ} (h : ¬ b.CowSucceeds k n) :
    b.cowHead k n = none := by
  rw [CowSucceeds, not_or] at h
  rw [cowHead, if_neg h.1, if_neg h.2]

end PacketBuf

end Nrf70
