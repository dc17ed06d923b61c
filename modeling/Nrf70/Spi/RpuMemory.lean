import Nrf70.Lib.Machine
import Nrf70.Spi.SpiIf

/-!
# The RPU behind the SPI bus is a byte memory

The slave sees one stream of bytes per message. It decodes 23 bits of the three address bytes,
stores what follows opcode `0x02`, and answers opcode `0x0b` after a dummy byte, below `0x0C0000`
only after 12 more bytes of latency. What it drives while it is not answering, and what the host
sends from past the end of a buffer, is arbitrary and may change with every message.

The host has four access paths to this memory. Each of them is given one lemma that says what it
does to the memory and to the destination, and the sequences of accesses then follow by
simulation.

## Main results

* `spi_implements_memory` — every sequence of accesses reads what was written last; a copy from
  the RPU is a sequence of register reads, and a register write is a copy of four bytes
-/

namespace Nrf70

open Memory

/-! ### The slave -/

/-- The bytes a transfer sends. Past the end of its buffer it sends `stray`, without a buffer
zeroes. -/
def SpiTransfer.sent (stray : ℕ → UInt8) (tr : SpiTransfer) : List UInt8 :=
  match tr.txBuf with
  | some buf => buf.take tr.len ++ load stray 0 (tr.len - buf.length)
  | none => List.replicate tr.len 0

/-- The low 23 bits of the address bytes. -/
def rpuAddr (b₂ b₁ b₀ : UInt8) : ℕ := (b₂.toNat * 2 ^ 16 + b₁.toNat * 2 ^ 8 + b₀.toNat) % 2 ^ 23

/-- How many bytes the slave needs before it answers. -/
def rpuLatency (a : ℕ) : ℕ := if a < 0x0C0000 then 12 else 0

/-- What a message leaves in the memory. -/
def rpuStore (mem : ℕ → UInt8) : List UInt8 → ℕ → UInt8
  | 0x02 :: b₂ :: b₁ :: b₀ :: bytes => write mem (rpuAddr b₂ b₁ b₀) bytes
  | _ => mem

/-- The byte the slave drives at each position of a message. -/
def rpuAnswer (mem idle : ℕ → UInt8) : List UInt8 → ℕ → UInt8
  | 0x0b :: b₂ :: b₁ :: b₀ :: _dummy :: _ => fun i =>
    let a := rpuAddr b₂ b₁ b₀
    if i < 5 + rpuLatency a then idle i else mem (a + (i - (5 + rpuLatency a)))
  | _ => idle

/-- The transfers of a message, the first at position `pos`, take what the slave drives. -/
def receive (miso : ℕ → UInt8) : (pos : ℕ) → (host : ℕ → UInt8) → List SpiTransfer → ℕ → UInt8
  | _, host, [] => host
  | pos, host, tr :: trs =>
    receive miso (pos + tr.len)
      (match tr.rxBuf with
        | some dest => write host dest (load miso pos tr.len)
        | none => host)
      trs

/-- The memory of the RPU, the destination of the host, and the number of messages so far. -/
structure RpuState where
  mem : ℕ → UInt8
  host : ℕ → UInt8
  time : ℕ

/-- The bytes nobody relies on, at each time. -/
structure RpuNoise where
  stray : ℕ → ℕ → UInt8
  idle : ℕ → ℕ → UInt8

/-- The bus with the slave, where every transfer succeeds. -/
def rpuBus (noise : RpuNoise) : SpiBus RpuState where
  spiSync w m :=
    let mosi := m.flatMap (SpiTransfer.sent (noise.stray w.time))
    (0, { mem := rpuStore w.mem mosi
          host := receive (rpuAnswer w.mem (noise.idle w.time) mosi) 0 w.host m
          time := w.time + 1 })
  host := RpuState.host

@[simp] theorem rpuBus_host (noise : RpuNoise) (w : RpuState) :
    (rpuBus noise).host w = w.host := rfl

/-! ### Sequences of accesses -/

inductive SpiOp
  | writeReg32 (addr : ℕ) (val : UInt32)
  | readReg32 (addr : ℕ)
  | cpyTo (addr : ℕ) (src : List UInt8) (count : ℕ)
  | cpyFrom (addr count : ℕ)
  deriving DecidableEq, Repr

/-- What a read returns. -/
inductive SpiRet
  | reg (val : UInt32)
  | bytes (bs : List UInt8)
  deriving DecidableEq, Repr

/-- The accesses over the bus. -/
def spiStep (noise : RpuNoise) (w : RpuState) : SpiOp → Option (RpuState × List SpiRet)
  | .writeReg32 addr val => some (shimSpiWriteReg32 (rpuBus noise) spdevDefconfig w addr val, [])
  | .readReg32 addr =>
    let (val, w) := shimSpiReadReg32 (rpuBus noise) spdevDefconfig w addr
    some (w, [.reg val])
  | .cpyTo addr src count => some (shimSpiCpyTo (rpuBus noise) w addr src count, [])
  | .cpyFrom addr count =>
    let w := shimSpiCpyFrom (rpuBus noise) spdevDefconfig w addr count
    some (w, [.bytes (load w.host 0 count)])

def spiMachine (noise : RpuNoise) : Machine RpuState SpiOp SpiRet := ⟨spiStep noise⟩

/-- The specification: a history of writes, the newest first. A read returns the bytes most
recently written, or those of the memory `m` from before. -/
def memStep (m : ℕ → UInt8) (log : List (ℕ × List UInt8)) :
    SpiOp → Option (List (ℕ × List UInt8) × List SpiRet)
  | .writeReg32 addr val => some ((addr, le32 val) :: log, [])
  | .readReg32 addr => some (log, [.reg (ofLe32 (load (lastWritten m log) addr 4))])
  | .cpyTo addr src count => some ((addr, src.take count) :: log, [])
  | .cpyFrom addr count => some (log, [.bytes (load (lastWritten m log) addr count)])

def memMachine (m : ℕ → UInt8) : Machine (List (ℕ × List UInt8)) SpiOp SpiRet := ⟨memStep m⟩

/-- Some bytes from `addr` on, in the address space and not across `0x0C0000`. -/
def InWindow (addr count : ℕ) : Prop :=
  addr < 2 ^ 23 ∧ addr + count ≤ 2 ^ 23 ∧ (addr + count ≤ 0x0C0000 ∨ 0x0C0000 ≤ addr)

/-- The accesses that are made: below `2 ^ 23`, and copies of whole words in a window. -/
def SpiOp.InRange : SpiOp → Prop
  | .writeReg32 addr _ | .readReg32 addr => addr < 2 ^ 23
  | .cpyTo addr src count => InWindow addr count ∧ count % 4 = 0 ∧ count ≤ src.length
  | .cpyFrom addr count => InWindow addr count ∧ count % 4 = 0

/-! ### Headers -/

theorem toNat_addrByte (addr shift : ℕ) :
    (addrByte addr shift).toNat = addr / 2 ^ shift % 2 ^ 8 := by
  have hmask : (addr >>> shift) &&& 0xFF = (addr >>> shift) % 2 ^ 8 :=
    Nat.and_two_pow_sub_one_eq_mod _ 8
  rw [addrByte, UInt8.toNat_ofNat', hmask, Nat.mod_mod, Nat.shiftRight_eq_div_pow]

/-- The three address bytes are the low bits of the address. -/
@[simp] theorem rpuAddr_addrByte (addr : ℕ) :
    rpuAddr (addrByte addr 16) (addrByte addr 8) (addrByte addr 0) = addr % 2 ^ 23 := by
  simp only [rpuAddr, toNat_addrByte]
  omega

/-- The slave does not look at the top bit. -/
@[simp] theorem rpuAddr_or (b₂ b₁ b₀ : UInt8) : rpuAddr (b₂ ||| 0x80) b₁ b₀ = rpuAddr b₂ b₁ b₀ := by
  have hlow : (b₂ ||| 0x80).toNat % 2 ^ 7 = b₂.toNat % 2 ^ 7 := by
    rw [UInt8.toNat_or, Nat.or_mod_two_pow]
    exact Nat.or_zero _
  simp only [rpuAddr]
  omega

/-! ### One message -/

section Message

variable (noise : RpuNoise) (w : RpuState) {addr data len d n : ℕ}

/-- **A message that reads.** The bytes the host does not take are those the slave needs. -/
theorem spiSync_read {b₂ b₁ b₀ : UInt8} (haddr : rpuAddr b₂ b₁ b₀ = addr)
    (hd : d = rpuLatency addr) :
    (rpuBus noise).spiSync w
        [⟨some [0x0b, b₂, b₁, b₀, 0], none, 5 + d⟩, ⟨none, some data, len⟩] =
      (0, { w with
        host := write w.host data (load w.mem addr len), time := w.time + 1 }) := by
  obtain ⟨rest, hmosi⟩ : ∃ rest,
      ([⟨some [0x0b, b₂, b₁, b₀, 0], none, 5 + d⟩, ⟨none, some data, len⟩] :
        List SpiTransfer).flatMap (SpiTransfer.sent (noise.stray w.time)) =
      0x0b :: b₂ :: b₁ :: b₀ :: 0 :: rest := by
    have htake : List.take (5 + d) [0x0b, b₂, b₁, b₀, 0] = [0x0b, b₂, b₁, b₀, 0] :=
      List.take_of_length_le (by simp)
    exact ⟨_, by simp [SpiTransfer.sent, htake]; rfl⟩
  have hload : load (rpuAnswer w.mem (noise.idle w.time) (0x0b :: b₂ :: b₁ :: b₀ :: 0 :: rest))
      (5 + d) len = load w.mem addr len := by
    refine load_congr fun i _ => ?_
    have hpast : ¬ 5 + d + i < 5 + d := by omega
    simp [rpuAnswer, haddr, ← hd, hpast]
  simp only [rpuBus, hmosi, receive, Nat.zero_add, hload]
  rfl

/-- **A message that writes**, with the header both write paths send. -/
theorem spiSync_write (addr : ℕ) (bytes : List UInt8) {m : List SpiTransfer}
    (hrx : ∀ tr ∈ m, tr.rxBuf = none)
    (hmosi : m.flatMap (SpiTransfer.sent (noise.stray w.time)) =
      0x02 :: (addrByte addr 16 ||| 0x80) :: addrByte addr 8 :: addrByte addr 0 :: bytes) :
    (rpuBus noise).spiSync w m =
      (0, { w with mem := write w.mem (addr % 2 ^ 23) bytes, time := w.time + 1 }) := by
  have hhost : ∀ miso pos, receive miso pos w.host m = w.host := by
    intro miso
    clear hmosi
    induction m with
    | nil => exact fun _ => rfl
    | cons tr m ih =>
      intro pos
      rw [receive, hrx tr List.mem_cons_self]
      exact ih (fun tr htr => hrx tr (List.mem_cons_of_mem _ htr)) _
  simp only [rpuBus, hmosi, hhost, rpuStore, rpuAddr_or, rpuAddr_addrByte]

theorem sent_exact {stray : ℕ → UInt8} {buf : List UInt8} {rx : Option ℕ}
    (hlen : len ≤ buf.length) : SpiTransfer.sent stray ⟨some buf, rx, len⟩ = buf.take len := by
  simp [SpiTransfer.sent, Nat.sub_eq_zero_of_le hlen]

/-! ### One function of `spi_if.c` -/

/-- Below `0x0C0000`, with room for the latency. -/
theorem spdevReadReg32Hl_eq (haddr : addr < 0x0C0000) :
    spdevReadReg32Hl (rpuBus noise) w addr data len 12 =
      (0, { w with host := write w.host data (load w.mem addr len), time := w.time + 1 }) := by
  have hmod : addr % 2 ^ 32 = addr := Nat.mod_eq_of_lt (by omega)
  have hrpu : addr % 2 ^ 23 = addr := Nat.mod_eq_of_lt (by omega)
  rw [spdevReadReg32Hl, hmod]
  exact spiSync_read noise w (by rw [rpuAddr_addrByte, hrpu]) (by simp [rpuLatency, haddr])

/-- From `0x0C0000` on, without. -/
theorem rawSpdevRead_eq (hlow : 0x0C0000 ≤ addr) (haddr : addr < 2 ^ 23) :
    rawSpdevRead (rpuBus noise) w addr data len 0 =
      (0, { w with host := write w.host data (load w.mem addr len), time := w.time + 1 }) := by
  have hrpu : addr % 2 ^ 23 = addr := Nat.mod_eq_of_lt haddr
  exact spiSync_read noise w (by rw [rpuAddr_addrByte, hrpu]) (by simp [rpuLatency, hlow])

/-- The word loop of a copy. -/
theorem cpFromLoop_eq {dest offset : ℕ} (hwin : addr + offset + 4 * n ≤ 0x0C0000) :
    cpFromLoop (rpuBus noise) spdevDefconfig w dest addr offset (4 * n : ℕ) =
      { w with
        host := write w.host (dest + offset) (load w.mem (addr + offset) (4 * n))
        time := w.time + n } := by
  induction n generalizing w offset with
  | zero =>
    rw [cpFromLoop]
    simp
  | succ n ih =>
    have hcount : ((4 * (n + 1) : ℕ) : ℤ) - 4 = (4 * n : ℕ) := by omega
    have hlat : 4 * spdevDefconfig.spiSlaveLatency.toNat = 12 := rfl
    rw [cpFromLoop, if_pos (by omega), hlat, spdevReadReg32Hl_eq noise w (by omega), hcount,
      ih _ (by omega)]
    -- the first word and the rest of the block
    have hblock : load w.mem (addr + offset) (4 * (n + 1)) =
        load w.mem (addr + offset) 4 ++ load w.mem (addr + (offset + 4)) (4 * n) := by
      rw [Nat.mul_succ, Nat.add_comm (4 * n), load_add, Nat.add_assoc addr]
    rw [hblock, write_append, length_load]
    simp only [Nat.add_assoc, Nat.add_comm 1]

theorem roundCount_of_dvd {count : ℕ} (hcount : count % 4 = 0) : roundCount count = count := by
  simp [roundCount, hcount]

theorem toUInt8_and_mask (v : UInt32) : (v &&& 0xFF).toUInt8 = v.toUInt8 := by
  rw [← UInt8.toNat_inj, UInt32.toNat_toUInt8, UInt32.toNat_toUInt8, UInt32.toNat_and]
  have hmask : v.toNat &&& UInt32.toNat 0xFF = v.toNat % 2 ^ 8 :=
    Nat.and_two_pow_sub_one_eq_mod _ 8
  rw [hmask, Nat.mod_mod]

/-! ### The four access paths -/

/-- **Writing a register**, at any address. -/
theorem shimSpiWriteReg32_eq (val : UInt32) :
    shimSpiWriteReg32 (rpuBus noise) spdevDefconfig w addr val =
      { w with mem := write w.mem (addr % 2 ^ 23) (le32 val), time := w.time + 1 } := by
  have hmask : addr ||| spdevDefconfig.addrmask.toNat = addr := Nat.or_zero addr
  rw [shimSpiWriteReg32, spdevWrite, hmask, rawSpdevWrite,
    spiSync_write noise w addr (le32 val)]
  · simp
  · simp only [List.flatMap_cons, List.flatMap_nil, List.append_nil, sent_exact le_rfl,
      List.take_length, toUInt8_and_mask, le32]

/-- **Copying to the RPU**, at any address. -/
theorem shimSpiCpyTo_eq {src : List UInt8} {count : ℕ} (hmul : count % 4 = 0)
    (hcount : count < 2 ^ 31) (hsrc : count ≤ src.length) :
    shimSpiCpyTo (rpuBus noise) w addr src count =
      { w with mem := write w.mem (addr % 2 ^ 23) (src.take count), time := w.time + 1 } := by
  rw [shimSpiCpyTo, spdevCpTo, roundCount_of_dvd hmul, toInt32_of_lt hcount,
    toUnsigned_of_lt (by omega), spiSync_write noise w addr (src.take count)]
  · simp
  · simp [sent_exact, hsrc]

/-- **Reading a register.** -/
theorem shimSpiReadReg32_eq (haddr : addr < 2 ^ 23) :
    shimSpiReadReg32 (rpuBus noise) spdevDefconfig w addr =
      (ofLe32 (load w.mem addr 4),
        { w with host := write w.host 0 (load w.mem addr 4), time := w.time + 1 }) := by
  rw [shimSpiReadReg32]
  by_cases hlow : addr < 0x0C0000
  · have hlat : 4 * spdevDefconfig.spiSlaveLatency.toNat = 12 := rfl
    have hrounds : ((4 : ℤ).tdiv 4).toNat = 1 := rfl
    simp only [hlow, if_true, spdevHlRead, hrounds, hlReadLoop, spdevHlReadw, hlat, Nat.mul_zero,
      Nat.add_zero, spdevReadReg32Hl_eq noise w hlow, rpuBus_host, load_write_load]
  · have hmask : addr ||| spdevDefconfig.addrmask.toNat = addr := Nat.or_zero addr
    have hlen : toUnsigned 4 = 4 := rfl
    simp only [hlow, if_false, spdevRead, hmask, hlen,
      rawSpdevRead_eq noise w (Nat.not_lt.mp hlow) haddr, rpuBus_host, load_write_load]

/-- **Copying from the RPU.** Below `0x0C0000` this is a message a word, above it is one. -/
theorem shimSpiCpyFrom_eq {count : ℕ} (hwin : InWindow addr count) (hmul : count % 4 = 0) :
    ∃ time, shimSpiCpyFrom (rpuBus noise) spdevDefconfig w addr count =
      { w with host := write w.host 0 (load w.mem addr count), time := time } := by
  obtain ⟨haddr, hend, hside⟩ := hwin
  obtain ⟨n, rfl⟩ := Nat.dvd_of_mod_eq_zero hmul
  rw [shimSpiCpyFrom, spdevCpFrom, roundCount_of_dvd hmul, toInt32_of_lt (by omega)]
  by_cases hlow : addr < 0x0C0000
  · refine ⟨w.time + n, ?_⟩
    rw [if_pos hlow, cpFromLoop_eq noise w (by omega)]
    simp
  · have hrpu : addr % 2 ^ 23 = addr := Nat.mod_eq_of_lt haddr
    refine ⟨w.time + 1, ?_⟩
    rw [if_neg hlow, toUnsigned_of_lt (by omega)]
    exact congrArg Prod.snd (spiSync_read noise w (d := 0)
      (by rw [rpuAddr_or, rpuAddr_addrByte, hrpu]) (by simp [rpuLatency, hlow]))

end Message

/-! ### Sequences of accesses, again -/

section Simulation

variable (noise : RpuNoise) {w : RpuState} {m : ℕ → UInt8} {log log' : List (ℕ × List UInt8)}
  {op : SpiOp} {u : List SpiRet}

/-- **One access.** The memory of the RPU is what was written last. -/
theorem spiStep_of_memStep (hmem : w.mem = lastWritten m log) (hop : op.InRange)
    (hstep : memStep m log op = some (log', u)) :
    ∃ w', spiStep noise w op = some (w', u) ∧ w'.mem = lastWritten m log' := by
  cases op with
  | writeReg32 addr val =>
    simp only [memStep, Option.some.injEq, Prod.mk.injEq] at hstep
    obtain ⟨rfl, rfl⟩ := hstep
    refine ⟨_, rfl, ?_⟩
    rw [shimSpiWriteReg32_eq, Nat.mod_eq_of_lt hop, hmem, lastWritten]
  | readReg32 addr =>
    simp only [memStep, Option.some.injEq, Prod.mk.injEq] at hstep
    obtain ⟨rfl, rfl⟩ := hstep
    rw [spiStep, shimSpiReadReg32_eq noise w hop, ← hmem]
    exact ⟨_, rfl, rfl⟩
  | cpyTo addr src count =>
    simp only [memStep, Option.some.injEq, Prod.mk.injEq] at hstep
    obtain ⟨rfl, rfl⟩ := hstep
    obtain ⟨⟨haddr, hend, -⟩, hmul, hsrc⟩ := hop
    refine ⟨_, rfl, ?_⟩
    rw [shimSpiCpyTo_eq _ _ hmul (by omega) hsrc, Nat.mod_eq_of_lt haddr, hmem, lastWritten]
  | cpyFrom addr count =>
    simp only [memStep, Option.some.injEq, Prod.mk.injEq] at hstep
    obtain ⟨rfl, rfl⟩ := hstep
    obtain ⟨time, hcpy⟩ := shimSpiCpyFrom_eq noise w hop.1 hop.2
    rw [spiStep, hcpy, load_write_load, ← hmem]
    exact ⟨_, rfl, rfl⟩

/-- Every sequence of accesses reads what was written last. -/
theorem spiMachine_exec {ops : List SpiOp} (hops : ∀ op ∈ ops, op.InRange) :
    ∃ w' log t, (spiMachine noise).exec w ops = some (w', t) ∧
      (memMachine w.mem).exec [] ops = some (log, t) := by
  have htotal : ∀ log op, ∃ p, (memMachine w.mem).step log op = some p := by
    intro log op
    cases op <;> exact ⟨_, rfl⟩
  obtain ⟨⟨log, t⟩, hrun⟩ := (memMachine w.mem).exec_total htotal (s := []) ops
  have halong : (memMachine w.mem).Along (fun _ op => op.InRange) [] ops :=
    (memMachine w.mem).along_of_forall fun _ op hop => hops op hop
  obtain ⟨w', hw', -⟩ := (memMachine w.mem).exec_simulation (C := spiMachine noise)
    (R := fun log w' => w'.mem = lastWritten w.mem log)
    (fun hmem hop hstep => spiStep_of_memStep noise hmem hop hstep) rfl halong hrun
  exact ⟨w', log, t, hw', hrun⟩

/-- A sequence of register reads. -/
theorem spiMachine_exec_readReg32 {addrs : List ℕ} (haddrs : ∀ addr ∈ addrs, addr < 2 ^ 23) :
    ∃ w', (spiMachine noise).exec w (addrs.map .readReg32) =
      some (w', addrs.map fun addr => .reg (ofLe32 (load w.mem addr 4))) ∧ w'.mem = w.mem := by
  induction addrs generalizing w with
  | nil => exact ⟨w, rfl, rfl⟩
  | cons addr addrs ih =>
    have hstep : (spiMachine noise).step w (.readReg32 addr) =
        some ({ w with host := write w.host 0 (load w.mem addr 4), time := w.time + 1 },
          [.reg (ofLe32 (load w.mem addr 4))]) := by
      simp only [spiMachine, spiStep, shimSpiReadReg32_eq noise w (haddrs addr List.mem_cons_self)]
    obtain ⟨w', hrest, hmem⟩ := ih
      (w := { w with host := write w.host 0 (load w.mem addr 4), time := w.time + 1 })
      fun b hb => haddrs b (List.mem_cons_of_mem _ hb)
    refine ⟨w', ?_, hmem⟩
    rw [List.map_cons, Machine.exec_cons_eq_some]
    exact ⟨_, _, _, hstep, hrest, rfl⟩

/-- A block is its words. -/
theorem load_eq_words (mem : ℕ → UInt8) (addr n : ℕ) :
    load mem addr (4 * n) =
      (List.range n).flatMap fun i => le32 (ofLe32 (load mem (addr + 4 * i) 4)) := by
  induction n with
  | zero => rfl
  | succ n ih =>
    rw [Nat.mul_succ, load_add, ih, List.range_succ, List.flatMap_append, List.flatMap_cons,
      List.flatMap_nil, List.append_nil, le32_ofLe32 (length_load ..)]

end Simulation

/-- **The SPI transport is a byte memory.** Every sequence of accesses returns what the history of
its writes says; a copy of `n` words from the RPU is `n` reads of a register; and writing a
register is copying its four bytes. -/
theorem spi_implements_memory (noise : RpuNoise) (w : RpuState) :
    (∀ ops : List SpiOp, (∀ op ∈ ops, op.InRange) →
      ∃ w' log t, (spiMachine noise).exec w ops = some (w', t) ∧
        (memMachine w.mem).exec [] ops = some (log, t)) ∧
    (∀ addr n, InWindow addr (4 * n) →
      ∃ (w₁ w₂ : RpuState) (bs : List UInt8) (vals : List UInt32),
        (spiMachine noise).exec w [.cpyFrom addr (4 * n)] = some (w₁, [.bytes bs]) ∧
        (spiMachine noise).exec w ((List.range n).map fun i => .readReg32 (addr + 4 * i)) =
          some (w₂, vals.map .reg) ∧
        bs = vals.flatMap le32 ∧ w₁.mem = w.mem ∧ w₂.mem = w.mem) ∧
    ∀ addr val, shimSpiWriteReg32 (rpuBus noise) spdevDefconfig w addr val =
      shimSpiCpyTo (rpuBus noise) w addr (le32 val) 4 := by
  refine ⟨fun ops hops => spiMachine_exec noise hops, fun addr n hwin => ?_, fun addr val => ?_⟩
  · obtain ⟨time, hcpy⟩ := shimSpiCpyFrom_eq noise w hwin (Nat.mul_mod_right ..)
    have haddrs : ∀ b ∈ (List.range n).map (addr + 4 * ·), b < 2 ^ 23 := by
      intro b hb
      obtain ⟨i, hi, rfl⟩ := List.mem_map.mp hb
      have := List.mem_range.mp hi
      have := hwin.2.1
      omega
    obtain ⟨w₂, hregs, hmem⟩ := spiMachine_exec_readReg32 noise (w := w) haddrs
    refine ⟨{ w with host := write w.host 0 (load w.mem addr (4 * n)), time := time }, w₂,
      load w.mem addr (4 * n), (List.range n).map fun i => ofLe32 (load w.mem (addr + 4 * i) 4),
      (Machine.exec_singleton _).mpr ?_, ?_, ?_, rfl, hmem⟩
    · simp only [spiMachine, spiStep, hcpy, load_write_load]
    · simpa [List.map_map, Function.comp_def] using hregs
    · rw [load_eq_words, List.flatMap_map]
  · rw [shimSpiWriteReg32_eq, shimSpiCpyTo_eq _ _ (by decide) (by decide) (by simp)]
    rfl

/-- Both sides of `0x0C0000`, with a register written over a copy. -/
def spiBothSides : List SpiOp :=
  [.writeReg32 0x0BFFF8 0xDEADBEEF, .cpyTo 0x0C0000 [1, 2, 3, 4, 5, 6, 7, 8] 8,
    .writeReg32 0x0C0004 0x44332211, .cpyFrom 0x0BFFF8 4, .readReg32 0x0BFFF8,
    .cpyFrom 0x0C0000 8]

theorem spi_implements_memory_both_sides :
    ∃ w', (spiMachine ⟨fun _ _ => 0xA5, fun _ _ => 0x5A⟩).exec ⟨fun _ => 0, fun _ => 0xFF, 0⟩
      spiBothSides = some (w', [.bytes [0xEF, 0xBE, 0xAD, 0xDE], .reg 0xDEADBEEF,
        .bytes [1, 2, 3, 4, 0x11, 0x22, 0x33, 0x44]]) := by
  have hops : ∀ op ∈ spiBothSides, op.InRange := by simp [spiBothSides, SpiOp.InRange, InWindow]
  obtain ⟨w', log, t, hspi, hmem⟩ := (spi_implements_memory ⟨fun _ _ => 0xA5, fun _ _ => 0x5A⟩
    ⟨fun _ => 0, fun _ => 0xFF, 0⟩).1 spiBothSides hops
  have hspec : ((memMachine fun _ => 0).exec [] spiBothSides).map Prod.snd =
      some [.bytes [0xEF, 0xBE, 0xAD, 0xDE], .reg 0xDEADBEEF,
        .bytes [1, 2, 3, 4, 0x11, 0x22, 0x33, 0x44]] := by decide
  rw [hmem, Option.map_some, Option.some.injEq] at hspec
  exact ⟨w', by rw [hspi, ← hspec]⟩

end Nrf70
