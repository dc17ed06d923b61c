import Nrf70.Spi.RpuMemory

/-!
# What the driver hands to the SPI core

`spi_if.c` reads in two ways. From `0x0C0000` on a read is one message, with a header of five bytes
that is sent as it is. Below, it is a message for each word, and the time the slave needs is made up
by sending a longer header: the transfer has 12 more bytes than the array it points to. The loops
over words also drop what `spi_sync` returns, so they report success whatever happened.

Copies pass on a count that was rounded up to whole words, although the caller's buffer has only as
many bytes as it asked for.

The bus here keeps a record of the messages it was given. What it returns for each of them is
arbitrary.

## Main results

* `log_hlReadLoop`, `log_cpFromLoop` — both loops over words issue the same messages
* `transfers_in_bounds_iff` — the accesses whose transfers stay inside their buffers
* `reads_honest_iff` — the reads whose return value can be believed
-/

namespace Nrf70

open Memory

/-! ### The record -/

/-- A message, and what `spi_sync` returned for it. -/
structure SpiSync where
  msg : List SpiTransfer
  ret : ℤ
  deriving DecidableEq, Repr

/-- The bus that keeps a record. `outcome i` is what it returns for message `i`. -/
def logBus (outcome : ℕ → ℤ) : SpiBus (List SpiSync) where
  spiSync log m := (outcome log.length, log ++ [⟨m, outcome log.length⟩])
  host _ _ := 0

/-- The message for a word below `0x0C0000`. -/
def wordRead (addr data discardBytes : ℕ) : List SpiTransfer :=
  [⟨some [0x0b, addrByte (addr % 2 ^ 32) 16, addrByte (addr % 2 ^ 32) 8,
      addrByte (addr % 2 ^ 32) 0, 0], none, 5 + discardBytes⟩, ⟨none, some data, 4⟩]

section Loops

variable (outcome : ℕ → ℤ) (config : SpdevConfig) (log : List SpiSync) (addr data : ℕ)

/-- The record of `n` words read one after the other. -/
def wordReads (n : ℕ) : List SpiSync :=
  (List.range n).map fun i =>
    ⟨wordRead (addr + 4 * i) (data + 4 * i) (4 * config.spiSlaveLatency.toNat),
      outcome (log.length + i)⟩

theorem spdevReadReg32Hl_log :
    (spdevReadReg32Hl (logBus outcome) log addr data 4 (4 * config.spiSlaveLatency.toNat)).2 =
      log ++ [⟨wordRead addr data (4 * config.spiSlaveLatency.toNat), outcome log.length⟩] :=
  rfl

/-- One word more, at the front. -/
theorem wordReads_succ (n : ℕ) :
    log ++ wordReads outcome config log addr data (n + 1) =
      (log ++ [⟨wordRead addr data (4 * config.spiSlaveLatency.toNat), outcome log.length⟩]) ++
        wordReads outcome config
          (log ++ [⟨wordRead addr data (4 * config.spiSlaveLatency.toNat), outcome log.length⟩])
          (addr + 4) (data + 4) n := by
  rw [List.append_assoc]
  congr 1
  rw [wordReads, wordReads, List.range_succ_eq_map, List.map_cons, List.map_map,
    List.singleton_append]
  congr 1
  refine List.map_congr_left fun i _ => ?_
  have haddr : addr + 4 * (i + 1) = addr + 4 + 4 * i := by omega
  have hdata : data + 4 * (i + 1) = data + 4 + 4 * i := by omega
  have hlen : log.length + (i + 1) = log.length + 1 + i := by omega
  simp only [Function.comp_apply, haddr, hdata, hlen, List.length_append, List.length_singleton]

/-- The loop of `spdev_hl_read`. -/
theorem log_hlReadLoop (rest count : ℕ) :
    hlReadLoop (logBus outcome) config addr data rest count log =
      log ++ wordReads outcome config log (addr + 4 * count) (data + 4 * count) rest := by
  induction rest generalizing count log with
  | zero => simp [hlReadLoop, wordReads]
  | succ rest ih =>
    have haddr : addr + 4 * (count + 1) = addr + 4 * count + 4 := by omega
    have hdata : data + 4 * (count + 1) = data + 4 * count + 4 := by omega
    rw [hlReadLoop, spdevHlReadw, spdevReadReg32Hl_log, ih, haddr, hdata, wordReads_succ]

/-- The loop of `spdev_cp_from`. -/
theorem log_cpFromLoop (offset n : ℕ) :
    cpFromLoop (logBus outcome) config log data addr offset (4 * n : ℕ) =
      log ++ wordReads outcome config log (addr + offset) (data + offset) n := by
  induction n generalizing offset log with
  | zero =>
    rw [cpFromLoop]
    simp [wordReads]
  | succ n ih =>
    have hcount : ((4 * (n + 1) : ℕ) : ℤ) - 4 = (4 * n : ℕ) := by omega
    rw [cpFromLoop, if_pos (by omega), spdevReadReg32Hl_log, hcount, ih, wordReads_succ,
      Nat.add_assoc, Nat.add_assoc]

/-- Nothing is read when there is nothing to read. -/
theorem cpFromLoop_of_nonpos {W : Type*} (bus : SpiBus W) (w : W) (offset : ℕ) {count : ℤ}
    (h : count ≤ 0) : cpFromLoop bus config w data addr offset count = w := by
  rw [cpFromLoop, if_neg (by omega)]

end Loops

/-! ### What a read reports -/

/-- The bytes of the destination a transfer covers. -/
def SpiTransfer.covers (tr : SpiTransfer) : List ℕ :=
  match tr.rxBuf with
  | some data => List.range' data tr.len
  | none => []

/-- The bytes of the destination that the messages of a record cover, in the order they do. -/
def covered (log : List SpiSync) : List ℕ := log.flatMap fun s => s.msg.flatMap SpiTransfer.covers

/-- What the caller of a read may conclude from its return value and the messages it issued. -/
structure ReadHonest (data len : ℕ) (r : ℤ × List SpiSync) : Prop where
  /-- After `0` every message has succeeded, and together they cover the destination. -/
  covers : r.1 = 0 → (∀ s ∈ r.2, s.ret = 0) ∧ covered r.2 = List.range' data len
  /-- A message that has failed is reported. -/
  reports : (∃ s ∈ r.2, s.ret ≠ 0) → r.1 ≠ 0 ∧ ∃ s ∈ r.2, s.ret = r.1

/-- A read that is one message, and returns what the message did. -/
theorem readHonest_singleton {data len : ℕ} {m : List SpiTransfer} (ret : ℤ)
    (hm : m.flatMap SpiTransfer.covers = List.range' data len) :
    ReadHonest data len (ret, [⟨m, ret⟩]) := by
  constructor
  · intro hret
    exact ⟨by simpa using hret, by simpa [covered] using hm⟩
  · rintro ⟨s, hs, hfail⟩
    obtain rfl := List.mem_singleton.mp hs
    exact ⟨hfail, _, hs, rfl⟩

/-- A read that always returns `0`. -/
theorem readHonest_zero_iff {data len : ℕ} {log : List SpiSync}
    (hlog : covered log = List.range' data len) :
    ReadHonest data len (0, log) ↔ ∀ s ∈ log, s.ret = 0 := by
  constructor
  · intro h
    exact (h.covers rfl).1
  · intro h
    refine ⟨fun _ => ⟨h, hlog⟩, ?_⟩
    rintro ⟨s, hs, hfail⟩
    exact absurd (h s hs) hfail

section Reads

variable (outcome : ℕ → ℤ) (config : SpdevConfig) (addr data n : ℕ)

/-- Words cover their destination, one after the other. -/
theorem covered_wordReads (log : List SpiSync) :
    covered (wordReads outcome config log addr data n) = List.range' data (4 * n) := by
  have hword : ∀ i, (wordRead (addr + 4 * i) (data + 4 * i)
      (4 * config.spiSlaveLatency.toNat)).flatMap SpiTransfer.covers =
        List.range' (data + 4 * i) 4 := by
    intro i
    rfl
  rw [covered, wordReads, List.flatMap_map]
  simp only [hword]
  induction n with
  | zero => rfl
  | succ n ih =>
    rw [List.range_succ, List.flatMap_append, ih, List.flatMap_singleton, Nat.mul_succ,
      ← List.range'_append_1]

theorem wordReads_ret_iff :
    (∀ s ∈ wordReads outcome config [] addr data n, s.ret = 0) ↔ ∀ i < n, outcome i = 0 := by
  simp [wordReads]

/-- **The word loops report success whatever happened.** -/
theorem readHonest_wordReads_iff :
    ReadHonest data (4 * n) (0, wordReads outcome config [] addr data n) ↔
      ∀ i < n, outcome i = 0 := by
  rw [readHonest_zero_iff (covered_wordReads ..), wordReads_ret_iff]

theorem log_spdevHlRead :
    spdevHlRead (logBus outcome) config [] addr data (4 * n : ℕ) =
      (0, wordReads outcome config [] addr data n) := by
  have hrounds : (((4 * n : ℕ) : ℤ).tdiv 4).toNat = n := by
    rw [Int.natCast_mul]
    exact congrArg Int.toNat (Int.mul_tdiv_cancel_left _ (by decide))
  rw [spdevHlRead, hrounds, log_hlReadLoop]
  rfl

theorem log_spdevCpFrom_low (h : addr < 0x0C0000) :
    spdevCpFrom (logBus outcome) config [] data addr (4 * n : ℕ) =
      (0, wordReads outcome config [] addr data n) := by
  rw [spdevCpFrom, if_pos h, log_cpFromLoop]
  rfl

/-- **Which reads can be believed.** `spdev_read` always reports what happened. `spdev_cp_from`
does from `0x0C0000` on; below, and `spdev_hl_read` at any address, only when no message fails. -/
theorem reads_honest_iff (hn : 4 * n < 2 ^ 31) :
    (ReadHonest data (4 * n)
        (spdevCpFrom (logBus outcome) config [] data addr (4 * n : ℕ)) ↔
      0x0C0000 ≤ addr ∨ ∀ i < n, outcome i = 0) ∧
    (ReadHonest data (4 * n)
        (spdevHlRead (logBus outcome) config [] addr data (4 * n : ℕ)) ↔
      ∀ i < n, outcome i = 0) ∧
    ReadHonest data (4 * n) (spdevRead (logBus outcome) config [] addr data (4 * n : ℕ)) := by
  refine ⟨?_, ?_, ?_⟩
  · by_cases haddr : addr < 0x0C0000
    · rw [log_spdevCpFrom_low _ _ _ _ _ haddr, readHonest_wordReads_iff]
      exact (or_iff_right (Nat.not_le.mpr haddr)).symm
    · refine iff_of_true ?_ (Or.inl (Nat.not_lt.mp haddr))
      rw [spdevCpFrom, if_neg haddr, toUnsigned_of_lt (by omega)]
      exact readHonest_singleton _ (by simp [SpiTransfer.covers])
  · rw [log_spdevHlRead, readHonest_wordReads_iff]
  · rw [spdevRead, rawSpdevRead, toUnsigned_of_lt (by omega)]
    exact readHonest_singleton _ (by simp [SpiTransfer.covers])

end Reads

/-- Two words from both sides of `0x0C0000`, where the second message fails. -/
theorem reads_honest_iff_two_words :
    ReadHonest 0 8 (spdevCpFrom (logBus fun i => if i = 1 then -5 else 0) spdevDefconfig [] 0
      0x0C0000 8) ∧
    ¬ ReadHonest 0 8 (spdevHlRead (logBus fun i => if i = 1 then -5 else 0) spdevDefconfig []
      0x0BFFF8 0 8) := by
  obtain ⟨hcp, hhl, -⟩ := reads_honest_iff (fun i => if i = 1 then -5 else 0) spdevDefconfig
    0x0C0000 0 2 (by decide)
  obtain ⟨-, hlow, -⟩ := reads_honest_iff (fun i => if i = 1 then -5 else 0) spdevDefconfig
    0x0BFFF8 0 2 (by decide)
  exact ⟨hcp.mpr (Or.inl le_rfl), fun h => absurd (hlow.mp h 1 (by decide)) (by decide)⟩

/-- **A read that fails and returns `0`.** The only word of a copy and of a read from below
`0x0C0000` is not transferred. -/
theorem failed_reads_return_zero :
    (spdevCpFrom (logBus fun _ => -5) spdevDefconfig [] 0 0 4).1 = 0 ∧
    (spdevHlRead (logBus fun _ => -5) spdevDefconfig [] 0 0 4).1 = 0 ∧
    ¬ ReadHonest 0 4 (spdevCpFrom (logBus fun _ => -5) spdevDefconfig [] 0 0 4) ∧
    ¬ ReadHonest 0 4 (spdevHlRead (logBus fun _ => -5) spdevDefconfig [] 0 0 4) := by
  have hcp : spdevCpFrom (logBus fun _ => -5) spdevDefconfig [] 0 0 4 =
      (0, wordReads (fun _ => -5) spdevDefconfig [] 0 0 1) :=
    log_spdevCpFrom_low (fun _ => -5) spdevDefconfig 0 0 1 (by decide)
  have hhl : spdevHlRead (logBus fun _ => -5) spdevDefconfig [] 0 0 4 =
      (0, wordReads (fun _ => -5) spdevDefconfig [] 0 0 1) :=
    log_spdevHlRead (fun _ => -5) spdevDefconfig 0 0 1
  rw [hcp, hhl]
  have hfail : ¬ ReadHonest 0 4 (0, wordReads (fun _ => -5) spdevDefconfig [] 0 0 1) := by
    intro h
    exact absurd ((readHonest_wordReads_iff (fun _ => -5) spdevDefconfig 0 0 1).mp h 0 (by decide))
      (by decide)
  exact ⟨rfl, rfl, hfail, hfail⟩

/-! ### What stays inside its buffer -/

/-- Sending takes `len` bytes from the buffer, receiving stores `len` bytes into the destination,
which has `size` of them. -/
def SpiTransfer.InBounds (size : ℕ) (tr : SpiTransfer) : Prop :=
  (∀ buf, tr.txBuf = some buf → tr.len ≤ buf.length) ∧
    ∀ data, tr.rxBuf = some data → data + tr.len ≤ size

/-- Every transfer of a record stays inside its buffer. -/
def StaysInBounds (size : ℕ) (log : List SpiSync) : Prop :=
  ∀ s ∈ log, ∀ tr ∈ s.msg, tr.InBounds size

section Bounds

variable {size : ℕ} (outcome : ℕ → ℤ) (config : SpdevConfig) (addr data : ℕ)

@[simp] theorem staysInBounds_nil : StaysInBounds size [] := by simp [StaysInBounds]

@[simp] theorem staysInBounds_singleton {m : List SpiTransfer} {ret : ℤ} :
    StaysInBounds size [⟨m, ret⟩] ↔ ∀ tr ∈ m, tr.InBounds size := by simp [StaysInBounds]

@[simp] theorem inBounds_tx {buf : List UInt8} {len : ℕ} :
    (SpiTransfer.mk (some buf) none len).InBounds size ↔ len ≤ buf.length := by
  simp [SpiTransfer.InBounds]

@[simp] theorem inBounds_rx {len : ℕ} :
    (SpiTransfer.mk none (some data) len).InBounds size ↔ data + len ≤ size := by
  simp [SpiTransfer.InBounds]

/-- The header of a word read is sent past its end. -/
theorem not_staysInBounds_wordReads (log : List SpiSync) {n : ℕ} (hn : 0 < n) :
    ¬ StaysInBounds size (wordReads outcome spdevDefconfig log addr data n) := by
  intro h
  have hmem : (⟨wordRead addr data 12, outcome log.length⟩ : SpiSync) ∈
      wordReads outcome spdevDefconfig log addr data n :=
    List.mem_map.mpr ⟨0, List.mem_range.mpr hn, rfl⟩
  have hhdr := h _ hmem _ List.mem_cons_self
  rw [inBounds_tx] at hhdr
  simp at hhdr

/-! ### Counts -/

/-- The counts that are not made larger by rounding: whole words, and those that overflow. -/
def RoundsWithin (count : ℕ) : Prop := count % 4 = 0 ∨ 2 ^ 32 - 4 < count

instance (count : ℕ) : Decidable (RoundsWithin count) := inferInstanceAs (Decidable (_ ∨ _))

theorem roundCount_eq (count : ℕ) :
    roundCount count = if count % 4 = 0 then count else (count + 4) % 2 ^ 32 / 4 * 4 := by
  rw [roundCount]
  by_cases h : count % 4 = 0
  · simp [h]
  · rw [if_pos h, if_neg h, and_wordMask]
    omega

/-- The length of a payload is the rounded count, as an `int` and then as an `unsigned`. It is no
larger than the count exactly when that does not round up. -/
theorem toUnsigned_roundCount_le_iff (count : ℕ) :
    toUnsigned (toInt32 (roundCount count)) ≤ count ↔ RoundsWithin count := by
  rw [toUnsigned_toInt32, roundCount_eq, RoundsWithin]
  split_ifs <;> omega

/-- What the word loop is given is whole words. -/
theorem toInt32_roundCount (count : ℕ) :
    toInt32 (roundCount count) ≤ 0 ∨ ∃ n, 0 < n ∧ toInt32 (roundCount count) = (4 * n : ℕ) := by
  have hmul : roundCount count % 4 = 0 := by
    rw [roundCount_eq]
    split_ifs <;> omega
  generalize roundCount count = rounded at hmul
  by_cases hpos : toInt32 rounded ≤ 0
  · exact Or.inl hpos
  · refine Or.inr ⟨(toInt32 rounded).toNat / 4, ?_⟩
    rw [toInt32_eq] at hpos ⊢
    split_ifs at hpos ⊢ <;> omega

/-! ### The four access paths -/

theorem staysInBounds_readReg32_iff :
    StaysInBounds 4 (shimSpiReadReg32 (logBus outcome) spdevDefconfig [] addr).2 ↔
      0x0C0000 ≤ addr := by
  rw [shimSpiReadReg32]
  by_cases haddr : addr < 0x0C0000
  · have hlog : spdevHlRead (logBus outcome) spdevDefconfig [] addr 0 4 =
        (0, wordReads outcome spdevDefconfig [] addr 0 1) :=
      log_spdevHlRead outcome spdevDefconfig addr 0 1
    simp only [haddr, if_true, hlog]
    exact iff_of_false (not_staysInBounds_wordReads outcome addr 0 [] Nat.one_pos)
      (Nat.not_le.mpr haddr)
  · have hlen : toUnsigned 4 = 4 := rfl
    simp only [haddr, if_false]
    refine iff_of_true ?_ (Nat.not_lt.mp haddr)
    simp [spdevRead, rawSpdevRead, logBus, hlen]

theorem staysInBounds_writeReg32 (val : UInt32) :
    StaysInBounds 0 (shimSpiWriteReg32 (logBus outcome) config [] addr val) := by
  simp [shimSpiWriteReg32, spdevWrite, rawSpdevWrite, logBus]

/-- Below `0x0C0000` a copy stays in bounds when it copies nothing. -/
theorem staysInBounds_cpyFrom_iff (count : ℕ) :
    StaysInBounds count (shimSpiCpyFrom (logBus outcome) spdevDefconfig [] addr count) ↔
      if addr < 0x0C0000 then toInt32 (roundCount count) ≤ 0 else RoundsWithin count := by
  rw [shimSpiCpyFrom]
  split_ifs with haddr
  · rcases toInt32_roundCount count with hpos | ⟨n, hn, hcount⟩
    · refine iff_of_true ?_ hpos
      rw [spdevCpFrom, if_pos haddr, cpFromLoop_of_nonpos _ _ _ _ _ _ hpos]
      exact staysInBounds_nil
    · rw [hcount, log_spdevCpFrom_low _ _ _ _ _ haddr]
      exact iff_of_false (not_staysInBounds_wordReads outcome addr 0 [] hn) (by omega)
  · rw [spdevCpFrom, if_neg haddr, ← toUnsigned_roundCount_le_iff]
    simp [logBus]

theorem staysInBounds_cpyTo_iff (src : List UInt8) :
    StaysInBounds 0 (shimSpiCpyTo (logBus outcome) [] addr src src.length) ↔
      RoundsWithin src.length := by
  rw [shimSpiCpyTo, spdevCpTo, ← toUnsigned_roundCount_le_iff]
  simp [logBus]

/-- A copy whose transfers stay in bounds changes no other byte of the host. -/
theorem cpyFrom_host_of_inBounds {count : ℕ}
    (h : StaysInBounds count (shimSpiCpyFrom (logBus outcome) spdevDefconfig [] addr count))
    (noise : RpuNoise) (w : RpuState) {x : ℕ} (hx : count ≤ x) :
    (shimSpiCpyFrom (rpuBus noise) spdevDefconfig w addr count).host x = w.host x := by
  rw [staysInBounds_cpyFrom_iff] at h
  rw [shimSpiCpyFrom, spdevCpFrom]
  split_ifs at h ⊢ with haddr
  · rw [cpFromLoop_of_nonpos _ _ _ _ _ _ h]
  · rw [← toUnsigned_roundCount_le_iff] at h
    generalize toUnsigned (toInt32 (roundCount count)) = len at h ⊢
    simp only [rpuBus, receive]
    refine write_of_outside w.host (Or.inr ?_)
    rw [length_load]
    omega

/-- A copy whose transfers stay in bounds changes no other byte of the RPU. -/
theorem cpyTo_mem_of_inBounds {src : List UInt8}
    (h : StaysInBounds 0 (shimSpiCpyTo (logBus outcome) [] addr src src.length))
    (noise : RpuNoise) (w : RpuState) {x : ℕ}
    (hx : x < addr % 2 ^ 23 ∨ addr % 2 ^ 23 + src.length ≤ x) :
    (shimSpiCpyTo (rpuBus noise) w addr src src.length).mem x = w.mem x := by
  rw [staysInBounds_cpyTo_iff, ← toUnsigned_roundCount_le_iff] at h
  rw [shimSpiCpyTo, spdevCpTo, spiSync_write noise w addr
    (src.take (toUnsigned (toInt32 (roundCount src.length))))]
  · refine write_of_outside w.mem (hx.imp_right fun hend => ?_)
    have hlen := List.length_take_le (toUnsigned (toInt32 (roundCount src.length))) src
    omega
  · simp
  · simp [sent_exact, h]

/-- **What stays inside its buffers.** Reading a register does from `0x0C0000` on, writing one
always. A copy does, and changes nothing outside the bytes it was asked for, when its count is not
rounded up; a copy from below `0x0C0000` only when it copies nothing. -/
theorem transfers_in_bounds_iff (val : UInt32) (count : ℕ) (src : List UInt8) :
    (StaysInBounds 4 (shimSpiReadReg32 (logBus outcome) spdevDefconfig [] addr).2 ↔
      0x0C0000 ≤ addr) ∧
    StaysInBounds 0 (shimSpiWriteReg32 (logBus outcome) spdevDefconfig [] addr val) ∧
    ((StaysInBounds count (shimSpiCpyFrom (logBus outcome) spdevDefconfig [] addr count) ∧
        ∀ noise w x, count ≤ x →
          (shimSpiCpyFrom (rpuBus noise) spdevDefconfig w addr count).host x = w.host x) ↔
      if addr < 0x0C0000 then toInt32 (roundCount count) ≤ 0 else RoundsWithin count) ∧
    ((StaysInBounds 0 (shimSpiCpyTo (logBus outcome) [] addr src src.length) ∧
        ∀ noise w x, x < addr % 2 ^ 23 ∨ addr % 2 ^ 23 + src.length ≤ x →
          (shimSpiCpyTo (rpuBus noise) w addr src src.length).mem x = w.mem x) ↔
      RoundsWithin src.length) := by
  refine ⟨staysInBounds_readReg32_iff outcome addr, staysInBounds_writeReg32 outcome _ addr val,
    ?_, ?_⟩
  · rw [← staysInBounds_cpyFrom_iff outcome addr count]
    exact and_iff_left_of_imp fun h noise w x hx =>
      cpyFrom_host_of_inBounds outcome addr h noise w hx
  · rw [← staysInBounds_cpyTo_iff outcome addr src]
    exact and_iff_left_of_imp fun h noise w x hx => cpyTo_mem_of_inBounds outcome addr h noise w hx

end Bounds

/-- **Transfers past the end of their buffers.** The header of a register read below `0x0C0000` is
five bytes and 17 are sent. A copy of five bytes to `0x0C0000` sends eight, and the RPU stores what
lies behind the buffer; one from there stores eight into a destination of five. -/
theorem transfers_past_the_end :
    ¬ StaysInBounds 4 (shimSpiReadReg32 (logBus fun _ => 0) spdevDefconfig [] 0).2 ∧
    (shimSpiCpyTo (rpuBus ⟨fun _ _ => 0xA5, fun _ _ => 0⟩) ⟨fun _ => 0, fun _ => 0, 0⟩ 0x0C0000
      [1, 2, 3, 4, 5] 5).mem 0x0C0005 = 0xA5 ∧
    (shimSpiCpyFrom (rpuBus ⟨fun _ _ => 0, fun _ _ => 0⟩) spdevDefconfig
      ⟨fun _ => 0x5A, fun _ => 0, 0⟩ 0x0C0000 5).host 5 = 0x5A := by
  refine ⟨?_, by decide, by decide⟩
  rw [staysInBounds_readReg32_iff]
  decide

end Nrf70
