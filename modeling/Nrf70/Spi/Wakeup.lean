import Nrf70.Spi.SpiIf

/-!
# Waking the RPU

To wake the RPU the driver slows the bus down to 8 MHz, writes a bit and polls two status
registers, ten times each at most, one until it shows that the write has arrived and one until it
shows that the RPU is awake. The first of the loops puts the clock back when it sees its bit, and
nobody does otherwise. It returns the error of its last poll, which is none when the poll went
through without the bit; the second returns the last value it has read. `rpu_wakeup` looks at
neither.

The clock is put back to a cell of the device tree. Cells are stored with their highest byte
first, and `set_spi_speed` reads this one as a number of the little-endian host.

## What is outside the repository

`of_get_property` and `spi_setup` are the kernel's: the first returns the cell as it is stored, the
second cuts a speed down to the controller's limit when it has one. The bus is that of the other
functions of `spi_if.c`; here it answers the polls of each register as a script says.

## Main results

* `wakeup_truthful_iff` — the runs in which a wake-up is reported as it went, and the clock restored
* `bus_speed_iff` — the frequencies the bus runs at
-/

namespace Nrf70

/-! ### The clock -/

/-- What the speed of the bus depends on: the device-tree node of the device, where a property is
the bytes it is stored as, and the limit of the controller, or `0`. -/
structure SpiHost where
  spiMaxFrequency : Option (List UInt8)
  ctlrMaxSpeedHz : UInt32

/-- What `spi_setup` leaves in `max_speed_hz`. -/
def spiSetup (host : SpiHost) (maxSpeedHz : UInt32) : UInt32 :=
  if host.ctlrMaxSpeedHz ≠ 0 ∧ (maxSpeedHz = 0 ∨ host.ctlrMaxSpeedHz < maxSpeedHz) then
    host.ctlrMaxSpeedHz
  else maxSpeedHz

/-- The bus, and `max_speed_hz` of the device on it. -/
structure SpiDev (W : Type*) where
  bus : W
  maxSpeedHz : UInt32

/-- `SPI_SPEED_FROM_DTS`. -/
def spiSpeedFromDts : UInt32 := 0

/-- `RPU_SPI_WAKEUP_FREQ_MHZ`. -/
def rpuSpiWakeupFreqMhz : UInt32 := 8 * 1000 * 1000

section Wakeup

variable {W : Type*} (host : SpiHost) (bus : SpiBus W)

/-- `set_spi_speed`. -/
def setSpiSpeed (s : SpiDev W) (speed : UInt32) : SpiDev W :=
  if speed = spiSpeedFromDts then
    match host.spiMaxFrequency with
    | none => s
    | some cell => { s with maxSpeedHz := spiSetup host (ofLe32 cell) }
  else { s with maxSpeedHz := spiSetup host speed }

/-- `spdev_init`, as far as the clock goes. -/
def spdevInit (s : SpiDev W) : SpiDev W := setSpiSpeed host s spiSpeedFromDts

/-! ### The status registers -/

/-- `RPU_WAKEUP_NOW`. -/
def rpuWakeupNow : UInt8 := 1

/-- `RPU_AWAKE_BIT`. -/
def rpuAwakeBit : UInt8 := 2

/-- `spdev_read_reg`: its return value, and `*reg_value`. -/
def spdevReadReg (w : W) (regAddr regValue : UInt8) : ℤ × UInt8 × W :=
  let (err, w) := bus.spiSync w [⟨some [regAddr, 0, 0, 0, 0, 0], some 0, 6⟩]
  (err, if err = 0 then bus.host w 1 else regValue, w)

/-- `spdev_write_reg`. -/
def spdevWriteReg (w : W) (regAddr regValue : UInt8) : ℤ × W :=
  bus.spiSync w [⟨some [regAddr, regValue], none, 2⟩]

/-- The loop of `_spdev_wait_while_rpu_awake`, with a number of rounds to go. -/
def awakeLoop : ℕ → UInt8 → W → UInt8 × W
  | 0, val, w => (val, w)
  | rest + 1, val, w =>
    let (ret, val, w) := spdevReadReg bus w 0x1F val
    if ret = 0 ∧ val &&& rpuAwakeBit ≠ 0 then (val, w) else awakeLoop rest val w

/-- `_spdev_wait_while_rpu_awake`. -/
def rawSpdevWaitWhileRpuAwake (s : SpiDev W) : UInt8 × SpiDev W :=
  let (val, w) := awakeLoop bus 10 0 s.bus
  (val, { s with bus := w })

/-- The loop of `spdev_wait_while_rpu_wake_write`. -/
def wakeWriteLoop : ℕ → ℤ → UInt8 → SpiDev W → ℤ × SpiDev W
  | 0, ret, _, s => (ret, s)
  | rest + 1, _, val, s =>
    let (ret, val, w) := spdevReadReg bus s.bus 0x2F val
    let s := { s with bus := w }
    if ret = 0 ∧ val &&& rpuWakeupNow ≠ 0 then (ret, setSpiSpeed host s spiSpeedFromDts)
    else wakeWriteLoop rest ret val s

/-- `spdev_wait_while_rpu_wake_write`. -/
def spdevWaitWhileRpuWakeWrite (s : SpiDev W) : ℤ × SpiDev W := wakeWriteLoop host bus 10 0 0 s

/-- `_spdev_cmd_wakeup_rpu`. -/
def rawSpdevCmdWakeupRpu (s : SpiDev W) (data : UInt32) : ℤ × SpiDev W :=
  -- always 8 MHz
  let s := setSpiSpeed host s rpuSpiWakeupFreqMhz
  let (ret, w) := spdevWriteReg bus s.bus 0x3F data.toUInt8
  (ret, { s with bus := w })

/-! ### The functions of `rpu_hw_if.c` -/

/-- `spdev_cmd_wakeup_rpu`. -/
def spdevCmdWakeupRpu (s : SpiDev W) (data : UInt32) : ℤ × SpiDev W :=
  rawSpdevCmdWakeupRpu host bus s data

/-- `spdev_validate_rpu_wake_writecmd`. -/
def spdevValidateRpuWakeWritecmd (s : SpiDev W) : ℤ × SpiDev W :=
  spdevWaitWhileRpuWakeWrite host bus s

/-- `spdev_wait_while_rpu_awake`. -/
def spdevWaitWhileRpuAwake (s : SpiDev W) : ℤ × SpiDev W :=
  let (val, s) := rawSpdevWaitWhileRpuAwake bus s
  (val.toNat, s)

/-- `rpu_wrsr2`. -/
def rpuWrsr2 (s : SpiDev W) (data : UInt8) : ℤ × SpiDev W :=
  (0, (spdevCmdWakeupRpu host bus s data.toUInt32).2)

/-- `rpu_rdsr2`. -/
def rpuRdsr2 (s : SpiDev W) : ℤ × SpiDev W := spdevValidateRpuWakeWritecmd host bus s

/-- `rpu_rdsr1`. -/
def rpuRdsr1 (s : SpiDev W) : ℤ × SpiDev W := spdevWaitWhileRpuAwake bus s

/-- `rpu_wakeup`. -/
def rpuWakeup (s : SpiDev W) : ℤ × SpiDev W :=
  let (_, s) := rpuWrsr2 host bus s 1
  let (_, s) := rpuRdsr2 host bus s
  let (_, s) := rpuRdsr1 bus s
  (0, s)

/-- `rpu_sleep_status`. -/
def rpuSleepStatus (s : SpiDev W) : ℤ × SpiDev W := rpuRdsr1 bus s

end Wakeup

/-! ### A bus that answers as a script says -/

/-- What becomes of the wake-up write, and of every poll of a status register: an error, or a
byte. -/
structure StatusScript where
  write : ℤ
  poll : UInt8 → ℕ → ℤ × UInt8

/-- How often each register has been polled, and the byte received last. -/
structure StatusState where
  polls : UInt8 → ℕ
  sr : UInt8

/-- Before the first poll. -/
def StatusState.start : StatusState := ⟨fun _ => 0, 0⟩

/-- One more poll of a register. -/
def StatusState.polled (w : StatusState) (reg sr : UInt8) : StatusState :=
  ⟨Function.update w.polls reg (w.polls reg + 1), sr⟩

/-- The bus of a script. A message without a buffer to receive into is the write. -/
def statusBus (o : StatusScript) : SpiBus StatusState where
  spiSync w
    | [⟨some (reg :: _), some _, _⟩] =>
      ((o.poll reg (w.polls reg)).1, w.polled reg (o.poll reg (w.polls reg)).2)
    | _ => (o.write, w)
  host w _ := w.sr

/-- A poll that went through and showed a bit. -/
def Shows (bit : UInt8) (p : ℤ × UInt8) : Prop := p.1 = 0 ∧ p.2 &&& bit ≠ 0

instance (bit : UInt8) : DecidablePred (Shows bit) :=
  fun _ => inferInstanceAs (Decidable (_ ∧ _))

/-- One of the ten polls shows a bit. -/
def ShownIn (bit : UInt8) (polls : ℕ → ℤ × UInt8) : Prop := ∃ i < 10, Shows bit (polls i)

instance (bit : UInt8) (polls : ℕ → ℤ × UInt8) : Decidable (ShownIn bit polls) :=
  inferInstanceAs (Decidable (∃ i < 10, _))

section Script

variable (host : SpiHost) (o : StatusScript)

theorem spdevReadReg_statusBus (w : StatusState) (reg val : UInt8) :
    spdevReadReg (statusBus o) w reg val =
      ((o.poll reg (w.polls reg)).1,
        if (o.poll reg (w.polls reg)).1 = 0 then (o.poll reg (w.polls reg)).2 else val,
        w.polled reg (o.poll reg (w.polls reg)).2) :=
  rfl

@[simp] theorem polls_polled (w : StatusState) (reg sr : UInt8) :
    (w.polled reg sr).polls reg = w.polls reg + 1 := by
  simp [StatusState.polled]

/-- The first of several polls, or one of the others. -/
theorem exists_poll_succ (p : ℕ → ℤ × UInt8) (bit : UInt8) (k rest : ℕ) :
    (∃ i < rest + 1, Shows bit (p (k + i))) ↔
      Shows bit (p k) ∨ ∃ i < rest, Shows bit (p (k + 1 + i)) := by
  rw [Nat.exists_lt_succ_left]
  simp only [Nat.add_zero, Nat.add_assoc, Nat.add_comm 1]

/-- The loop that waits for the RPU to be awake returns a value with the bit exactly when it has
seen it: a failed poll leaves the value of an earlier one, which did not have it. -/
theorem awakeLoop_statusBus : ∀ (rest : ℕ) (val : UInt8) (w : StatusState),
    val &&& rpuAwakeBit = 0 →
      ((awakeLoop (statusBus o) rest val w).1 &&& rpuAwakeBit ≠ 0 ↔
        ∃ i < rest, Shows rpuAwakeBit (o.poll 0x1F (w.polls 0x1F + i)))
  | 0, val, w, hval => by simp [awakeLoop, hval]
  | rest + 1, val, w, hval => by
    rw [exists_poll_succ, awakeLoop, spdevReadReg_statusBus]
    by_cases herr : (o.poll 0x1F (w.polls 0x1F)).1 = 0
    · by_cases hbit : (o.poll 0x1F (w.polls 0x1F)).2 &&& rpuAwakeBit = 0
      · -- a byte without the bit
        have ih := awakeLoop_statusBus rest _ (w.polled 0x1F (o.poll 0x1F (w.polls 0x1F)).2) hbit
        simpa [herr, hbit, Shows] using ih
      · simp [herr, hbit, Shows]
    · have ih := awakeLoop_statusBus rest val (w.polled 0x1F (o.poll 0x1F (w.polls 0x1F)).2) hval
      simpa [herr, Shows] using ih

/-- A poll that does not show the bit is not the one the loop is waiting for. -/
theorem not_awaited_of_not_shows {p : ℤ × UInt8} {bit val : UInt8} (h : ¬ Shows bit p) :
    ¬ (p.1 = 0 ∧ (if p.1 = 0 then p.2 else val) &&& bit ≠ 0) := by
  rintro ⟨herr, hbit⟩
  rw [if_pos herr] at hbit
  exact h ⟨herr, hbit⟩

/-- The speed that the device tree gives, as `set_spi_speed` reads it. -/
def dtsSpeed (cell : List UInt8) (limit : UInt32) : UInt32 :=
  spiSetup ⟨some cell, limit⟩ (ofLe32 cell)

variable (cell : List UInt8) (limit : UInt32)

@[simp] theorem maxSpeedHz_setSpiSpeed_dts {W : Type*} (s : SpiDev W) :
    (setSpiSpeed ⟨some cell, limit⟩ s spiSpeedFromDts).maxSpeedHz = dtsSpeed cell limit :=
  rfl

/-- Once the write is seen to have arrived, the clock is that of the device tree. -/
theorem wakeWriteLoop_of_shown : ∀ (rest : ℕ) (ret : ℤ) (val : UInt8) (s : SpiDev StatusState),
    (∃ i < rest, Shows rpuWakeupNow (o.poll 0x2F (s.bus.polls 0x2F + i))) →
      (wakeWriteLoop ⟨some cell, limit⟩ (statusBus o) rest ret val s).1 = 0 ∧
        (wakeWriteLoop ⟨some cell, limit⟩ (statusBus o) rest ret val s).2.maxSpeedHz =
          dtsSpeed cell limit
  | 0, ret, val, s, h => by simp at h
  | rest + 1, ret, val, s, h => by
    rw [exists_poll_succ] at h
    rw [wakeWriteLoop, spdevReadReg_statusBus]
    by_cases hshow : Shows rpuWakeupNow (o.poll 0x2F (s.bus.polls 0x2F))
    · obtain ⟨herr, hbit⟩ := hshow
      simp [herr, hbit]
    · simp only [not_awaited_of_not_shows hshow, if_false]
      obtain hnow | hlater := h
      · exact absurd hnow hshow
      · exact wakeWriteLoop_of_shown rest _ _ ⟨_, s.maxSpeedHz⟩ (by simpa using hlater)

/-- When no poll shows that it has arrived, the loop returns what became of the last poll, and the
clock stays as it is. -/
theorem wakeWriteLoop_of_not_shown : ∀ (rest : ℕ) (ret : ℤ) (val : UInt8) (s : SpiDev StatusState),
    (¬ ∃ i < rest + 1, Shows rpuWakeupNow (o.poll 0x2F (s.bus.polls 0x2F + i))) →
      (wakeWriteLoop host (statusBus o) (rest + 1) ret val s).1 =
          (o.poll 0x2F (s.bus.polls 0x2F + rest)).1 ∧
        (wakeWriteLoop host (statusBus o) (rest + 1) ret val s).2.maxSpeedHz = s.maxSpeedHz
  | 0, ret, val, s, h => by
    rw [exists_poll_succ, not_or] at h
    rw [wakeWriteLoop, spdevReadReg_statusBus]
    simp only [not_awaited_of_not_shows h.1, if_false, wakeWriteLoop, Nat.add_zero, and_self]
  | rest + 1, ret, val, s, h => by
    rw [exists_poll_succ, not_or] at h
    rw [wakeWriteLoop, spdevReadReg_statusBus]
    simp only [not_awaited_of_not_shows h.1, if_false]
    have ih := wakeWriteLoop_of_not_shown rest (o.poll 0x2F (s.bus.polls 0x2F)).1
      (if (o.poll 0x2F (s.bus.polls 0x2F)).1 = 0 then (o.poll 0x2F (s.bus.polls 0x2F)).2 else val)
      ⟨s.bus.polled 0x2F (o.poll 0x2F (s.bus.polls 0x2F)).2, s.maxSpeedHz⟩ (by simpa using h.2)
    simpa [Nat.add_assoc, Nat.add_comm 1] using ih

/-- A device whose registers have not been polled yet. -/
def freshDev (hz : UInt32) : SpiDev StatusState := ⟨.start, hz⟩

theorem validate_of_shown (hz : UInt32) (h : ShownIn rpuWakeupNow (o.poll 0x2F)) :
    (spdevValidateRpuWakeWritecmd ⟨some cell, limit⟩ (statusBus o) (freshDev hz)).1 = 0 ∧
      (spdevValidateRpuWakeWritecmd ⟨some cell, limit⟩ (statusBus o) (freshDev hz)).2.maxSpeedHz =
        dtsSpeed cell limit :=
  wakeWriteLoop_of_shown o cell limit 10 0 0 (freshDev hz) (by simpa [freshDev, StatusState.start])

theorem validate_of_not_shown (hz : UInt32) (h : ¬ ShownIn rpuWakeupNow (o.poll 0x2F)) :
    (spdevValidateRpuWakeWritecmd host (statusBus o) (freshDev hz)).1 = (o.poll 0x2F 9).1 ∧
      (spdevValidateRpuWakeWritecmd host (statusBus o) (freshDev hz)).2.maxSpeedHz = hz := by
  have hloop := wakeWriteLoop_of_not_shown host o 9 0 0 (freshDev hz)
    (by simpa [freshDev, StatusState.start, ShownIn] using h)
  simpa [spdevValidateRpuWakeWritecmd, spdevWaitWhileRpuWakeWrite, freshDev,
    StatusState.start] using hloop

/-- The last value read shows that the RPU is awake exactly when a poll has shown it. -/
theorem sleepStatus_statusBus (hz : UInt32) :
    (rpuSleepStatus (statusBus o) (freshDev hz)).1.toNat &&& rpuAwakeBit.toNat ≠ 0 ↔
      ShownIn rpuAwakeBit (o.poll 0x1F) := by
  have hloop := awakeLoop_statusBus o 10 0 StatusState.start (by decide)
  have hbyte : (rpuSleepStatus (statusBus o) (freshDev hz)).1.toNat =
      (awakeLoop (statusBus o) 10 0 StatusState.start).1.toNat := rfl
  rw [hbyte, ← UInt8.toNat_and, ne_eq, ← UInt8.toNat_zero, UInt8.toNat_inj, ← ne_eq, hloop]
  simp [StatusState.start, ShownIn]

/-- A wake-up is a write at 8 MHz and two waits, of which the first alone moves the clock. -/
theorem maxSpeedHz_rpuWakeup (hz : UInt32) :
    (rpuWakeup host (statusBus o) (freshDev hz)).2.maxSpeedHz =
      (spdevValidateRpuWakeWritecmd host (statusBus o)
        (freshDev (spiSetup host rpuSpiWakeupFreqMhz))).2.maxSpeedHz :=
  rfl

/-! ### What a wake-up reports -/

/-- `0` is only reported for a write that went through and was seen to arrive, and for an RPU that
was seen awake. -/
def ReportsWakeup (hz : UInt32) : Prop :=
  (rpuWakeup ⟨some cell, limit⟩ (statusBus o) (freshDev hz)).1 = 0 →
    o.write = 0 ∧ ShownIn rpuWakeupNow (o.poll 0x2F) ∧ ShownIn rpuAwakeBit (o.poll 0x1F)

/-- The check of the write returns `0` for a write that was seen to arrive, and for no other. -/
def ConfirmsWrite (hz : UInt32) : Prop :=
  (spdevValidateRpuWakeWritecmd ⟨some cell, limit⟩ (statusBus o) (freshDev hz)).1 = 0 ↔
    ShownIn rpuWakeupNow (o.poll 0x2F)

/-- The status has the bit of an RPU that was seen awake, and of no other. -/
def ReportsAwake (hz : UInt32) : Prop :=
  (rpuSleepStatus (statusBus o) (freshDev hz)).1.toNat &&& rpuAwakeBit.toNat ≠ 0 ↔
    ShownIn rpuAwakeBit (o.poll 0x1F)

/-- A wake-up leaves the clock at the speed of the device tree. -/
def RestoresClock (hz : UInt32) : Prop :=
  (rpuWakeup ⟨some cell, limit⟩ (statusBus o) (freshDev hz)).2.maxSpeedHz = dtsSpeed cell limit

theorem reportsWakeup_iff (hz : UInt32) :
    ReportsWakeup o cell limit hz ↔
      o.write = 0 ∧ ShownIn rpuWakeupNow (o.poll 0x2F) ∧ ShownIn rpuAwakeBit (o.poll 0x1F) :=
  -- it reports `0` whatever happened
  forall_prop_of_true rfl

theorem confirmsWrite_iff (hz : UInt32) :
    ConfirmsWrite o cell limit hz ↔
      ShownIn rpuWakeupNow (o.poll 0x2F) ∨ (o.poll 0x2F 9).1 ≠ 0 := by
  unfold ConfirmsWrite
  by_cases hshown : ShownIn rpuWakeupNow (o.poll 0x2F)
  · simp [(validate_of_shown o cell limit hz hshown).1, hshown]
  · simp [(validate_of_not_shown ⟨some cell, limit⟩ o hz hshown).1, hshown]

theorem restoresClock_iff (hz : UInt32) :
    RestoresClock o cell limit hz ↔
      ShownIn rpuWakeupNow (o.poll 0x2F) ∨
        spiSetup ⟨some cell, limit⟩ rpuSpiWakeupFreqMhz = dtsSpeed cell limit := by
  rw [RestoresClock, maxSpeedHz_rpuWakeup]
  by_cases hshown : ShownIn rpuWakeupNow (o.poll 0x2F)
  · simp [(validate_of_shown o cell limit _ hshown).2, hshown]
  · simp [(validate_of_not_shown ⟨some cell, limit⟩ o _ hshown).2, hshown]

/-- **A wake-up is reported as it went, and puts the clock back, exactly when it went well**: when
the write went through, was seen to arrive, and the RPU was seen awake. The status of the RPU is
always right. The check of the write is also right when its last poll failed, and the clock when
8 MHz is the speed of the device tree. -/
theorem wakeup_truthful_iff (hz : UInt32) :
    (ReportsWakeup o cell limit hz ∧ ConfirmsWrite o cell limit hz ∧ ReportsAwake o hz ∧
        RestoresClock o cell limit hz ↔
      o.write = 0 ∧ ShownIn rpuWakeupNow (o.poll 0x2F) ∧ ShownIn rpuAwakeBit (o.poll 0x1F)) ∧
    (ConfirmsWrite o cell limit hz ↔
      ShownIn rpuWakeupNow (o.poll 0x2F) ∨ (o.poll 0x2F 9).1 ≠ 0) ∧
    ReportsAwake o hz ∧
    (RestoresClock o cell limit hz ↔
      ShownIn rpuWakeupNow (o.poll 0x2F) ∨
        spiSetup ⟨some cell, limit⟩ rpuSpiWakeupFreqMhz = dtsSpeed cell limit) := by
  have hawake : ReportsAwake o hz := sleepStatus_statusBus o hz
  refine ⟨?_, confirmsWrite_iff o cell limit hz, hawake, restoresClock_iff o cell limit hz⟩
  rw [reportsWakeup_iff, confirmsWrite_iff, restoresClock_iff]
  constructor
  · rintro ⟨hwent, -, -, -⟩
    exact hwent
  · rintro ⟨hwrite, harrived, hup⟩
    exact ⟨⟨hwrite, harrived, hup⟩, Or.inl harrived, hawake, Or.inl harrived⟩

end Script

/-- An RPU that does not answer: the bus works, and all registers read as `0`. -/
def silentRpu : StatusScript := ⟨0, fun _ _ => (0, 0)⟩

/-- With an RPU that does not answer, the wake-up and the check of the write both return `0`, and
the clock stays at 8 MHz. -/
theorem not_truthful_silentRpu :
    ¬ ReportsWakeup silentRpu [6, 172, 252, 0] 0 0 ∧
      ¬ ConfirmsWrite silentRpu [6, 172, 252, 0] 0 0 ∧
      ¬ RestoresClock silentRpu [6, 172, 252, 0] 0 0 := by
  rw [reportsWakeup_iff, confirmsWrite_iff, restoresClock_iff]
  decide

/-! ### The frequency of the bus -/

/-- A device-tree cell: the highest byte first. -/
def be32 (v : UInt32) : List UInt8 := (le32 v).reverse

/-- A cell is read as it should be when its bytes read the same from both ends. -/
theorem ofLe32_be32_eq_iff (f : UInt32) : ofLe32 (be32 f) = f ↔ be32 f = le32 f := by
  constructor
  · intro h
    calc be32 f = le32 (ofLe32 (be32 f)) := (le32_ofLe32 (by simp [be32])).symm
      _ = le32 f := by rw [h]
  · intro h
    rw [h, ofLe32_le32]

theorem ofLe32_be32_eq_zero_iff (f : UInt32) : ofLe32 (be32 f) = 0 ↔ f = 0 := by
  constructor
  · intro h
    have hbytes : be32 f = le32 0 := by
      rw [← h, le32_ofLe32 (by simp [be32])]
    calc f = ofLe32 (be32 f).reverse := by rw [be32, List.reverse_reverse, ofLe32_le32]
      _ = 0 := by rw [hbytes]; decide
  · rintro rfl
    decide

/-- A speed other than `f` becomes `f` when `f` is the limit and the speed is above it. -/
theorem spiSetup_eq_iff {node : Option (List UInt8)} {limit v f : UInt32}
    (hzero : v = 0 ↔ f = 0) :
    spiSetup ⟨node, limit⟩ v = f ↔
      v = f ∧ (limit = 0 ∨ 0 < f ∧ f ≤ limit) ∨ limit = f ∧ f < v := by
  simp only [spiSetup, ← UInt32.toNat_inj, UInt32.lt_iff_toNat_lt, UInt32.le_iff_toNat_le, ne_eq,
    UInt32.toNat_zero] at hzero ⊢
  split_ifs with h
  · omega
  · omega

/-- Whatever state the device is in, its clock is at `f` once it has been set up, and whenever a
wake-up has been confirmed. -/
def RunsAt (cell : List UInt8) (limit f : UInt32) : Prop :=
  (∀ s : SpiDev StatusState, (spdevInit ⟨some cell, limit⟩ s).maxSpeedHz = f) ∧
    ∀ (o : StatusScript) (s : SpiDev StatusState),
      (∃ i < 10, Shows rpuWakeupNow (o.poll 0x2F (s.bus.polls 0x2F + i))) →
        (spdevWaitWhileRpuWakeWrite ⟨some cell, limit⟩ (statusBus o) s).2.maxSpeedHz = f

theorem runsAt_iff (cell : List UInt8) (limit f : UInt32) :
    RunsAt cell limit f ↔ dtsSpeed cell limit = f := by
  constructor
  · rintro ⟨hinit, -⟩
    exact hinit (freshDev 0)
  · intro h
    refine ⟨fun _ => h, fun o s hshown => ?_⟩
    rw [← h]
    exact (wakeWriteLoop_of_shown o cell limit 10 0 0 s hshown).2

/-- **The bus runs at the frequency in the device tree exactly when the bytes of its cell read the
same from both ends** and the controller can go as fast. The only other way is that the bytes make
a higher frequency, and the controller's limit is the one in the device tree. -/
theorem bus_speed_iff (f limit : UInt32) :
    RunsAt (be32 f) limit f ↔
      be32 f = le32 f ∧ (limit = 0 ∨ 0 < f ∧ f ≤ limit) ∨ limit = f ∧ f < ofLe32 (be32 f) := by
  rw [runsAt_iff, dtsSpeed, spiSetup_eq_iff (ofLe32_be32_eq_zero_iff f), ofLe32_be32_eq_iff]

/-- The 112 MHz of the overlays become 16.6 MHz. -/
theorem not_runsAt_overlay : ¬ RunsAt (be32 112000000) 0 112000000 := by
  rw [runsAt_iff]
  decide

end Nrf70
