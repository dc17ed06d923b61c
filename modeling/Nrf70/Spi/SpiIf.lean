import Nrf70.Lib.ByteMemory
import Nrf70.Lib.CInt

/-!
# The SPI device interface

The functions of `spi_if.c` that move data, as messages handed to the SPI core of the kernel. Each
of them writes its own header: with and without the top bit of the address, with and without room
for the latency of the slave. The core is a parameter, `SpiBus`, so that nothing here depends on
what is at the other end of the bus or on whether a transfer succeeds.

A buffer to receive into is an offset from the destination the caller passed, which is where the
code computes it from.
-/

namespace Nrf70

/-! ### Messages -/

/-- A `struct spi_transfer`: `len` bytes out of `txBuf` and into the destination at offset
`rxBuf`, where there are any. -/
structure SpiTransfer where
  txBuf : Option (List UInt8)
  rxBuf : Option ℕ
  len : ℕ
  deriving DecidableEq, Repr

/-- The SPI core with a device. `host` is the memory at the destination of the caller. -/
structure SpiBus (W : Type*) where
  spiSync : W → List SpiTransfer → ℤ × W
  host : W → ℕ → UInt8

/-- `struct spdev_config`, less the lock and the device. -/
structure SpdevConfig where
  addrmask : UInt32
  spiSlaveLatency : UInt8

/-- `spdev_defconfig`; `spdev_init` sets the same latency again. -/
def spdevDefconfig : SpdevConfig := ⟨0x000000, 3⟩

/-- `(addr >> shift) & 0xFF` in a `uint8_t`. -/
def addrByte (addr shift : ℕ) : UInt8 := UInt8.ofNat ((addr >>> shift) &&& 0xFF)

/-! ### The functions of `spi_if.c` -/

section SpiIf

variable {W : Type*} (bus : SpiBus W) (config : SpdevConfig)

/-- `spdev_read_reg32_hl`. Its address is an `unsigned int`; the first transfer is longer than the
header it sends. -/
def spdevReadReg32Hl (w : W) (addr data len discardBytes : ℕ) : ℤ × W :=
  let addr := addr % 2 ^ 32
  let hdr : List UInt8 :=
    [0x0b, -- FASTREAD opcode
      addrByte addr 16, addrByte addr 8, addrByte addr 0,
      0] -- dummy byte
  bus.spiSync w [⟨some hdr, none, hdr.length + discardBytes⟩, ⟨none, some data, len⟩]

/-- `spdev_cp_to`. -/
def spdevCpTo (w : W) (addr : ℕ) (src : List UInt8) (count : ℤ) : ℤ × W :=
  let hdr : List UInt8 :=
    [0x02, -- PP opcode
      addrByte addr 16 ||| 0x80, addrByte addr 8, addrByte addr 0]
  bus.spiSync w [⟨some hdr, none, hdr.length⟩, ⟨some src, none, toUnsigned count⟩]

/-- The loop of `spdev_cp_from` over words. No result of a read is looked at. -/
def cpFromLoop (w : W) (dest addr offset : ℕ) (count : ℤ) : W :=
  if 0 < count then
    cpFromLoop
      (spdevReadReg32Hl bus w (addr + offset) (dest + offset) 4
        (4 * config.spiSlaveLatency.toNat)).2
      dest addr (offset + 4) (count - 4)
  else w
termination_by count.toNat
decreasing_by omega

/-- `spdev_cp_from`. -/
def spdevCpFrom (w : W) (dest addr : ℕ) (count : ℤ) : ℤ × W :=
  let hdr : List UInt8 :=
    [0x0b, -- FASTREAD opcode
      addrByte addr 16 ||| 0x80, addrByte addr 8, addrByte addr 0,
      0] -- dummy byte
  if addr < 0x0C0000 then (0, cpFromLoop bus config w dest addr 0 count)
  else bus.spiSync w [⟨some hdr, none, hdr.length⟩, ⟨none, some dest, toUnsigned count⟩]

/-- `_spdev_write`. The length it is given is not used. -/
def rawSpdevWrite (w : W) (addr : ℕ) (val : UInt32) : ℤ × W :=
  let hdr : List UInt8 :=
    [0x02, -- PP opcode
      addrByte addr 16 ||| 0x80, addrByte addr 8, addrByte addr 0,
      (val &&& 0xFF).toUInt8, ((val >>> 8) &&& 0xFF).toUInt8, ((val >>> 16) &&& 0xFF).toUInt8,
      ((val >>> 24) &&& 0xFF).toUInt8]
  bus.spiSync w [⟨some hdr, none, hdr.length⟩]

/-- `spdev_write`. -/
def spdevWrite (w : W) (addr : ℕ) (data : UInt32) : ℤ × W :=
  rawSpdevWrite bus w (addr ||| config.addrmask.toNat) data

/-- `_spdev_read`. -/
def rawSpdevRead (w : W) (addr data len discardBytes : ℕ) : ℤ × W :=
  let hdr : List UInt8 :=
    [0x0b, -- FASTREAD opcode
      addrByte addr 16, addrByte addr 8, addrByte addr 0,
      0] -- dummy byte
  bus.spiSync w [⟨some hdr, none, hdr.length + discardBytes⟩, ⟨none, some data, len⟩]

/-- `spdev_read`. -/
def spdevRead (w : W) (addr data : ℕ) (len : ℤ) : ℤ × W :=
  rawSpdevRead bus w (addr ||| config.addrmask.toNat) data (toUnsigned len) 0

/-- `spdev_hl_readw`. -/
def spdevHlReadw (w : W) (addr data : ℕ) : ℤ × W :=
  spdevReadReg32Hl bus w addr data 4 (4 * config.spiSlaveLatency.toNat)

/-- The loop of `spdev_hl_read`, with `rest` rounds to go. -/
def hlReadLoop (addr data : ℕ) : (rest count : ℕ) → W → W
  | 0, _, w => w
  | rest + 1, count, w =>
    hlReadLoop addr data rest (count + 1)
      (spdevHlReadw bus config w (addr + 4 * count) (data + 4 * count)).2

/-- `spdev_hl_read`. -/
def spdevHlRead (w : W) (addr data : ℕ) (len : ℤ) : ℤ × W :=
  (0, hlReadLoop bus config addr data (len.tdiv 4).toNat 0 w)

/-! ### The shim's access paths -/

/-- `shim_spi_read_reg32`: `val` is a local of the little-endian host. -/
def shimSpiReadReg32 (w : W) (addr : ℕ) : UInt32 × W :=
  let w := if addr < 0x0C0000 then (spdevHlRead bus config w addr 0 4).2
    else (spdevRead bus config w addr 0 4).2
  (ofLe32 (Memory.load (bus.host w) 0 4), w)

/-- `shim_spi_write_reg32`. -/
def shimSpiWriteReg32 (w : W) (addr : ℕ) (val : UInt32) : W := (spdevWrite bus config w addr val).2

/-- The count that `shim_spi_cpy_from` and `shim_spi_cpy_to` pass on. -/
def roundCount (count : ℕ) : ℕ :=
  if count % 4 ≠ 0 then (count + 4) % 2 ^ 64 &&& 0xFFFFFFFC else count

/-- `shim_spi_cpy_from`; the destination is at offset 0. -/
def shimSpiCpyFrom (w : W) (addr count : ℕ) : W :=
  (spdevCpFrom bus config w 0 addr (toInt32 (roundCount count))).2

/-- `shim_spi_cpy_to`. -/
def shimSpiCpyTo (w : W) (addr : ℕ) (src : List UInt8) (count : ℕ) : W :=
  (spdevCpTo bus w addr src (toInt32 (roundCount count))).2

end SpiIf

end Nrf70
