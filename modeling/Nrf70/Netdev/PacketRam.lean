import Mathlib.Algebra.Ring.Int.Defs
import Nrf70.Lib.ByteMemory

/-!
# Loading the module

`nrf_wifi_init_lnx` hands the module parameters to FMAC: the sizes of the three receive pools, and
how many frames are aggregated. Then it works out how much of the packet RAM is left for each
transmit token. For that it takes the receive pools to be what the build says, whatever the
parameters are.

It returns `ret`, which is `0` from the creation of the debugfs directory on. A string of RF
parameters of the wrong length and a failure of FMAC leave with that `0` too, and nothing set up.

## What is outside the repository

The size of the packet RAM, the number of RF parameters and `nrf_wifi_fmac_init` are nrfxlib's, and
parameters here. The receive pools and the transmit areas share the packet RAM.

## Main results

* `init_fits_iff` — the module parameters with which the packet RAM is large enough
-/

namespace Nrf70

/-! ### The build -/

/-- `CONFIG_NRF700X_RX_NUM_BUFS`. -/
def configRxNumBufs : UInt32 := 63

/-- `CONFIG_NRF700X_RX_MAX_DATA_SIZE`. -/
def configRxMaxDataSize : UInt32 := 1600

/-- `CONFIG_NRF700X_MAX_TX_TOKENS`. -/
def configMaxTxTokens : UInt32 := 10

/-- `MAX_PKT_RAM_TX_ALIGN_OVERHEAD`. -/
def maxPktRamTxAlignOverhead : UInt32 := 6

/-! ### What the module is loaded with -/

/-- The module parameters that `nrf_wifi_init_lnx` reads. -/
structure ModuleParams where
  rfParams : Option (List UInt8)
  aggregation : UInt8
  wmm : UInt8
  maxNumTxAggSessions : UInt8
  maxNumRxAggSessions : UInt8
  reorderBufSize : UInt8
  maxRxampduSize : UInt8
  maxTxAggregation : UInt8
  rx1NumBufs : UInt32
  rx2NumBufs : UInt32
  rx3NumBufs : UInt32
  rx1BufSz : UInt32
  rx2BufSz : UInt32
  rx3BufSz : UInt32
  rateProtectionType : UInt8
  deriving DecidableEq, Repr

/-- `struct nrf_wifi_data_config_params`. -/
structure DataConfigParams where
  aggregation : UInt8
  wmm : UInt8
  maxNumTxAggSessions : UInt8
  maxNumRxAggSessions : UInt8
  maxTxAggregation : UInt8
  reorderBufSize : UInt8
  maxRxampduSize : UInt8
  rateProtectionType : UInt8
  deriving DecidableEq, Repr

/-- `struct rx_buf_pool_params`. -/
structure RxBufPoolParams where
  numBufs : UInt32
  bufSz : UInt32
  deriving DecidableEq, Repr

/-- nrfxlib. -/
structure FmacEnv where
  rpuPktramSize : UInt32
  rfParamsSize : ℕ
  fmacInit : DataConfigParams → List RxBufPoolParams → Bool

/-- The parts of FMAC's private data that the module sets. -/
structure FmacPrivDef where
  dataConfig : DataConfigParams
  rxBufPools : List RxBufPoolParams
  maxAmpduLenPerToken : UInt32
  availAmpduLenPerToken : UInt32
  deriving DecidableEq, Repr

/-- `rpu_drv_priv`. -/
structure DrvPriv where
  dbgfsRoot : Bool
  drvInit : Bool
  fmacPriv : Option FmacPrivDef
  deriving DecidableEq, Repr

namespace ModuleParams

variable (p : ModuleParams)

/-- `data_config`. -/
def dataConfig : DataConfigParams where
  aggregation := p.aggregation
  wmm := p.wmm
  maxNumTxAggSessions := p.maxNumTxAggSessions
  maxNumRxAggSessions := p.maxNumRxAggSessions
  maxTxAggregation := p.maxTxAggregation
  reorderBufSize := p.reorderBufSize
  maxRxampduSize := p.maxRxampduSize
  rateProtectionType := p.rateProtectionType

/-- `rx_buf_pools`. -/
def rxBufPools : List RxBufPoolParams :=
  [⟨p.rx1NumBufs, p.rx1BufSz⟩, ⟨p.rx2NumBufs, p.rx2BufSz⟩, ⟨p.rx3NumBufs, p.rx3BufSz⟩]

end ModuleParams

/-- The length of the areas of a token, down to a multiple of four. -/
def maxAmpduLenPerToken (rpuPktramSize : UInt32) : UInt32 :=
  (rpuPktramSize - configRxNumBufs * configRxMaxDataSize) / configMaxTxTokens &&& ~~~0x3

/-- `nrf_wifi_init_lnx`. `dbgfs` is what becomes of the debugfs directory. -/
def nrfWifiInitLnx (env : FmacEnv) (dbgfs : Bool) (p : ModuleParams) : ℤ × DrvPriv :=
  if !dbgfs then (-1, ⟨false, false, none⟩)
  else if p.rfParams.any (·.length ≠ env.rfParamsSize * 2) then
    -- `ret` is still that of the directory
    (0, ⟨true, false, none⟩)
  else if !env.fmacInit p.dataConfig p.rxBufPools then (0, ⟨true, false, none⟩)
  else
    let maxLen := maxAmpduLenPerToken env.rpuPktramSize
    (0, ⟨true, true, some
      { dataConfig := p.dataConfig
        rxBufPools := p.rxBufPools
        maxAmpduLenPerToken := maxLen
        availAmpduLenPerToken :=
          maxLen - maxPktRamTxAlignOverhead * p.maxTxAggregation.toUInt32 }⟩)

/-! ### The packet RAM -/

/-- The bytes of the receive pools. -/
def poolBytes (pools : List RxBufPoolParams) : ℕ :=
  (pools.map fun pool => pool.numBufs.toNat * pool.bufSz.toNat).sum

/-- The pools and the transmit areas have room in the packet RAM, the areas are aligned, and what
is left of one for frames is what the overhead leaves of it. -/
structure FitsPktram (rpuPktramSize : UInt32) (priv : FmacPrivDef) : Prop where
  shared : poolBytes priv.rxBufPools + configMaxTxTokens.toNat * priv.maxAmpduLenPerToken.toNat ≤
    rpuPktramSize.toNat
  aligned : 4 ∣ priv.maxAmpduLenPerToken.toNat
  avail : (priv.availAmpduLenPerToken.toNat : ℤ) =
    priv.maxAmpduLenPerToken.toNat - 6 * priv.dataConfig.maxTxAggregation.toNat

/-- The module gets as far as working out the areas. -/
def GetsToAreas (env : FmacEnv) (dbgfs : Bool) (p : ModuleParams) : Prop :=
  dbgfs = true ∧ (∀ s, p.rfParams = some s → s.length = env.rfParamsSize * 2) ∧
    env.fmacInit p.dataConfig p.rxBufPools = true

section Areas

variable {ram : UInt32}

/-- The length of an area, in numbers. -/
theorem toNat_maxAmpduLenPerToken (hfit : 63 * 1600 ≤ ram.toNat) :
    (maxAmpduLenPerToken ram).toNat = 4 * ((ram.toNat - 63 * 1600) / 40) := by
  have hlt := ram.toNat_lt
  have hrx : (configRxNumBufs * configRxMaxDataSize).toNat = 63 * 1600 := by decide
  have hmask : (~~~0x3 : UInt32).toNat = 0xFFFFFFFC := by decide
  have hsub : (ram - configRxNumBufs * configRxMaxDataSize).toNat = ram.toNat - 63 * 1600 := by
    rw [UInt32.toNat_sub_of_le _ _ (UInt32.le_iff_toNat_le.mpr (by omega)), hrx]
  have hten : configMaxTxTokens.toNat = 10 := rfl
  rw [maxAmpduLenPerToken, UInt32.toNat_and, UInt32.toNat_div, hsub, hmask, hten, and_wordMask]
  omega

/-- The subtraction of the overhead is one of numbers when the overhead is no more than an area. -/
theorem toNat_sub_overhead_iff (maxLen : UInt32) (maxTxAggregation : UInt8) :
    ((maxLen - maxPktRamTxAlignOverhead * maxTxAggregation.toUInt32).toNat : ℤ) =
        maxLen.toNat - 6 * maxTxAggregation.toNat ↔
      6 * maxTxAggregation.toNat ≤ maxLen.toNat := by
  have hlen := maxLen.toNat_lt
  have hagg := maxTxAggregation.toNat_lt
  have hover : (maxPktRamTxAlignOverhead * maxTxAggregation.toUInt32).toNat =
      6 * maxTxAggregation.toNat := by
    have hsix : maxPktRamTxAlignOverhead.toNat = 6 := rfl
    rw [UInt32.toNat_mul, UInt8.toNat_toUInt32, hsix]
    omega
  rw [UInt32.toNat_sub, hover]
  omega

end Areas

section Init

variable {env : FmacEnv} {dbgfs : Bool} {p : ModuleParams}

/-- What FMAC's private data holds when the module gets that far. -/
def ModuleParams.priv (p : ModuleParams) (rpuPktramSize : UInt32) : FmacPrivDef where
  dataConfig := p.dataConfig
  rxBufPools := p.rxBufPools
  maxAmpduLenPerToken := maxAmpduLenPerToken rpuPktramSize
  availAmpduLenPerToken := maxAmpduLenPerToken rpuPktramSize -
    maxPktRamTxAlignOverhead * p.maxTxAggregation.toUInt32

theorem initLnx_of_getsToAreas (h : GetsToAreas env dbgfs p) :
    nrfWifiInitLnx env dbgfs p = (0, ⟨true, true, some (p.priv env.rpuPktramSize)⟩) := by
  obtain ⟨hdbgfs, hrf, hfmac⟩ := h
  have hlen : ¬ p.rfParams.any (·.length ≠ env.rfParamsSize * 2) = true := by
    rw [Option.any_eq_true]
    rintro ⟨s, hs, hne⟩
    exact absurd (hrf s hs) (by simpa using hne)
  rw [nrfWifiInitLnx, hdbgfs, hfmac, if_neg (by decide), if_neg hlen, if_neg (by decide)]
  rfl

theorem fmacPriv_initLnx_of_not_getsToAreas (h : ¬ GetsToAreas env dbgfs p) :
    (nrfWifiInitLnx env dbgfs p).2.fmacPriv = none := by
  rw [nrfWifiInitLnx]
  split_ifs with hdbgfs hrf hfmac
  · rfl
  · rfl
  · rfl
  · refine absurd ⟨by simpa using hdbgfs, fun s hs => ?_, by simpa using hfmac⟩ h
    by_contra hne
    exact hrf ((Option.any_eq_true ..).mpr ⟨s, hs, by simpa using hne⟩)

/-- **The packet RAM is large enough exactly when** the receive pools leave the room that the
build's own pools would leave, and the overhead of the aggregated frames is no more than an area.
This is for a packet RAM with room for the build's pools, and whatever has been set up when
`nrf_wifi_init_lnx` returns `0`. -/
theorem init_fits_iff (env : FmacEnv) (dbgfs : Bool) (p : ModuleParams)
    (hfit : 63 * 1600 ≤ env.rpuPktramSize.toNat) :
    ((nrfWifiInitLnx env dbgfs p).1 = 0 →
        ∀ priv, (nrfWifiInitLnx env dbgfs p).2.fmacPriv = some priv →
          FitsPktram env.rpuPktramSize priv) ↔
      (GetsToAreas env dbgfs p →
        poolBytes p.rxBufPools + 40 * ((env.rpuPktramSize.toNat - 63 * 1600) / 40) ≤
            env.rpuPktramSize.toNat ∧
          6 * p.maxTxAggregation.toNat ≤ 4 * ((env.rpuPktramSize.toNat - 63 * 1600) / 40)) := by
  have hmax := toNat_maxAmpduLenPerToken hfit
  have hten : configMaxTxTokens.toNat = 10 := rfl
  by_cases hgets : GetsToAreas env dbgfs p
  · have havail := toNat_sub_overhead_iff (maxAmpduLenPerToken env.rpuPktramSize) p.maxTxAggregation
    rw [initLnx_of_getsToAreas hgets]
    simp only [true_imp_iff, Option.some.injEq, forall_eq', hgets]
    constructor
    · intro h
      have hshared := h.shared
      simp only [ModuleParams.priv, hmax, hten] at hshared
      have hover := havail.mp h.avail
      rw [hmax] at hover
      exact ⟨by omega, hover⟩
    · rintro ⟨hshared, hover⟩
      refine ⟨?_, ?_, havail.mpr ?_⟩
      · simp only [ModuleParams.priv, hmax, hten]
        omega
      · simp only [ModuleParams.priv, hmax]
        exact Nat.dvd_mul_right 4 _
      · rw [hmax]
        exact hover
  · rw [fmacPriv_initLnx_of_not_getsToAreas hgets]
    exact iff_of_true (by simp) fun h => absurd h hgets

end Init

/-- A packet RAM of 196 KiB, and an FMAC that always starts. -/
def sampleFmacEnv : FmacEnv := ⟨200704, 42, fun _ _ => true⟩

/-- The parameters' defaults. -/
def loadedParams : ModuleParams where
  rfParams := none
  aggregation := 1
  wmm := 1
  maxNumTxAggSessions := 4
  maxNumRxAggSessions := 8
  reorderBufSize := 64
  maxRxampduSize := 3
  maxTxAggregation := 12
  rx1NumBufs := 21
  rx2NumBufs := 21
  rx3NumBufs := 21
  rx1BufSz := 1600
  rx2BufSz := 1600
  rx3BufSz := 1600
  rateProtectionType := 0

/-- The defaults fit. -/
theorem init_fits_iff_default :
    nrfWifiInitLnx sampleFmacEnv true loadedParams =
        (0, ⟨true, true, some (loadedParams.priv 200704)⟩) ∧
      FitsPktram 200704 (loadedParams.priv 200704) :=
  ⟨rfl, (init_fits_iff sampleFmacEnv true loadedParams (by decide)).mpr (fun _ => by decide) rfl _
    rfl⟩

/-- With receive buffers of 8000 bytes in the first pool, the pools alone are larger than the packet
RAM; the module loads, with transmit areas for smaller ones. -/
theorem init_overcommits :
    (nrfWifiInitLnx sampleFmacEnv true { loadedParams with rx1BufSz := 8000 }).1 = 0 ∧
      ∃ priv, (nrfWifiInitLnx sampleFmacEnv true
          { loadedParams with rx1BufSz := 8000 }).2.fmacPriv = some priv ∧
        ¬ FitsPktram 200704 priv := by
  refine ⟨by decide, _, rfl, fun h => ?_⟩
  exact absurd h.shared (by decide)

end Nrf70
