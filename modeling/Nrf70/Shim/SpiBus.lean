import Nrf70.Lib.Machine

/-!
# Binding the SPI device

`shim_bus_spi_probe` and `shim_bus_spi_remove` share one context with the functions FMAC calls
back, `shim_bus_spi_dev_add`, `shim_bus_spi_dev_init` and `shim_bus_spi_dev_rem`. Its pointer
`spi_dev` means two things: for probe, that a device has been detected and not yet added; for
`dev_rem`, which device to take the driver data from. A probe clears it only when it succeeds, so
it is set after a failure and NULL while a device is bound. `dev_added` and `dev_init` are never
cleared.

## What is outside the repository

FMAC's `nrf_wifi_fmac_dev_add` may fail before it calls `shim_bus_spi_dev_add`, because of it, or
after it. The driver core calls probe only for an unbound device and remove only for a bound one.

## Main results

* `bus_never_tracks` — no run keeps the context in step with the device, and which part of it
  fails when
-/

namespace Nrf70

/-! ### The context and the functions on it -/

/-- The part of `struct shim_bus_spi_priv` that tracks the device. There is one device, so
`spiDev` says whether the pointer is it or NULL. -/
structure BusPriv where
  spiDev : Bool
  devAdded : Bool
  devInit : Bool
  deriving DecidableEq, Repr

/-- How far `nrf_wifi_fmac_dev_add` gets. -/
inductive FmacDevAdd
  | failedBefore
  | busAllocFailed
  | failedAfter
  | added
  deriving DecidableEq, Repr

/-- The fallible steps of a probe. `busDevInit` is whether FMAC gets as far as
`shim_bus_spi_dev_init`. -/
structure ProbeOutcome where
  drvInit : Bool
  cfg80211 : Bool
  fmacDevAdd : FmacDevAdd
  fwLoad : Bool
  busDevInit : Bool
  devInit : Bool
  deriving DecidableEq, Repr

/-- `shim_bus_spi_init`. -/
def shimBusSpiInit : BusPriv := ⟨false, false, true⟩

/-- `shim_bus_spi_dev_add`, and whether it returns a context. -/
def shimBusSpiDevAdd (p : BusPriv) (alloc : Bool) : BusPriv × Bool :=
  if !alloc then (p, false) else ({ p with devAdded := true }, true)

/-- `shim_bus_spi_dev_init`. -/
def shimBusSpiDevInit (p : BusPriv) : BusPriv := { p with devInit := true }

/-- `nrf_wifi_fmac_dev_init_lnx`, as far as the bus sees it. -/
def fmacBusDevInit (p : BusPriv) (called : Bool) : BusPriv :=
  if called then shimBusSpiDevInit p else p

/-- `nrf_wifi_fmac_dev_add`, as far as the bus sees it. -/
def nrfWifiFmacDevAdd (p : BusPriv) : FmacDevAdd → BusPriv × Bool
  | .failedBefore => (p, false)
  | .busAllocFailed => shimBusSpiDevAdd p false
  | .failedAfter => ((shimBusSpiDevAdd p true).1, false)
  | .added => shimBusSpiDevAdd p true

/-- `nrf_wifi_fmac_dev_add_lnx`. -/
def nrfWifiFmacDevAddLnx (p : BusPriv) (o : ProbeOutcome) : BusPriv × Bool :=
  if !o.drvInit then (p, false)
  else if !o.cfg80211 then (p, false)
  else
    let (p, added) := nrfWifiFmacDevAdd p o.fmacDevAdd
    if !added then (p, false)
    else if !o.fwLoad then (p, false)
    else (p, true)

/-- A probe finds a device that was detected and has not been added. -/
def BusPriv.refuses (p : BusPriv) : Bool := p.spiDev

/-- `shim_bus_spi_probe`, and whether it succeeds. -/
def shimBusSpiProbe (p : BusPriv) (o : ProbeOutcome) : BusPriv × Bool :=
  -- "Previous detected device still not added"
  if p.refuses then (p, false)
  else
    let p := { p with spiDev := true }
    let (p, added) := nrfWifiFmacDevAddLnx p o
    if !added then (p, false)
    else
      let p := fmacBusDevInit p o.busDevInit
      if !o.devInit then (p, false)
      else ({ p with spiDev := false }, true)

/-- What the bus makes visible: the result of a probe, and a run of `shim_bus_spi_dev_rem` with
what `spi_dev` is to it. -/
inductive BusEvent
  | probed (ok : Bool)
  | devRem (spiDev : Bool)
  deriving DecidableEq, Repr

/-- `shim_bus_spi_remove`. -/
def shimBusSpiRemove (p : BusPriv) : BusPriv × List BusEvent :=
  (p, if p.devAdded then [.devRem p.spiDev] else [])

/-! ### Every history of binding and unbinding -/

/-- The context, whether the device is bound, and whether the last probe failed. -/
structure BusState where
  priv : BusPriv
  bound : Bool
  probeFailed : Bool
  deriving DecidableEq, Repr

inductive BusAct
  | probe (o : ProbeOutcome)
  | remove
  deriving DecidableEq, Repr

/-- One call of the driver core. -/
def busStep (s : BusState) : BusAct → Option (BusState × List BusEvent)
  | .probe o =>
    if s.bound then none
    else
      let (p, ok) := shimBusSpiProbe s.priv o
      some (⟨p, ok, !ok⟩, [.probed ok])
  | .remove =>
    if s.bound then
      let (p, t) := shimBusSpiRemove s.priv
      some (⟨p, false, s.probeFailed⟩, t)
    else none

def busMachine : Machine BusState BusAct BusEvent := ⟨busStep⟩

/-- The bus has been initialised, and nothing has been probed. -/
def BusState.init : BusState := ⟨shimBusSpiInit, false, false⟩

/-- The device is bound or not, and the context knows. -/
def BusState.Tracks (s : BusState) : Prop :=
  s.bound = false → s.priv.devAdded = false ∧ s.priv.devInit = false

/-- A probe after a failed one is let through. -/
def BusState.Retries (s : BusState) (a : BusAct) : Prop :=
  s.probeFailed = true → a ≠ .remove → s.priv.refuses = false

/-! ### What the context really says -/

/-- The pointer says that the last probe has failed, and the two flags say nothing. -/
structure BusInv (s : BusState) : Prop where
  pointer : s.priv.spiDev = s.probeFailed
  bound : s.bound = true → s.probeFailed = false ∧ s.priv.devAdded = true
  devInit : s.priv.devInit = true

/-- Adding a device leaves the pointer and `dev_init` alone, and sets `dev_added` if it succeeds. -/
theorem devAddLnx_spec (p : BusPriv) (o : ProbeOutcome) :
    (nrfWifiFmacDevAddLnx p o).1.spiDev = p.spiDev ∧
      (nrfWifiFmacDevAddLnx p o).1.devInit = p.devInit ∧
      ((nrfWifiFmacDevAddLnx p o).2 = true → (nrfWifiFmacDevAddLnx p o).1.devAdded = true) := by
  simp only [nrfWifiFmacDevAddLnx]
  cases o.drvInit <;> cases o.cfg80211 <;> cases o.fmacDevAdd <;> cases o.fwLoad <;>
    simp [nrfWifiFmacDevAdd, shimBusSpiDevAdd]

theorem fmacBusDevInit_spec (p : BusPriv) (called : Bool) (hinit : p.devInit = true) :
    fmacBusDevInit p called = p := by
  cases called with
  | false => rfl
  | true => rw [fmacBusDevInit, if_pos rfl, shimBusSpiDevInit, ← hinit]

/-- A probe clears the pointer if and only if it succeeds. -/
theorem probe_spec (p : BusPriv) (o : ProbeOutcome) (hinit : p.devInit = true) :
    (shimBusSpiProbe p o).1.spiDev = !(shimBusSpiProbe p o).2 ∧
      (shimBusSpiProbe p o).1.devInit = true ∧
      ((shimBusSpiProbe p o).2 = true → (shimBusSpiProbe p o).1.devAdded = true) := by
  obtain ⟨hptr, hdinit, hadded⟩ := devAddLnx_spec { p with spiDev := true } o
  have hinit' := hdinit.trans hinit
  simp only [shimBusSpiProbe, fmacBusDevInit_spec _ _ hinit']
  split_ifs with hr ha hd
  · exact ⟨hr, hinit, by simp⟩
  · exact ⟨hptr, hinit', by simp⟩
  · exact ⟨hptr, hinit', by simp⟩
  · exact ⟨rfl, hinit', fun _ => hadded (by simpa using ha)⟩

variable {s s' : BusState} {a : BusAct} {u : List BusEvent}

/-- What one call does, given the invariant. -/
theorem BusInv.step_cases (h : BusInv s) (hs : busStep s a = some (s', u)) :
    (∃ o, a = .probe o ∧ s.bound = false ∧ s' = ⟨(shimBusSpiProbe s.priv o).1,
        (shimBusSpiProbe s.priv o).2, !(shimBusSpiProbe s.priv o).2⟩ ∧
        u = [.probed (shimBusSpiProbe s.priv o).2]) ∨
      (a = .remove ∧ s.bound = true ∧ s' = ⟨s.priv, false, false⟩ ∧ u = [.devRem false]) := by
  cases a with
  | probe o =>
    simp only [busStep, Option.ite_none_left_eq_some, Option.some.injEq, Prod.mk.injEq,
      Bool.not_eq_true] at hs
    obtain ⟨hb, rfl, rfl⟩ := hs
    exact .inl ⟨o, rfl, hb, rfl, rfl⟩
  | remove =>
    simp only [busStep, Option.ite_none_right_eq_some, Option.some.injEq, Prod.mk.injEq,
      shimBusSpiRemove] at hs
    obtain ⟨hb, rfl, rfl⟩ := hs
    obtain ⟨hfailed, hadded⟩ := h.bound hb
    rw [hadded, h.pointer, hfailed]
    exact .inr ⟨rfl, hb, rfl, rfl⟩

/-- **One call keeps the invariant.** -/
theorem BusInv.step (h : BusInv s) (hs : busStep s a = some (s', u)) : BusInv s' := by
  rcases h.step_cases hs with ⟨o, -, -, rfl, -⟩ | ⟨-, hb, rfl, -⟩
  · obtain ⟨hptr, hinit, hadded⟩ := probe_spec s.priv o h.devInit
    exact ⟨hptr, fun hok => ⟨by simpa using hok, hadded hok⟩, hinit⟩
  · obtain ⟨hfailed, -⟩ := h.bound hb
    exact ⟨h.pointer.trans hfailed, fun hok => absurd hok Bool.false_ne_true, h.devInit⟩

theorem BusInv.init : BusInv .init := ⟨rfl, fun h => absurd h (by decide), rfl⟩

/-- Every state of a run has the invariant. -/
theorem BusInv.throughout (acts : List BusAct) :
    busMachine.Throughout BusInv .init acts := by
  intro bs s' t _ hexec
  exact busMachine.exec_invariant (P := fun _ s => BusInv s) (t := [])
    (fun hP hs => hP.step hs) .init hexec

/-- A removal is a run of `shim_bus_spi_dev_rem`, and `spi_dev` is NULL to it. -/
theorem BusInv.devRem_iff {acts : List BusAct} {t : List BusEvent} (h : BusInv s)
    (hexec : busMachine.exec s acts = some (s', t)) (p : Bool) :
    .devRem p ∈ t ↔ p = false ∧ .remove ∈ acts := by
  induction acts generalizing s t with
  | nil =>
    simp only [Machine.exec_nil, Option.some.injEq, Prod.mk.injEq] at hexec
    simp [← hexec.2]
  | cons a acts ih =>
    obtain ⟨s₁, t₁, t₂, ha, hrest, rfl⟩ := busMachine.exec_cons_eq_some.mp hexec
    have ih' := ih (h.step ha) hrest
    rw [List.mem_append, ih']
    rcases h.step_cases ha with ⟨o, rfl, -, -, rfl⟩ | ⟨rfl, -, -, rfl⟩
    · simp
    · constructor
      · rintro (hp | ⟨hp, -⟩)
        · exact ⟨by simpa using hp, List.mem_cons_self⟩
        · exact ⟨hp, List.mem_cons_self⟩
      · rintro ⟨rfl, -⟩
        exact .inl List.mem_cons_self

/-- **The context never tracks the device.** In every history of probes and removals: (a) no probe
after a failed one is refused exactly when no failed probe is followed by another; (b) whenever
`shim_bus_spi_dev_rem` runs `spi_dev` is the device exactly when nothing is removed; (c) the flags
are clear in no state in which no device is bound. So the three never hold together. -/
theorem bus_never_tracks {acts : List BusAct} {t : List BusEvent}
    (h : busMachine.exec .init acts = some (s, t)) :
    (busMachine.Along BusState.Retries .init acts ↔
      busMachine.Along (fun s a => s.probeFailed = true → a = .remove) .init acts) ∧
    ((∀ p, .devRem p ∈ t → p = true) ↔ .remove ∉ acts) ∧
    busMachine.Throughout (fun s => s.bound = false → ¬ s.Tracks) .init acts ∧
    ¬ (busMachine.Along BusState.Retries .init acts ∧ (∀ p, .devRem p ∈ t → p = true) ∧
      busMachine.Throughout BusState.Tracks .init acts) := by
  have hinv := BusInv.throughout acts
  have hflags : busMachine.Throughout (fun s => s.bound = false → ¬ s.Tracks) .init acts := by
    intro bs s' t' hbs hexec hb htracks
    have hclear := (htracks hb).2
    rw [(hinv bs s' t' hbs hexec).devInit] at hclear
    exact absurd hclear (by decide)
  refine ⟨?_, ?_, hflags, fun hall => ?_⟩
  · refine busMachine.along_congr (Q := BusInv) (fun hs ha => hs.step ha)
      (fun {s a _ _} hs _ => ?_) BusInv.init h
    constructor
    · intro hretry hfailed
      by_contra ha
      have hlet := hretry hfailed ha
      rw [BusPriv.refuses, hs.pointer, hfailed] at hlet
      exact absurd hlet (by decide)
    · intro hno hfailed ha
      exact absurd (hno hfailed) ha
  · simp [BusInv.init.devRem_iff h]
  · have hbad := hflags [] .init [] (List.nil_prefix ..) rfl rfl
    exact hbad (hall.2.2 [] .init [] (List.nil_prefix ..) rfl)

/-- A probe in which everything goes well. -/
def goodProbe : ProbeOutcome := ⟨true, true, .added, true, true, true⟩

/-- The device is bound, removed, and bound again. -/
theorem bus_never_tracks_rebind :
    ∃ s t, busMachine.exec .init [.probe goodProbe, .remove, .probe goodProbe] = some (s, t) ∧
      ¬ ∀ p, .devRem p ∈ t → p = true := by
  obtain ⟨s, t, hrun⟩ : ∃ s t, busMachine.exec .init [.probe goodProbe, .remove, .probe goodProbe]
      = some (s, t) := ⟨_, _, rfl⟩
  exact ⟨s, t, hrun, fun hall => (bus_never_tracks hrun).2.1.mp hall (by decide)⟩

/-- **All three parts fail.** A firmware load that fails makes the next probe fail, however well it
would go; and a device that is bound and removed leaves both flags set, `shim_bus_spi_dev_rem`
having run with a NULL `spi_dev`. -/
theorem bus_loses_device :
    (∃ s, busMachine.exec .init [.probe { goodProbe with fwLoad := false }, .probe goodProbe]
        = some (s, [.probed false, .probed false])) ∧
    ∃ s, busMachine.exec .init [.probe goodProbe, .remove]
        = some (s, [.probed true, .devRem false]) ∧
      s.bound = false ∧ s.priv.devAdded = true ∧ s.priv.devInit = true := by
  constructor
  · exact ⟨_, rfl⟩
  · exact ⟨_, rfl, rfl, rfl, rfl⟩

end Nrf70
