import Mathlib.Data.Int.Notation
import Mathlib.Logic.Function.Basic
import Nrf70.Lib.Machine
import Nrf70.Netdev.Vif

/-!
# Requests to the firmware and the slots their responses land in

`nrf_wifi_cfg80211_chg_vif`, `nrf_wifi_cfg80211_get_station` and `nrf_wifi_cfg80211_get_channel`
each send one command and poll a slot of the interface context for the answer: `event_set_if` with
`status_set_if`, `station_info`, and `chan_def`. The three callbacks fill the slots. Nothing in a
slot says which request it answers, a callback publishes its slot before it writes the data, and
the calls clear their slots at different places: `chg_vif` on every way out, `get_channel` on
every way out after the command was sent, `get_station` only when it has used the data. None of
them clears its slot before it sends, as `nrf_wifi_cfg80211_get_tx_power` does with its own.

The three are one family here: a request, a slot for each kind of request, and a program counter
that follows the source of its kind. Requests are numbered as they are sent. Which response data
came from is recorded beside the slot and read by no step.

## Main results

* `responses_match` — in every run in which a call starts on an empty slot with no other call of
  its kind, a response is delivered while no other call of its kind is in progress, and data is
  not read while it is being written, every call uses the response to its own request
* `responses_crossed` — a run in which `chg_vif` installs a type on the strength of a late
  response to an earlier request, and the firmware rejects its own
-/

namespace Nrf70

/-! ### Requests, responses and slots -/

inductive RequestKind
  | setIf
  | getStation
  | getChannel
  deriving DecidableEq, Repr

/-- What a call asks for: `chg_vif` to a type other than MONITOR, `get_station` of an address,
`get_channel`. -/
inductive Request
  | chgVif (iftype : IfType)
  | getStation (mac : List UInt8)
  | getChannel
  deriving DecidableEq, Repr

def Request.kind : Request → RequestKind
  | .chgVif _ => .setIf
  | .getStation _ => .getStation
  | .getChannel => .getChannel

/-- The fields of `struct nrf_wifi_chan_definition` that are used. -/
structure ChanDefinition where
  centerFrequency : ℕ
  width : ℕ
  centerFrequency1 : ℕ
  centerFrequency2 : ℕ
  deriving DecidableEq, Repr

/-- The data of a response. `S` is the type of the firmware's station records. -/
inductive Payload (S : Type)
  | setIf (returnValue : ℤ)
  | station (staInfo : S)
  | channel (chanDef : ChanDefinition)
  deriving DecidableEq, Repr

variable {S : Type}

def Payload.kind : Payload S → RequestKind
  | .setIf _ => .setIf
  | .station _ => .getStation
  | .channel _ => .getChannel

/-- The test a call makes on its first look at the data: `status_set_if` is zero, the centre
frequency is not. -/
def Payload.good : Payload S → Bool
  | .setIf returnValue => returnValue == 0
  | .station _ => true
  | .channel chanDef => chanDef.centerFrequency != 0

/-- A slot of the interface context. `present` is the flag or the pointer; `origin` is the request
whose response the data is, or `none` for memory no response has written. -/
structure Slot (S : Type) where
  present : Bool
  data : Payload S
  origin : Option ℕ
  deriving DecidableEq, Repr

/-! ### Calls and callbacks -/

/-- Where a call has got to. -/
inductive CallPc
  | polling (count : ℕ)
  | check
  | read
  | reread
  | install
  | clear
  | returned
  deriving DecidableEq, Repr

structure Call where
  req : Request
  pc : CallPc
  deriving DecidableEq, Repr

/-- A callback that has published its slot and not yet written the data. -/
structure Callback (S : Type) where
  id : ℕ
  payload : Payload S
  deriving DecidableEq, Repr

structure RspState (S : Type) where
  slots : RequestKind → Slot S
  calls : ℕ → Option Call
  next : ℕ
  answered : ℕ → Bool
  callback : Option (Callback S)
  iftype : Option IfType

/-- The steps. A call is identified by the number of its request. -/
inductive RspAct (S : Type)
  | call (req : Request) (sent : Bool)
  | poll (id : ℕ)
  | check (id : ℕ)
  | read (id : ℕ)
  | reread (id : ℕ)
  | install (id : ℕ)
  | clear (id : ℕ)
  | publish (id : ℕ) (payload : Payload S) (alloc : Bool) (junk : Payload S)
  | fill
  deriving DecidableEq, Repr

/-- `response` is the delivery of a response; `used` is a look at the data of a slot, with the
request whose response it is. -/
inductive RspEvent (S : Type)
  | response (id : ℕ) (payload : Payload S)
  | timedOut (id : ℕ)
  | used (id : ℕ) (origin : Option ℕ) (data : Payload S)
  | installed (id : ℕ) (iftype : IfType)
  deriving DecidableEq, Repr

def RspState.setPc (s : RspState S) (id : ℕ) (c : Call) (pc : CallPc) : RspState S :=
  { s with calls := Function.update s.calls id (some { c with pc := pc }) }

def RspState.setSlot (s : RspState S) (k : RequestKind) (slot : Slot S) : RspState S :=
  { s with slots := Function.update s.slots k slot }

/-- The slot as a call leaves it: the flag is zero, the pointer is NULL. -/
def RspState.clearSlot (s : RspState S) (k : RequestKind) : RspState S :=
  s.setSlot k { s.slots k with present := false }

/-- The call at `id`, if it is at `pc`. -/
def RspState.callAt (s : RspState S) (id : ℕ) (pc : CallPc) : Option Call :=
  (s.calls id).filter (·.pc = pc)

/-- Where a call goes after a timeout: `get_station` returns at once. -/
def RequestKind.afterTimeout : RequestKind → CallPc
  | .getStation => .returned
  | .setIf | .getChannel => .clear

/-- Where a call goes after its first look at the data: an accepted `chg_vif` installs, a rejected
one reads the status again, `get_channel` goes on to the fields of a channel. -/
def RequestKind.afterRead : RequestKind → Bool → CallPc
  | .setIf, good => if good then .install else .reread
  | .getStation, _ => .clear
  | .getChannel, good => if good then .reread else .clear

/-- What a callback publishes: a flag over the old status, or a pointer to fresh memory. -/
def Slot.publish (slot : Slot S) (k : RequestKind) (alloc : Bool) (junk : Payload S) : Slot S :=
  match k with
  | .setIf => { slot with present := true }
  | .getStation | .getChannel => ⟨alloc, junk, none⟩

def rspStep (s : RspState S) : RspAct S → Option (RspState S × List (RspEvent S))
  | .call req sent =>
    if req = .chgVif .monitor then none
    else if sent then
      some ({ s with
        calls := Function.update s.calls s.next (some ⟨req, .polling 50⟩)
        next := s.next + 1 }, [])
    else
      match req.kind with
      -- `chg_vif` clears the flag on this way out too
      | .setIf => some (s.clearSlot .setIf, [])
      | .getStation | .getChannel => some (s, [])
  | .poll id =>
    match s.calls id with
    | some c =>
      match c.pc with
      | .polling count =>
        if (s.slots c.req.kind).present ∨ count = 0 then some (s.setPc id c .check, [])
        else some (s.setPc id c (.polling (count - 1)), [])
      | _ => none
    | none => none
  | .check id =>
    match s.callAt id .check with
    | some c =>
      if (s.slots c.req.kind).present then some (s.setPc id c .read, [])
      else some (s.setPc id c c.req.kind.afterTimeout, [.timedOut id])
    | none => none
  | .read id =>
    match s.callAt id .read with
    | some c =>
      let slot := s.slots c.req.kind
      -- `chg_vif` reads `status_set_if` whatever the flag says by now
      if slot.present ∨ c.req.kind = .setIf then
        some (s.setPc id c (c.req.kind.afterRead slot.data.good), [.used id slot.origin slot.data])
      else none
    | none => none
  | .reread id =>
    match s.callAt id .reread with
    | some c =>
      let slot := s.slots c.req.kind
      if slot.present ∨ c.req.kind = .setIf then
        some (s.setPc id c .clear, [.used id slot.origin slot.data])
      else none
    | none => none
  | .install id =>
    match s.callAt id .install with
    | some c =>
      match c.req with
      | .chgVif iftype =>
        some ({ s.setPc id c .clear with iftype := s.iftype.map fun _ => iftype },
          [.installed id iftype])
      | _ => none
    | none => none
  | .clear id =>
    match s.callAt id .clear with
    | some c => some ((s.clearSlot c.req.kind).setPc id c .returned, [])
    | none => none
  | .publish id payload alloc junk =>
    match s.calls id, s.callback with
    | some c, none =>
      if c.req.kind = payload.kind ∧ s.answered id = false then
        let k := c.req.kind
        let slot := (s.slots k).publish k alloc junk
        some ({ s.setSlot k slot with
          answered := Function.update s.answered id true
          callback := if slot.present then some ⟨id, payload⟩ else none },
          [.response id payload])
      else none
    | _, _ => none
  | .fill =>
    match s.callback with
    | some cb =>
      let k := cb.payload.kind
      -- a pointer that was taken away in between faults, and nothing is written
      let slot := if (s.slots k).present ∨ k = .setIf then
        { s.slots k with data := cb.payload, origin := some cb.id } else s.slots k
      some ({ s.setSlot k slot with callback := none }, [])
    | none => none

def rspMachine (S : Type) : Machine (RspState S) (RspAct S) (RspEvent S) := ⟨rspStep⟩

/-- A freshly added interface: no slot is set, `status_set_if` is zero. -/
def RspState.init (S : Type) (iftype : IfType) : RspState S where
  slots := fun _ => ⟨false, .setIf 0, none⟩
  calls := fun _ => none
  next := 0
  answered := fun _ => false
  callback := none
  iftype := some iftype

/-! ### The condition -/

/-- What each step must find. A call sends its command with its slot empty and no other call of its
kind under way; a response arrives while no other call of its kind is under way; and data is not
looked at while a callback of its kind is between its two writes. -/
def RspState.Orderly (s : RspState S) : RspAct S → Prop
  | .call req sent => sent = true → (s.slots req.kind).present = false ∧
      ∀ id c, s.calls id = some c → c.req.kind = req.kind → c.pc = .returned
  | .publish id payload _ _ =>
    ∀ j c, s.calls j = some c → c.req.kind = payload.kind → c.pc ≠ .returned → j = id
  | .read id | .reread id =>
    ∀ cb c, s.callback = some cb → s.calls id = some c → cb.payload.kind ≠ c.req.kind
  | .poll _ | .check _ | .install _ | .clear _ | .fill => True

/-! ### The invariant -/

/-- What is in the slot of kind `k`, or is being written there, is the response to request `id`. -/
def RspState.Own (s : RspState S) (id : ℕ) (k : RequestKind) : Prop :=
  (∃ cb, s.callback = some cb ∧ cb.id = id ∧ cb.payload.kind = k) ∨
    ((s.slots k).origin = some id ∧ ∀ cb, s.callback = some cb → cb.payload.kind ≠ k)

/-- What a call can rely on where it stands. -/
def RspState.Ready (t : List (RspEvent S)) (s : RspState S) (id : ℕ) (c : Call) : Prop :=
  match c.pc with
  | .polling _ | .check => (s.slots c.req.kind).present = true → s.Own id c.req.kind
  | .read | .reread => s.Own id c.req.kind ∧
      ((s.slots c.req.kind).present = true ∨ c.req.kind = .setIf)
  | .install => .response id (.setIf 0) ∈ t
  | .clear | .returned => True

structure RspInv (t : List (RspEvent S)) (s : RspState S) : Prop where
  fresh : ∀ id, s.next ≤ id → s.calls id = none
  /-- There is one call of a kind at a time. -/
  solo : ∀ i j c d, s.calls i = some c → s.calls j = some d → c.req.kind = d.req.kind →
    c.pc ≠ .returned → d.pc ≠ .returned → i = j
  ready : ∀ id c, s.calls id = some c → s.Ready t id c
  responded : ∀ id p, .response id p ∈ t →
    s.answered id = true ∧ ∃ c, s.calls id = some c ∧ c.req.kind = p.kind
  origin : ∀ k id, (s.slots k).origin = some id → .response id (s.slots k).data ∈ t
  callback : ∀ cb, s.callback = some cb → .response cb.id cb.payload ∈ t
  used : ∀ id o d, .used id o d ∈ t → o = some id ∧ .response id d ∈ t
  installed : ∀ id iftype, .installed id iftype ∈ t → .response id (.setIf 0) ∈ t

theorem RspInv.init (iftype : IfType) : RspInv [] (RspState.init S iftype) where
  fresh := fun _ _ => rfl
  solo := by simp [RspState.init]
  ready := by simp [RspState.init]
  responded := by simp
  origin := by simp [RspState.init]
  callback := by simp [RspState.init]
  used := by simp
  installed := by simp

section Step

variable {t u : List (RspEvent S)} {s : RspState S} {id : ℕ} {c : Call}

/-- A call keeps what it relies on while its slot stays as present as it was and its own. -/
theorem RspState.Ready.of_own {s' : RspState S} (h : s.Ready t id c)
    (hpresent : (s'.slots c.req.kind).present = (s.slots c.req.kind).present)
    (hown : (s.slots c.req.kind).present = true ∨ c.req.kind = .setIf → s.Own id c.req.kind →
      s'.Own id c.req.kind) : s'.Ready (t ++ u) id c := by
  unfold RspState.Ready at h ⊢
  rw [hpresent]
  cases hpc : c.pc <;> simp only [hpc] at h ⊢
  case polling | check => exact fun hp => hown (.inl hp) (h hp)
  case read | reread => exact ⟨hown h.2 h.1, h.2⟩
  case install => exact List.mem_append_left _ h

theorem RspState.Ready.mono (h : s.Ready t id c) : s.Ready (t ++ u) id c :=
  h.of_own rfl fun _ hown => hown

/-- A call moves on, and what it may rely on there holds. -/
theorem RspInv.setPc {pc : CallPc} {iftype : Option IfType} (h : RspInv t s)
    (hc : s.calls id = some c) (hpc : c.pc ≠ .returned)
    (hready : s.Ready (t ++ u) id { c with pc := pc })
    (hresp : ∀ i p, .response i p ∉ u)
    (hused : ∀ i o d, .used i o d ∈ u → o = some i ∧ .response i d ∈ t)
    (hinst : ∀ i ty, .installed i ty ∈ u → .response i (.setIf 0) ∈ t) :
    RspInv (t ++ u) { s.setPc id c pc with iftype := iftype } := by
  have hmem : ∀ i p, .response i p ∈ t ++ u → .response i p ∈ t := fun i p hp => by
    rcases List.mem_append.mp hp with hp | hp
    · exact hp
    · exact absurd hp (hresp i p)
  -- the entry of a call after the step, and the call it was before
  have hbefore : ∀ i d, (s.setPc id c pc).calls i = some d →
      ∃ d', s.calls i = some d' ∧ d'.req = d.req ∧ (d.pc ≠ .returned → d'.pc ≠ .returned) := by
    intro i d hd
    by_cases hi : i = id
    · subst hi
      simp only [RspState.setPc, Function.update_self, Option.some.injEq] at hd
      exact ⟨c, hc, by rw [← hd], fun _ => hpc⟩
    · simp only [RspState.setPc, Function.update_of_ne hi] at hd
      exact ⟨d, hd, rfl, fun hne => hne⟩
  refine ⟨fun i hi => ?_, fun i j d e hd he hk hdr her => ?_, fun i d hd => ?_,
    fun i p hp => ?_, fun k i hi => List.mem_append_left _ (h.origin k i hi),
    fun cb hcb => List.mem_append_left _ (h.callback cb hcb), fun i o d hd => ?_,
    fun i ty hi => ?_⟩
  · have hne : i ≠ id := by rintro rfl; simp [h.fresh i hi] at hc
    simp [RspState.setPc, hne, h.fresh i hi]
  · obtain ⟨d', hd', hdreq, hdpc⟩ := hbefore i d hd
    obtain ⟨e', he', hereq, hepc⟩ := hbefore j e he
    exact h.solo i j d' e' hd' he' (by rw [hdreq, hereq, hk]) (hdpc hdr) (hepc her)
  · by_cases hi : i = id
    · subst hi
      simp only [RspState.setPc, Function.update_self, Option.some.injEq] at hd
      subst hd
      exact hready
    · simp only [RspState.setPc, Function.update_of_ne hi] at hd
      exact (h.ready i d hd).mono
  · obtain ⟨hans, d, hd, hk⟩ := h.responded i p (hmem i p hp)
    refine ⟨hans, ?_⟩
    by_cases hi : i = id
    · subst hi
      rw [hc, Option.some.injEq] at hd
      exact ⟨{ c with pc := pc }, by simp [RspState.setPc], by rw [← hk, ← hd]⟩
    · exact ⟨d, by simp [RspState.setPc, hi, hd], hk⟩
  · have hd' : o = some i ∧ .response i d ∈ t :=
      (List.mem_append.mp hd).elim (h.used i o d) (hused i o d)
    exact ⟨hd'.1, List.mem_append_left _ hd'.2⟩
  · rcases List.mem_append.mp hi with hi | hi
    · exact List.mem_append_left _ (h.installed i ty hi)
    · exact List.mem_append_left _ (hinst i ty hi)

@[simp] theorem clearSlot_origin (k k' : RequestKind) :
    ((s.clearSlot k).slots k').origin = (s.slots k').origin := by
  by_cases hk : k' = k
  · subst hk; simp [RspState.clearSlot, RspState.setSlot]
  · simp [RspState.clearSlot, RspState.setSlot, hk]

@[simp] theorem clearSlot_data (k k' : RequestKind) :
    ((s.clearSlot k).slots k').data = (s.slots k').data := by
  by_cases hk : k' = k
  · subst hk; simp [RspState.clearSlot, RspState.setSlot]
  · simp [RspState.clearSlot, RspState.setSlot, hk]

theorem clearSlot_present {k k' : RequestKind} :
    ((s.clearSlot k).slots k').present = true ↔ k' ≠ k ∧ (s.slots k').present = true := by
  by_cases hk : k' = k
  · subst hk; simp [RspState.clearSlot, RspState.setSlot]
  · simp [RspState.clearSlot, RspState.setSlot, hk]

theorem clearSlot_own {k k' : RequestKind} : (s.clearSlot k).Own id k' ↔ s.Own id k' := by
  simp only [RspState.Own, clearSlot_origin]
  rfl

/-- Clearing a slot leaves every call that does not need it where it stands. -/
theorem RspInv.clearSlot {k : RequestKind} (h : RspInv t s)
    (hk : k = .setIf ∨ ∀ i c, s.calls i = some c → c.req.kind = k → c.pc ≠ .read ∧ c.pc ≠ .reread) :
    RspInv t (s.clearSlot k) := by
  refine ⟨h.fresh, h.solo, fun i d hd => ?_, h.responded, fun k' i hi => ?_, h.callback, h.used,
    h.installed⟩
  · have hready := h.ready i d hd
    have hpresent : d.pc = .read ∨ d.pc = .reread →
        (s.slots d.req.kind).present = true ∨ d.req.kind = .setIf →
        ((s.clearSlot k).slots d.req.kind).present = true ∨ d.req.kind = .setIf := by
      intro hpc hor
      rw [clearSlot_present]
      rcases hk with rfl | hk
      · exact hor.elim (fun hp => (Decidable.em (d.req.kind = .setIf)).symm.imp_left (⟨·, hp⟩)) .inr
      · exact hor.imp_left (⟨fun hkind => hpc.elim (hk i d hd hkind).1 (hk i d hd hkind).2, ·⟩)
    unfold RspState.Ready at hready ⊢
    simp only [clearSlot_own] at hready ⊢
    cases hpc : d.pc <;> simp only [hpc] at hready ⊢
    case polling | check => exact fun hp => hready (clearSlot_present.mp hp).2
    case read => exact ⟨hready.1, hpresent (.inl hpc) hready.2⟩
    case reread => exact ⟨hready.1, hpresent (.inr hpc) hready.2⟩
    case install => exact hready
  · rw [clearSlot_origin] at hi
    rw [clearSlot_data]
    exact h.origin k' i hi

/-- A command is sent, with its slot empty and no other call of its kind under way. -/
theorem RspInv.send {req : Request} (h : RspInv t s)
    (hempty : (s.slots req.kind).present = false)
    (hother : ∀ i d, s.calls i = some d → d.req.kind = req.kind → d.pc = .returned) :
    RspInv t { s with
      calls := Function.update s.calls s.next (some ⟨req, .polling 50⟩)
      next := s.next + 1 } := by
  have hnext : s.calls s.next = none := h.fresh _ le_rfl
  refine ⟨fun i hi => ?_, fun i j d e hd he hk hdr her => ?_, fun i d hd => ?_, fun i p hp => ?_,
    h.origin, h.callback, h.used, h.installed⟩
  · have hne : i ≠ s.next := by rintro rfl; exact absurd hi (Nat.not_succ_le_self _)
    simp only [Function.update_of_ne hne]
    exact h.fresh i (Nat.le_of_succ_le hi)
  · dsimp only at hd he
    by_cases hi : i = s.next <;> by_cases hj : j = s.next
    · rw [hi, hj]
    · rw [Function.update_of_ne hj] at he
      rw [hi, Function.update_self, Option.some.injEq] at hd
      exact absurd (hother j e he (by rw [← hk, ← hd])) her
    · rw [Function.update_of_ne hi] at hd
      rw [hj, Function.update_self, Option.some.injEq] at he
      exact absurd (hother i d hd (by rw [hk, ← he])) hdr
    · rw [Function.update_of_ne hi] at hd
      rw [Function.update_of_ne hj] at he
      exact h.solo i j d e hd he hk hdr her
  · dsimp only at hd
    by_cases hi : i = s.next
    · rw [hi, Function.update_self, Option.some.injEq] at hd
      subst hd
      intro hp
      rw [hempty] at hp
      cases hp
    · rw [Function.update_of_ne hi] at hd
      exact h.ready i d hd
  · obtain ⟨hans, d, hd, hk⟩ := h.responded i p hp
    have hne : i ≠ s.next := by rintro rfl; simp [hnext] at hd
    exact ⟨hans, d, by simp [hne, hd], hk⟩

/-- A call that has looked at its slot has been answered. -/
theorem RspInv.answered_of_own {k : RequestKind} (h : RspInv t s) (hown : s.Own id k) :
    s.answered id = true := by
  rcases hown with ⟨cb, hcb, rfl, -⟩ | ⟨ho, -⟩
  · exact (h.responded _ _ (h.callback cb hcb)).1
  · exact (h.responded _ _ (h.origin k id ho)).1

/-- A response is published, while no call of its kind but the one it answers is under way. -/
theorem RspInv.publish {payload junk : Payload S} {alloc : Bool} (h : RspInv t s)
    (hc : s.calls id = some c) (hcb : s.callback = none) (hk : c.req.kind = payload.kind)
    (hans : s.answered id = false)
    (honly : ∀ j d, s.calls j = some d → d.req.kind = payload.kind → d.pc ≠ .returned → j = id) :
    RspInv (t ++ [.response id payload])
      { s.setSlot c.req.kind ((s.slots c.req.kind).publish c.req.kind alloc junk) with
        answered := Function.update s.answered id true
        callback := if ((s.slots c.req.kind).publish c.req.kind alloc junk).present then
          some ⟨id, payload⟩ else none } := by
  refine ⟨h.fresh, h.solo, fun i d hd => ?_, fun i p hp => ?_, fun k i hi => ?_,
    fun cb hcb' => ?_,
    fun i o d hd => (h.used i o d (by simpa using hd)).imp_right (List.mem_append_left _),
    fun i ty hi => List.mem_append_left _ (h.installed i ty (by simpa using hi))⟩
  · have hready := h.ready i d hd
    by_cases hkind : d.req.kind = c.req.kind
    · by_cases hdr : d.pc = .returned
      · simp [RspState.Ready, hdr]
      -- the call under way is the one answered, and it has not seen an answer before
      obtain rfl := honly i d hd (hkind.trans hk) hdr
      have hnot : ¬ s.Own i d.req.kind := fun hown => by simp [h.answered_of_own hown] at hans
      unfold RspState.Ready at hready ⊢
      cases hpc : d.pc <;> simp only [hpc] at hready ⊢
      case polling | check =>
        intro hp
        refine .inl ⟨⟨i, payload⟩, ?_, rfl, (hkind.trans hk).symm⟩
        rw [hkind] at hp
        simpa [RspState.setSlot] using hp
      case read | reread => exact absurd hready.1 hnot
      case install => exact List.mem_append_left _ hready
    · refine hready.of_own (by simp [RspState.setSlot, hkind]) fun _ hown => ?_
      rcases hown with ⟨cb, hcb', -⟩ | ⟨ho, -⟩
      · simp [hcb] at hcb'
      · refine .inr ⟨by simpa [RspState.setSlot, hkind] using ho, fun cb hcb' => ?_⟩
        simp only [Option.ite_none_right_eq_some, Option.some.injEq] at hcb'
        rw [← hcb'.2, ← hk]
        exact Ne.symm hkind
  · rcases List.mem_append.mp hp with hmem | hmem
    · obtain ⟨ha, d, hd, hkd⟩ := h.responded i p hmem
      have hne : i ≠ id := by rintro rfl; simp [ha] at hans
      exact ⟨by simp [hne, ha], d, hd, hkd⟩
    · simp only [List.mem_singleton, RspEvent.response.injEq] at hmem
      obtain ⟨rfl, rfl⟩ := hmem
      exact ⟨by simp, c, hc, hk⟩
  · refine List.mem_append_left _ ?_
    by_cases hkind : k = c.req.kind
    · subst hkind
      cases hck : c.req.kind with
      | setIf =>
        simp only [RspState.setSlot, hck, Function.update_self, Slot.publish] at hi ⊢
        exact h.origin _ i hi
      | getStation | getChannel => simp [RspState.setSlot, hck, Slot.publish] at hi
    · simp only [RspState.setSlot, Function.update_of_ne hkind] at hi ⊢
      exact h.origin k i hi
  · simp only [Option.ite_none_right_eq_some, Option.some.injEq] at hcb'
    simp [← hcb'.2]

/-- The callback under way writes its data. -/
theorem RspInv.fill {cb : Callback S} {slot : Slot S} (h : RspInv t s)
    (hcb : s.callback = some cb)
    (hslot : slot = if (s.slots cb.payload.kind).present ∨ cb.payload.kind = .setIf then
      { s.slots cb.payload.kind with data := cb.payload, origin := some cb.id }
      else s.slots cb.payload.kind) :
    RspInv t { s.setSlot cb.payload.kind slot with callback := none } := by
  have hpresent : slot.present = (s.slots cb.payload.kind).present := by
    rw [hslot]; split <;> rfl
  refine ⟨h.fresh, h.solo, fun i d hd => ?_, h.responded, fun k i hi => ?_,
    fun cb' hcb' => by simp at hcb', h.used, h.installed⟩
  · rw [← List.append_nil t]
    by_cases hkind : d.req.kind = cb.payload.kind
    · refine (h.ready i d hd).of_own (by simp [RspState.setSlot, hkind, hpresent]) ?_
      intro hor hown
      -- the slot is being written, so it is the call's own callback that does it
      have hid : cb.id = i := by
        rcases hown with ⟨cb', hcb', hid, -⟩ | ⟨-, hno⟩
        · rw [hcb, Option.some.injEq] at hcb'
          rw [hcb', hid]
        · exact absurd hkind.symm (hno cb hcb)
      rw [hkind] at hor
      refine .inr ⟨?_, by simp⟩
      simp [RspState.setSlot, hkind, hslot, if_pos hor, hid]
    · refine (h.ready i d hd).of_own (by simp [RspState.setSlot, hkind]) fun _ hown => ?_
      rcases hown with ⟨cb', hcb', -, hk'⟩ | ⟨ho, -⟩
      · rw [hcb, Option.some.injEq] at hcb'
        exact absurd (by rw [hcb', hk']) hkind
      · exact .inr ⟨by simpa [RspState.setSlot, hkind] using ho, by simp⟩
  · by_cases hkind : k = cb.payload.kind
    · subst hkind
      simp only [RspState.setSlot, Function.update_self, hslot] at hi ⊢
      split at hi
      next hw =>
        rw [if_pos hw]
        simp only [Option.some.injEq] at hi
        rw [← hi]
        exact h.callback cb hcb
      next hw =>
        rw [if_neg hw]
        exact h.origin _ i hi
    · simp only [RspState.setSlot, Function.update_of_ne hkind] at hi ⊢
      exact h.origin k i hi

theorem callAt_eq_some {pc : CallPc} :
    s.callAt id pc = some c ↔ s.calls id = some c ∧ c.pc = pc := by
  simp [RspState.callAt, Option.filter_eq_some_iff]

/-- A look at the data, while no callback of the kind is writing it, is a look at the response to
the call's own request. -/
theorem RspInv.origin_of_ready (h : RspInv t s) (hc : s.calls id = some c)
    (hpc : c.pc = .read ∨ c.pc = .reread)
    (hcb : ∀ cb d, s.callback = some cb → s.calls id = some d → cb.payload.kind ≠ d.req.kind) :
    s.Own id c.req.kind ∧ ((s.slots c.req.kind).present = true ∨ c.req.kind = .setIf) ∧
      (s.slots c.req.kind).origin = some id ∧ .response id (s.slots c.req.kind).data ∈ t := by
  have hready := h.ready id c hc
  have hown : s.Own id c.req.kind ∧
      ((s.slots c.req.kind).present = true ∨ c.req.kind = .setIf) := by
    rcases hpc with hpc | hpc <;> simpa [RspState.Ready, hpc] using hready
  refine ⟨hown.1, hown.2, ?_⟩
  rcases hown.1 with ⟨cb, hcb', -, hk⟩ | ⟨ho, -⟩
  · exact absurd hk (hcb cb c hcb' hc)
  · exact ⟨ho, h.origin _ id ho⟩

/-- After its first look a call goes where it may: a `chg_vif` that installs has been accepted. -/
theorem RspInv.ready_afterRead (h : RspInv t s) (hc : s.calls id = some c)
    (hown : s.Own id c.req.kind)
    (hor : (s.slots c.req.kind).present = true ∨ c.req.kind = .setIf)
    (hmem : .response id (s.slots c.req.kind).data ∈ t) :
    s.Ready t id { c with pc := c.req.kind.afterRead (s.slots c.req.kind).data.good } := by
  obtain ⟨-, d, hd, hkind⟩ := h.responded _ _ hmem
  rw [hc, Option.some.injEq] at hd
  subst hd
  cases hdata : (s.slots c.req.kind).data with
  | setIf returnValue =>
    rw [hdata] at hmem hkind
    have hk : c.req.kind = .setIf := hkind
    by_cases hv : returnValue = 0
    · subst hv
      simpa [RspState.Ready, hk, RequestKind.afterRead, Payload.good] using hmem
    · simp only [hk, RequestKind.afterRead, Payload.good, beq_iff_eq, hv, if_false]
      exact ⟨hown, hor⟩
  | station staInfo =>
    have hk : c.req.kind = .getStation := by rw [hkind, hdata]; rfl
    simp [RspState.Ready, hk, RequestKind.afterRead]
  | channel chanDef =>
    have hk : c.req.kind = .getChannel := by rw [hkind, hdata]; rfl
    simp only [hk, RequestKind.afterRead]
    split
    · exact ⟨hown, hor⟩
    · trivial

/-- Every step taken under the condition keeps the invariant. -/
theorem RspInv.step {s' : RspState S} {a : RspAct S} (h : RspInv t s) (hok : s.Orderly a)
    (hs : rspStep s a = some (s', u)) : RspInv (t ++ u) s' := by
  cases a with
  | call req sent =>
    simp only [rspStep] at hs
    split at hs
    next => simp at hs
    next =>
      split at hs
      next hsent =>
        simp only [Option.some.injEq, Prod.mk.injEq] at hs
        obtain ⟨rfl, rfl⟩ := hs
        rw [List.append_nil]
        exact h.send (hok hsent).1 (hok hsent).2
      next =>
        split at hs <;> simp only [Option.some.injEq, Prod.mk.injEq] at hs <;>
          obtain ⟨rfl, rfl⟩ := hs <;> rw [List.append_nil]
        · exact h.clearSlot (.inl rfl)
        · exact h
        · exact h
  | poll id =>
    cases hc : s.calls id with
    | none => simp [rspStep, hc] at hs
    | some c =>
      cases hpc : c.pc with
      | polling count =>
        have hready : (s.slots c.req.kind).present = true → s.Own id c.req.kind := by
          simpa [RspState.Ready, hpc] using h.ready id c hc
        simp only [rspStep, hc, hpc] at hs
        split at hs <;> simp only [Option.some.injEq, Prod.mk.injEq] at hs <;>
          obtain ⟨rfl, rfl⟩ := hs <;>
          exact h.setPc hc (by simp [hpc]) hready (by simp) (by simp) (by simp)
      | _ => simp [rspStep, hc, hpc] at hs
  | check id =>
    simp only [rspStep] at hs
    split at hs
    next c hat =>
      obtain ⟨hc, hpc⟩ := callAt_eq_some.mp hat
      split at hs
      next hp =>
        simp only [Option.some.injEq, Prod.mk.injEq] at hs
        obtain ⟨rfl, rfl⟩ := hs
        have hown : s.Own id c.req.kind := by
          simpa [RspState.Ready, hpc, hp] using h.ready id c hc
        exact h.setPc hc (by simp [hpc]) ⟨hown, .inl hp⟩ (by simp) (by simp) (by simp)
      next hp =>
        simp only [Option.some.injEq, Prod.mk.injEq] at hs
        obtain ⟨rfl, rfl⟩ := hs
        refine h.setPc hc (by simp [hpc]) ?_ (by simp) (by simp) (by simp)
        cases hk : c.req.kind <;> simp [RspState.Ready, RequestKind.afterTimeout]
    next => simp at hs
  | read id =>
    simp only [rspStep] at hs
    split at hs
    next c hat =>
      obtain ⟨hc, hpc⟩ := callAt_eq_some.mp hat
      obtain ⟨hown, hor, ho, hmem⟩ := h.origin_of_ready hc (.inl hpc) hok
      simp only [Option.ite_none_right_eq_some, Option.some.injEq, Prod.mk.injEq] at hs
      obtain ⟨-, rfl, rfl⟩ := hs
      exact h.setPc hc (by simp [hpc]) (h.ready_afterRead hc hown hor hmem).mono (by simp)
        (by simp +contextual [ho, hmem]) (by simp)
    next => simp at hs
  | reread id =>
    simp only [rspStep] at hs
    split at hs
    next c hat =>
      obtain ⟨hc, hpc⟩ := callAt_eq_some.mp hat
      obtain ⟨-, -, ho, hmem⟩ := h.origin_of_ready hc (.inr hpc) hok
      simp only [Option.ite_none_right_eq_some, Option.some.injEq, Prod.mk.injEq] at hs
      obtain ⟨-, rfl, rfl⟩ := hs
      exact h.setPc hc (by simp [hpc]) trivial (by simp) (by simp +contextual [ho, hmem])
        (by simp)
    next => simp at hs
  | install id =>
    simp only [rspStep] at hs
    split at hs
    next c hat =>
      obtain ⟨hc, hpc⟩ := callAt_eq_some.mp hat
      split at hs
      next iftype hreq =>
        simp only [Option.some.injEq, Prod.mk.injEq] at hs
        obtain ⟨rfl, rfl⟩ := hs
        have hresp : .response id (.setIf 0) ∈ t := by
          simpa [RspState.Ready, hpc] using h.ready id c hc
        refine h.setPc hc (by simp [hpc]) trivial (by simp) (by simp) (fun i ty hmem => ?_)
        simp only [List.mem_singleton, RspEvent.installed.injEq] at hmem
        exact hmem.1 ▸ hresp
      next => simp at hs
    next => simp at hs
  | clear id =>
    simp only [rspStep] at hs
    split at hs
    next c hat =>
      obtain ⟨hc, hpc⟩ := callAt_eq_some.mp hat
      simp only [Option.some.injEq, Prod.mk.injEq] at hs
      obtain ⟨rfl, rfl⟩ := hs
      have hclear : RspInv t (s.clearSlot c.req.kind) := by
        refine h.clearSlot (.inr fun i d hd hk => ?_)
        by_cases hdr : d.pc = .returned
        · simp [hdr]
        · obtain rfl := h.solo i id d c hd hc hk hdr (by simp [hpc])
          rw [hc, Option.some.injEq] at hd
          simp [← hd, hpc]
      exact hclear.setPc hc (by simp [hpc]) trivial (by simp) (by simp) (by simp)
    next => simp at hs
  | publish id payload alloc junk =>
    simp only [rspStep] at hs
    split at hs
    next c hc hcb =>
      simp only [Option.ite_none_right_eq_some, Option.some.injEq, Prod.mk.injEq] at hs
      obtain ⟨⟨hk, hans⟩, rfl, rfl⟩ := hs
      exact h.publish hc hcb hk hans hok
    next => simp at hs
  | fill =>
    simp only [rspStep] at hs
    split at hs
    next cb hcb =>
      simp only [Option.some.injEq, Prod.mk.injEq] at hs
      obtain ⟨rfl, rfl⟩ := hs
      rw [List.append_nil]
      exact h.fill hcb rfl
    next => simp at hs

end Step

/-- **Responses match their requests.** In every run whose steps all meet `RspState.Orderly`, every
look at a slot is at the response to the call's own request, and `chg_vif` installs a type only if
the firmware accepted its request. -/
theorem responses_match {iftype : IfType} {acts : List (RspAct S)} {s : RspState S}
    {t : List (RspEvent S)}
    (hok : (rspMachine S).Along RspState.Orderly (.init S iftype) acts)
    (h : (rspMachine S).exec (.init S iftype) acts = some (s, t)) :
    (∀ id origin data, .used id origin data ∈ t →
      origin = some id ∧ .response id data ∈ t) ∧
      ∀ id ty, .installed id ty ∈ t → .response id (.setIf 0) ∈ t := by
  have hinv : RspInv t s :=
    (rspMachine S).exec_invariant_along (fun hP hok hs => hP.step hok hs) (RspInv.init iftype)
      hok h
  exact ⟨hinv.used, hinv.installed⟩

/-- A change of type whose response arrives while the call polls. -/
def acceptedChange : List (RspAct ℕ) :=
  [.call (.chgVif .ap) true, .poll 0, .publish 0 (.setIf 0) true (.setIf 0), .fill, .poll 0,
    .check 0, .read 0, .install 0, .clear 0]

/-- The change is orderly, and what is installed was accepted. -/
theorem responses_match_accepted :
    ∃ s t, (rspMachine ℕ).exec (.init ℕ .station) acceptedChange = some (s, t) ∧
      .installed 0 .ap ∈ t ∧ .response 0 (.setIf 0) ∈ t := by
  have hok : (rspMachine ℕ).Along RspState.Orderly (.init ℕ .station) acceptedChange := by
    refine ((rspMachine ℕ).along_cons rfl).mpr ⟨fun _ => ⟨rfl, by simp [RspState.init]⟩, ?_⟩
    refine ((rspMachine ℕ).along_cons rfl).mpr ⟨trivial, ?_⟩
    refine ((rspMachine ℕ).along_cons rfl).mpr ⟨fun j c hj _ _ => ?_, ?_⟩
    · by_contra hne
      simp [RspState.init, RspState.setPc, hne] at hj
    refine ((rspMachine ℕ).along_cons rfl).mpr ⟨trivial, ?_⟩
    refine ((rspMachine ℕ).along_cons rfl).mpr ⟨trivial, ?_⟩
    refine ((rspMachine ℕ).along_cons rfl).mpr ⟨trivial, ?_⟩
    refine ((rspMachine ℕ).along_cons rfl).mpr ⟨fun cb c hcb _ => ?_, ?_⟩
    · exact absurd hcb (by simp [RspState.setPc])
    refine ((rspMachine ℕ).along_cons rfl).mpr ⟨trivial, ?_⟩
    exact ((rspMachine ℕ).along_cons rfl).mpr ⟨trivial, trivial⟩
  obtain ⟨s, t, h, hinst⟩ : ∃ s t, (rspMachine ℕ).exec (.init ℕ .station) acceptedChange =
      some (s, t) ∧ .installed 0 .ap ∈ t := ⟨_, _, rfl, by decide⟩
  exact ⟨s, t, h, hinst, (responses_match hok h).2 0 .ap hinst⟩

/-- **A late response is taken for the next one.** The first change times out and is then accepted;
the second finds the flag set, installs its own type on the strength of that status, and is
rejected by the firmware afterwards. -/
theorem responses_crossed :
    ∃ s t, (rspMachine ℕ).exec (.init ℕ .station)
        ([.call (.chgVif .ap) true] ++ List.replicate 51 (.poll 0) ++
          [.check 0, .clear 0, .publish 0 (.setIf 0) true (.setIf 0), .fill,
            .call (.chgVif .adhoc) true, .poll 1, .check 1, .read 1, .install 1, .clear 1,
            .publish 1 (.setIf (-1)) true (.setIf 0), .fill]) = some (s, t) ∧
      .used 1 (some 0) (.setIf 0) ∈ t ∧ .installed 1 .adhoc ∈ t ∧
      s.iftype = some .adhoc ∧ .response 1 (.setIf 0) ∉ t ∧ .response 1 (.setIf (-1)) ∈ t := by
  refine ⟨_, _, rfl, ?_⟩
  decide

end Nrf70
